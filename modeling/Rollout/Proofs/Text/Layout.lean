import Rollout.Text.Blank

/-!
# Tables in a text

A line holds a row of words when these stand in it in their order, parted by blanks and maybe with
blanks around them. A text holds the rows of its lines; a line is ended by a line feed, with or
without a carriage return, which counts as a blank of the line, and a line of blanks holds an empty
row. The lines and the words of a text give its rows back (`words_of_lines`).

`plainText` is one way of writing rows.
-/

namespace Rollout.Text

/-- A word is not empty and holds no blank. -/
def IsWord (w : List Char) : Prop := w ≠ [] ∧ ∀ c ∈ w, isBlank c = false

instance (w : List Char) : Decidable (IsWord w) :=
  decidable_of_bool (! w.isEmpty && w.all (! isBlank ·)) (by simp [IsWord])

inductive HoldsWords : List (List Char) → List Char → Prop
  | nil : HoldsWords [] []
  | last {w : List Char} (word : IsWord w) : HoldsWords [w] w
  | blank {c : Char} {ws : List (List Char)} {line : List Char} (blank : isBlank c = true)
      (rest : HoldsWords ws line) : HoldsWords ws (c :: line)
  | word {w : List Char} {c : Char} {ws : List (List Char)} {line : List Char} (word : IsWord w)
      (blank : isBlank c = true) (rest : HoldsWords ws line) :
      HoldsWords (w :: ws) (w ++ c :: line)

inductive HoldsRows : List (List (List Char)) → List Char → Prop
  | nil : HoldsRows [] []
  | last {row : List (List Char)} {line : List Char} (holds : HoldsWords row line)
      (whole : '\n' ∉ line) (some : line ≠ []) : HoldsRows [row] line
  | line {row : List (List Char)} {rows : List (List (List Char))} {line text : List Char}
      (holds : HoldsWords row line) (whole : '\n' ∉ line) (rest : HoldsRows rows text) :
      HoldsRows (row :: rows) (line ++ '\n' :: text)

section Words

variable {c : Char} {w : List Char}

/-- A blank parts the words before it from those after it. -/
theorem words_append_blank (blank : isBlank c = true) (before after : List Char) :
    words (before ++ c :: after) = words before ++ words after := by
  rw [words, List.splitOnP_append_cons before after blank, List.filter_append]
  rfl

theorem words_nil : words [] = [] := by
  simp [words, List.splitOnP_nil]

theorem words_cons_blank (blank : isBlank c = true) (after : List Char) :
    words (c :: after) = words after := by
  rw [← List.nil_append (c :: after), words_append_blank blank, words_nil, List.nil_append]

theorem words_of_isWord (word : IsWord w) : words w = [w] := by
  rw [words, List.splitOnP_eq_singleton fun c hc => by simpa using word.2 c hc]
  simp [word.1]

theorem words_of_line {ws : List (List Char)} {line : List Char} (h : HoldsWords ws line) :
    words line = ws := by
  induction h with
  | nil => exact words_nil
  | last word => exact words_of_isWord word
  | blank blank _ ih => rw [words_cons_blank blank, ih]
  | word word blank _ ih =>
      rw [words_append_blank blank, words_of_isWord word, ih, List.singleton_append]

/-- The carriage return at the end of a line belongs to none of its words. -/
theorem words_dropReturn (line : List Char) : words (dropReturn line) = words line := by
  rw [dropReturn]
  split
  next hlast =>
    obtain ⟨before, rfl⟩ := List.getLast?_eq_some_iff.1 hlast
    rw [List.dropLast_concat, words_append_blank (by decide), words_nil, List.append_nil]
  next => rfl

end Words

section Lines

variable {line text : List Char}

theorem lines_nil : lines [] = [] := by
  simp [lines, List.splitOn, List.splitOnP_nil, linesOfPieces]

theorem splitOn_of_whole (whole : '\n' ∉ line) : line.splitOn '\n' = [line] :=
  List.splitOnP_eq_singleton fun c hc => by
    simpa using ne_of_mem_of_not_mem hc whole

theorem lines_of_whole (whole : '\n' ∉ line) (some : line ≠ []) : lines line = [line] := by
  rw [lines, splitOn_of_whole whole]
  simp [linesOfPieces, some]

theorem lines_append (whole : '\n' ∉ line) (text : List Char) :
    lines (line ++ '\n' :: text) = dropReturn line :: lines text := by
  have pieces : (line ++ '\n' :: text).splitOn '\n' = line :: text.splitOn '\n' := by
    have parted : (line ++ '\n' :: text).splitOn '\n' =
        line.splitOn '\n' ++ text.splitOn '\n' :=
      List.splitOnP_append_cons line text (by simp)
    rw [parted, splitOn_of_whole whole, List.singleton_append]
  obtain ⟨piece, rest, hrest⟩ := List.exists_cons_of_ne_nil (List.splitOnP_ne_nil (· == '\n') text)
  rw [lines, pieces, lines, List.splitOn, hrest]
  rfl

end Lines

/-- The words of the lines of a text are its rows. -/
theorem words_of_lines {rows : List (List (List Char))} {text : List Char}
    (h : HoldsRows rows text) : (lines text).map words = rows := by
  induction h with
  | nil => rw [lines_nil, List.map_nil]
  | last holds whole some =>
      rw [lines_of_whole whole some, List.map_singleton, words_of_line holds]
  | line holds whole _ ih =>
      rw [lines_append whole, List.map_cons, words_dropReturn, words_of_line holds, ih]

/-- Texts with a line feed between them hold the rows of both, and maybe an empty row between
these. -/
theorem HoldsRows.append {rows rows' : List (List (List Char))} {text text' : List Char}
    (h : HoldsRows rows text) (h' : HoldsRows rows' text') :
    ∃ shown, HoldsRows shown (text ++ '\n' :: text') ∧
      shown.filter (· ≠ []) = rows.filter (· ≠ []) ++ rows'.filter (· ≠ []) := by
  induction h with
  | nil => exact ⟨[] :: rows', .line .nil List.not_mem_nil h', rfl⟩
  | @last row line holds whole _ =>
      refine ⟨row :: rows', .line holds whole h', ?_⟩
      rw [← List.singleton_append, List.filter_append]
  | @line row rows line text holds whole _ ih =>
      obtain ⟨shown, hshown, same⟩ := ih
      refine ⟨row :: shown, ?_, ?_⟩
      · rw [List.append_assoc, List.cons_append]
        exact .line holds whole hshown
      · rw [List.filter_cons, List.filter_cons, same]
        split
        · rfl
        · rfl

def plainLine : List (List Char) → List Char
  | [] => []
  | w :: ws => w ++ ' ' :: plainLine ws

def plainText : List (List (List Char)) → List Char
  | [] => []
  | row :: rows => plainLine row ++ '\n' :: plainText rows

theorem holdsWords_plainLine {ws : List (List Char)} (h : ∀ w ∈ ws, IsWord w) :
    HoldsWords ws (plainLine ws) := by
  induction ws with
  | nil => exact .nil
  | cons w ws ih =>
      have hw := h w List.mem_cons_self
      exact .word hw (by decide) (ih fun w' h' => h w' (List.mem_cons_of_mem _ h'))

theorem whole_plainLine {ws : List (List Char)} (h : ∀ w ∈ ws, IsWord w) :
    '\n' ∉ plainLine ws := by
  induction ws with
  | nil => exact List.not_mem_nil
  | cons w ws ih =>
      have hw : '\n' ∉ w := fun hmem =>
        absurd ((h w List.mem_cons_self).2 _ hmem) (by decide)
      have hws := ih fun w' h' => h w' (List.mem_cons_of_mem _ h')
      simp [plainLine, hw, hws]

theorem holdsRows_plainText {rows : List (List (List Char))}
    (h : ∀ row ∈ rows, ∀ w ∈ row, IsWord w) : HoldsRows rows (plainText rows) := by
  induction rows with
  | nil => exact .nil
  | cons row rows ih =>
      have hrow := h row List.mem_cons_self
      exact .line (holdsWords_plainLine hrow) (whole_plainLine hrow)
        (ih fun row' h' => h row' (List.mem_cons_of_mem _ h'))

end Rollout.Text

import Mathlib.Data.List.Basic
import Rollout.Proofs.Http.Address
import Rollout.Proofs.Http.Percent

/-!
# The path of an address

A path is put together from segments with a slash in front of each. It is taken apart into the same
segments, each written for the network, if the segments are plain: no character of theirs means
something to an address, and none of them says to stay or to go up (`MadeOf.read`).
-/

namespace Rollout.Http

open Text (utf8)

/-- Segments with a slash in front of each. -/
def slashed (segments : List (List Char)) : List Char := segments.flatMap fun s => '/' :: s

/-- A segment says to stay or to go up. -/
def IsDots (segment : List Char) : Prop :=
  Url.undotted segment = ['.', '.'] ∨ Url.undotted segment = ['.']

instance (segment : List Char) : Decidable (IsDots segment) := inferInstanceAs (Decidable (_ ∨ _))

/-- No character of a segment means something to an address. -/
def IsWhole (segment : List Char) : Prop :=
  ∀ c ∈ segment, c ∉ ['/', '\\', '?', '#', '\t', '\n', '\r']

instance (segment : List Char) : Decidable (IsWhole segment) := List.decidableBAll _ _

/-- A segment of letters, digits, hyphens, points and underscores, and more than one or two
points. -/
structure IsPlain (segment : List Char) : Prop where
  chars : ∀ c ∈ segment, c.isAlphanum = true ∨ c ∈ ['-', '.', '_']
  named : segment ≠ ['.'] ∧ segment ≠ ['.', '.']

instance (segment : List Char) : Decidable (IsPlain segment) :=
  haveI : Decidable (∀ c ∈ segment, c.isAlphanum = true ∨ c ∈ ['-', '.', '_']) :=
    List.decidableBAll _ _
  decidable_of_iff (_ ∧ _) ⟨fun h => ⟨h.1, h.2⟩, fun h => ⟨h.1, h.2⟩⟩

theorem undotted_of_not_hasEscape {cs : List Char} (h : ¬ HasEscape cs) :
    Url.undotted cs = cs := by
  induction cs using Url.undotted.induct with
  | case1 c cs e ih =>
      have hex : IsHex c := by
        simp only [Bool.or_eq_true, decide_eq_true_eq] at e
        rcases e with rfl | rfl
        · exact ⟨14, by decide⟩
        · exact ⟨14, by decide⟩
      exact absurd ⟨'2', c, ⟨2, by decide⟩, hex, [], cs, rfl⟩ h
  | case2 c cs e ih =>
      simp only [hasEscape_cons, not_or] at h
      rw [Url.undotted, if_neg e, ih h.2.2.2]
  | case3 c cs other ih =>
      rw [hasEscape_cons, not_or] at h
      rw [Url.undotted, ih h.2]
      exact other
  | case4 => rfl

namespace IsPlain

variable {segment : List Char} (plain : IsPlain segment)

include plain

theorem apart {c : Char} (hc : c ∈ segment) :
    c ∉ ['/', '\\', '?', '#', '\t', '\n', '\r', '%'] := by
  have others : ∀ d ∈ ['/', '\\', '?', '#', '\t', '\n', '\r', '%'],
      ¬ (d.isAlphanum = true ∨ d ∈ ['-', '.', '_']) := by simp
  exact fun h => others c h (plain.chars c hc)

theorem whole : IsWhole segment := by
  intro c hc h
  exact plain.apart hc (List.mem_append_left ['%'] h)

theorem printed : ∀ c ∈ segment, 32 < c.toNat := by
  have marks : ∀ c ∈ ['-', '.', '_'], 32 < c.toNat := by simp
  intro c hc
  rcases plain.chars c hc with letter | mark
  · have := (isAlphanum_toNat letter).1
    omega
  · exact marks c mark

theorem percent_not_mem : '%' ∉ segment := fun h => plain.apart h (by decide)

theorem not_hasEscape : ¬ HasEscape segment := by
  rintro ⟨a, b, -, -, found⟩
  exact plain.percent_not_mem (found.subset List.mem_cons_self)

theorem not_dots : ¬ IsDots segment := by
  rw [IsDots, undotted_of_not_hasEscape plain.not_hasEscape]
  exact fun dots => dots.elim plain.named.2 plain.named.1

theorem written_eq : written segment = segment := by
  have same : ∀ c ∈ segment, encodeChar isPathSpecial c = [c] := by
    intro c hc
    rcases plain.chars c hc with letter | mark
    · exact encodeChar_of_isAlphanum letter
    · have marks : ∀ c ∈ ['-', '.', '_'], encodeChar isPathSpecial c = [c] := by
        simp [encodeChar, isPathSpecial]
      exact marks c mark
  have singletons : segment.map (encodeChar isPathSpecial) = segment.map fun c => [c] :=
    List.map_congr_left same
  rw [written, List.flatMap_def, singletons, ← List.flatMap_def, List.flatMap_singleton']

theorem percentDecode_eq : percentDecode segment = utf8 segment := by
  have read : percentDecode (segment ++ []) = utf8 segment ++ percentDecode [] :=
    percentDecode_plain plain.percent_not_mem
  rwa [List.append_nil, percentDecode_nil, List.append_nil] at read

end IsPlain

/-- Plain segments are written as they are. -/
theorem map_written_of_isPlain {parts : List String} (plain : ∀ s ∈ parts, IsPlain s.toList) :
    ((parts.map String.toList).map fun s => String.ofList (written s)) = parts := by
  have kept : ∀ s ∈ parts, String.ofList (written s.toList) = s := fun s hs => by
    rw [(plain s hs).written_eq, String.ofList_toList]
  rw [List.map_map]
  exact (List.map_congr_left kept).trans (List.map_id' _)

namespace Url

variable {before xs ys : List (List Char)} {x : List Char}

theorem addSegment_of_not_dots (last : Bool) (h : ¬ IsDots x) :
    addSegment before x last = written x :: before := by
  rw [IsDots, not_or] at h
  simp only [addSegment, if_neg h.1, if_neg h.2]
  rfl

/-- Segments are added one after the other up to the first that says to stay or to go up. -/
theorem segments_append (named : ∀ x ∈ xs, ¬ IsDots x) (more : ys ≠ []) :
    segments before (xs ++ ys) = segments ((xs.map written).reverse ++ before) ys := by
  induction xs generalizing before with
  | nil => rfl
  | cons x xs ih =>
      obtain ⟨hx, hxs⟩ := List.forall_mem_cons.1 named
      obtain ⟨y, rest, hrest⟩ :=
        List.exists_cons_of_ne_nil (List.append_ne_nil_of_right_ne_nil xs more)
      have step : segments before (x :: (xs ++ ys)) =
          segments (addSegment before x false) (xs ++ ys) := by
        rw [hrest, segments]
        simp
      rw [List.cons_append, step, addSegment_of_not_dots false hx, ih hxs]
      simp

theorem segments_of_not_dots (named : ∀ x ∈ xs, ¬ IsDots x) :
    segments before xs = (xs.map written).reverse ++ before := by
  rcases List.eq_nil_or_concat xs with rfl | ⟨front, last, rfl⟩
  · rfl
  · rw [List.concat_eq_append] at named ⊢
    rw [segments_append (fun x hx => named x (List.mem_append_left _ hx)) (by simp), segments,
      addSegment_of_not_dots true (named last (by simp))]
    simp

theorem isSlash_of_isWhole (whole : IsWhole x) : ∀ c ∈ x, isSlash c = false := by
  intro c hc
  have apart := whole c hc
  simp only [List.mem_cons, not_or] at apart
  simp [isSlash, apart.1, apart.2.1]

/-- A path is cut at the slashes between its segments. -/
theorem splitOnP_slashed (first : ∀ c ∈ x, isSlash c = false)
    (rest : ∀ x ∈ xs, ∀ c ∈ x, isSlash c = false) :
    (x ++ slashed xs).splitOnP isSlash = x :: xs := by
  induction xs generalizing x with
  | nil => rw [slashed, List.flatMap_nil, List.append_nil, List.splitOnP_eq_singleton first]
  | cons y xs ih =>
      obtain ⟨hy, hxs⟩ := List.forall_mem_cons.1 rest
      rw [slashed, List.flatMap_cons, List.cons_append,
        List.splitOnP_append_cons_of_forall_mem first '/' (by decide)]
      exact congrArg (x :: ·) (ih hy hxs)

theorem pathOf_slashed (whole : ∀ y ∈ x :: xs, ∀ c ∈ y, isSlash c = false) :
    pathOf (slashed (x :: xs)) = (segments [] (x :: xs)).reverse.map String.ofList := by
  obtain ⟨hx, hxs⟩ := List.forall_mem_cons.1 whole
  show pathOf ('/' :: (x ++ slashed xs)) = _
  rw [pathOf, if_pos (by decide), splitOnP_slashed hx hxs]

/-- Nothing is cut from a path that has no tab and no line end, and that ends in none of the
characters that may not stand around an address. -/
theorem remainder_of_whole {cs : List Char} (whole : ∀ c ∈ cs, c ∉ ['\t', '\n', '\r'])
    (closed : ∀ c ∈ cs.getLast?, isMargin c = false) : remainder cs = cs := by
  have kept : Text.dropEndWhile isMargin cs = cs := by
    rcases List.eq_nil_or_concat cs with rfl | ⟨front, last, rfl⟩
    · rfl
    · have hlast := closed last (by simp)
      simp [Text.dropEndWhile, hlast]
  rw [remainder, kept, List.filter_eq_self]
  intro c hc
  have apart := whole c hc
  simp only [List.mem_cons, List.not_mem_nil, or_false, not_or] at apart
  simp [apart]

theorem not_mem_slashed {c : Char} (apart : c ≠ '/') (h : ∀ x ∈ xs, c ∉ x) : c ∉ slashed xs := by
  simp only [slashed, List.mem_flatMap, List.mem_cons, not_exists, not_and, not_or]
  exact fun x hx => ⟨apart, h x hx⟩

/-- A path ends as its last segment does. -/
theorem closed_slashed (h : ∀ c ∈ x.getLast?, 32 < c.toNat) :
    ∀ c ∈ (slashed (xs ++ [x])).getLast?, isMargin c = false := by
  rw [slashed, List.flatMap_append, List.flatMap_singleton,
    List.getLast?_append_of_ne_nil _ (List.cons_ne_nil _ _)]
  intro c hc
  rcases List.eq_nil_or_concat x with rfl | ⟨front, last, rfl⟩
  · obtain rfl : '/' = c := Option.some.inj hc
    decide
  · rw [List.concat_eq_append] at h hc
    rw [← List.cons_append, List.getLast?_concat] at hc
    obtain rfl : last = c := Option.some.inj hc
    have printed := h last List.getLast?_concat
    exact decide_eq_false (by omega)

theorem queryOf_of_not_mem {cs : List Char} (h : '?' ∉ cs) : queryOf cs = none := by
  have passed : cs.dropWhile (· ≠ '?') = [] :=
    List.dropWhile_eq_nil_iff.2 fun c hc => decide_eq_true (ne_of_mem_of_not_mem hc h)
  rw [queryOf, passed]

end Url

/-- A path is put together from segments none of whose characters means something to an address, and
ends in none of the characters that may not stand around an address. -/
structure MadeOf (path : String) (segments : List (List Char)) : Prop where
  nonempty : segments ≠ []
  text : path.toList = slashed segments
  whole : ∀ s ∈ segments, IsWhole s
  closed : ∀ c ∈ path.toList.getLast?, Url.isMargin c = false

instance (path : String) (segments : List (List Char)) : Decidable (MadeOf path segments) :=
  haveI : Decidable (∀ c ∈ path.toList.getLast?, Url.isMargin c = false) :=
    Option.decidableForallMem _
  decidable_of_iff (segments ≠ [] ∧ path.toList = slashed segments ∧ (∀ s ∈ segments, IsWhole s) ∧
    ∀ c ∈ path.toList.getLast?, Url.isMargin c = false)
    ⟨fun h => ⟨h.1, h.2.1, h.2.2.1, h.2.2.2⟩, fun h => ⟨h.1, h.2, h.3, h.4⟩⟩

theorem MadeOf.of_isPlain {path : String} {segments : List (List Char)} (nonempty : segments ≠ [])
    (text : path.toList = slashed segments) (plain : ∀ s ∈ segments, IsPlain s) :
    MadeOf path segments where
  nonempty := nonempty
  text := text
  whole s hs := (plain s hs).whole
  closed := by
    rcases List.eq_nil_or_concat segments with rfl | ⟨front, last, rfl⟩
    · exact absurd rfl nonempty
    · rw [List.concat_eq_append] at text plain
      rw [text]
      exact Url.closed_slashed fun c hc =>
        (plain last (by simp)).printed c (List.mem_of_getLast? hc)

namespace MadeOf

variable {path : String} {segments : List (List Char)} (made : MadeOf path segments)

include made

theorem head? : path.toList.head? = some '/' := by
  obtain ⟨first, rest, rfl⟩ := List.exists_cons_of_ne_nil made.nonempty
  rw [made.text]
  rfl

theorem not_mem {c : Char} (apart : c ≠ '/')
    (meaning : c ∈ ['/', '\\', '?', '#', '\t', '\n', '\r']) : c ∉ path.toList := by
  rw [made.text]
  exact Url.not_mem_slashed apart fun s hs hc => made.whole s hs c hc meaning

theorem takeWhile_eq {c : Char} (apart : c ≠ '/')
    (meaning : c ∈ ['/', '\\', '?', '#', '\t', '\n', '\r']) :
    path.toList.takeWhile (· ≠ c) = path.toList :=
  List.takeWhile_eq_self_iff.2 fun _ hd =>
    decide_eq_true (ne_of_mem_of_not_mem hd (made.not_mem apart meaning))

theorem remainder : Url.remainder path.toList = path.toList := by
  refine Url.remainder_of_whole (fun c hc => ?_) made.closed
  simp only [List.mem_cons, List.not_mem_nil, or_false, not_or]
  refine ⟨?_, ?_, ?_⟩ <;> (rintro rfl; exact absurd hc (made.not_mem (by decide) (by decide)))

theorem pathOf_eq : Url.pathOf path.toList =
    (Url.segments [] segments).reverse.map String.ofList := by
  obtain ⟨first, rest, hsegments⟩ := List.exists_cons_of_ne_nil made.nonempty
  have whole := made.whole
  rw [hsegments] at whole
  rw [made.text, hsegments, Url.pathOf_slashed fun s hs => Url.isSlash_of_isWhole (whole s hs)]

section

variable {host scheme name : String} (names : Names host scheme name) {port : Nat}
  (unusual : port ≠ Url.usualPort scheme) (small : port < 65536)

include names unusual small

/-- The path of an address that is put together from segments is what becomes of these, and there is
no query. -/
theorem read_addressOf : Url.read (addressOf host port path) =
    some ⟨scheme, String.ofList (name.toList.map Char.toLower), port,
      (Url.segments [] segments).reverse.map String.ofList, none⟩ := by
  rw [Http.read_addressOf names unusual small made.head?, made.remainder,
    made.takeWhile_eq (by decide) (by decide)]
  rw [made.takeWhile_eq (by decide) (by decide), made.pathOf_eq,
    Url.queryOf_of_not_mem (made.not_mem (by decide) (by decide))]

/-- The address of a path that is put together from plain segments has these segments, each as it is
written, and no query. -/
theorem read (named : ∀ s ∈ segments, ¬ IsDots s) : Url.read (addressOf host port path) =
    some ⟨scheme, String.ofList (name.toList.map Char.toLower), port,
      segments.map fun s => String.ofList (written s), none⟩ := by
  rw [made.read_addressOf names unusual small, Url.segments_of_not_dots named]
  simp [Function.comp_def]

end

end MadeOf

end Rollout.Http

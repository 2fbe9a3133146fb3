import Mathlib.Data.List.Flatten
import Rollout.Proofs.Http.Path

/-!
# What a path can hold

The weight of some segments as written is the number of bytes that they stand for. Whatever a path
is, the segments that are read from it weigh no more than the bytes of the path that are no slashes:
characters may get lost, dots take segments away, and a byte behind a percent sign takes three
characters (`weight_segments`). So where the segments weigh as much as the path was made of, nothing
of it was lost (`unslashed_target`).
-/

namespace Rollout.Http

open Text (utf8)

/-- How many bytes some segments as written stand for. -/
def weight (segments : List (List Char)) : Nat :=
  (segments.flatMap percentDecode).length

def unslashed (cs : List Char) : List Char := cs.filter fun c => !Url.isSlash c

section Texts

variable {cs ds : List Char}

theorem utf8_append (cs ds : List Char) : utf8 (cs ++ ds) = utf8 cs ++ utf8 ds :=
  List.flatMap_append

/-- A part of a text that has as many bytes is all of the text. -/
theorem eq_of_sublist_of_length_le (part : ds.Sublist cs)
    (h : (utf8 cs).length ≤ (utf8 ds).length) : ds = cs :=
  Text.utf8_injective ((part.flatMap _).eq_of_length_le h)

theorem length_utf8_pos (some : cs ≠ []) : 0 < (utf8 cs).length := by
  obtain ⟨c, cs, rfl⟩ := List.exists_cons_of_ne_nil some
  have first := List.length_pos_iff.2 (utf8_singleton_ne_nil c)
  rw [length_utf8_cons]
  omega

/-- Cutting a text at its slashes keeps all but these. -/
theorem flatten_splitOnP (cs : List Char) : (cs.splitOnP Url.isSlash).flatten = unslashed cs := by
  induction cs with
  | nil => rfl
  | cons c cs ih =>
      obtain ⟨piece, rest, pieces⟩ :=
        List.exists_cons_of_ne_nil (List.splitOnP_ne_nil Url.isSlash cs)
      rw [pieces] at ih
      rw [List.splitOnP_cons_eq_if_modifyHead, pieces, unslashed, List.filter_cons]
      cases Url.isSlash c with
      | true => exact ih
      | false => exact congrArg (c :: ·) ih

theorem unslashed_unslashed (cs : List Char) : unslashed (unslashed cs) = unslashed cs := by
  simp [unslashed]

theorem unslashed_slashed (segments : List (List Char)) :
    unslashed (slashed segments) = unslashed segments.flatten := by
  induction segments with
  | nil => rfl
  | cons s rest ih =>
      rw [slashed, List.flatMap_cons, List.flatten_cons, unslashed, unslashed, List.filter_append,
        List.filter_append]
      exact congrArg (_ ++ ·) ih

end Texts

section Segments

variable {before pieces : List (List Char)} {s : List Char}

theorem weight_cons (s : List Char) (pieces : List (List Char)) :
    weight (s :: pieces) = (percentDecode s).length + weight pieces := by
  simp [weight]

theorem weight_append (before pieces : List (List Char)) :
    weight (before ++ pieces) = weight before + weight pieces := by
  simp [weight]

theorem weight_reverse (segments : List (List Char)) :
    weight segments.reverse = weight segments := by
  simp [weight, List.length_flatMap, List.sum_reverse]

theorem weight_drop_le (before : List (List Char)) : weight (before.drop 1) ≤ weight before := by
  cases before with
  | nil => exact Nat.le_refl _
  | cons s before =>
      rw [weight_cons, List.drop_one, List.tail_cons]
      omega

theorem IsDots.ne_nil (dots : IsDots s) : s ≠ [] := by
  rintro rfl
  exact absurd dots (by decide)

/-- Dots add nothing to a path. -/
theorem weight_addSegment_of_dots (before : List (List Char)) (dots : IsDots s) (last : Bool) :
    weight (Url.addSegment before s last) ≤ weight before := by
  have dropped := weight_drop_le before
  have empty (segments : List (List Char)) : weight ([] :: segments) = weight segments := by
    rw [weight_cons, percentDecode_nil, List.length_nil, Nat.zero_add]
  rcases dots with up | stay
  · simp only [Url.addSegment, if_pos up]
    cases last
    · exact dropped
    · exact (empty _).trans_le dropped
  · have other : Url.undotted s ≠ ['.', '.'] := by simp [stay]
    simp only [Url.addSegment, if_neg other, if_pos stay]
    cases last <;> simp [empty]

/-- A segment adds no more than its bytes to a path, and less if it is dots or holds what looks like
a byte behind a percent sign. -/
theorem weight_addSegment (before : List (List Char)) (s : List Char) (last : Bool) :
    weight (Url.addSegment before s last) ≤ weight before + (utf8 s).length ∧
      (IsDots s ∨ HasEscape s →
        weight (Url.addSegment before s last) < weight before + (utf8 s).length) := by
  by_cases dots : IsDots s
  · have least := weight_addSegment_of_dots before dots last
    have positive := length_utf8_pos dots.ne_nil
    omega
  · obtain ⟨least, less⟩ := length_percentDecode_written s
    have sum : weight (Url.addSegment before s last) =
        weight before + (percentDecode (written s)).length := by
      rw [Url.addSegment_of_not_dots last dots, weight_cons, Nat.add_comm]
    rw [sum]
    refine ⟨by omega, fun h => ?_⟩
    have := less (h.resolve_left dots)
    omega

/-- The segments of a path weigh no more than its pieces, and less if the first piece is dots or
holds what looks like a byte behind a percent sign. -/
theorem weight_segments (before : List (List Char)) (s : List Char) (rest : List (List Char)) :
    weight (Url.segments before (s :: rest)) ≤ weight before + (utf8 (s :: rest).flatten).length ∧
      (IsDots s ∨ HasEscape s → weight (Url.segments before (s :: rest)) <
        weight before + (utf8 (s :: rest).flatten).length) := by
  induction rest generalizing before s with
  | nil =>
      rw [Url.segments, List.flatten_singleton]
      exact weight_addSegment before s true
  | cons next rest ih =>
      obtain ⟨added, less⟩ := weight_addSegment before s false
      have further := (ih (Url.addSegment before s false) next).1
      have bytes : (utf8 (s :: next :: rest).flatten).length =
          (utf8 s).length + (utf8 (next :: rest).flatten).length := by
        rw [List.flatten_cons, utf8_append, List.length_append]
      have step : Url.segments before (s :: next :: rest) =
          Url.segments (Url.addSegment before s false) (next :: rest) := by
        rw [Url.segments]
        simp
      rw [step, bytes]
      refine ⟨by omega, fun h => ?_⟩
      have := less h
      omega

end Segments

/-- Plain segments weigh as much as they have bytes. -/
theorem weight_of_isPlain {segments : List String} (plain : ∀ s ∈ segments, IsPlain s.toList) :
    weight (segments.map String.toList) =
      (utf8 (segments.map String.toList).flatten).length := by
  induction segments with
  | nil => rfl
  | cons s rest ih =>
      obtain ⟨hs, hrest⟩ := List.forall_mem_cons.1 plain
      rw [List.map_cons, List.flatten_cons, utf8_append, List.length_append, ← ih hrest,
        ← hs.percentDecode_eq, weight_cons]

/-- What is read as the path of an address. -/
def target (path : List Char) : List Char :=
  ((Url.remainder path).takeWhile (· ≠ '#')).takeWhile (· ≠ '?')

theorem MadeOf.target_eq {path : String} {segments : List (List Char)}
    (made : MadeOf path segments) : target path.toList = path.toList := by
  rw [target, made.remainder, made.takeWhile_eq (by decide) (by decide),
    made.takeWhile_eq (by decide) (by decide)]

section Target

variable {path : List Char} {segments : List (List Char)}

theorem dropEndWhile_sublist (p : Char → Bool) (cs : List Char) :
    (Text.dropEndWhile p cs).Sublist cs := by
  have part := (List.dropWhile_sublist p (l := cs.reverse)).reverse
  rwa [List.reverse_reverse] at part

theorem target_sublist_remainder (path : List Char) :
    (target path).Sublist (Url.remainder path) :=
  (List.takeWhile_sublist _).trans (List.takeWhile_sublist _)

theorem remainder_sublist (path : List Char) :
    (Url.remainder path).Sublist (Text.dropEndWhile Url.isMargin path) :=
  List.filter_sublist

theorem target_sublist (path : List Char) : (target path).Sublist path :=
  (target_sublist_remainder path).trans <|
    (remainder_sublist path).trans <| dropEndWhile_sublist _ path

theorem target_cons_slash (path : List Char) : ∃ rest, target ('/' :: path) = '/' :: rest := by
  rw [target, Url.remainder_cons path (by decide), List.takeWhile_cons_of_pos (by decide),
    List.takeWhile_cons_of_pos (by decide)]
  exact ⟨_, rfl⟩

/-- What means something to an address, or nothing at all, is not in a path that is read. -/
theorem not_mem_of_mem_target {c : Char} (h : c ∈ target path) :
    c ∉ ['?', '#', '\t', '\n', '\r'] := by
  have unqueried := List.mem_takeWhile_imp h
  have unfragmented := List.mem_takeWhile_imp ((List.takeWhile_sublist _).subset h)
  have shown := (List.mem_filter.1 ((target_sublist_remainder path).subset h)).2
  simp only [decide_eq_true_eq, Bool.not_eq_true', Bool.or_eq_false_iff,
    decide_eq_false_iff_not] at unqueried unfragmented shown
  simp [unqueried, unfragmented, shown]

theorem weight_pathOf {rest : List Char} (rooted : path = '/' :: rest) :
    weight ((Url.pathOf path).map String.toList) ≤ (utf8 (unslashed path)).length := by
  obtain ⟨s, more, pieces⟩ := List.exists_cons_of_ne_nil (List.splitOnP_ne_nil Url.isSlash rest)
  have read : (Url.pathOf path).map String.toList = (Url.segments [] (s :: more)).reverse := by
    rw [rooted, Url.pathOf, if_pos (by decide), pieces]
    simp [Function.comp_def]
  have bytes : unslashed path = (s :: more).flatten := by
    rw [rooted, ← pieces, flatten_splitOnP]
    rfl
  rw [read, weight_reverse, bytes]
  have least := (weight_segments [] s more).1
  rwa [show weight [] = 0 from rfl, Nat.zero_add] at least

/-- Where the segments that are read weigh as much as those that a path was put together from, no
character of these was lost, and none was a slash. -/
theorem unslashed_target (nonempty : segments ≠ []) (held : (utf8 segments.flatten).length ≤
    weight ((Url.pathOf (target (slashed segments))).map String.toList)) :
    unslashed (target (slashed segments)) = segments.flatten := by
  obtain ⟨s, more, rfl⟩ := List.exists_cons_of_ne_nil nonempty
  obtain ⟨rest, rooted⟩ := target_cons_slash (s ++ slashed more)
  have part : (unslashed (target (slashed (s :: more)))).Sublist (s :: more).flatten := by
    refine ((target_sublist _).filter _).trans ?_
    show (unslashed (slashed (s :: more))).Sublist _
    rw [unslashed_slashed]
    exact List.filter_sublist
  exact eq_of_sublist_of_length_le part (held.trans (weight_pathOf rooted))

/-- A path ends in no blank if none of its characters is lost but slashes. -/
theorem not_isMargin_of_unslashed_target {front : List Char} {c : Char}
    (kept : unslashed (target (front ++ [c])) = unslashed (front ++ [c])) :
    Url.isMargin c = false := by
  by_contra blank
  rw [Bool.not_eq_false] at blank
  have apart : Url.isSlash c = false := by
    have small : c.toNat ≤ 32 := of_decide_eq_true blank
    rw [Url.isSlash, Bool.or_eq_false_iff, decide_eq_false_iff_not, decide_eq_false_iff_not]
    constructor <;> (rintro rfl; simp at small)
  have dropped : Text.dropEndWhile Url.isMargin (front ++ [c]) =
      Text.dropEndWhile Url.isMargin front := by
    simp [Text.dropEndWhile, blank]
  have part : (target (front ++ [c])).Sublist front := by
    refine (target_sublist_remainder _).trans ((remainder_sublist _).trans ?_)
    rw [dropped]
    exact dropEndWhile_sublist _ _
  have shorter : (unslashed (target (front ++ [c]))).length ≤ (unslashed front).length :=
    (part.filter _).length_le
  have longer : (unslashed (front ++ [c])).length = (unslashed front).length + 1 := by
    simp [unslashed, apart]
  rw [kept] at shorter
  omega

end Target

end Rollout.Http

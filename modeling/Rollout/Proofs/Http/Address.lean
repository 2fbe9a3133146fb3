import Mathlib.Data.List.TakeWhile
import Rollout.Http.Client
import Rollout.Proofs.Text.Slashes

/-!
# The addresses of the services

As a rule the host of the services is given by a scheme and a name, and by nothing else. Then the
address of a path on a port is read as it was put together (`read_addressOf`): the host and the port
are the given ones, and the text of the path decides about nothing but the path and the query. A
name that ends in a number is not one, as it is read as an address in numbers, and labels in
Punycode are left out.
-/

namespace Rollout.Http

/-- A host is given by a scheme and a name only, with slashes behind them or not. -/
structure Names (host scheme name : String) : Prop where
  written : Text.WithSlashes host (scheme ++ "://" ++ name)
  known : scheme = "http" ∨ scheme = "https"
  nonempty : name ≠ ""
  chars : ∀ c ∈ name.toList, Url.isHostChar c = true
  unnumbered : Url.endsInNumber (Url.hostParts (name.toList.map Char.toLower)) = false
  plain : ∀ label ∈ Url.hostParts (name.toList.map Char.toLower), ¬ "xn--".toList <+: label

theorem names_platform : Names "http://platform" "http" "platform" where
  written := ⟨by decide, "", by decide, by simp⟩
  known := .inl rfl
  nonempty := by decide
  chars := List.all_eq_true.1 (by decide)
  unnumbered := by decide
  plain := by decide

/-- A host is the name that it was given, in small letters. -/
theorem Names.host? {host scheme name : String} (names : Names host scheme name) :
    Url.host? (name.toList.map Char.toLower) =
      some (String.ofList (name.toList.map Char.toLower)) := by
  have plain : (Url.hostParts (name.toList.map Char.toLower)).any
      (['x', 'n', '-', '-'].isPrefixOf ·) = false := by
    simpa [List.isPrefixOf_iff_prefix] using names.plain
  simp [Url.host?, plain, names.unnumbered]

namespace Url

theorem endsAuthority_eq_false {c : Char} :
    endsAuthority c = false ↔ c ≠ '/' ∧ c ≠ '\\' ∧ c ≠ '?' ∧ c ≠ '#' := by
  simp [endsAuthority, isSlash, and_assoc]

/-- What may stand in the name of a host ends neither the name nor the address. -/
theorem isHostChar_apart {c : Char} (h : isHostChar c = true) :
    c ≠ ':' ∧ endsAuthority c = false ∧ isMargin c = false := by
  simp only [isHostChar, Bool.and_eq_true, decide_eq_true_eq, Bool.not_eq_true',
    decide_eq_false_iff_not, List.mem_cons, List.not_mem_nil, or_false, not_or] at h
  simp [endsAuthority_eq_false, isMargin]
  grind

theorem isDigit_apart {c : Char} (h : c.isDigit = true) :
    c ≠ ':' ∧ endsAuthority c = false ∧ isMargin c = false := by
  have bounds : 48 ≤ c.toNat ∧ c.toNat ≤ 57 := Char.isDigit_iff_toNat.1 h
  refine ⟨?_, endsAuthority_eq_false.2 ⟨?_, ?_, ?_, ?_⟩, decide_eq_false (by omega)⟩ <;>
    (rintro rfl; simp at bounds)

/-- The end of an address, without what does not count there. -/
def remainder (cs : List Char) : List Char :=
  (Text.dropEndWhile isMargin cs).filter fun c => !(c = '\t' || c = '\n' || c = '\r')

theorem remainder_cons {c : Char} (cs : List Char) (plain : isMargin c = false) :
    remainder (c :: cs) = c :: remainder cs := by
  have stop : Text.dropEndWhile isMargin (c :: cs) = c :: Text.dropEndWhile isMargin cs := by
    simp only [Text.dropEndWhile, List.reverse_cons, List.dropWhile_append]
    split
    next h => simp [List.isEmpty_iff.1 h, plain]
    next => simp
  have printed : ¬c.toNat ≤ 32 := of_decide_eq_false plain
  have shown : c ≠ '\t' ∧ c ≠ '\n' ∧ c ≠ '\r' := by
    refine ⟨?_, ?_, ?_⟩ <;> (rintro rfl; simp at printed)
  simp [remainder, stop, shown]

theorem remainder_append {front : List Char} (cs : List Char)
    (plain : ∀ c ∈ front, isMargin c = false) :
    remainder (front ++ cs) = front ++ remainder cs := by
  induction front with
  | nil => rfl
  | cons c front ih =>
      rw [List.cons_append, remainder_cons _ (plain c List.mem_cons_self),
        ih fun c hc => plain c (List.mem_cons_of_mem _ hc), List.cons_append]

/-- Nothing is cut from an address but at its end, when it starts as an address does. -/
theorem cleaned_cons {c : Char} (cs : List Char) (plain : isMargin c = false) :
    cleaned (c :: cs) = remainder (c :: cs) := by
  rw [cleaned, List.dropWhile_cons_of_neg (by simp [plain]), remainder]

/-- A number is read as that port, unless it is the usual one. -/
theorem port?_toString {scheme : String} {port : Nat} (unusual : port ≠ usualPort scheme)
    (small : port < 65536) : port? scheme (toString port).toList = some (some port) := by
  have digits : ∀ c ∈ Nat.toDigits 10 port, c.isDigit = true := fun c =>
    Nat.isDigit_of_mem_toDigits (by simp) (by simp)
  have value : (Nat.toDigits 10 port).foldl (fun n c => 10 * n + (c.toNat - 48)) 0 = port :=
    Nat.ofDigitChars_toDigits (by simp) (by simp)
  simp [port?, List.all_eq_true.2 digits, value, unusual, small, Nat.toDigits_ne_nil]

theorem scheme?_known {scheme : String} (known : scheme = "http" ∨ scheme = "https")
    {c : Char} (cs : List Char) (named : isSlash c = false) :
    scheme? (scheme.toList ++ "://".toList ++ c :: cs) = some (scheme, c :: cs) := by
  rcases known with rfl | rfl <;> simp [scheme?, isSlash] at named ⊢ <;> simp [named]

/-- The name of a host and a port, as an address has them. -/
def authorityOf (name : String) (port : Nat) : List Char :=
  name.toList ++ ':' :: (toString port).toList

section

variable {name : String} (chars : ∀ c ∈ name.toList, isHostChar c = true)

include chars

theorem authorityOf_apart {port : Nat} :
    ∀ c ∈ authorityOf name port, endsAuthority c = false ∧ isMargin c = false := by
  intro c hc
  rcases List.mem_append.1 hc with hc | hc
  · exact (isHostChar_apart (chars c hc)).2
  rcases List.mem_cons.1 hc with rfl | hc
  · decide
  · rw [Nat.toString_eq_repr, Nat.toList_repr] at hc
    exact (isDigit_apart (Nat.isDigit_of_mem_toDigits (by simp) (by simp) hc)).2

theorem authority?_authorityOf (nonempty : name ≠ "")
    (named : host? (name.toList.map Char.toLower) =
      some (String.ofList (name.toList.map Char.toLower)))
    {scheme : String} {port : Nat} (unusual : port ≠ usualPort scheme) (small : port < 65536) :
    authority? scheme (authorityOf name port) =
      some (String.ofList (name.toList.map Char.toLower), some port) := by
  have apart : ∀ c ∈ name.toList, decide (c ≠ ':') = true := fun c hc =>
    decide_eq_true (isHostChar_apart (chars c hc)).1
  have before : (authorityOf name port).takeWhile (· ≠ ':') = name.toList := by
    rw [authorityOf, List.takeWhile_append_of_pos apart]
    simp
  have after : (authorityOf name port).dropWhile (· ≠ ':') = ':' :: (toString port).toList := by
    rw [authorityOf, List.dropWhile_append_of_pos apart]
    simp
  simp only [authority?, before, after, List.all_eq_true.2 chars, List.drop_succ_cons,
    List.drop_zero, port?_toString unusual small]
  simp [nonempty, named]

end

def queryOf (rest : List Char) : Option String :=
  match rest.dropWhile (· ≠ '?') with
  | [] => none
  | _ :: query => some (String.ofList (query.flatMap (encodeChar isQuerySpecial)))

/-- An address is read part by part, when its host and port end with the slash of a path. -/
theorem read_of_parts {s scheme host : String} {port : Option Nat} {authority rest : List Char}
    (schemed : scheme? (cleaned s.toList) = some (scheme, authority ++ '/' :: rest))
    (within : ∀ c ∈ authority, endsAuthority c = false)
    (authorized : authority? scheme authority = some (host, port)) :
    let target := ('/' :: rest).takeWhile (· ≠ '#')
    read s = some ⟨scheme, host, port, pathOf (target.takeWhile (· ≠ '?')), queryOf target⟩ := by
  have plain : ∀ c ∈ authority, (!endsAuthority c) = true := fun c hc => by simp [within c hc]
  have slash : endsAuthority '/' = true := by decide
  have before : (authority ++ '/' :: rest).takeWhile (!endsAuthority ·) = authority := by
    rw [List.takeWhile_append_of_pos plain]
    simp [slash]
  have after : (authority ++ '/' :: rest).dropWhile (!endsAuthority ·) = '/' :: rest := by
    rw [List.dropWhile_append_of_pos plain]
    simp [slash]
  simp only [read, schemed, Option.bind_eq_bind, Option.bind_some, before, after, authorized]
  rfl

theorem withPairs_path (u : Url) (pairs : List (String × String)) :
    (u.withPairs pairs).path = u.path := by
  rw [withPairs]
  split <;> rfl

theorem withPairs_port (u : Url) (pairs : List (String × String)) :
    (u.withPairs pairs).port = u.port := by
  rw [withPairs]
  split <;> rfl

end Url

section

variable {host scheme name : String} (names : Names host scheme name) {port : Nat} {path : String}

include names

theorem cleaned_addressOf : Url.cleaned (addressOf host port path).toList =
    scheme.toList ++ "://".toList ++ (Url.authorityOf name port ++ Url.remainder path.toList) := by
  have text : (addressOf host port path).toList =
      scheme.toList ++ "://".toList ++ (Url.authorityOf name port ++ path.toList) := by
    simp [addressOf, Url.authorityOf, names.written.withoutSlashes_eq]
  have plain : ∀ c ∈ scheme.toList ++ "://".toList, Url.isMargin c = false := by
    rcases names.known with rfl | rfl <;> simp [Url.isMargin]
  rw [text, ← Url.remainder_append _ fun c hc => (Url.authorityOf_apart names.chars c hc).2,
    ← Url.remainder_append _ plain]
  rcases names.known with rfl | rfl <;> exact Url.cleaned_cons _ (by decide)

/-- The address of a path on a port of a host has that host and that port. -/
theorem read_addressOf (unusual : port ≠ Url.usualPort scheme) (small : port < 65536)
    (rooted : path.toList.head? = some '/') :
    let target := (Url.remainder path.toList).takeWhile (· ≠ '#')
    Url.read (addressOf host port path) =
      some ⟨scheme, String.ofList (name.toList.map Char.toLower), some port,
        Url.pathOf (target.takeWhile (· ≠ '?')), Url.queryOf target⟩ := by
  obtain ⟨rest, hpath⟩ := List.head?_eq_some_iff.1 rooted
  have slash : Url.remainder path.toList = '/' :: Url.remainder rest := by
    rw [hpath, Url.remainder_cons rest (by decide)]
  -- All slashes behind the scheme are dropped, so it matters that the name starts with none.
  obtain ⟨c, more, hname⟩ := List.exists_cons_of_ne_nil
    (mt String.toList_eq_nil_iff.1 names.nonempty)
  have named : Url.endsAuthority c = false :=
    (Url.isHostChar_apart (names.chars c (hname ▸ List.mem_cons_self))).2.1
  simp only [Url.endsAuthority, Bool.or_eq_false_iff] at named
  rw [slash]
  refine Url.read_of_parts ?_
    (fun c hc => (Url.authorityOf_apart names.chars c hc).1)
    (Url.authority?_authorityOf names.chars names.nonempty names.host? unusual small)
  rw [cleaned_addressOf names, slash, Url.authorityOf, hname]
  exact Url.scheme?_known names.known _ named.1.1

end

end Rollout.Http

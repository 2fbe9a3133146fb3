import Rollout.Proofs.Http.Sending
import Rollout.Proofs.Http.Weight

/-!
# Ids in paths

Five operations put an id into the path of an address, as it is. It arrives there as one segment
that stands for the id, if no character of the id means something to an address, if the id is not
dots, if it does not hold what looks like a byte behind a percent sign, and, at the end of the
address, if it does not end in a blank or a control character; and otherwise it does not arrive
(`Removal.addresses_iff`). So an operation may reach another record than the one with its id, or
none.
-/

namespace Rollout.Http

open Text (utf8)

/-- An operation that removes what has an id: the port it is sent to, the segments that are meant to
stand before and behind the id, and the query that is meant. -/
inductive Removal (id : String) :
    Operation → (port : Nat) → (before after : List String) → (query : Option String) → Prop
  | application :
      Removal id (.deleteApplication id) applicationsPort ["applications"] [] none
  | tenant : Removal id (.deleteTenant id) tenantsPort ["tenants"] [] (some "purge=true")
  | role (session : Session) :
      Removal id (.deleteRole session id) gatewayPort ["roles-keycloak", "roles"] [] none
  | user (session : Session) :
      Removal id (.deleteUser session id) gatewayPort ["users-keycloak", "users"] [] none
  | bindings (session : Session) :
      Removal id (.detachCapabilitySets session id) gatewayPort ["roles"] ["capability-sets"] none

/-- An address has a path of given segments but for one, which stands for an id, and a given
query. -/
structure Url.Addresses (u : Url) (before : List String) (id : String) (after : List String)
    (query : Option String) : Prop where
  path : ∃ segment, u.path = before ++ segment :: after ∧
    percentDecode segment.toList = utf8 id.toList
  query : u.query = query

/-- An id can stand in a path as it is. -/
structure Separable (id : String) (after : List String) : Prop where
  whole : IsWhole id.toList
  named : id ≠ "." ∧ id ≠ ".."
  unescaped : ¬ HasEscape id.toList
  closed : after = [] → ∀ c ∈ id.toList.getLast?, 32 < c.toNat

variable {id : String} {before after : List String}

/-- An address stands for one id at most. -/
theorem Url.Addresses.unique {u : Url} {id' : String} {query query' : Option String}
    (h : u.Addresses before id after query) (h' : u.Addresses before id' after query') :
    id = id' := by
  obtain ⟨segment, path, decoded⟩ := h.path
  obtain ⟨segment', path', decoded'⟩ := h'.path
  have same : segment = segment' := by
    simpa using path.symm.trans path'
  rw [same] at decoded
  exact String.toList_inj.1 (Text.utf8_injective (decoded.symm.trans decoded'))

theorem Separable.not_dots (h : Separable id after) : ¬ IsDots id.toList := by
  rw [IsDots, undotted_of_not_hasEscape h.unescaped]
  rintro (up | stay)
  · exact h.named.2 (String.toList_inj.1 up)
  · exact h.named.1 (String.toList_inj.1 stay)

def removalSegments (before : List String) (id : String) (after : List String) :
    List (List Char) :=
  before.map String.toList ++ id.toList :: after.map String.toList

section Reaching

variable {path : String} (text : path.toList = slashed (removalSegments before id after))
  (plain : ∀ s ∈ before ++ after, IsPlain s.toList)

section

include plain

/-- What holds of plain segments and of the id holds of every segment of the path. -/
theorem forall_mem_removalSegments {P : List Char → Prop} (of_plain : ∀ s, IsPlain s → P s)
    (h : P id.toList) : ∀ s ∈ removalSegments before id after, P s := by
  intro s hs
  rcases List.mem_append.1 hs with front | rest
  · obtain ⟨part, hpart, rfl⟩ := List.mem_map.1 front
    exact of_plain _ (plain part (List.mem_append_left _ hpart))
  · rcases List.mem_cons.1 rest with rfl | back
    · exact h
    · obtain ⟨part, hpart, rfl⟩ := List.mem_map.1 back
      exact of_plain _ (plain part (List.mem_append_right _ hpart))

/-- A path ends in no blank if the id does not where it is the last segment. -/
theorem closed_removalSegments (closed : after = [] → ∀ c ∈ id.toList.getLast?, 32 < c.toNat) :
    ∀ c ∈ (slashed (removalSegments before id after)).getLast?, Url.isMargin c = false := by
  rcases List.eq_nil_or_concat after with rfl | ⟨front, last, rfl⟩
  · exact Url.closed_slashed (closed rfl)
  · have behind : removalSegments before id (front.concat last) =
        removalSegments before id front ++ [last.toList] := by
      simp [removalSegments]
    rw [behind]
    exact Url.closed_slashed fun c hc =>
      (plain last (by simp)).printed c (List.mem_of_getLast? hc)

/-- What the segments of a removal weigh where the one for the id is read as the id. -/
theorem weight_removalSegments {segment : String}
    (decoded : percentDecode segment.toList = utf8 id.toList) :
    weight ((before ++ segment :: after).map String.toList) =
      (utf8 (removalSegments before id after).flatten).length := by
  obtain ⟨front, back⟩ := List.forall_mem_append.1 plain
  rw [List.map_append, List.map_cons, weight_append, weight_cons, weight_of_isPlain front, decoded,
    weight_of_isPlain back, removalSegments, List.flatten_append, List.flatten_cons, utf8_append,
    utf8_append, List.length_append, List.length_append]

/-- The segments of a path but the one for the id are written as they are. -/
theorem written_removalSegments :
    ((removalSegments before id after).map fun s => String.ofList (written s)) =
      before ++ String.ofList (written id.toList) :: after := by
  obtain ⟨front, back⟩ := List.forall_mem_append.1 plain
  rw [removalSegments, List.map_append, List.map_cons, map_written_of_isPlain front,
    map_written_of_isPlain back]

/-- The segments that are read from a path weigh less than the path was made of, if the id is dots
or holds what looks like a byte behind a percent sign. -/
theorem weight_segments_lt (altered : IsDots id.toList ∨ HasEscape id.toList) :
    weight (Url.segments [] (removalSegments before id after)) <
      (utf8 (removalSegments before id after).flatten).length := by
  obtain ⟨front, -⟩ := List.forall_mem_append.1 plain
  have named : ∀ s ∈ before.map String.toList, IsPlain s := by
    intro s hs
    obtain ⟨part, hpart, rfl⟩ := List.mem_map.1 hs
    exact front part hpart
  have same : (before.map String.toList).map written = before.map String.toList := by
    rw [List.map_congr_left fun s hs => (named s hs).written_eq, List.map_id']
  have less := (weight_segments (before.map String.toList).reverse id.toList
    (after.map String.toList)).2 altered
  rw [weight_reverse, weight_of_isPlain front] at less
  rw [removalSegments, Url.segments_append (fun s hs => (named s hs).not_dots)
    (List.cons_ne_nil _ _), List.append_nil, same, List.flatten_append, utf8_append,
    List.length_append]
  exact less

end

/-- An id that is read from a path has no character that means something to an address. -/
theorem isWhole_of_unslashed_target (kept : unslashed
    (target (slashed (removalSegments before id after))) =
      (removalSegments before id after).flatten) : IsWhole id.toList := by
  intro c hc
  have found : c ∈ unslashed (target (slashed (removalSegments before id after))) := by
    rw [kept]
    exact List.mem_flatten_of_mem (List.mem_append_right _ List.mem_cons_self) hc
  obtain ⟨within, apart⟩ := List.mem_filter.1 found
  have silent := not_mem_of_mem_target within
  simp only [Url.isSlash, Bool.not_eq_true', Bool.or_eq_false_iff,
    decide_eq_false_iff_not] at apart
  simp only [List.mem_cons, not_or] at silent ⊢
  exact ⟨apart.1, apart.2, silent⟩

/-- An id that is read from the end of a path ends in no blank. -/
theorem printed_of_unslashed_target (kept : unslashed
    (target (slashed (removalSegments before id []))) =
      (removalSegments before id []).flatten) : ∀ c ∈ id.toList.getLast?, 32 < c.toNat := by
  intro c hc
  obtain ⟨front, ends⟩ := List.getLast?_eq_some_iff.1 hc
  have path : slashed (removalSegments before id []) =
      (slashed (before.map String.toList) ++ '/' :: front) ++ [c] := by
    simp [removalSegments, slashed, ends]
  have again : unslashed (target (slashed (removalSegments before id []))) =
      unslashed (slashed (removalSegments before id [])) := by
    rw [unslashed_slashed, ← kept, unslashed_unslashed]
  rw [path] at again
  have printed := of_decide_eq_false (not_isMargin_of_unslashed_target again)
  omega

include text plain

theorem madeOf_removalSegments (whole : IsWhole id.toList)
    (closed : after = [] → ∀ c ∈ id.toList.getLast?, 32 < c.toNat) :
    MadeOf path (removalSegments before id after) where
  nonempty := by simp [removalSegments]
  text := text
  whole := forall_mem_removalSegments plain (fun _ plain => plain.whole) whole
  closed := text ▸ closed_removalSegments plain closed

/-- An id that is read from a path as one segment can stand there as it is. -/
theorem Separable.of_pathOf {segment : String}
    (read : Url.pathOf (target path.toList) = before ++ segment :: after)
    (decoded : percentDecode segment.toList = utf8 id.toList) : Separable id after := by
  have weighs := weight_removalSegments plain decoded
  rw [← read] at weighs
  have kept : unslashed (target (slashed (removalSegments before id after))) =
      (removalSegments before id after).flatten :=
    unslashed_target (by simp [removalSegments]) (by rw [← text]; exact weighs.ge)
  have whole : IsWhole id.toList := isWhole_of_unslashed_target kept
  have closed : after = [] → ∀ c ∈ id.toList.getLast?, 32 < c.toNat := by
    rintro rfl
    exact printed_of_unslashed_target kept
  have made := madeOf_removalSegments text plain whole closed
  -- Nothing is cut from the path, so it would weigh too little if the id were altered in it.
  have unaltered : ¬ (IsDots id.toList ∨ HasEscape id.toList) := by
    intro altered
    have less := weight_segments_lt plain altered
    rw [← weighs, made.target_eq, made.pathOf_eq, List.map_map, ← weight_reverse] at less
    simp [Function.comp_def] at less
  rw [not_or] at unaltered
  have apart (name : String) (dots : IsDots name.toList) : id ≠ name := by
    rintro rfl
    exact unaltered.1 dots
  exact ⟨whole, ⟨apart "." (by decide), apart ".." (by decide)⟩, unaltered.2, closed⟩

end Reaching

section Requests

variable {op : Operation} {port : Nat} {query : Option String}
  (removal : Removal id op port before after query)

include removal

theorem Removal.isPlain : ∀ s ∈ before ++ after, IsPlain s.toList := by
  cases removal <;> decide

theorem Removal.service : port ∈ servicePorts := by
  cases removal <;> decide

variable (legal : ∀ session ∈ op.session?, session.Legal) {host scheme name : String}
  (names : Names host scheme name)

include legal

/-- A removal is sent to the address that is read from its path, with the pairs of its query. -/
theorem Removal.request_of_read : ∃ path pairs,
    path.toList = slashed (removalSegments before id after) ∧
      (∀ u : Url, u.query = none → (u.withPairs pairs).query = query) ∧
        ∀ {host u}, Url.read (addressOf host port path) = some u →
          ∃ headers, requestOf host op = some ⟨.delete, u.withPairs pairs, headers, none⟩ := by
  have unpaired : ∀ u : Url, u.query = none → (u.withPairs []).query = none := fun _ h => h
  cases removal with
  | application =>
      exact ⟨"/applications/" ++ id, [], by simp [removalSegments, slashed], unpaired,
        plainDraft_request .delete [] none⟩
  | tenant =>
      refine ⟨"/tenants/" ++ id, [("purge", "true")], by simp [removalSegments, slashed], ?_,
        plainDraft_request .delete _ none⟩
      intro u plain
      have added : formPair ("purge", "true") = "purge=true".toList := by decide
      simp [Url.withPairs, plain, added]
  | role session =>
      exact ⟨"/roles-keycloak/roles/" ++ id, [], by simp [removalSegments, slashed], unpaired,
        fun read => gatewayDraft_request .delete [] none read (legal session rfl)⟩
  | user session =>
      exact ⟨"/users-keycloak/users/" ++ id, [], by simp [removalSegments, slashed], unpaired,
        fun read => gatewayDraft_request .delete [] none read (legal session rfl)⟩
  | bindings session =>
      exact ⟨"/roles/" ++ id ++ "/capability-sets", [], by simp [removalSegments, slashed],
        unpaired, fun read => gatewayDraft_request .delete [] none read (legal session rfl)⟩

include names

/-- One request is sent for a removal, and it addresses the id if and only if the id can stand in a
path as it is. -/
theorem Removal.request : ∃ r, requestOf host op = some r ∧ r.method = .delete ∧
    r.url.origin = serviceUrl scheme name port [] ∧
    (r.url.Addresses before id after query ↔ Separable id after) := by
  obtain ⟨path, pairs, text, queried, request⟩ := removal.request_of_read legal
  obtain ⟨unusual, small⟩ := unusual_of_service names removal.service
  have rooted : path.toList.head? = some '/' := by
    rw [text]
    cases before <;> rfl
  have read := read_addressOf names unusual small rooted
  obtain ⟨headers, sent⟩ := request read
  refine ⟨_, sent, rfl, Url.withPairs_origin .., fun h => ?_, fun h => ?_⟩
  · obtain ⟨segment, addressed, decoded⟩ := h.path
    rw [Url.withPairs_path] at addressed
    exact .of_pathOf text removal.isPlain addressed decoded
  · have made := madeOf_removalSegments text removal.isPlain h.whole h.closed
    have named := forall_mem_removalSegments removal.isPlain (fun _ plain => plain.not_dots)
      h.not_dots
    have same : some _ = some _ := read.symm.trans (made.read names unusual small named)
    rw [Option.some_inj.1 same]
    refine ⟨⟨String.ofList (written id.toList), ?_, ?_⟩, queried _ rfl⟩
    · rw [Url.withPairs_path]
      exact written_removalSegments removal.isPlain
    · rw [String.toList_ofList]
      exact percentDecode_written h.unescaped

end Requests

variable {op : Operation} {port : Nat} {query : Option String}

/-- A removal is sent to the address of the record with its id if and only if the id can stand in a
path as it is, and among such ids each has an address of its own. -/
theorem Removal.addresses_iff (removal : Removal id op port before after query)
    (legal : ∀ session ∈ op.session?, session.Legal) {n : Network} {scheme name : String}
    (names : Names n.host scheme name) :
    ∃ r, n.Sends (.ask (.platform op)) r ∧ r.method = .delete ∧
      r.url.origin = serviceUrl scheme name port [] ∧
      (r.url.Addresses before id after query ↔ Separable id after) ∧
      (Separable id after → ∀ {id' op' r'}, Removal id' op' port before after query →
        (∀ session ∈ op'.session?, session.Legal) → Separable id' after →
          n.Sends (.ask (.platform op')) r' → r'.url = r.url → id' = id) := by
  obtain ⟨r, request, method, origin, addressed⟩ := removal.request legal names
  refine ⟨r, Network.sends_ask request, method, origin, addressed, ?_⟩
  intro separable id' op' r' removal' legal' separable' sent' same
  obtain ⟨other, request', -, -, addressed'⟩ := removal'.request legal' names
  obtain rfl : other = r' := (Network.sends_ask request').unique sent'
  have own := addressed'.2 separable'
  rw [same] at own
  exact own.unique (addressed.2 separable)

/-- The id of a role that is no name is removed by its own address. -/
theorem Removal.addresses_iff_spaced : ∃ r,
    Network.mute.Sends (.ask (.platform (.deleteRole ⟨"north", "token"⟩ "50% off: é"))) r ∧
      r.url.Addresses ["roles-keycloak", "roles"] "50% off: é" [] none := by
  have legal : ∀ session ∈ some (⟨"north", "token"⟩ : Session), session.Legal := by
    rintro session ⟨⟩
    exact ⟨by decide, by decide⟩
  obtain ⟨r, sent, -, -, addressed, -⟩ :=
    Removal.addresses_iff (.role ⟨"north", "token"⟩) legal (n := .mute) names_platform
  exact ⟨r, sent, addressed.2 ⟨by decide, by decide, by decide, by simp⟩⟩

/-- The address for a tenant whose id goes up in the path is the one of another tenant, and does not
have the id. -/
theorem Removal.not_addressed_above : ∃ r,
    Network.mute.Sends (.ask (.platform (.deleteTenant "a/../b"))) r ∧
      Network.mute.Sends (.ask (.platform (.deleteTenant "b"))) r ∧
      ¬ r.url.Addresses ["tenants"] "a/../b" [] (some "purge=true") := by
  refine ⟨⟨.delete, ⟨"http", "platform", some 9902, ["tenants", "b"], some "purge=true"⟩, [], none⟩,
    Network.sends_ask (by rfl), Network.sends_ask (by rfl), ?_⟩
  rintro ⟨⟨segment, path, decoded⟩, -⟩
  obtain rfl : "b" = segment := by simpa using path
  exact absurd decoded (by decide)

end Rollout.Http

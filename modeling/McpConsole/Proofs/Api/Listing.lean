import McpConsole.Proofs.Api.Exchange

/-!
# Bare and wrapped lists

A list of servers comes as an array, or wrapped in an object that has it as its member `data`. For the
call it makes no difference which (`list_wrapped_iff`), as long as all the other members can be taken
in; and nothing else is ever a list. A member beside the list that cannot be taken in spoils the
wrapped list alone (`list_wrapped_spoiled`).
-/

namespace McpConsole.Json

/-! ### Members -/

/-- The members of an object without those with a key. -/
def membersBeside (key : String) (members : List (Option String × Node)) :
    List (Option String × Node) :=
  members.filter fun member => !(member.1 == some key)

theorem isSome_memberValues?_iff (members : List (Option String × Node)) :
    (memberValues? members).isSome = true ↔
      ∀ member ∈ members, member.1.isSome = true ∧ member.2.value?.isSome = true := by
  induction members with
  | nil => simp [memberValues?]
  | cons member members ih =>
    obtain ⟨key, item⟩ := member
    rw [List.forall_mem_cons, ← ih, memberValues?]
    cases key with
    | none => simp
    | some text =>
      cases item.value? with
      | none => simp
      | some value => cases memberValues? members <;> simp

theorem depth_le_memberDepth {members : List (Option String × Node)} {member : Option String × Node}
    (h : member ∈ members) : member.2.depth ≤ memberDepth members := by
  induction members with
  | nil => cases h
  | cons head members ih =>
    obtain ⟨key, item⟩ := head
    rw [memberDepth]
    rcases List.mem_cons.1 h with rfl | h
    · exact Nat.le_max_left _ _
    · exact Nat.le_trans (ih h) (Nat.le_max_right _ _)

end McpConsole.Json

namespace McpConsole.Api

open McpConsole.Json

theorem isSome_whole?_iff (node : Node) :
    node.whole?.isSome = true ↔ node.depth < depthLimit ∧ node.value?.isSome = true := by
  simp [Option.isSome_iff_exists, whole?_eq_some_iff]

/-- An object is taken in together with its only member with a key just when the members beside it
are. -/
theorem isSome_whole?_object_iff {members : List (Option String × Node)} {key : String} {node : Node}
    (hat : membersAt key members = [(some key, node)])
    (hdepth : (Node.object members).depth < depthLimit) :
    (Node.object members).whole?.isSome = true ↔
      (memberValues? (membersBeside key members)).isSome = true ∧ node.whole?.isSome = true := by
  have hmem : (some key, node) ∈ members := by
    have hmem : (some key, node) ∈ membersAt key members := by simp [hat]
    exact (List.mem_filter.1 hmem).1
  have hnode : node.depth < depthLimit := by
    have hle := depth_le_memberDepth hmem
    rw [Node.depth] at hdepth
    dsimp only at hle
    omega
  have hsplit : ∀ member ∈ members, member ∈ membersBeside key members ∨ member = (some key, node) := by
    intro member hmember
    by_cases hkey : (member.1 == some key) = true
    · have hone : member ∈ membersAt key members := List.mem_filter.2 ⟨hmember, hkey⟩
      rw [hat] at hone
      exact .inr (List.mem_singleton.1 hone)
    · exact .inl (List.mem_filter.2 ⟨hmember, by simpa using hkey⟩)
  rw [isSome_whole?_iff, isSome_whole?_iff, Node.value?, Option.isSome_map,
    isSome_memberValues?_iff, isSome_memberValues?_iff]
  constructor
  · rintro ⟨-, hall⟩
    exact ⟨fun member hmember => hall member (List.mem_filter.1 hmember).1, hnode,
      (hall _ hmem).2⟩
  · rintro ⟨hbeside, -, hvalue⟩
    refine ⟨hdepth, fun member hmember => ?_⟩
    rcases hsplit member hmember with hmember | rfl
    · exact hbeside member hmember
    · exact ⟨rfl, hvalue⟩

/-! ### Lists -/

section Forms

variable {body : String} {items : List Node} {members : List (Option String × Node)}

theorem isList_of_array (h : read? body.toList = some (.array items)) (others : List Node) :
    IsList body others ↔ others = items ∧ (Node.array items).whole?.isSome = true := by
  unfold IsList
  constructor
  · rintro ⟨node, value, hread, hwhole, hform⟩
    cases h.symm.trans hread
    rcases hform with hform | ⟨_, hform, _⟩
    · cases hform
      exact ⟨rfl, by rw [hwhole]; rfl⟩
    · cases hform
  · rintro ⟨rfl, hwhole⟩
    obtain ⟨value, hvalue⟩ := Option.isSome_iff_exists.1 hwhole
    exact ⟨_, value, h, hvalue, .inl rfl⟩

theorem isList_of_object (h : read? body.toList = some (.object members))
    (hdata : membersAt "data" members = [(some "data", .array items)]) (others : List Node) :
    IsList body others ↔ others = items ∧ (Node.object members).whole?.isSome = true := by
  unfold IsList
  constructor
  · rintro ⟨node, value, hread, hwhole, hform⟩
    cases h.symm.trans hread
    rcases hform with hform | ⟨same, hform, hother⟩
    · cases hform
    · cases hform
      cases hdata.symm.trans hother
      exact ⟨rfl, by rw [hwhole]; rfl⟩
  · rintro ⟨rfl, hwhole⟩
    obtain ⟨value, hvalue⟩ := Option.isSome_iff_exists.1 hwhole
    exact ⟨_, value, h, hvalue, .inr ⟨members, rfl, hdata⟩⟩

end Forms

/-- The result of a call for the list is that of its body. -/
theorem result_list {response : Http.Response} (h : IsDone response.status) :
    Call.list.result response = match serversOfBody? response.content with
      | some servers => .ok (.servers servers)
      | none => .error .decode := by
  have hsuccess := (isSuccess_iff response.status).2 h
  simp only [Call.result, hsuccess, if_true, Call.answer?]
  cases serversOfBody? response.content <;> rfl

theorem result_list_eq_iff {bare wrapped : Http.Response} (hbare : IsDone bare.status)
    (hwrapped : IsDone wrapped.status) :
    Call.list.result wrapped = Call.list.result bare ↔
      serversOfBody? wrapped.content = serversOfBody? bare.content := by
  rw [result_list hbare, result_list hwrapped]
  cases serversOfBody? wrapped.content <;> cases serversOfBody? bare.content <;> simp

/-- **A wrapped list and a bare one have the same result**, just when the members beside the list can be
taken in or the list itself cannot. What is neither an array nor an object with one member `data`
that is an array is never understood. -/
theorem list_wrapped_iff :
    (∀ (bare wrapped : Http.Response) (items : List Node) (members : List (Option String × Node)),
      IsDone bare.status → IsDone wrapped.status →
      read? bare.content.toList = some (.array items) →
      read? wrapped.content.toList = some (.object members) →
      membersAt "data" members = [(some "data", .array items)] →
      (Node.object members).depth < depthLimit →
        (Call.list.result wrapped = Call.list.result bare ↔
          (memberValues? (membersBeside "data" members)).isSome = true ∨
            Call.list.result bare = .error .decode)) ∧
    ∀ response : Http.Response, IsDone response.status →
      (∀ items, ¬IsList response.content items) → Call.list.result response = .error .decode := by
  constructor
  · intro bare wrapped items members hbare hwrapped hitems hmembers hdata hdepth
    have hwhole := isSome_whole?_object_iff hdata hdepth
    have hlist (servers : List Server) :
        serversOfBody? bare.content = some servers ↔ (Node.array items).whole?.isSome = true ∧
          List.Forall₂ (fun item server => Server.ofNode? item = some server) items servers := by
      rw [serversOfBody?_eq_some_iff]
      simp only [isList_of_array hitems, and_assoc, exists_eq_left]
    have hobject (servers : List Server) :
        serversOfBody? wrapped.content = some servers ↔
          (memberValues? (membersBeside "data" members)).isSome = true ∧
            serversOfBody? bare.content = some servers := by
      rw [hlist, ← and_assoc, ← hwhole, serversOfBody?_eq_some_iff]
      simp only [isList_of_object hmembers hdata, and_assoc, exists_eq_left]
    rw [result_list_eq_iff hbare hwrapped, result_list hbare]
    cases hservers : serversOfBody? bare.content with
    | none =>
      refine iff_of_true ?_ (.inr rfl)
      rw [Option.eq_none_iff_forall_ne_some]
      intro servers h
      cases hservers.symm.trans ((hobject servers).1 h).2
    | some servers =>
      rw [hobject servers, hservers]
      simp
  · intro response hdone hnone
    rw [result_list hdone]
    cases hservers : serversOfBody? response.content with
    | none => rfl
    | some servers =>
      obtain ⟨items, hlist, -⟩ := (serversOfBody?_eq_some_iff _ servers).1 hservers
      exact absurd hlist (hnone items)

/-- A list with two servers, bare and wrapped. -/
theorem list_wrapped_iff_two :
    Call.list.result ⟨200, "\x7b\"next\":null,\"data\":[[\"b\"],\x7b\"server_id\":\"a\"\x7d]\x7d"⟩ =
      Call.list.result ⟨200, "[[\"b\"],\x7b\"server_id\":\"a\"\x7d]"⟩ := by
  have hbare : read? "[[\"b\"],\x7b\"server_id\":\"a\"\x7d]".toList = some (.array
      [.array [.string (some "b")], .object [(some "server_id", .string (some "a"))]]) := by
    rfl
  have hwrapped : read?
      "\x7b\"next\":null,\"data\":[[\"b\"],\x7b\"server_id\":\"a\"\x7d]\x7d".toList =
      some (.object [(some "next", .null), (some "data", .array
        [.array [.string (some "b")], .object [(some "server_id", .string (some "a"))]])]) := by
    rfl
  exact (list_wrapped_iff.1 ⟨200, _⟩ ⟨200, _⟩ _ _ (by decide) (by decide) hbare hwrapped rfl
    (by decide)).2 (.inl rfl)

/-- **A member beside the list that cannot be taken in** spoils the wrapped list: its number is too
large. -/
theorem list_wrapped_spoiled :
    ∃ members, read? "\x7b\"data\":[],\"next\":1e999\x7d".toList = some (.object members) ∧
      read? "[]".toList = some (.array []) ∧
      membersAt "data" members = [(some "data", .array [])] ∧
      (Node.object members).depth < depthLimit ∧
      Call.list.result ⟨200, "[]"⟩ = .ok (.servers []) ∧
      Call.list.result ⟨200, "\x7b\"data\":[],\"next\":1e999\x7d"⟩ = .error .decode := by
  have hread : read? "\x7b\"data\":[],\"next\":1e999\x7d".toList = some (.object
      [(some "data", .array []),
        (some "next", .numeral ⟨false, ['1'], none, some (false, ['9', '9', '9'])⟩)]) := by
    rfl
  have hbare : serversOfBody? "[]" = some [] := by decide +kernel
  have hwrapped : serversOfBody? "\x7b\"data\":[],\"next\":1e999\x7d" = none := by
    decide +kernel
  have hcontent (body : String) : (Http.Response.mk 200 body).content = body := rfl
  refine ⟨_, hread, rfl, rfl, by decide, ?_, ?_⟩
  · rw [result_list (by decide), hcontent, hbare]
  · rw [result_list (by decide), hcontent, hwrapped]

end McpConsole.Api

import McpConsole.Proofs.Api.Answer

/-!
# What the body of an error says

The text of an error stands in one of four members of its body, which are looked at in a fixed order
(`reasons`). The body should say what the first of them says that is not null (`Tells`).

`reasonOfBody?_eq_some_iff` says what is found instead: the first of them that is there at all, of a
body that is taken in as a whole. So a null hides what stands behind it, and a body that is not taken
in says nothing (`Drops`). `reason_isTold_iff` says that nothing else gets lost, and
`reason_dropped_null` has a body whose message is hidden.
-/

namespace McpConsole.Json

/-! ### Members -/

/-- The last member of an object with a key. -/
def lastNode? (key : String) (members : List (Option String × Node)) : Option Node :=
  (members.reverse.find? fun member => member.1 == some key).map Prod.snd

theorem lastMember?_cons (key : String) (member : String × Value) (members : List (String × Value)) :
    lastMember? key (member :: members) =
      (lastMember? key members).or (if member.1 == key then some member.2 else none) := by
  unfold lastMember?
  rw [List.reverse_cons, List.find?_append, Option.map_or, List.find?_singleton]
  split <;> rfl

theorem lastNode?_cons (key : String) (member : Option String × Node)
    (members : List (Option String × Node)) :
    lastNode? key (member :: members) =
      (lastNode? key members).or (if member.1 == some key then some member.2 else none) := by
  unfold lastNode?
  rw [List.reverse_cons, List.find?_append, Option.map_or, List.find?_singleton]
  split <;> rfl

/-- A part of a text and a part of its value at the same place, where there may be none. -/
def Stands (node : Option Node) (value : Option Value) : Prop :=
  node.map Node.value? = value.map some

namespace Stands

variable {n n' : Option Node} {v v' : Option Value}

theorem nothing : Stands none none := rfl

theorem or (h : Stands n v) (h' : Stands n' v') : Stands (n.or n') (v.or v') := by
  unfold Stands at *
  rw [Option.map_or, Option.map_or, h, h']

theorem exists_value {node : Node} (h : Stands (some node) v) :
    ∃ value, v = some value ∧ node.value? = some value := by
  cases v with
  | none => cases h
  | some value => exact ⟨value, rfl, Option.some.inj h⟩

end Stands

theorem stands_last {members : List (Option String × Node)} {values : List (String × Value)}
    (h : memberValues? members = some values) (key : String) :
    Stands (lastNode? key members) (lastMember? key values) := by
  induction members generalizing values with
  | nil =>
    cases h
    exact .nothing
  | cons member members ih =>
    obtain ⟨name, item⟩ := member
    rw [memberValues?] at h
    obtain ⟨text, rfl, htext⟩ := Option.bind_eq_some_iff.1 h
    obtain ⟨value, hvalue, hitem⟩ := Option.bind_eq_some_iff.1 htext
    obtain ⟨rest, hrest, hcons⟩ := Option.bind_eq_some_iff.1 hitem
    cases hcons
    rw [lastNode?_cons, lastMember?_cons]
    refine (ih hrest).or ?_
    by_cases hkey : text = key
    · simp [Stands, hkey, hvalue]
    · simp [Stands, hkey]

theorem value?_object {members : List (Option String × Node)} {value : Value}
    (h : (Node.object members).value? = some value) :
    ∃ values, memberValues? members = some values ∧ value = .object values := by
  rw [Node.value?] at h
  obtain ⟨values, hmembers, hvalues⟩ := Option.map_eq_some_iff.1 h
  exact ⟨values, hmembers, hvalues.symm⟩

/-- The last member with a key, if there is an object. -/
def Node.member? (key : String) : Node → Option Node
  | .object members => lastNode? key members
  | _ => none

/-- The last member with a key, if there is an object. -/
def Value.member? (key : String) : Value → Option Value
  | .object members => lastMember? key members
  | _ => none

theorem stands_member {node : Node} {value : Value} (h : node.value? = some value) (key : String) :
    Stands (node.member? key) (value.member? key) := by
  cases node with
  | object members =>
    obtain ⟨values, hvalues, rfl⟩ := value?_object h
    exact stands_last hvalues key
  | array items =>
    rw [Node.value?] at h
    obtain ⟨values, -, rfl⟩ := Option.map_eq_some_iff.1 h
    exact .nothing
  | numeral n =>
    obtain ⟨number, -, rfl⟩ := Option.map_eq_some_iff.1 h
    exact .nothing
  | string s =>
    obtain ⟨text, -, rfl⟩ := Option.map_eq_some_iff.1 h
    exact .nothing
  | null | bool =>
    cases h
    exact .nothing

end McpConsole.Json

namespace McpConsole.Api

open McpConsole.Json

/-! ### What a body says -/

/-- The members that hold the text of an error, as far as they are there, in the order in which they
are looked at. -/
def reasons (members : List (Option String × Node)) : List Node :=
  [lastNode? "detail" members, (lastNode? "error" members).bind (Node.member? "message"),
    lastNode? "error" members, lastNode? "message" members].filterMap id

/-- Whether there is something else than null. -/
def isGiven : Node → Bool
  | .null => false
  | _ => true

/-- What a part of a body says: the text that it is, or else its own text. Null says nothing. -/
inductive Speaks : Node → String → Prop
  | text (s : String) : Speaks (.string (some s)) s
  | value {node : Node} {value : Value} (hvalue : node.value? = some value)
      (hgiven : isGiven node = true) (hother : ∀ s, node ≠ .string s) :
      Speaks node value.sorted.text

/-- What a body should say: what the first of the members says that is not null. -/
inductive Tells (body : String) : String → Prop
  | mk {members : List (Option String × Node)} {first : Node} {text : String}
      (hread : read? body.toList = some (.object members))
      (hfirst : (reasons members).find? isGiven = some first) (hspeaks : Speaks first text) :
      Tells body text

/-- A body that has something to say of which nothing is found: it is not taken in as a whole, or a
null stands before it. -/
def Drops (body : String) : Prop :=
  ∃ members first text, read? body.toList = some (.object members) ∧
    (reasons members).find? isGiven = some first ∧ Speaks first text ∧
      ((Node.object members).whole? = none ∨ (reasons members).head? = some .null)

theorem head?_reasons (members : List (Option String × Node)) :
    (reasons members).head? =
      ((lastNode? "detail" members).or
        ((lastNode? "error" members).bind (Node.member? "message"))).or
        ((lastNode? "error" members).or (lastNode? "message" members)) := by
  unfold reasons
  rw [Option.or_assoc]
  cases lastNode? "detail" members with
  | some node => rfl
  | none =>
    cases (lastNode? "error" members).bind (Node.member? "message") with
    | some node => rfl
    | none =>
      cases lastNode? "error" members with
      | some node => rfl
      | none => cases lastNode? "message" members <;> rfl

theorem reasonMember?_eq (values : List (String × Value)) :
    reasonMember? values = ((lastMember? "detail" values).or
      ((lastMember? "error" values).bind (Value.member? "message"))).or
        ((lastMember? "error" values).or (lastMember? "message" values)) := by
  unfold reasonMember?
  cases lastMember? "error" values with
  | none => rfl
  | some value => cases value <;> rfl

theorem stands_reason {members : List (Option String × Node)} {values : List (String × Value)}
    (h : memberValues? members = some values) :
    Stands (reasons members).head? (reasonMember? values) := by
  have hinner : Stands ((lastNode? "error" members).bind (Node.member? "message"))
      ((lastMember? "error" values).bind (Value.member? "message")) := by
    have herror := stands_last h "error"
    cases hnode : lastNode? "error" members with
    | none =>
      rw [hnode] at herror
      have hnone : lastMember? "error" values = none := by
        simpa [Stands] using herror.symm
      rw [hnone]
      exact .nothing
    | some node =>
      rw [hnode] at herror
      obtain ⟨value, hvalue, hstands⟩ := herror.exists_value
      rw [hvalue]
      exact stands_member hstands "message"
  rw [head?_reasons, reasonMember?_eq]
  exact ((stands_last h "detail").or hinner).or
    ((stands_last h "error").or (stands_last h "message"))

theorem reasonText?_eq_some_iff {node : Node} {value : Value} (h : node.value? = some value)
    (text : String) : reasonText? value = some text ↔ Speaks node text := by
  have hother (hgiven : isGiven node = true) (hstring : ∀ s, node ≠ .string s) :
      some value.sorted.text = some text ↔ Speaks node text := by
    constructor
    · intro htext
      cases htext
      exact .value h hgiven hstring
    · intro hspeaks
      cases hspeaks with
      | text s => exact absurd rfl (hstring _)
      | value hvalue => rw [Option.some.inj (h.symm.trans hvalue)]
  cases node with
  | null =>
    cases h
    refine iff_of_false (by simp [reasonText?]) fun hspeaks => ?_
    cases hspeaks with
    | value _ hgiven => cases hgiven
  | string s =>
    obtain ⟨said, rfl, rfl⟩ := Option.map_eq_some_iff.1 h
    constructor
    · intro htext
      cases htext
      exact .text _
    · intro hspeaks
      cases hspeaks with
      | text => rfl
      | value _ _ hstring => exact absurd rfl (hstring _)
  | bool b =>
    cases h
    exact hother rfl (by simp)
  | numeral n =>
    obtain ⟨number, -, rfl⟩ := Option.map_eq_some_iff.1 h
    exact hother rfl (by simp)
  | array items =>
    rw [Node.value?] at h
    obtain ⟨values, -, rfl⟩ := Option.map_eq_some_iff.1 h
    exact hother rfl (by simp)
  | object members =>
    obtain ⟨values, -, rfl⟩ := value?_object h
    exact hother rfl (by simp)

theorem whole?_eq_object_iff {node : Node} {values : List (String × Value)} :
    node.whole? = some (.object values) ↔ ∃ members, node = .object members ∧
      (Node.object members).whole?.isSome = true ∧ memberValues? members = some values := by
  constructor
  · intro h
    obtain ⟨-, hvalue⟩ := whole?_eq_some_iff.1 h
    cases node with
    | object members =>
      obtain ⟨others, hothers, heq⟩ := value?_object hvalue
      cases heq
      exact ⟨members, rfl, by rw [h]; rfl, hothers⟩
    | array items =>
      rw [Node.value?] at hvalue
      obtain ⟨items, -, heq⟩ := Option.map_eq_some_iff.1 hvalue
      cases heq
    | numeral n =>
      obtain ⟨number, -, heq⟩ := Option.map_eq_some_iff.1 hvalue
      cases heq
    | string s =>
      obtain ⟨text, -, heq⟩ := Option.map_eq_some_iff.1 hvalue
      cases heq
    | null | bool => cases hvalue
  · rintro ⟨members, rfl, hwhole, hvalues⟩
    obtain ⟨value, hvalue⟩ := Option.isSome_iff_exists.1 hwhole
    refine whole?_eq_some_iff.2 ⟨(whole?_eq_some_iff.1 hvalue).1, ?_⟩
    rw [Node.value?, hvalues]
    rfl

/-- What is found in a body: what the first of the members says that is there, if the body is taken in
as a whole. -/
theorem reasonOfBody?_eq_some_iff (body text : String) :
    reasonOfBody? body = some text ↔ ∃ members first,
      read? body.toList = some (.object members) ∧ (Node.object members).whole?.isSome = true ∧
        (reasons members).head? = some first ∧ Speaks first text := by
  unfold reasonOfBody? value?
  constructor
  · intro h
    split at h
    · rename_i values hvalue
      obtain ⟨node, hread, hwhole⟩ := Option.bind_eq_some_iff.1 hvalue
      obtain ⟨members, rfl, htaken, hvalues⟩ := whole?_eq_object_iff.1 hwhole
      obtain ⟨value, hmember, htext⟩ := Option.bind_eq_some_iff.1 h
      have hstands := stands_reason hvalues
      rw [hmember] at hstands
      obtain ⟨first, hfirst, hsame⟩ := Option.map_eq_some_iff.1 hstands
      exact ⟨members, first, hread, htaken, hfirst, (reasonText?_eq_some_iff hsame text).1 htext⟩
    · cases h
  · rintro ⟨members, first, hread, htaken, hfirst, hspeaks⟩
    obtain ⟨whole, hwhole⟩ := Option.isSome_iff_exists.1 htaken
    obtain ⟨values, hvalues⟩ := memberValues?_of_whole? hwhole
    have hobject := whole?_eq_object_iff.2 ⟨members, rfl, htaken, hvalues⟩
    have hstands := stands_reason hvalues
    rw [hfirst] at hstands
    obtain ⟨value, hmember, hsame⟩ := hstands.exists_value
    rw [hread, Option.bind_some, hobject]
    simp only [hmember, Option.bind_some]
    exact (reasonText?_eq_some_iff hsame text).2 hspeaks

theorem isGiven_of_speaks {node : Node} {text : String} (h : Speaks node text) :
    isGiven node = true := by
  cases h with
  | text => rfl
  | value _ hgiven => exact hgiven

theorem find?_of_head? {members : List (Option String × Node)} {first : Node}
    (h : (reasons members).head? = some first) (hgiven : isGiven first = true) :
    (reasons members).find? isGiven = some first := by
  obtain ⟨rest, hrest⟩ := List.head?_eq_some_iff.1 h
  rw [hrest, List.find?_cons_of_pos hgiven]

theorem head?_of_find? {members : List (Option String × Node)} {first : Node}
    (h : (reasons members).find? isGiven = some first) :
    (reasons members).head? = some first ∨ (reasons members).head? = some .null := by
  cases hreasons : reasons members with
  | nil =>
    rw [hreasons] at h
    cases h
  | cons node rest =>
    rw [hreasons] at h
    cases node with
    | null => exact .inr rfl
    | _ => exact .inl h

/-- **The text of an error is found just when nothing of the body is dropped**: the body is taken in as
a whole, and no null stands before the first member that says something. Otherwise nothing is
found. -/
theorem reason_isTold_iff (body : String) :
    ((∀ text, reasonOfBody? body = some text ↔ Tells body text) ↔ ¬Drops body) ∧
      (Drops body → reasonOfBody? body = none) := by
  have hnone : Drops body → reasonOfBody? body = none := by
    rintro ⟨members, first, text, hread, hfirst, -, hdrop⟩
    rw [Option.eq_none_iff_forall_ne_some]
    intro said hsaid
    obtain ⟨others, head, hother, htaken, hhead, hspeaks⟩ :=
      (reasonOfBody?_eq_some_iff body said).1 hsaid
    cases hread.symm.trans hother
    rcases hdrop with hwhole | hnull
    · rw [hwhole] at htaken
      cases htaken
    · cases hhead.symm.trans hnull
      cases isGiven_of_speaks hspeaks
  refine ⟨⟨fun htold hdrops => ?_, fun hdrops text => ⟨fun h => ?_, fun h => ?_⟩⟩, hnone⟩
  · have hnothing := hnone hdrops
    obtain ⟨members, first, text, hread, hfirst, hspeaks, -⟩ := hdrops
    cases hnothing.symm.trans ((htold text).2 (.mk hread hfirst hspeaks))
  · obtain ⟨members, first, hread, -, hhead, hspeaks⟩ := (reasonOfBody?_eq_some_iff body text).1 h
    exact .mk hread (find?_of_head? hhead (isGiven_of_speaks hspeaks)) hspeaks
  · obtain ⟨hread, hfirst, hspeaks⟩ := h
    have hkept : ¬((Node.object _).whole? = none ∨ (reasons _).head? = some .null) := fun h =>
      hdrops ⟨_, _, _, hread, hfirst, hspeaks, h⟩
    rw [not_or] at hkept
    refine (reasonOfBody?_eq_some_iff body text).2 ⟨_, _, hread, ?_, ?_, hspeaks⟩
    · exact Option.isSome_iff_ne_none.2 hkept.1
    · exact (head?_of_find? hfirst).resolve_right hkept.2

/-- **A null hides the message behind it.** -/
theorem reason_dropped_null :
    Tells "\x7b\"detail\":null,\"message\":\"not allowed\"\x7d" "not allowed" ∧
      reasonOfBody? "\x7b\"detail\":null,\"message\":\"not allowed\"\x7d" = none := by
  have hread : read? "\x7b\"detail\":null,\"message\":\"not allowed\"\x7d".toList = some
      (.object [(some "detail", .null), (some "message", .string (some "not allowed"))]) := by
    rfl
  exact ⟨.mk hread rfl (.text _), by decide +kernel⟩

end McpConsole.Api

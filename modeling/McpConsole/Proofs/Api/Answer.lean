import Mathlib.Data.List.Forall2
import McpConsole.Api.Call

/-!
# What answers say

What the body of an answer to a call has to be for the call to have a result (`Call.Gives`). A list of
servers is an array, or an object with exactly one member `data`, which is an array (`IsList`); its
servers are those of the items, in their order. `answer?_eq_some_iff` says that a body is read as
an answer just when it gives the answer.
-/

namespace McpConsole.Api

open McpConsole.Json

/-! ### Records -/

theorem mapM_eq_some_iff {α β : Type} {f : α → Option β} {as : List α} {bs : List β} :
    as.mapM f = some bs ↔ List.Forall₂ (fun a b => f a = some b) as bs := by
  induction as generalizing bs with
  | nil =>
    rw [List.mapM_nil, List.forall₂_nil_left_iff]
    exact ⟨fun h => (Option.some.inj h).symm, fun h => h ▸ rfl⟩
  | cons a as ih =>
    rw [List.mapM_cons]
    constructor
    · intro h
      obtain ⟨b, hb, h⟩ := Option.bind_eq_some_iff.1 h
      obtain ⟨rest, hrest, h⟩ := Option.bind_eq_some_iff.1 h
      cases h
      exact .cons hb (ih.1 hrest)
    · intro h
      cases h with
      | cons hb hrest => simp [hb, ih.2 hrest]

/-- A member with a key that is a text. -/
def keyed (member : String × Node) : Option String × Node :=
  (some member.1, member.2)

theorem mapM_keyed (members : List (String × Node)) :
    ((members.map keyed).mapM fun member => member.1.map fun key => (key, member.2)) =
      some members := by
  induction members with
  | nil => rfl
  | cons member members ih =>
    rw [List.map_cons, List.mapM_cons, ih]
    rfl

/-- All keys of an object with a value are texts. -/
theorem exists_keyed {members : List (Option String × Node)} {values : List (String × Value)}
    (h : memberValues? members = some values) : ∃ named, members = List.map keyed named := by
  induction members generalizing values with
  | nil => exact ⟨[], rfl⟩
  | cons member members ih =>
    obtain ⟨key, item⟩ := member
    rw [memberValues?] at h
    obtain ⟨text, rfl, htext⟩ := Option.bind_eq_some_iff.1 h
    obtain ⟨value, -, hitem⟩ := Option.bind_eq_some_iff.1 htext
    obtain ⟨rest, hrest, -⟩ := Option.bind_eq_some_iff.1 hitem
    obtain ⟨named, rfl⟩ := ih hrest
    exact ⟨(text, item) :: named, rfl⟩

/-- The members of an object with a key. -/
def membersAt (key : String) (members : List (Option String × Node)) : List (Option String × Node) :=
  members.filter fun member => member.1 == some key

theorem membersAt_keyed (key : String) (members : List (String × Node)) :
    membersAt key (members.map keyed) = (members.filter fun member => member.1 == key).map keyed := by
  rw [membersAt, List.filter_map]
  rfl

/-- An object with a value has the only field of a record just when one member has its key. -/
theorem memberFields?_eq_iff {members : List (Option String × Node)} {values : List (String × Value)}
    (h : memberValues? members = some values) (key : String) (node : Node) :
    memberFields? [key] members = some [some node] ↔ membersAt key members = [(some key, node)] := by
  obtain ⟨named, rfl⟩ := exists_keyed h
  rw [membersAt_keyed, memberFields?, mapM_keyed]
  simp only [Option.bind_eq_bind, Option.bind_some, List.mapM_cons, List.mapM_nil]
  have hkey : ∀ member ∈ named.filter (fun member => member.1 == key), member.1 = key := by
    intro member hm
    simpa using (List.mem_filter.1 hm).2
  cases hfound : named.filter fun member => member.1 == key with
  | nil => simp
  | cons member rest =>
    rw [hfound] at hkey
    have hmember := hkey member List.mem_cons_self
    cases rest with
    | nil => simp [keyed, hmember]
    | cons => simp

/-! ### Bodies -/

/-- A body is a list of these items: an array, or an object with one member `data` that is one. -/
def IsList (body : String) (items : List Node) : Prop :=
  ∃ node value, read? body.toList = some node ∧ node.whole? = some value ∧
    (node = .array items ∨ ∃ members, node = .object members ∧
      membersAt "data" members = [(some "data", .array items)])

/-- What a body gives as the answer to a call. -/
inductive Call.Gives (body : String) : Call → Answer → Prop
  | list {items : List Node} {servers : List Server} (hlist : IsList body items)
      (hservers : List.Forall₂ (fun item server => Server.ofNode? item = some server) items servers) :
      Gives body .list (.servers servers)
  | delete (id : String) : Gives body (.delete id) .deleted
  | create (details : Details) {server : Server} (h : Server.read? body.toList = some server) :
      Gives body (.create details) (.server server)
  | update (revision : Revision) {server : Server} (h : Server.read? body.toList = some server) :
      Gives body (.update revision) (.server server)

theorem whole?_eq_some_iff {node : Node} {value : Value} :
    node.whole? = some value ↔ node.depth < depthLimit ∧ node.value? = some value := by
  rw [Node.whole?]
  split <;> simp [*]

theorem memberValues?_of_whole? {members : List (Option String × Node)} {value : Value}
    (h : (Node.object members).whole? = some value) : ∃ values, memberValues? members = some values := by
  obtain ⟨-, hvalue⟩ := whole?_eq_some_iff.1 h
  rw [Node.value?] at hvalue
  obtain ⟨values, hvalues, -⟩ := Option.map_eq_some_iff.1 hvalue
  exact ⟨values, hvalues⟩

theorem serversOfBody?_eq_some_iff (body : String) (servers : List Server) :
    serversOfBody? body = some servers ↔ ∃ items, IsList body items ∧
      List.Forall₂ (fun item server => Server.ofNode? item = some server) items servers := by
  unfold serversOfBody? IsList
  simp only [← mapM_eq_some_iff]
  constructor
  · intro h
    obtain ⟨node, hread, hnode⟩ := Option.bind_eq_some_iff.1 h
    obtain ⟨value, hwhole, hbody⟩ := Option.bind_eq_some_iff.1 hnode
    cases node with
    | array items => exact ⟨items, ⟨_, value, hread, hwhole, .inl rfl⟩, hbody⟩
    | object members =>
      obtain ⟨values, hvalues⟩ := memberValues?_of_whole? hwhole
      obtain ⟨fields, hfields, hlist⟩ := Option.bind_eq_some_iff.1 hbody
      split at hlist
      · rename_i list
        cases list with
        | array items =>
          have hdata := (memberFields?_eq_iff hvalues "data" _).1 hfields
          exact ⟨items, ⟨_, value, hread, hwhole, .inr ⟨members, rfl, hdata⟩⟩, hlist⟩
        | null | bool | numeral | string | object => cases hlist
      · cases hlist
    | null | bool | numeral | string => cases hbody
  · rintro ⟨items, ⟨node, value, hread, hwhole, rfl | ⟨members, rfl, hdata⟩⟩, h⟩
    · simp [hread, hwhole, h]
    · obtain ⟨values, hvalues⟩ := memberValues?_of_whole? hwhole
      have hfields := (memberFields?_eq_iff hvalues "data" _).2 hdata
      simp [hread, hwhole, hfields, serversOfNode?, h]

/-- **A body is read as an answer** just when it gives the answer. -/
theorem answer?_eq_some_iff (call : Call) (body : String) (answer : Answer) :
    call.answer? body = some answer ↔ call.Gives body answer := by
  cases call with
  | list =>
    constructor
    · intro h
      obtain ⟨servers, hservers, rfl⟩ := Option.map_eq_some_iff.1 h
      obtain ⟨items, hlist, hitems⟩ := (serversOfBody?_eq_some_iff body servers).1 hservers
      exact .list hlist hitems
    · intro h
      cases h with
      | list hlist hservers =>
        have hread := (serversOfBody?_eq_some_iff body _).2 ⟨_, hlist, hservers⟩
        exact Option.map_eq_some_iff.2 ⟨_, hread, rfl⟩
  | delete id =>
    constructor
    · intro h
      cases h
      exact .delete id
    · intro h
      cases h
      rfl
  | create details =>
    constructor
    · intro h
      obtain ⟨server, hserver, rfl⟩ := Option.map_eq_some_iff.1 h
      exact .create details hserver
    · intro h
      cases h with
      | create _ hserver => exact Option.map_eq_some_iff.2 ⟨_, hserver, rfl⟩
  | update revision =>
    constructor
    · intro h
      obtain ⟨server, hserver, rfl⟩ := Option.map_eq_some_iff.1 h
      exact .update revision hserver
    · intro h
      cases h with
      | update _ hserver => exact Option.map_eq_some_iff.2 ⟨_, hserver, rfl⟩

end McpConsole.Api

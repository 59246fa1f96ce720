import Mathlib.Data.List.Induction
import McpConsole.Proofs.Query.Store

/-!
# The history of the store

What is known under a key follows from what happened to the store. A `History` is the list of the
operations that were performed on an empty store, in their order, whatever their keys and numbers.

A result is taken at a moment (`TakesAt`) if it is due then: its number counts the fetches of its key
that were issued before, and there is one. What was fetched last is what the last taken success brought
(`IsLastData`), the status is told by what came last, a fetch or a taken result (`Stands`), and an
entry is stale if a change elsewhere came after the last fetch (`IsStale`).

`history_determines` says this of every history and every key, together with what the store answers,
and that an operation on one key leaves the entry of every other key as it was.
-/

namespace McpConsole.Query

/-- Something that is done to a store. -/
inductive Operation (α : Type) where
  | begin (key : String)
  | resolve (key : String) (number : Nat) (result : Except String α)
  | invalidate (key : String)

/-- Operations in the order in which they are performed. -/
abbrev History (α : Type) := List (Operation α)

/-- The status that a result leaves. -/
def Status.ofResult {α : Type} : Except String α → Status
  | .ok _ => .ready
  | .error reason => .failed reason

namespace Operation

variable {α : Type}

/-- The key that an operation is about. -/
def key : Operation α → String
  | .begin key => key
  | .resolve key _ _ => key
  | .invalidate key => key

/-- Whether an operation issues a fetch of a key. -/
def isBegin (key : String) : Operation α → Bool
  | .begin other => other == key
  | _ => false

/-- What becomes of the entry of the key. -/
def change : Operation α → Option (Entry α) → Option (Entry α)
  | .begin _, entry => some (entry.getD default).begun
  | .resolve _ number result, entry =>
    entry.map fun entry => if entry.generation = number then entry.resolved result else entry
  | .invalidate _, entry => entry.map fun entry => { entry with stale := true }

theorem isBegin_iff {key : String} {op : Operation α} : op.isBegin key = true ↔ op = .begin key := by
  cases op <;> simp [isBegin]

end Operation

namespace Store

variable {α : Type}

/-- The store after one more operation. -/
def perform (store : Store α) : Operation α → Store α
  | .begin key => (store.begin key).1
  | .resolve key number result => (store.resolve key number result).1
  | .invalidate key => (store.invalidate key).1

/-- What is left of a history. -/
def after (history : History α) : Store α :=
  history.foldl perform empty

theorem after_append (history : History α) (op : Operation α) :
    after (history ++ [op]) = (after history).perform op := by
  simp [after]

theorem get?_put_self (store : Store α) (key : String) (entry : Entry α) :
    (store.put key entry).get? key = some entry := by
  rw [get?_put, if_pos rfl]

/-- What an operation makes of the entry of its key. -/
theorem get?_perform (store : Store α) (op : Operation α) :
    (store.perform op).get? op.key = op.change (store.get? op.key) := by
  cases op with
  | begin key => exact get?_begin_self store key
  | resolve key number result =>
    show (store.resolve key number result).1.get? key = _
    cases hkey : store.get? key with
    | none => simp [resolve, hkey, Operation.key, Operation.change]
    | some entry =>
      rw [resolve_of_get? hkey]
      split
      · rename_i hnumber
        simp [get?_put_self, Operation.key, Operation.change, hkey, hnumber]
      · rename_i hnumber
        simp [Operation.key, Operation.change, hkey, hnumber]
  | invalidate key =>
    show (store.invalidate key).1.get? key = _
    cases hkey : store.get? key with
    | none => simp [invalidate, hkey, Operation.key, Operation.change]
    | some entry =>
      rw [invalidate_of_get? hkey]
      simp [get?_put_self, Operation.key, Operation.change, hkey]

/-- **An operation on one key** leaves the entries of all others. -/
theorem get?_perform_of_ne (store : Store α) {op : Operation α} {other : String}
    (h : op.key ≠ other) : (store.perform op).get? other = store.get? other := by
  have hput : ∀ entry, (store.put op.key entry).get? other = store.get? other := by
    intro entry
    rw [get?_put, if_neg (Ne.symm h)]
  cases op with
  | begin key => exact hput _
  | resolve key number result =>
    show (store.resolve key number result).1.get? other = _
    unfold resolve
    split
    · split
      · exact hput _
      · rfl
    · rfl
  | invalidate key =>
    show (store.invalidate key).1.get? other = _
    unfold invalidate
    split
    · exact hput _
    · rfl

end Store

namespace History

variable {α : Type}

/-! ### What happens when -/

/-- How many fetches of a key are issued. -/
def fetches (history : History α) (key : String) : Nat :=
  history.countP (Operation.isBegin key)

/-- A fetch of a key is issued at a moment. -/
def BeginsAt (history : History α) (key : String) (moment : Nat) : Prop :=
  history[moment]? = some (.begin key)

/-- A key is made stale at a moment. -/
def InvalidatesAt (history : History α) (key : String) (moment : Nat) : Prop :=
  history[moment]? = some (.invalidate key)

/-- The result of a fetch is due after a history: a fetch was issued, and the number of the result
counts the fetches. -/
def IsDue (history : History α) (key : String) (number : Nat) : Prop :=
  Operation.begin key ∈ history ∧ number = fetches history key

/-- A result for a key is taken at a moment: it is due after what came before. -/
def TakesAt (history : History α) (key : String) (result : Except String α) (moment : Nat) : Prop :=
  ∃ number, history[moment]? = some (.resolve key number result) ∧
    IsDue (history.take moment) key number

/-- The data of the last success that was taken for a key. -/
def IsLastData (history : History α) (key : String) (data : α) : Prop :=
  ∃ moment, TakesAt history key (.ok data) moment ∧
    ∀ other later, TakesAt history key (.ok other) later → later ≤ moment

/-- Something changed elsewhere after every fetch of a key, of which there is one. -/
def IsStale (history : History α) (key : String) : Prop :=
  Operation.begin key ∈ history ∧
    ∃ moment, InvalidatesAt history key moment ∧
      ∀ earlier, BeginsAt history key earlier → earlier < moment

/-- The status of a key: nothing happened, a fetch is the last that happened, or a result is. -/
inductive Stands (history : History α) (key : String) : Status → Prop
  | idle (hnone : Operation.begin key ∉ history) : Stands history key .idle
  | loading {moment : Nat} (hbegins : BeginsAt history key moment)
      (hlast : ∀ result earlier, TakesAt history key result earlier → earlier < moment) :
      Stands history key .loading
  | settled {result : Except String α} {moment : Nat} (htakes : TakesAt history key result moment)
      (hlast : ∀ other earlier, TakesAt history key other earlier → earlier ≤ moment)
      (hbegun : ∀ earlier, BeginsAt history key earlier → earlier < moment) :
      Stands history key (.ofResult result)

variable {history : History α} {op : Operation α} {key : String} {moment : Nat}

/-! ### One more operation -/

theorem getElem?_append_iff {found : Operation α} :
    (history ++ [op])[moment]? = some found ↔
      history[moment]? = some found ∨ moment = history.length ∧ op = found := by
  rcases Nat.lt_trichotomy moment history.length with hlt | rfl | hgt
  · simp [List.getElem?_append_left hlt, Nat.ne_of_lt hlt]
  · simp
  · have hnone : (history ++ [op])[moment]? = none := by simp; omega
    rw [hnone, List.getElem?_eq_none (Nat.le_of_lt hgt)]
    simp [Nat.ne_of_gt hgt]

theorem lt_of_getElem? {found : Operation α} (h : history[moment]? = some found) :
    moment < history.length :=
  (List.getElem?_eq_some_iff.1 h).1

theorem take_append_of_getElem? {found : Operation α} (h : history[moment]? = some found) :
    (history ++ [op]).take moment = history.take moment :=
  List.take_append_of_le_length (Nat.le_of_lt (lt_of_getElem? h))

theorem BeginsAt.lt (h : BeginsAt history key moment) : moment < history.length :=
  lt_of_getElem? h

theorem BeginsAt.mem (h : BeginsAt history key moment) : Operation.begin key ∈ history :=
  List.mem_of_getElem? h

theorem TakesAt.lt {result : Except String α} (h : TakesAt history key result moment) :
    moment < history.length := by
  obtain ⟨number, hat, -⟩ := h
  exact lt_of_getElem? hat

theorem fetches_append (history : History α) (op : Operation α) (key : String) :
    fetches (history ++ [op]) key = fetches history key + if op.isBegin key then 1 else 0 := by
  simp [fetches, List.countP_append, List.countP_singleton]

theorem TakesAt.mem {result : Except String α} (h : TakesAt history key result moment) :
    Operation.begin key ∈ history := by
  obtain ⟨number, -, hknown, -⟩ := h
  exact List.mem_of_mem_take hknown

theorem takesAt_append_iff {result : Except String α} :
    TakesAt (history ++ [op]) key result moment ↔
      TakesAt history key result moment ∨ moment = history.length ∧
        ∃ number, op = .resolve key number result ∧ IsDue history key number := by
  simp only [TakesAt, getElem?_append_iff]
  constructor
  · rintro ⟨number, hat | ⟨rfl, hop⟩, hdue⟩
    · rw [take_append_of_getElem? hat] at hdue
      exact .inl ⟨number, hat, hdue⟩
    · rw [List.take_left] at hdue
      exact .inr ⟨rfl, number, hop, hdue⟩
  · rintro (⟨number, hat, hdue⟩ | ⟨rfl, number, hop, hdue⟩)
    · refine ⟨number, .inl hat, ?_⟩
      rwa [take_append_of_getElem? hat]
    · refine ⟨number, .inr ⟨rfl, hop⟩, ?_⟩
      rwa [List.take_left]

theorem takesAt_resolve_iff {number : Nat} {result other : Except String α}
    (hdue : IsDue history key number) :
    TakesAt (history ++ [.resolve key number result]) key other moment ↔
      TakesAt history key other moment ∨ moment = history.length ∧ result = other := by
  rw [takesAt_append_iff]
  simp [hdue]

/-- An operation that brings no result that is taken. -/
theorem takesAt_append_of_not
    (h : ∀ number result, op = .resolve key number result → ¬ IsDue history key number)
    {result : Except String α} :
    TakesAt (history ++ [op]) key result moment ↔ TakesAt history key result moment := by
  rw [takesAt_append_iff, or_iff_left]
  rintro ⟨-, number, hop, hdue⟩
  exact h number result hop hdue

theorem beginsAt_append_of_ne (h : op ≠ .begin key) :
    BeginsAt (history ++ [op]) key moment ↔ BeginsAt history key moment := by
  rw [BeginsAt, getElem?_append_iff, or_iff_left fun hop => h hop.2, BeginsAt]

theorem invalidatesAt_append_of_ne (h : op ≠ .invalidate key) :
    InvalidatesAt (history ++ [op]) key moment ↔ InvalidatesAt history key moment := by
  rw [InvalidatesAt, getElem?_append_iff, or_iff_left fun hop => h hop.2, InvalidatesAt]

theorem mem_append_of_ne {found : Operation α} (h : op ≠ found) :
    found ∈ history ++ [op] ↔ found ∈ history := by
  simp [Ne.symm h]

/-! ### What the entry of a key tells -/

/-- A history has no two statuses. -/
theorem Stands.unique {first second : Status} (hfirst : Stands history key first)
    (hsecond : Stands history key second) : first = second := by
  cases hfirst with
  | idle hnone =>
    cases hsecond with
    | idle => rfl
    | loading hbegins => exact absurd hbegins.mem hnone
    | settled htakes => exact absurd htakes.mem hnone
  | loading hbegins hlast =>
    cases hsecond with
    | idle hnone => exact absurd hbegins.mem hnone
    | loading => rfl
    | settled htakes _ hbegun => exact absurd (hlast _ _ htakes) (Nat.lt_asymm (hbegun _ hbegins))
  | settled htakes hlast hbegun =>
    cases hsecond with
    | idle hnone => exact absurd htakes.mem hnone
    | loading hbegins hlast' => exact absurd (hlast' _ _ htakes) (Nat.lt_asymm (hbegun _ hbegins))
    | settled htakes' hlast' =>
      obtain rfl := Nat.le_antisymm (hlast' _ _ htakes) (hlast _ _ htakes')
      obtain ⟨number, hat, -⟩ := htakes
      obtain ⟨number', hat', -⟩ := htakes'
      rw [hat] at hat'
      cases hat'
      rfl

/-- The status is the same if fetches are issued and results are taken at the same moments. -/
theorem Stands.of_same {later : History α} {status : Status} (h : Stands history key status)
    (hbegun : ∀ moment, BeginsAt later key moment ↔ BeginsAt history key moment)
    (hat : ∀ result moment, TakesAt later key result moment ↔ TakesAt history key result moment) :
    Stands later key status := by
  cases h with
  | idle hnone =>
    refine .idle fun hmem => hnone ?_
    obtain ⟨moment, hmoment⟩ := List.mem_iff_getElem?.1 hmem
    exact BeginsAt.mem ((hbegun moment).1 hmoment)
  | loading hbegins hlast =>
    exact .loading ((hbegun _).2 hbegins) fun _ _ hother => hlast _ _ ((hat _ _).1 hother)
  | settled htakes hlast hearlier =>
    exact .settled ((hat _ _).2 htakes) (fun _ _ hother => hlast _ _ ((hat _ _).1 hother))
      fun _ hother => hearlier _ ((hbegun _).1 hother)

/-- The entry of a key, or the one of a key that was never fetched, tells of the history. -/
structure Tells (history : History α) (key : String) (entry : Option (Entry α)) : Prop where
  isSome_iff : entry.isSome = true ↔ Operation.begin key ∈ history
  generation : (entry.getD default).generation = fetches history key
  data_iff : ∀ data, (entry.getD default).data = some data ↔ IsLastData history key data
  stands : Stands history key (entry.getD default).status
  stale_iff : (entry.getD default).stale = true ↔ IsStale history key

theorem tells_nil (key : String) : Tells ([] : History α) key none where
  isSome_iff := by simp
  generation := rfl
  data_iff data := by simp [IsLastData, TakesAt, default]
  stands := .idle List.not_mem_nil
  stale_iff := by simp [IsStale, default]

variable {entry : Option (Entry α)}

/-- An operation on another key, a result that is not taken, or a change elsewhere before the first
fetch makes no difference. -/
theorem Tells.skip (h : Tells history key entry) (hbegin : op ≠ .begin key)
    (htakes : ∀ number result, op = .resolve key number result → ¬ IsDue history key number)
    (hinvalidate : op = .invalidate key → Operation.begin key ∉ history) :
    Tells (history ++ [op]) key entry := by
  have hmem : Operation.begin key ∈ history ++ [op] ↔ Operation.begin key ∈ history :=
    mem_append_of_ne hbegin
  have hbegun : ∀ moment, BeginsAt (history ++ [op]) key moment ↔ BeginsAt history key moment :=
    fun _ => beginsAt_append_of_ne hbegin
  have hat : ∀ result moment, TakesAt (history ++ [op]) key result moment ↔
      TakesAt history key result moment := fun _ _ => takesAt_append_of_not htakes
  constructor
  · rw [h.isSome_iff, hmem]
  · have hnot : op.isBegin key = false := by simpa using mt Operation.isBegin_iff.1 hbegin
    rw [h.generation, fetches_append, hnot]
    rfl
  · intro data
    simp only [h.data_iff, IsLastData, hat]
  · exact h.stands.of_same hbegun hat
  · rw [h.stale_iff]
    simp only [IsStale, hmem, hbegun]
    refine and_congr_right fun hknown => ?_
    have hne : op ≠ .invalidate key := fun hop => hinvalidate hop hknown
    simp only [invalidatesAt_append_of_ne hne]

theorem Tells.begin (h : Tells history key entry) :
    Tells (history ++ [.begin key]) key (some (entry.getD default).begun) := by
  have hat : ∀ {result moment}, TakesAt (history ++ [.begin key]) key result moment ↔
      TakesAt history key result moment := takesAt_append_of_not (by simp)
  have hlast : BeginsAt (history ++ [.begin key]) key history.length := by simp [BeginsAt]
  constructor
  · simp
  · have hbegin : (Operation.begin key : Operation α).isBegin key = true :=
      Operation.isBegin_iff.2 rfl
    rw [fetches_append, hbegin, ← h.generation]
    rfl
  · intro data
    simp only [IsLastData, hat]
    exact h.data_iff data
  · exact .loading hlast fun result earlier hearlier => (hat.1 hearlier).lt
  · refine iff_of_false (by simp [Entry.begun]) ?_
    rintro ⟨-, moment, hmoment, hbegun⟩
    have hafter := hbegun _ hlast
    rw [invalidatesAt_append_of_ne (by simp)] at hmoment
    exact absurd (lt_of_getElem? hmoment) (Nat.lt_asymm hafter)

/-! A result that is due is the last that happened. -/

theorem isLastData_resolve_iff {number : Nat} {found data : α} (hdue : IsDue history key number) :
    IsLastData (history ++ [.resolve key number (.ok found)]) key data ↔ found = data := by
  have hnow : TakesAt (history ++ [.resolve key number (.ok found)]) key (.ok found)
      history.length := (takesAt_resolve_iff hdue).2 (.inr ⟨rfl, rfl⟩)
  constructor
  · rintro ⟨moment, hmoment, hothers⟩
    have hafter := hothers found _ hnow
    rcases (takesAt_resolve_iff hdue).1 hmoment with hmoment | ⟨-, ⟨⟩⟩
    · exact absurd hmoment.lt (Nat.not_lt.2 hafter)
    · rfl
  · rintro rfl
    refine ⟨history.length, hnow, fun other later hlater => ?_⟩
    rcases (takesAt_resolve_iff hdue).1 hlater with hlater | ⟨rfl, -⟩
    · exact Nat.le_of_lt hlater.lt
    · exact Nat.le_refl _

theorem stands_resolve {number : Nat} (hdue : IsDue history key number)
    (result : Except String α) :
    Stands (history ++ [.resolve key number result]) key (.ofResult result) := by
  refine .settled ((takesAt_resolve_iff hdue).2 (.inr ⟨rfl, rfl⟩)) ?_ ?_
  · intro other earlier hearlier
    rcases (takesAt_resolve_iff hdue).1 hearlier with hearlier | ⟨rfl, -⟩
    · exact Nat.le_of_lt hearlier.lt
    · exact Nat.le_refl _
  · intro earlier hearlier
    rw [beginsAt_append_of_ne (by simp)] at hearlier
    exact hearlier.lt

theorem Tells.resolve {old : Entry α} (h : Tells history key (some old))
    (result : Except String α) :
    Tells (history ++ [.resolve key old.generation result]) key (some (old.resolved result)) := by
  have hdue : IsDue history key old.generation := ⟨h.isSome_iff.1 rfl, h.generation⟩
  constructor
  · simpa using hdue.1
  · rw [fetches_append, ← hdue.2]
    cases result <;> rfl
  · intro data
    cases result with
    | ok found =>
      show some found = some data ↔ _
      rw [isLastData_resolve_iff hdue, Option.some.injEq]
    | error reason =>
      simp only [IsLastData, takesAt_resolve_iff hdue, reduceCtorEq, and_false, or_false]
      exact h.data_iff data
  · have hstatus : (old.resolved result).status = .ofResult result := by
      cases result <;> rfl
    rw [Option.getD_some, hstatus]
    exact stands_resolve hdue result
  · have hstale : (old.resolved result).stale = old.stale := by
      cases result <;> rfl
    have hbegun : ∀ {moment},
        BeginsAt (history ++ [.resolve key old.generation result]) key moment ↔
          BeginsAt history key moment := beginsAt_append_of_ne (by simp)
    have hinvalidates : ∀ {moment},
        InvalidatesAt (history ++ [.resolve key old.generation result]) key moment ↔
          InvalidatesAt history key moment := invalidatesAt_append_of_ne (by simp)
    have hmem : Operation.begin key ∈ history ++ [.resolve key old.generation result] ↔
        Operation.begin key ∈ history := mem_append_of_ne (by simp)
    rw [Option.getD_some, hstale]
    simp only [IsStale, hmem, hbegun, hinvalidates]
    exact h.stale_iff

theorem Tells.invalidate {old : Entry α} (h : Tells history key (some old)) :
    Tells (history ++ [.invalidate key]) key (some { old with stale := true }) := by
  have hmem : Operation.begin key ∈ history ++ [.invalidate key] ↔ Operation.begin key ∈ history :=
    mem_append_of_ne (by simp)
  have hat : ∀ result moment, TakesAt (history ++ [.invalidate key]) key result moment ↔
      TakesAt history key result moment := fun _ _ => takesAt_append_of_not (by simp)
  have hbegun : ∀ moment, BeginsAt (history ++ [.invalidate key]) key moment ↔
      BeginsAt history key moment := fun _ => beginsAt_append_of_ne (by simp)
  constructor
  · rw [hmem]
    exact h.isSome_iff
  · rw [fetches_append]
    exact h.generation
  · intro data
    simp only [IsLastData, hat]
    exact h.data_iff data
  · exact h.stands.of_same hbegun hat
  · refine iff_of_true rfl ⟨hmem.2 (h.isSome_iff.1 rfl), history.length, ?_, ?_⟩
    · simp [InvalidatesAt]
    · exact fun earlier hearlier => ((hbegun earlier).1 hearlier).lt

/-- What an operation makes of an entry, it tells of the longer history. -/
theorem Tells.change (h : Tells history op.key entry) :
    Tells (history ++ [op]) op.key (op.change entry) := by
  have hnone : entry = none → Operation.begin op.key ∉ history := by
    rintro rfl
    simpa using h.isSome_iff
  cases op with
  | begin key => exact h.begin
  | resolve key number result =>
    cases entry with
    | none =>
      refine h.skip (by simp) ?_ (by simp)
      rintro _ _ ⟨⟩ hdue
      exact hnone rfl hdue.1
    | some old =>
      show Tells _ key (some (if old.generation = number then old.resolved result else old))
      split
      · rename_i hnumber
        subst hnumber
        exact h.resolve result
      · rename_i hnumber
        refine h.skip (by simp) ?_ (by simp)
        rintro _ _ ⟨⟩ hdue
        exact hnumber (h.generation.trans hdue.2.symm)
  | invalidate key =>
    cases entry with
    | none => exact h.skip (by simp) (by simp) fun _ => hnone rfl
    | some old => exact h.invalidate

/-- **The entry of a key tells of the history**, whatever the other keys are. -/
theorem tells_after (history : History α) (key : String) :
    Tells history key ((Store.after history).get? key) := by
  induction history using List.reverseRecOn with
  | nil => exact tells_nil key
  | append_singleton history op ih =>
    rw [Store.after_append]
    by_cases hkey : op.key = key
    · subst hkey
      rw [Store.get?_perform]
      exact ih.change
    · rw [Store.get?_perform_of_ne _ hkey]
      -- an operation on another key is none of the three that count
      refine ih.skip ?_ ?_ ?_
      · rintro rfl
        exact hkey rfl
      · rintro number result rfl
        exact absurd rfl hkey
      · rintro rfl
        exact absurd rfl hkey

/-! ### The main statement -/

/-- What a history determines of the store that it leaves, under one key. -/
structure Determines (history : History α) (key : String) (store : Store α) : Prop where
  /-- A key has an entry once it was fetched. -/
  isSome_iff : (store.get? key).isSome = true ↔ Operation.begin key ∈ history
  /-- The next fetch gets the next number: with fewer than `2 ^ 64` fetches, all numbers fit into
  64 bits. -/
  begin_number : (store.begin key).2 = fetches history key + 1
  resolve_iff : ∀ number result,
    (store.resolve key number result).2 = true ↔ IsDue history key number
  invalidate_iff : (store.invalidate key).2 = true ↔ Operation.begin key ∈ history
  data_iff : ∀ data, store.data? key = some data ↔ IsLastData history key data
  status_iff : ∀ status, store.status key = status ↔ Stands history key status
  stale_iff : (∃ entry, store.get? key = some entry ∧ entry.stale = true) ↔ IsStale history key
  /-- An operation on another key leaves the entry as it is. -/
  frame : ∀ op : Operation α, op.key ≠ key → (store.perform op).get? key = store.get? key

/-- **What is known under a key follows from the history**, and so does what the store answers. -/
theorem history_determines (history : History α) (key : String) :
    Determines history key (Store.after history) := by
  have h := tells_after history key
  generalize Store.after history = store at h ⊢
  constructor
  case isSome_iff => exact h.isSome_iff
  case begin_number => rw [Store.begin_snd, h.generation]
  case resolve_iff =>
    intro number result
    rw [IsDue, ← h.isSome_iff]
    cases hentry : store.get? key with
    | none => simp [Store.resolve, hentry]
    | some entry =>
      have hsome : (store.get? key).isSome = true := by rw [hentry]; rfl
      rw [Store.resolve_snd_iff hsome, Store.generation, h.generation]
      simp
  case invalidate_iff =>
    rw [← h.isSome_iff]
    cases hentry : store.get? key <;> simp [Store.invalidate, hentry]
  case data_iff =>
    intro data
    rw [← h.data_iff, Store.data?]
    cases store.get? key <;> simp [default]
  case status_iff =>
    intro status
    have hstatus : store.status key = ((store.get? key).getD default).status := by
      rw [Store.status]
      cases store.get? key <;> rfl
    rw [hstatus]
    constructor
    · rintro rfl
      exact h.stands
    · exact h.stands.unique
  case stale_iff =>
    rw [← h.stale_iff]
    cases store.get? key <;> simp [default]
  case frame => exact fun op hop => store.get?_perform_of_ne hop

/-- The result of the last fetch is taken as often as it comes, and data stays when it failed. -/
example :
    let store := Store.after
      [.begin "k", .begin "k", .resolve "k" 2 (.ok 7), .resolve "k" 1 (.ok 5),
        .resolve "k" 2 (.error "late")]
    store.data? "k" = some 7 ∧ store.status "k" = .failed "late" := by
  decide

end History

end McpConsole.Query

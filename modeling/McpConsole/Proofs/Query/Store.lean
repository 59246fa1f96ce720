import Mathlib.Logic.Function.Iterate
import McpConsole.Query.Store

/-!
# The entries of the store

What each operation of a `Store` does to its entries. `Store.get?_put` says it for a new entry;
a fetch that is issued (`Store.get?_begin`), its result (`Store.resolve_of_get?`) and a change
elsewhere (`Store.invalidate_of_get?`) put an entry, and touch no other key.

Fetches of a key count up its number (`Store.generation_beginTimes`), and the result of the last one
is taken and of no other (`Store.resolve_beginTimes_iff`).
-/

namespace McpConsole.Query

namespace Store

variable {α : Type} {store : Store α} {key : String} {entry : Entry α}

theorem lookup_cons_of_ne {name other : String} (h : other ≠ name)
    (entries : List (String × Entry α)) :
    ((name, entry) :: entries).lookup other = entries.lookup other := by
  rw [List.lookup_cons, beq_false_of_ne h]

theorem lookup_map_put (entries : List (String × Entry α)) (key other : String)
    (entry : Entry α) :
    (entries.map fun pair => if pair.1 == key then (key, entry) else pair).lookup other =
      if other = key then (entries.lookup other).map fun _ => entry else entries.lookup other := by
  induction entries with
  | nil => simp
  | cons pair entries ih =>
    obtain ⟨name, old⟩ := pair
    rw [List.map_cons]
    by_cases ho : other = name
    · subst ho
      by_cases hk : other = key <;> simp [hk]
    · rw [lookup_cons_of_ne ho, ← ih]
      split
      · rename_i hn
        rw [lookup_cons_of_ne (beq_iff_eq.1 hn ▸ ho)]
      · rw [lookup_cons_of_ne ho]

/-- **A new entry is found under its key**, and every other key keeps its entry. -/
theorem get?_put (store : Store α) (key other : String) (entry : Entry α) :
    (store.put key entry).get? other = if other = key then some entry else store.get? other := by
  unfold put
  split
  · rename_i hs
    obtain ⟨old, ho⟩ := Option.isSome_iff_exists.1 hs
    unfold get? at ho ⊢
    rw [lookup_map_put]
    split
    · subst key
      rw [ho]
      rfl
    · rfl
  · rename_i hs
    have hn : store.get? key = none := by simpa using hs
    unfold get? at hn ⊢
    rw [List.lookup_append]
    by_cases ho : other = key
    · subst ho
      rw [hn, if_pos rfl]
      simp
    · rw [if_neg ho, lookup_cons_of_ne ho]
      simp

/-- A fetch that is issued begins the entry of its key anew. -/
theorem get?_begin (store : Store α) (key other : String) :
    (store.begin key).1.get? other =
      if other = key then some ((store.get? key).getD default).begun else store.get? other :=
  get?_put _ _ _ _

theorem begin_snd (store : Store α) (key : String) :
    (store.begin key).2 = ((store.get? key).getD default).generation + 1 := rfl

theorem resolve_of_get? (h : store.get? key = some entry) (generation : Nat)
    (result : Except String α) :
    store.resolve key generation result =
      if entry.generation = generation then (store.put key (entry.resolved result), true)
      else (store, false) := by
  unfold resolve
  rw [h]

theorem invalidate_of_get? (h : store.get? key = some entry) :
    store.invalidate key = (store.put key { entry with stale := true }, true) := by
  unfold invalidate
  rw [h]

/-- A fetch that is issued leaves what was fetched before. -/
theorem data?_begin (store : Store α) (key other : String) :
    (store.begin key).1.data? other = store.data? other := by
  unfold data?
  rw [get?_begin]
  split
  · rename_i hother
    subst hother
    cases store.get? other <;> rfl
  · rfl

/-- So does a change elsewhere. -/
theorem data?_invalidate (store : Store α) (key other : String) :
    (store.invalidate key).1.data? other = store.data? other := by
  unfold invalidate
  cases hkey : store.get? key with
  | none => rfl
  | some entry =>
    unfold data?
    rw [get?_put]
    split
    · rename_i hother
      rw [hother, hkey]
      rfl
    · rfl

theorem data?_of_get? (h : store.get? key = some entry) : store.data? key = entry.data := by
  unfold data?
  rw [h]
  rfl

theorem status_of_get? (h : store.get? key = some entry) : store.status key = entry.status := by
  unfold status
  rw [h]
  rfl

/-! ### Numbers -/

/-- The number of the last fetch of a key, which is 0 before the first one. -/
def generation (store : Store α) (key : String) : Nat :=
  ((store.get? key).getD default).generation

/-- The store once a number of fetches of a key are issued. -/
def beginTimes (store : Store α) (key : String) (times : Nat) : Store α :=
  (fun store => (store.begin key).1)^[times] store

theorem beginTimes_one (store : Store α) (key : String) :
    store.beginTimes key 1 = (store.begin key).1 := rfl

theorem beginTimes_add (store : Store α) (key : String) (first second : Nat) :
    store.beginTimes key (first + second) = (store.beginTimes key first).beginTimes key second := by
  rw [Nat.add_comm]
  exact Function.iterate_add_apply _ second first store

theorem get?_begin_self (store : Store α) (key : String) :
    (store.begin key).1.get? key = some ((store.get? key).getD default).begun := by
  rw [get?_begin, if_pos rfl]

/-- The number that a fetch is issued with is the number of its key from then on. -/
theorem generation_begin (store : Store α) (key : String) :
    (store.begin key).1.generation key = store.generation key + 1 := by
  rw [generation, get?_begin_self]
  rfl

theorem generation_beginTimes (store : Store α) (key : String) (times : Nat) :
    (store.beginTimes key times).generation key = store.generation key + times := by
  induction times with
  | zero => rfl
  | succ times ih => rw [beginTimes_add, beginTimes_one, generation_begin, ih, Nat.add_assoc]

/-- A result is taken if its number is the one of the last fetch. -/
theorem resolve_snd_iff (h : (store.get? key).isSome = true) (number : Nat)
    (result : Except String α) :
    (store.resolve key number result).2 = true ↔ number = store.generation key := by
  obtain ⟨entry, he⟩ := Option.isSome_iff_exists.1 h
  rw [resolve_of_get? he, generation, he, Option.getD_some, eq_comm (a := number)]
  split <;> simp_all

/-- **Of the results of several fetches, the one of the last is taken**, and of no other. -/
theorem resolve_beginTimes_iff (store : Store α) (key : String) {times : Nat} (h : times ≠ 0)
    (number : Nat) (result : Except String α) :
    ((store.beginTimes key times).resolve key number result).2 = true ↔
      number = store.generation key + times := by
  obtain ⟨before, rfl⟩ := Nat.exists_eq_add_one_of_ne_zero h
  have hknown : ((store.beginTimes key (before + 1)).get? key).isSome = true := by
    rw [beginTimes_add, beginTimes_one, get?_begin_self, Option.isSome_some]
  rw [resolve_snd_iff hknown, generation_beginTimes]

end Store

end McpConsole.Query

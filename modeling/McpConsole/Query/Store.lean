/-!
# What was fetched

The store of fetched data, one entry a key. Fetches of a key are numbered, so that the answer to a
fetch that was issued before the last one is told apart and dropped. Data stays through failures
and new fetches. A change elsewhere makes an entry stale until the next fetch is issued.
-/

namespace McpConsole.Query

/-- How far the last fetch has come. -/
inductive Status where
  | idle
  | loading
  | ready
  | failed (reason : String)
  deriving DecidableEq, Repr, Inhabited

/-- What is known under a key. -/
structure Entry (α : Type) where
  status : Status
  /-- What was fetched last. -/
  data : Option α
  /-- The number of the last fetch. -/
  generation : Nat
  /-- Whether something has changed since the last fetch was issued. -/
  stale : Bool
  deriving DecidableEq, Repr

/-- The entry of a key that was never fetched. -/
instance {α : Type} : Inhabited (Entry α) := ⟨⟨.idle, none, 0, false⟩⟩

/-- The entries by their keys. -/
structure Store (α : Type) where
  entries : List (String × Entry α)
  deriving DecidableEq, Repr, Inhabited

namespace Entry

variable {α : Type}

/-- The entry once its next fetch is issued. -/
def begun (entry : Entry α) : Entry α :=
  { entry with generation := entry.generation + 1, status := .loading, stale := false }

/-- The entry with the result of its last fetch. -/
def resolved (entry : Entry α) : Except String α → Entry α
  | .ok data => { entry with data := some data, status := .ready }
  | .error reason => { entry with status := .failed reason }

end Entry

namespace Store

variable {α : Type}

/-- No entries. -/
def empty : Store α := ⟨[]⟩

/-- The entry of a key. -/
def get? (store : Store α) (key : String) : Option (Entry α) :=
  store.entries.lookup key

/-- The store with an entry for a key, in the place of an earlier one. -/
def put (store : Store α) (key : String) (entry : Entry α) : Store α :=
  if (store.get? key).isSome then
    ⟨store.entries.map fun pair => if pair.1 == key then (key, entry) else pair⟩
  else ⟨store.entries ++ [(key, entry)]⟩

/-- What was fetched last under a key. -/
def data? (store : Store α) (key : String) : Option α :=
  (store.get? key).bind Entry.data

/-- How far the last fetch of a key has come. -/
def status (store : Store α) (key : String) : Status :=
  ((store.get? key).map Entry.status).getD .idle

/-- Whether a fetch of a key has no result yet. -/
def isLoading (store : Store α) (key : String) : Bool :=
  store.status key == .loading

/-- Issues a fetch of a key, and gives its number. -/
def begin (store : Store α) (key : String) : Store α × Nat :=
  let entry := ((store.get? key).getD default).begun
  (store.put key entry, entry.generation)

/-- Takes the result of a numbered fetch, and says whether it was the last one. -/
def resolve (store : Store α) (key : String) (generation : Nat) (result : Except String α) :
    Store α × Bool :=
  match store.get? key with
  | some entry =>
    if entry.generation = generation then (store.put key (entry.resolved result), true)
    else (store, false)
  | none => (store, false)

/-- Makes what is known under a key stale, and says whether the key was ever fetched. -/
def invalidate (store : Store α) (key : String) : Store α × Bool :=
  match store.get? key with
  | some entry => (store.put key { entry with stale := true }, true)
  | none => (store, false)

end Store

end McpConsole.Query

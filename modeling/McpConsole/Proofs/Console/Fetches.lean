import McpConsole.Proofs.Console.Frames
import McpConsole.Proofs.Query.Store

/-!
# Fetches of the list

What deeds do to the list of servers. `Core.Keeps` says which entry the store keeps for the
session's access token, and that it keeps no other. `Core.Keeps.turn` says what a deed does to the
entry: it begins a fetch, or takes the result of the last one, or drops the result of an earlier
one, or leaves the entry alone. A change of the servers always begins a fetch.
-/

namespace McpConsole.Console

open McpConsole.Query

namespace Core

/-- How far the last fetch of the list has come. -/
def status (k : Core) : Status :=
  (k.session.credential.map k.queries.status).getD .idle

theorem issue_list {k : Core} {credential : String} (h : k.session.credential = some credential) :
    k.issue .list = ({ k with queries := (k.queries.begin credential).1 },
      [.list credential (k.queries.begin credential).2]) := by
  rw [issue, h]

/-- The store keeps an entry for the session's access token, and no other. -/
structure Keeps (k : Core) (credential : String) (entry : Query.Entry (List Server)) : Prop where
  known : k.session.credential = some credential
  own : k.queries.get? credential = some entry
  other : ∀ key, key ≠ credential → k.queries.get? key = none

namespace Keeps

variable {k l : Core} {credential : String} {entry : Query.Entry (List Server)}

theorem servers (h : k.Keeps credential entry) : k.servers = entry.data.getD [] := by
  rw [Core.servers, h.known, Option.bind_some, Store.data?_of_get? h.own]

theorem status (h : k.Keeps credential entry) : k.status = entry.status := by
  rw [Core.status, h.known, Option.map_some, Store.status_of_get? h.own]
  rfl

theorem of_alike (h : k.Keeps credential entry) (hl : k.Alike l) : l.Keeps credential entry where
  known := hl.session ▸ h.known
  own := hl.queries ▸ h.own
  other := hl.queries ▸ h.other

/-- Putting another entry for the access token. -/
theorem put (h : k.Keeps credential entry) (cursor : Cursor) (new : Query.Entry (List Server)) :
    { k with cursor, queries := k.queries.put credential new }.Keeps credential new where
  known := h.known
  own := by rw [Store.get?_put, if_pos rfl]
  other key hk := by rw [Store.get?_put, if_neg hk, h.other key hk]

/-- A fetch begins the entry anew, and is numbered by it. -/
theorem issue_list (h : k.Keeps credential entry) :
    (k.issue .list).2 = [.list credential (entry.generation + 1)] ∧
      (k.issue .list).1.Keeps credential entry.begun := by
  rw [Core.issue_list h.known, Store.begin_snd, h.own]
  refine ⟨rfl, h.known, ?_, fun key hk => ?_⟩
  · rw [Store.get?_begin, if_pos rfl, h.own]
    rfl
  · rw [Store.get?_begin, if_neg hk, h.other key hk]

/-- The fetch after a change undoes that the entry is stale. -/
theorem refetch (h : k.Keeps credential entry) :
    k.refetch.2 = [.list credential (entry.generation + 1)] ∧
      k.refetch.1.Keeps credential entry.begun := by
  have hr : k.refetch = { k with
      queries := k.queries.put credential { entry with stale := true } }.issue .list := by
    rw [Core.refetch, h.known]
    simp only [Store.invalidate_of_get? h.own]
    rfl
  rw [hr]
  exact (h.put k.cursor { entry with stale := true }).issue_list

/-- The result of the last fetch is taken. -/
theorem receive_last (h : k.Keeps credential entry) (result : Except String (List Server)) :
    (k.receive (.fetched entry.generation result)).2 = [] ∧
      (k.receive (.fetched entry.generation result)).1.Keeps credential (entry.resolved result) := by
  simp only [receive, h.known, Store.resolve_of_get? h.own, if_true]
  exact ⟨trivial, h.put _ _⟩

/-- The result of an earlier fetch is dropped. -/
theorem receive_late (h : k.Keeps credential entry) {generation : Nat}
    (hg : generation ≠ entry.generation) (result : Except String (List Server)) :
    k.receive (.fetched generation result) = (k, []) := by
  simp only [receive, h.known, Store.resolve_of_get? h.own, if_neg hg.symm]
  rfl

end Keeps

/-- What a deed does to the entry of the list. -/
inductive Turn (k : Core) (credential : String) (entry : Query.Entry (List Server)) (deed : Deed) :
    Prop
  /-- A fetch is begun, by the user or after a change. -/
  | fetch
    (issued : (k.enact deed).2 = [.list credential (entry.generation + 1)])
    (keeps : (k.enact deed).1.Keeps credential entry.begun)
    (answers : ∀ generation result, deed ≠ .come (.fetched generation result))
  /-- The result of the last fetch is taken. -/
  | take (result : Except String (List Server))
    (come : deed = .come (.fetched entry.generation result))
    (issued : (k.enact deed).2 = [])
    (keeps : (k.enact deed).1.Keeps credential (entry.resolved result))
  /-- The result of an earlier fetch is dropped. -/
  | drop (generation : Nat) (result : Except String (List Server))
    (come : deed = .come (.fetched generation result))
    (late : generation ≠ entry.generation)
    (enact : k.enact deed = (k, []))
  /-- The entry is left alone, and nothing has changed. -/
  | leave
    (issued : ∀ issued ∈ (k.enact deed).2, issued.call ≠ .list)
    (keeps : (k.enact deed).1.Keeps credential entry)
    (change : ∀ outcome, deed = .come outcome →
      outcome.isChange = false ∧ ∀ generation result, outcome ≠ .fetched generation result)

/-- A deed that is neither a refresh nor an arrival leaves the store alone. -/
theorem enact_queries (k : Core) {deed : Deed} (hr : deed ≠ .refresh)
    (hc : ∀ outcome, deed ≠ .come outcome) : (k.enact deed).1.queries = k.queries := by
  cases deed with
  | refresh => exact absurd rfl hr
  | come outcome => exact absurd rfl (hc outcome)
  | answer choice =>
    simp only [enact]
    split
    · exact issue_queries (by simp)
    · rfl
  | sendDetail =>
    obtain ⟨l, he | ⟨_, he⟩, hl⟩ := k.enact_sendDetail <;> rw [he]
    · exact hl.queries
    · exact (issue_queries (by simp)).trans hl.queries
  | sendCreate =>
    obtain ⟨l, he | ⟨_, he⟩, hl⟩ := k.enact_sendCreate <;> rw [he]
    · exact hl.queries
    · exact (issue_queries (by simp)).trans hl.queries
  | _ => rfl

/-- **What a deed does to the entry of the list.** -/
theorem Keeps.turn {k : Core} {credential : String} {entry : Query.Entry (List Server)}
    (h : k.Keeps credential entry) (deed : Deed) : k.Turn credential entry deed := by
  by_cases hr : deed = .refresh
  · subst hr
    exact .fetch h.issue_list.1 h.issue_list.2 (by simp)
  by_cases hc : ∃ outcome, deed = .come outcome
  · obtain ⟨outcome, rfl⟩ := hc
    obtain ⟨generation, result, _, _, rfl, -⟩ | ⟨hc, l, he, hl⟩ | ⟨hc, hf, l, he, hl⟩ :=
      k.receive_cases outcome
    · by_cases hg : generation = entry.generation
      · subst hg
        exact .take result rfl (h.receive_last result).1 (h.receive_last result).2
      · exact .drop generation result rfl hg (h.receive_late hg result)
    · have hk := (h.of_alike hl).refetch
      rw [← he] at hk
      refine .fetch hk.1 hk.2 ?_
      rintro generation result ⟨⟩
      cases hc
    · refine .leave ?_ ?_ ?_
      · simp [enact, he]
      · rw [enact, he]
        exact h.of_alike hl
      · rintro outcome' ⟨⟩
        exact ⟨hc, hf⟩
  · rw [not_exists] at hc
    refine .leave (fun issued hi hl => ?_) ⟨?_, ?_, fun key hk => ?_⟩ fun outcome ho =>
      absurd ho (hc outcome)
    · have hcause := (enact_snd_of_mem hi).2
      rw [hl] at hcause
      obtain h | ⟨outcome, -, ho⟩ := hcause
      · exact hr h
      · exact hc outcome ho
    · rw [enact_session, h.known]
    · rw [enact_queries k hr hc, h.own]
    · rw [enact_queries k hr hc, h.other key hk]

end Core

end McpConsole.Console

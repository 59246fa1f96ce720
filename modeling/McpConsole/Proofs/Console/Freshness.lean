import McpConsole.Proofs.Console.Fetches
import McpConsole.Proofs.Console.Tickets

/-!
# Freshness of the list

Calls come back in any order, so that the answer to an early fetch can come after a later one, and
after changes that it knows nothing of. What is shown is decided by the last fetch all the same.
`Course.list_isFresh` says that a list that is shown as ready was fetched after every change that
has come back, and `Course.list_settles` that the last fetch alone decides what is shown.

`Course.Tracks` is the invariant of both. It ties the entry of the list to the ticket of the last
fetch: the two bear the same number, the other fetches that are out bear smaller ones, and the
entry is loading as long as the ticket is out.
-/

namespace McpConsole.Console

open McpConsole.Query

namespace Course

/-- A ticket is that of the last fetch of the list up to a moment. -/
structure IsLatest (c : Course) (n : Nat) (ticket : Ticket) : Prop where
  moment_le : ticket.moment ≤ n
  issued : ticket.issued ∈ c.issued ticket.moment
  call : ticket.issued.call = .list
  last : ∀ m, ticket.moment < m → m ≤ n → ∀ issued ∈ c.issued m, issued.call ≠ .list

/-- What the list shows at a moment is a result. A failure leaves the servers that were shown
before. -/
def Shows (c : Course) (n : Nat) (before : List Server) : Except String (List Server) → Prop
  | .ok servers => (c.state n).app.listStatus = .ready ∧ (c.state n).app.servers = servers
  | .error reason =>
    (c.state n).app.listStatus = .failed reason ∧ (c.state n).app.servers = before

/-- A ticket is followed up to a moment: it is that of the last fetch, which was issued after every
change, and the other fetches that are out bear smaller numbers. -/
structure Follows (c : Course) (n : Nat) (credential : String) (generation : Nat)
    (ticket : Ticket) : Prop where
  issued : ticket.issued = .list credential generation
  latest : c.IsLatest n ticket
  changes : ∀ m < n, ∀ other outcome, c.Delivers m other outcome → outcome.isChange = true →
    m < ticket.moment
  numbers : ∀ other ∈ c.waiting n, ∀ key number, other.issued = .list key number →
    key = credential ∧ number ≤ generation ∧ (number = generation → other = ticket)

/-- What has become of a fetch: it is out and the entry is loading, or it has come back, and the
entry holds its result. -/
inductive Fate (c : Course) (n : Nat) (entry : Query.Entry (List Server)) (ticket : Ticket) : Prop
  | out (waiting : ticket ∈ c.waiting n) (loading : entry.status = .loading)
  | back (d generation : Nat) (result : Except String (List Server)) (earlier : d < n)
    (delivers : c.Delivers d ticket (.fetched generation result)) (gone : ticket ∉ c.waiting n)
    (shows : c.Shows n (c.state d).app.servers result)

/-- The entry of the list is tied to the ticket of the last fetch. -/
structure Tracks (c : Course) (n : Nat) (credential : String) (entry : Query.Entry (List Server))
    (ticket : Ticket) : Prop where
  keeps : (c.core n).Keeps credential entry
  isFresh : entry.stale = false
  follows : c.Follows n credential entry.generation ticket
  fate : c.Fate n entry ticket

section Steps

variable {c : Course} {n : Nat} {ticket : Ticket} {outcome : Outcome} {credential : String}
  {entry : Query.Entry (List Server)} {generation : Nat}

/-- Only a fetch of the list gives a list. -/
theorem canGive_fetched {issued : Issued} {result : Except String (List Server)}
    (h : issued.CanGive (.fetched generation result)) :
    ∃ credential, issued = .list credential generation := by
  cases issued with
  | list credential number =>
    cases h
    exact ⟨credential, rfl⟩
  | _ => cases h

/-- A fetch of the list gives nothing else. -/
theorem canGive_of_list (h : (Issued.list credential generation).CanGive outcome) :
    ∃ result, outcome = .fetched generation result := by
  cases outcome with
  | fetched number result =>
    cases h
    exact ⟨result, rfl⟩
  | _ => cases h

theorem IsLatest.succ (h : c.IsLatest n ticket)
    (hi : ∀ issued ∈ c.issued (n + 1), issued.call ≠ .list) : c.IsLatest (n + 1) ticket where
  moment_le := Nat.le_succ_of_le h.moment_le
  issued := h.issued
  call := h.call
  last m hm hn := by
    rcases Nat.lt_or_ge n m with hlt | hle
    · rw [show m = n + 1 by omega]
      exact hi
    · exact h.last m hm hle

/-- There is one last fetch. -/
theorem IsLatest.unique {other : Ticket} (h : c.IsLatest n ticket) (ho : c.IsLatest n other) :
    ticket = other := by
  have hm : ticket.moment = other.moment := by
    refine Nat.le_antisymm (Nat.le_of_not_lt fun hlt => ?_) (Nat.le_of_not_lt fun hlt => ?_)
    · exact ho.last _ hlt h.moment_le _ h.issued h.call
    · exact h.last _ hlt ho.moment_le _ ho.issued ho.call
  have hi := issued_of_mem h.issued
  rw [hm, issued_of_mem ho.issued] at hi
  obtain ⟨moment, issued⟩ := ticket
  obtain ⟨moment', issued'⟩ := other
  cases hm
  cases hi
  rfl

/-- A ticket is followed as long as no fetch is issued and no change comes back. -/
theorem Follows.succ (h : c.Follows n credential generation ticket)
    (hi : ∀ issued ∈ c.issued (n + 1), issued.call ≠ .list)
    (hc : ∀ other outcome, c.Delivers n other outcome → outcome.isChange = false) :
    c.Follows (n + 1) credential generation ticket where
  issued := h.issued
  latest := h.latest.succ hi
  changes m hm other outcome hd ho := by
    rcases Nat.lt_succ_iff_lt_or_eq.1 hm with hm | rfl
    · exact h.changes m hm other outcome hd ho
    · rw [hc other outcome hd] at ho
      cases ho
  numbers other hw key number hl := by
    rcases waiting_succ_iff.1 hw with ⟨hw, -⟩ | ⟨-, hw⟩
    · exact h.numbers other hw key number hl
    · exact absurd (by rw [hl]; rfl) (hi _ hw)

/-- What a fetch has come to stays as long as the entry is left alone. -/
theorem Fate.succ (h : c.Fate n entry ticket) (hm : ticket.moment ≤ n)
    (hk : (c.core n).Keeps credential entry) (hk' : (c.core (n + 1)).Keeps credential entry)
    (hd : ∀ outcome, ¬c.Delivers n ticket outcome) : c.Fate (n + 1) entry ticket := by
  cases h with
  | out waiting loading => exact .out (waiting_succ_iff.2 (.inl ⟨waiting, hd⟩)) loading
  | back d generation result earlier delivers gone shows =>
    refine .back d generation result (Nat.lt_succ_of_lt earlier) delivers (fun hw => ?_) ?_
    · rcases waiting_succ_iff.1 hw with ⟨hw, -⟩ | ⟨hw, -⟩
      · exact gone hw
      · omega
    · have hst : (c.state (n + 1)).app.listStatus = (c.state n).app.listStatus :=
        hk'.status.trans hk.status.symm
      have hse : (c.state (n + 1)).app.servers = (c.state n).app.servers :=
        hk'.servers.trans hk.servers.symm
      unfold Shows at shows ⊢
      rw [hst, hse]
      exact shows

/-- The last fetch comes back. -/
theorem Tracks.last (h : c.Tracks n credential entry ticket) {result : Except String (List Server)}
    (hd : c.Delivers n ticket (.fetched entry.generation result)) :
    c.issued (n + 1) = [] ∧ (c.core (n + 1)).Keeps credential (entry.resolved result) ∧
      c.Shows (n + 1) (c.state n).app.servers result := by
  have ht := hd.takes
  obtain ⟨hi, hk⟩ := h.keeps.receive_last result
  have hk' : (c.core (n + 1)).Keeps credential (entry.resolved result) := by
    rw [ht.core]
    exact hk
  refine ⟨ht.issued.trans hi, hk', ?_⟩
  cases result with
  | ok servers => exact ⟨hk'.status, hk'.servers⟩
  | error reason => exact ⟨hk'.status, hk'.servers.trans h.keeps.servers.symm⟩

/-- An earlier fetch comes back, and changes nothing. -/
theorem Tracks.late (h : c.Tracks n credential entry ticket) {result : Except String (List Server)}
    (hd : c.Takes n (.come (.fetched generation result))) (hg : generation ≠ entry.generation) :
    c.issued (n + 1) = [] ∧ c.core (n + 1) = c.core n := by
  have hr := h.keeps.receive_late hg result
  refine ⟨hd.issued.trans ?_, hd.core.trans ?_⟩
  · rw [Core.enact, hr]
  · rw [Core.enact, hr]

/-- A list that comes back with the number of the last fetch is what has come of it. -/
theorem Tracks.delivers (hf : c.IsFaithful) (h : c.Tracks n credential entry ticket)
    {other : Ticket} {result : Except String (List Server)}
    (hd : c.Delivers n other (.fetched entry.generation result)) : other = ticket := by
  obtain ⟨key, hi⟩ := canGive_fetched (hd.canGive hf)
  exact (h.follows.numbers other hd.mem key _ hi).2.2 rfl

/-- What comes of the last fetch is a list with its number. -/
theorem Tracks.fetched (hf : c.IsFaithful) (h : c.Tracks n credential entry ticket)
    (hd : c.Delivers n ticket outcome) : ∃ result, outcome = .fetched entry.generation result := by
  have hg := hd.canGive hf
  rw [h.follows.issued] at hg
  exact canGive_of_list hg

/-- A fetch that has just been issued is the one to track, if the fetches that were out before bear
smaller numbers. -/
theorem Tracks.of_issued (hk : (c.core n).Keeps credential entry.begun)
    (hi : c.issued n = [.list credential (entry.generation + 1)])
    (hn : ∀ other ∈ c.waiting n, other.moment < n → ∀ key number, other.issued = .list key number →
      key = credential ∧ number ≤ entry.generation) :
    c.Tracks n credential entry.begun ⟨n, .list credential (entry.generation + 1)⟩ := by
  have hm : .list credential (entry.generation + 1) ∈ c.issued n := by
    rw [hi]
    exact List.mem_singleton_self _
  refine ⟨hk, rfl, ⟨rfl, ⟨Nat.le_refl _, hm, rfl, fun m hlt hle => ?_⟩, fun m hm _ _ _ _ => hm, ?_⟩,
    .out (waiting_of_issued hm) rfl⟩
  · exact absurd hle (Nat.not_le_of_lt hlt)
  · intro other hw key number hl
    obtain ⟨hle, ho⟩ := issued_of_waiting hw
    rcases Nat.lt_or_eq_of_le hle with hlt | heq
    · obtain ⟨hkey, hnumber⟩ := hn other hw hlt key number hl
      refine ⟨hkey, Nat.le_succ_of_le hnumber, fun he => ?_⟩
      rw [he] at hnumber
      exact absurd hnumber (Nat.not_succ_le_self entry.generation)
    · rw [heq, hi, List.mem_singleton] at ho
      obtain ⟨moment, issued⟩ := other
      cases heq
      cases ho
      cases hl
      exact ⟨rfl, Nat.le_refl _, fun _ => rfl⟩

/-- What is tracked stays so as long as the entry is left alone, and neither a change nor the last
fetch comes back. -/
theorem Tracks.stay (h : c.Tracks n credential entry ticket)
    (hk : (c.core (n + 1)).Keeps credential entry)
    (hi : ∀ issued ∈ c.issued (n + 1), issued.call ≠ .list)
    (hc : ∀ other outcome, c.Delivers n other outcome → outcome.isChange = false)
    (hd : ∀ outcome, ¬c.Delivers n ticket outcome) : c.Tracks (n + 1) credential entry ticket where
  keeps := hk
  isFresh := h.isFresh
  follows := h.follows.succ hi hc
  fate := h.fate.succ h.follows.latest.moment_le h.keeps hk hd

/-- **Every step keeps the invariant.** -/
theorem Tracks.succ (hf : c.IsFaithful) (h : c.Tracks n credential entry ticket) :
    ∃ entry' ticket', c.Tracks (n + 1) credential entry' ticket' := by
  obtain ⟨deed, hd⟩ := c.step n
  cases h.keeps.turn deed with
  | fetch issued keeps answers =>
    rw [← hd.issued] at issued
    rw [← hd.core] at keeps
    refine ⟨entry.begun, _, .of_issued keeps issued fun other hw hm key number hl => ?_⟩
    rcases waiting_succ_iff.1 hw with ⟨hw, -⟩ | ⟨ho, -⟩
    · obtain ⟨hkey, hnumber, -⟩ := h.follows.numbers other hw key number hl
      exact ⟨hkey, hnumber⟩
    · exact absurd ho (Nat.ne_of_lt hm)
  | take result come issued keeps =>
    subst come
    obtain ⟨other, ho, -⟩ := hd.delivers hf
    obtain rfl := h.delivers hf ho
    obtain ⟨hi, hk, hs⟩ := h.last ho
    refine ⟨entry.resolved result, other, hk, ?_, ?_, .back n _ result (Nat.lt_succ_self n) ho ?_ hs⟩
    · cases result <;> exact h.isFresh
    · have hfol : c.Follows (n + 1) credential entry.generation other := by
        refine h.follows.succ (by simp [hi]) fun _ _ hd' => ?_
        rw [← (ho.unique hd').2]
        rfl
      cases result <;> exact hfol
    · intro hw
      rcases waiting_succ_iff.1 hw with ⟨-, hw⟩ | ⟨hw, -⟩
      · exact hw _ ho
      · have := h.follows.latest.moment_le
        omega
  | drop generation result come late enact =>
    subst come
    obtain ⟨hi, hc⟩ := h.late hd late
    have hk : (c.core (n + 1)).Keeps credential entry := hc ▸ h.keeps
    obtain ⟨other, ho, -⟩ := hd.delivers hf
    refine ⟨entry, ticket, h.stay hk (by simp [hi]) (fun _ _ hd' => ?_) fun outcome hd' => ?_⟩
    · rw [← (ho.unique hd').2]
      rfl
    · obtain ⟨_, rfl⟩ := h.fetched hf hd'
      cases (ho.unique hd').2
      exact late rfl
  | leave issued keeps change =>
    rw [← hd.issued] at issued
    rw [← hd.core] at keeps
    refine ⟨entry, ticket, h.stay keeps issued (fun _ _ hd' => ?_) fun outcome hd' => ?_⟩
    · obtain ⟨place, he, -⟩ := hd'
      exact (change _ ((hd.comes _).2 ⟨place, he⟩)).1
    · obtain ⟨result, rfl⟩ := h.fetched hf hd'
      obtain ⟨place, he, -⟩ := hd'
      exact (change _ ((hd.comes _).2 ⟨place, he⟩)).2 _ _ rfl

/-- When the console starts, the list is fetched. -/
theorem tracks_zero (hs : c.session.isComplete = true) :
    ∃ credential entry ticket, c.Tracks 0 credential entry ticket := by
  obtain ⟨credential, hc⟩ := Session.exists_credential hs
  have hstart : (State.start c.theme c.session).core.session.credential = some credential := hc
  have hz := c.core_zero
  rw [if_pos hs, Core.issue_list hstart] at hz
  have hk := congrArg Prod.fst hz
  have hi := congrArg Prod.snd hz
  dsimp only at hk hi
  refine ⟨credential, (default : Query.Entry (List Server)).begun, _, .of_issued ?_ hi ?_⟩
  · rw [hk]
    exact ⟨hc, by rw [Store.get?_begin, if_pos rfl]; rfl,
      fun key hne => by rw [Store.get?_begin, if_neg hne]; rfl⟩
  · intro other _ hm
    exact absurd hm (Nat.not_lt_zero _)

/-- **The entry of the list is tied to the last fetch** at every moment. -/
theorem tracks (hf : c.IsFaithful) (hs : c.session.isComplete = true) (n : Nat) :
    ∃ credential entry ticket, c.Tracks n credential entry ticket := by
  induction n with
  | zero => exact tracks_zero hs
  | succ n ih =>
    obtain ⟨credential, entry, ticket, h⟩ := ih
    obtain ⟨entry', ticket', h'⟩ := h.succ hf
    exact ⟨credential, entry', ticket', h'⟩

end Steps

/-! ### What is shown -/

/-- **A list that is shown as ready is fresh.** No entry stays stale after a step. If the list is
ready, it is what has come of a fetch that was issued after every change that has come back: where
the change came back after the moment `m`, the fetch was issued at `m + 1`, in answer to the change,
or later. -/
theorem list_isFresh (c : Course) (hf : c.IsFaithful) (hs : c.session.isComplete = true)
    (n : Nat) :
    (∀ key entry, (c.state n).app.queries.get? key = some entry → entry.stale = false) ∧
    ((c.state n).app.listStatus = .ready → ∃ d ticket generation servers, d < n ∧
      c.Delivers d ticket (.fetched generation (.ok servers)) ∧
      (c.state n).app.servers = servers ∧
      ticket.issued.call = .list ∧ ticket.issued ∈ c.issued ticket.moment ∧
      ∀ m < n, ∀ other outcome, c.Delivers m other outcome → outcome.isChange = true →
        m < ticket.moment) := by
  obtain ⟨credential, entry, ticket, h⟩ := tracks hf hs n
  refine ⟨fun key other ho => ?_, fun hr => ?_⟩
  · by_cases hk : key = credential
    · subst hk
      have he : some entry = some other := h.keeps.own.symm.trans ho
      cases he
      exact h.isFresh
    · cases (h.keeps.other key hk).symm.trans ho
  · have hst : entry.status = .ready := h.keeps.status.symm.trans hr
    cases h.fate with
    | out waiting loading => cases loading.symm.trans hst
    | back d generation result earlier delivers gone shows =>
      cases result with
      | error reason => cases shows.1.symm.trans hr
      | ok servers =>
        exact ⟨d, ticket, generation, servers, earlier, delivers, shows.2, h.follows.latest.call,
          h.follows.latest.issued, h.follows.changes⟩

/-- The list comes back, its first server is deleted, and the list comes back again. -/
def thinned : Course :=
  ofList administrator
    [.arrival 0 (.fetched 1 (.ok [sample "a", sample "b"])), .press (.char 'd'), .press (.char 'y'),
      .arrival 0 (.deleted "a" (.ok ())), .arrival 0 (.fetched 2 (.ok [sample "b"]))]

/-- The list without the server was asked for after the server was deleted. -/
theorem list_isFresh_answered :
    thinned.IsFaithful ∧ thinned.session.isComplete = true ∧
      (thinned.state 5).app.listStatus = .ready ∧
      thinned.Delivers 3 ⟨3, .delete "token" "a"⟩ (.deleted "a" (.ok ())) ∧
      ∃ d ticket generation, d < 5 ∧
        thinned.Delivers d ticket (.fetched generation (.ok [sample "b"])) ∧
        ticket.issued ∈ thinned.issued ticket.moment ∧ 3 < ticket.moment := by
  have hfaithful : thinned.IsFaithful := isFaithful_ofList (by decide +kernel)
  have hready : (thinned.state 5).app.listStatus = .ready := by decide +kernel
  have hservers : (thinned.state 5).app.servers = [sample "b"] := by decide +kernel
  have hdeleted : thinned.Delivers 3 ⟨3, .delete "token" "a"⟩ (.deleted "a" (.ok ())) :=
    ⟨0, rfl, by decide +kernel⟩
  obtain ⟨d, ticket, generation, servers, hd, hdelivers, hshown, -, hissued, hchanges⟩ :=
    (list_isFresh thinned hfaithful rfl 5).2 hready
  obtain rfl := hshown.symm.trans hservers
  exact ⟨hfaithful, rfl, hready, hdeleted, d, ticket, generation, hd, hdelivers, hissued,
    hchanges 3 (by decide) _ _ hdeleted rfl⟩

/-- **The last fetch of the list decides what is shown**, in whatever order fetches come back.
There is a last fetch at every moment. The list is loading as long as it is out; when it comes back,
its result is shown; an earlier fetch that comes back changes nothing and leads to nothing; and once
no fetch is out, what is shown is what has come of the last one. -/
theorem list_settles (c : Course) (hf : c.IsFaithful) (hs : c.session.isComplete = true)
    (n : Nat) :
    (∃ latest, c.IsLatest n latest) ∧
    ∀ latest, c.IsLatest n latest →
      ((c.state n).app.listStatus = .loading ↔ latest ∈ c.waiting n) ∧
      (∀ outcome, c.Delivers n latest outcome → ∃ generation result,
        outcome = .fetched generation result ∧
          c.Shows (n + 1) (c.state n).app.servers result) ∧
      (∀ ticket outcome, c.Delivers n ticket outcome → ticket.issued.call = .list →
        ticket ≠ latest →
          (c.state (n + 1)).app.servers = (c.state n).app.servers ∧
          (c.state (n + 1)).app.listStatus = (c.state n).app.listStatus ∧
          (c.state (n + 1)).app.cursor = (c.state n).app.cursor ∧
          (∀ others, ((c.state n).deliver outcome others).2 = []) ∧ c.issued (n + 1) = []) ∧
      ((∀ ticket ∈ c.waiting n, ticket.issued.call ≠ .list) → ∃ d generation result, d < n ∧
        c.Delivers d latest (.fetched generation result) ∧
          c.Shows n (c.state d).app.servers result) := by
  obtain ⟨credential, entry, ticket, h⟩ := tracks hf hs n
  refine ⟨⟨ticket, h.follows.latest⟩, fun latest hl => ?_⟩
  obtain rfl := h.follows.latest.unique hl
  refine ⟨?_, fun outcome hd => ?_, fun other outcome hd hc hne => ?_, fun hw => ?_⟩
  · have hst : (c.state n).app.listStatus = entry.status := h.keeps.status
    rw [hst]
    cases h.fate with
    | out waiting loading => exact ⟨fun _ => waiting, fun _ => loading⟩
    | back d generation result earlier delivers gone shows =>
      refine ⟨fun hlo => ?_, fun hw => absurd hw gone⟩
      cases result with
      | ok => cases shows.1.symm.trans (hst.trans hlo)
      | error => cases shows.1.symm.trans (hst.trans hlo)
  · obtain ⟨result, rfl⟩ := h.fetched hf hd
    exact ⟨_, result, rfl, (h.last hd).2.2⟩
  · obtain ⟨moment, issued⟩ := other
    cases issued with
    | list key generation =>
      obtain ⟨result, rfl⟩ := canGive_of_list (hd.canGive hf)
      have hg : generation ≠ entry.generation := by
        rintro rfl
        exact hne (h.delivers hf hd)
      obtain ⟨hi, hk⟩ := h.late hd.takes hg
      exact ⟨congrArg Core.servers hk, congrArg Core.status hk, congrArg Core.cursor hk,
        fun _ => rfl, hi⟩
    | _ => cases hc
  · cases h.fate with
    | out waiting loading => exact absurd h.follows.latest.call (hw _ waiting)
    | back d generation result earlier delivers gone shows =>
      exact ⟨d, generation, result, earlier, delivers, shows⟩

/-- The list is fetched twice at once, and the second fetch comes back before the first one. -/
def overtaken : Course :=
  ofList administrator
    [.press (.char 'r'), .arrival 1 (.fetched 2 (.ok [sample "b"])),
      .arrival 0 (.fetched 1 (.ok [sample "a"]))]

/-- The list is loading until the second fetch comes back, and the first one changes nothing. -/
theorem list_settles_answered :
    let early : Ticket := ⟨0, .list "token" 1⟩
    let latest : Ticket := ⟨1, .list "token" 2⟩
    overtaken.IsFaithful ∧ overtaken.session.isComplete = true ∧
      overtaken.waiting 1 = [early, latest] ∧
      (overtaken.state 1).app.listStatus = .loading ∧
      overtaken.Shows 2 (overtaken.state 1).app.servers (.ok [sample "b"]) ∧
      overtaken.Delivers 2 early (.fetched 1 (.ok [sample "a"])) ∧
      (overtaken.state 3).app.servers = (overtaken.state 2).app.servers ∧
      overtaken.waiting 3 = [] ∧ ∃ d < 3, ∃ generation result,
        overtaken.Delivers d latest (.fetched generation result) ∧
          overtaken.Shows 3 (overtaken.state d).app.servers result := by
  intro early latest
  have hfaithful : overtaken.IsFaithful := isFaithful_ofList (by decide +kernel)
  have hwaiting : overtaken.waiting 1 = [early, latest] := by decide +kernel
  have hnone : overtaken.waiting 3 = [] := by decide +kernel
  have hlatest : overtaken.Delivers 1 latest (.fetched 2 (.ok [sample "b"])) :=
    ⟨1, rfl, by decide +kernel⟩
  have hearly : overtaken.Delivers 2 early (.fetched 1 (.ok [sample "a"])) :=
    ⟨0, rfl, by decide +kernel⟩
  have hissued : overtaken.issued 2 = [] ∧ overtaken.issued 3 = [] := by decide +kernel
  have hone : overtaken.IsLatest 1 latest :=
    ⟨Nat.le_refl 1, by decide +kernel, rfl, fun m hlt hle => absurd hle (Nat.not_le_of_lt hlt)⟩
  have htwo : overtaken.IsLatest 2 latest := hone.succ (by simp [hissued])
  have hthree : overtaken.IsLatest 3 latest := htwo.succ (by simp [hissued])
  obtain ⟨hloading, hshown, -⟩ := (list_settles overtaken hfaithful rfl 1).2 latest hone
  obtain ⟨-, -, hlate, -⟩ := (list_settles overtaken hfaithful rfl 2).2 latest htwo
  obtain ⟨-, -, -, hdecided⟩ := (list_settles overtaken hfaithful rfl 3).2 latest hthree
  obtain ⟨generation, result, he, hshows⟩ := hshown _ hlatest
  cases he
  obtain ⟨hservers, -⟩ := hlate early _ hearly rfl (by decide)
  obtain ⟨d, generation, result, hd, hdelivers, hfinal⟩ := hdecided (by simp [hnone])
  exact ⟨hfaithful, rfl, hwaiting, hloading.2 (by simp [hwaiting]), hshows, hearly, hservers, hnone,
    d, hd, generation, result, hdelivers, hfinal⟩

end Course

end McpConsole.Console

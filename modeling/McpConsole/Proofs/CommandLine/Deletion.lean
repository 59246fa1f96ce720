import McpConsole.Proofs.Api.Deletion
import McpConsole.Proofs.Api.Exchange
import McpConsole.Proofs.CommandLine.Attempt

/-!
# The command that deletes

A server is deleted with authority and consent only: with an access token, as an administrator, and
with a yes that was given beforehand or is given when it is asked for (`Consents`). The steps of the
command are gone through one by one, each with what it comes to in a scene, and for any client they
come to a `Deletion` (`isDeletion_deleteServer`). On the own machine every URL can be read, so that
only the length of a URL can still keep a request from being sent (`deletion_gated`).
-/

namespace McpConsole.CommandLine

open McpConsole.Program
open McpConsole.Text

/-! ### Consent -/

/-- The first line of an input. -/
def firstLine (input : List Char) : String :=
  String.ofList (input.takeWhile (· != '\n'))

/-- The user agrees: it was said already, or the first line of the input says yes. -/
def Consents (yes : Bool) (input : List Char) : Prop :=
  yes = true ∨ lowercase (trimmed (firstLine input)) ∈ ["y", "yes"]

instance (yes : Bool) (input : List Char) : Decidable (Consents yes input) :=
  inferInstanceAs (Decidable (_ ∨ _))

/-- The line that is read is the first one, and has an end unless the input has none. -/
theorem splitLine_fst (input : List Char) :
    (splitLine input).1 = input.takeWhile (· != '\n') ∨
      (splitLine input).1 = input.takeWhile (· != '\n') ++ ['\n'] := by
  induction input with
  | nil => exact .inl rfl
  | cons c input ih =>
    by_cases hc : c = '\n'
    · subst hc
      exact .inr rfl
    · simpa [splitLine, hc] using ih

/-- The end of the line does not matter. -/
theorem trimmed_splitLine (input : List Char) :
    trimmed (String.ofList (splitLine input).1) = trimmed (firstLine input) := by
  unfold trimmed firstLine
  simp only [String.toList_ofList]
  rcases splitLine_fst input with h | h
  · rw [h]
  · rw [h, trim_append_blank (by decide)]

theorem isYes_iff (answer : String) :
    isYes answer = true ↔ lowercase (trimmed answer) ∈ ["y", "yes"] := by
  simp [isYes]

/-- The scene after the question, which is not asked if it is answered already. -/
def asked (id : String) (yes : Bool) (scene : Scene) : Scene :=
  if yes then scene
  else
    { scene with
      input := (splitLine scene.input).2
      printed := scene.printed ++ ("Delete MCP server " ++ id ++ "? [y/N] ") }

theorem outcome_agree (id : String) (yes : Bool) (scene : Scene) :
    Attempt.outcome (agree id yes) scene =
      (.ok (decide (Consents yes scene.input)), asked id yes scene) := by
  cases yes with
  | true =>
    have hconsents : Consents true scene.input := .inl rfl
    simp [agree, asked, hconsents, Attempt.outcome_pure]
  | false =>
    have hanswer : isYes (String.ofList (splitLine scene.input).1) =
        decide (Consents false scene.input) := by
      rw [Bool.eq_iff_iff, isYes_iff, trimmed_splitLine, decide_eq_true_iff, Consents]
      simp
    rw [← hanswer]
    rfl

/-! ### The request -/

/-- A call sends its request, if it has one. -/
theorem run_perform (client : Api.Client) (credential : String) (call : Api.Call) (scene : Scene) :
    (perform client credential call).run scene =
      match client.outgoing credential call with
      | .error cause => (.error cause, scene)
      | .ok request =>
        ((scene.server request).elim (.error .transport) call.result,
          { scene with sent := scene.sent ++ [request] }) := by
  unfold perform
  cases client.outgoing credential call with
  | error cause => rfl
  | ok request =>
    simp only [Script.run]
    cases scene.server request with
    | none => rfl
    | some response => rfl

/-- The server did what a request asks for. -/
def IsGranted (scene : Scene) (request : Http.Request) : Prop :=
  ∃ response, scene.server request = some response ∧ Api.IsDone response.status

theorem isGranted_iff (id : String) (scene : Scene) (request : Http.Request) :
    IsGranted scene request ↔ ∃ answer,
      (scene.server request).elim (.error .transport) (Api.Call.delete id).result = .ok answer := by
  unfold IsGranted
  cases scene.server request with
  | none => simp
  | some response =>
    simp only [Option.some.injEq, exists_eq_left', Option.elim_some, ← Api.isSuccess_iff]
    unfold Api.Call.result
    cases Http.isSuccess response.status <;> simp [Api.Call.answer?]

section Sending

variable (client : Api.Client) (credential id : String) (scene : Scene)

theorem outcome_sendDeletion_of_error {cause : Api.Error}
    (h : client.outgoing credential (.delete id) = .error cause) :
    ∃ failure, Attempt.outcome (sendDeletion client credential id) scene =
      (.error failure, scene) := by
  refine ⟨Failure.ofCall ("delete MCP server " ++ id) cause, ?_⟩
  rw [sendDeletion, Attempt.outcome_bind, Attempt.outcome_ofScript, run_perform, h]
  dsimp only
  rw [Attempt.outcome_bind, Attempt.outcome_orFail]
  rfl

theorem outcome_sendDeletion_of_ok {request : Http.Request}
    (h : client.outgoing credential (.delete id) = .ok request) :
    ∃ result after, Attempt.outcome (sendDeletion client credential id) scene = (result, after) ∧
      after.sent = scene.sent ++ [request] ∧ (result = .ok () ↔ IsGranted scene request) := by
  rw [sendDeletion, Attempt.outcome_bind, Attempt.outcome_ofScript, run_perform, h]
  dsimp only
  rw [Attempt.outcome_bind, Attempt.outcome_orFail, isGranted_iff id]
  cases (scene.server request).elim (.error .transport) (Api.Call.delete id).result with
  | error cause => exact ⟨_, _, rfl, rfl, by simp⟩
  | ok answer => exact ⟨_, _, rfl, rfl, by simp⟩

end Sending

/-! ### The command -/

section Gates

variable {session : Session} (client : Api.Client) (id : String) (yes : Bool) (scene : Scene)

/-- Without an access token or an administrator nothing is asked and nothing is sent. -/
theorem outcome_deleteServer_of_refused (h : session.credential = none ∨ session.isAdmin = false) :
    ∃ failure, Attempt.outcome (deleteServer client session id yes) scene =
      (.error failure, scene) := by
  unfold deleteServer requireCredential requireAdmin
  rw [Attempt.outcome_bind, Attempt.outcome_orFail]
  cases hcredential : session.credential with
  | none => exact ⟨_, rfl⟩
  | some credential =>
    have hadmin : session.isAdmin = false := h.resolve_left (by simp [hcredential])
    rw [hadmin]
    exact ⟨_, rfl⟩

/-- With both of them the user is asked, and what follows depends on the answer. -/
theorem outcome_deleteServer_of_admin {credential : String}
    (hcredential : session.credential = some credential) (hadmin : session.isAdmin = true) :
    Attempt.outcome (deleteServer client session id yes) scene =
      Attempt.outcome
        (if Consents yes scene.input then sendDeletion client credential id else say "Aborted.\n")
        (asked id yes scene) := by
  unfold deleteServer requireCredential requireAdmin
  rw [Attempt.outcome_bind, Attempt.outcome_orFail, hcredential, hadmin]
  simp only [Except.mapError, if_true]
  rw [Attempt.outcome_bind, Attempt.outcome_pure]
  dsimp only
  rw [Attempt.outcome_bind, outcome_agree]
  simp only [decide_eq_true_eq]

end Gates

/-- A user who may delete: with an access token that can be sent, and as an administrator. -/
def HasAuthority (session : Session) : Prop :=
  (∃ credential, session.credential = some credential ∧ Api.IsUsable credential) ∧
    session.isAdmin = true

/-- The code that the program ends with. -/
def exitCode : Except Failure Unit → Nat
  | .ok () => 0
  | .error _ => 1

/-- What comes of a deletion: what was sent for it, and the code that the program ends with. -/
structure Deletion (client : Api.Client) (session : Session) (id : String) (yes : Bool)
    (scene : Scene) (code : Nat) (requests : List Http.Request) : Prop where
  request : ∀ request ∈ requests, request.method = "DELETE" ∧ ∃ credential,
    session.credential = some credential ∧
      client.requestFor credential (.delete id) = .ok request
  length : requests.length ≤ 1
  sent_iff : requests ≠ [] ↔
    HasAuthority session ∧ Consents yes scene.input ∧ client.Reaches (.delete id)
  code_iff : code = 0 ↔
    (∃ request ∈ requests, IsGranted scene request) ∨
      (session.credential ≠ none ∧ session.isAdmin = true ∧ ¬Consents yes scene.input)

theorem sent_asked (id : String) (yes : Bool) (scene : Scene) :
    (asked id yes scene).sent = scene.sent := by
  unfold asked
  split
  · rfl
  · rfl

theorem isGranted_asked (id : String) (yes : Bool) (scene : Scene) (request : Http.Request) :
    IsGranted (asked id yes scene) request ↔ IsGranted scene request := by
  unfold IsGranted asked
  split
  · rfl
  · rfl

section Outcome

variable {client : Api.Client} {session : Session} {id : String} {yes : Bool} {scene : Scene}

/-- A deletion for which nothing is sent. -/
theorem Deletion.nothing {code : Nat}
    (hunsent : ¬(HasAuthority session ∧ Consents yes scene.input ∧ client.Reaches (.delete id)))
    (hcode : code = 0 ↔
      session.credential ≠ none ∧ session.isAdmin = true ∧ ¬Consents yes scene.input) :
    Deletion client session id yes scene code [] where
  request := nofun
  length := Nat.zero_le 1
  sent_iff := iff_of_false (fun h => h rfl) hunsent
  code_iff := by simpa using hcode

/-- A deletion for which a request is sent. -/
theorem Deletion.sent {credential : String} {request : Http.Request} {code : Nat}
    (hcredential : session.credential = some credential) (hadmin : session.isAdmin = true)
    (hconsents : Consents yes scene.input)
    (hrequest : client.outgoing credential (.delete id) = .ok request)
    (hcode : code = 0 ↔ IsGranted scene request) :
    Deletion client session id yes scene code [request] := by
  obtain ⟨husable, hreaches⟩ := (Api.exists_outgoing_iff client _).1 ⟨request, hrequest⟩
  constructor
  · intro other hother
    obtain rfl := List.mem_singleton.1 hother
    exact ⟨Api.method_of_outgoing hrequest, credential, hcredential,
      Api.requestFor_of_outgoing hrequest⟩
  · exact Nat.le_refl 1
  · exact iff_of_true (List.cons_ne_nil _ _)
      ⟨⟨⟨credential, hcredential, husable⟩, hadmin⟩, hconsents, hreaches⟩
  · simp [hcode, hconsents]

/-- What was tried, and the scene after it, are those of a deletion. -/
def IsDeletion (client : Api.Client) (session : Session) (id : String) (yes : Bool)
    (scene : Scene) (played : Except Failure Unit × Scene) : Prop :=
  ∃ requests, played.2.sent = scene.sent ++ requests ∧
    Deletion client session id yes scene (exitCode played.1) requests

theorem isDeletion_of_refused (h : session.credential = none ∨ session.isAdmin = false) :
    IsDeletion client session id yes scene
      (Attempt.outcome (deleteServer client session id yes) scene) := by
  obtain ⟨failure, houtcome⟩ := outcome_deleteServer_of_refused client id yes scene h
  rw [houtcome]
  refine ⟨[], (List.append_nil _).symm, .nothing ?_ ?_⟩
  · rintro ⟨⟨⟨credential, hcredential, -⟩, hadmin⟩, -⟩
    rcases h with h | h
    · cases h.symm.trans hcredential
    · cases h.symm.trans hadmin
  · refine iff_of_false Nat.one_ne_zero ?_
    rintro ⟨hcredential, hadmin, -⟩
    rcases h with h | h
    · exact hcredential h
    · cases h.symm.trans hadmin

section Admin

variable {credential : String} (hcredential : session.credential = some credential)
  (hadmin : session.isAdmin = true)

include hcredential hadmin

theorem isDeletion_of_declined (h : ¬Consents yes scene.input) :
    IsDeletion client session id yes scene
      (Attempt.outcome (deleteServer client session id yes) scene) := by
  rw [outcome_deleteServer_of_admin client id yes scene hcredential hadmin, if_neg h,
    Attempt.outcome_say]
  refine ⟨[], ?_, .nothing ?_ ?_⟩
  · rw [List.append_nil]
    exact sent_asked id yes scene
  · exact fun hall => h hall.2.1
  · exact iff_of_true rfl ⟨by simp [hcredential], hadmin, h⟩

theorem isDeletion_of_consents (h : Consents yes scene.input) :
    IsDeletion client session id yes scene
      (Attempt.outcome (deleteServer client session id yes) scene) := by
  rw [outcome_deleteServer_of_admin client id yes scene hcredential hadmin, if_pos h]
  cases hrequest : client.outgoing credential (.delete id) with
  | error cause =>
    obtain ⟨failure, houtcome⟩ :=
      outcome_sendDeletion_of_error client credential id (asked id yes scene) hrequest
    rw [houtcome]
    refine ⟨[], ?_, .nothing ?_ ?_⟩
    · rw [List.append_nil]
      exact sent_asked id yes scene
    · rintro ⟨⟨⟨other, hother, husable⟩, -⟩, -, hreaches⟩
      obtain rfl := Option.some.inj (hcredential.symm.trans hother)
      obtain ⟨request, hok⟩ := (Api.exists_outgoing_iff client _).2 ⟨husable, hreaches⟩
      cases hok.symm.trans hrequest
    · exact iff_of_false Nat.one_ne_zero fun hall => hall.2.2 h
  | ok request =>
    obtain ⟨result, after, houtcome, hsent, hgranted⟩ :=
      outcome_sendDeletion_of_ok client credential id (asked id yes scene) hrequest
    rw [sent_asked] at hsent
    rw [isGranted_asked] at hgranted
    rw [houtcome]
    refine ⟨[request], hsent, .sent hcredential hadmin h hrequest (Iff.trans ?_ hgranted)⟩
    cases result <;> simp [exitCode]

end Admin

variable (client session id yes scene)

/-- **A deletion takes authority and consent.** -/
theorem isDeletion_deleteServer :
    IsDeletion client session id yes scene
      (Attempt.outcome (deleteServer client session id yes) scene) := by
  by_cases hrefused : session.credential = none ∨ session.isAdmin = false
  · exact isDeletion_of_refused hrefused
  · obtain ⟨hsome, hadmin⟩ := not_or.1 hrefused
    rw [Bool.not_eq_false] at hadmin
    obtain ⟨credential, hcredential⟩ := Option.ne_none_iff_exists'.1 hsome
    by_cases hconsents : Consents yes scene.input
    · exact isDeletion_of_consents hcredential hadmin hconsents
    · exact isDeletion_of_declined hcredential hadmin hconsents

/-- The program ends with the code of what the deletion comes to. -/
theorem run_delete : ∃ errors,
    (carryOut client session (some (.delete id yes))).ending.run scene =
      (.exit (exitCode (Attempt.outcome (deleteServer client session id yes) scene).1) errors,
        (Attempt.outcome (deleteServer client session id yes) scene).2) := by
  rw [carryOut, Attempt.run_ending, Attempt.outcome_bind]
  obtain ⟨result, after⟩ := Attempt.outcome (deleteServer client session id yes) scene
  cases result with
  | error failure => exact ⟨failure.text, rfl⟩
  | ok done => exact ⟨"", rfl⟩

end Outcome

/-- **A whole run of the program sends one request at most** when it is to delete, and no other one
than to delete. -/
theorem sent_run_of_delete {env : Environment} {args : List String} {inv : Invocation} {id : String}
    {yes : Bool} (hread : readArgs env args = .ok inv)
    (hcommand : inv.command = some (.delete id yes)) (scene : Scene) :
    ∃ requests, ((run env args).run scene).2.sent = scene.sent ++ requests ∧
      requests.length ≤ 1 ∧ ∀ request ∈ requests, request.method = "DELETE" := by
  have hsilent : (Attempt.outcome (prepare env inv) scene).2.sent = scene.sent :=
    Script.sent_run (isSilent_prepare env inv) scene
  rw [run_of_readArgs hread, hcommand]
  generalize Attempt.outcome (prepare env inv) scene = played at hsilent ⊢
  obtain ⟨result, prepared⟩ := played
  cases result with
  | error failure => exact ⟨[], hsilent.trans (List.append_nil _).symm, Nat.zero_le 1, nofun⟩
  | ok ready =>
    obtain ⟨session, client⟩ := ready
    obtain ⟨errors, hrun⟩ := run_delete client session id yes prepared
    obtain ⟨requests, hsent, hdeletion⟩ := isDeletion_deleteServer client session id yes prepared
    dsimp only at hsilent ⊢
    rw [hrun, ← hsilent]
    exact ⟨requests, hsent, hdeletion.length, fun request h => (hdeletion.request request h).1⟩

/-! ### The own machine -/

/-- A base URL on the own machine, in its parts. -/
def ownStem : Url.Stem where
  name := "http".toList
  slashes := "//".toList
  authority := "127.0.0.1:4000".toList
  path := []
  name_head := by decide
  name_chars := List.all_eq_true.1 (by decide)
  slashes_chars := List.all_eq_true.1 (by decide)
  authority_ne := by decide
  authority_chars c hc := by
    have h : ("127.0.0.1:4000".toList.all fun c => !Url.endsAuthority true c) = true := by decide
    simpa using List.all_eq_true.1 h c hc
  path_head := nofun
  path_chars := nofun

/-- The URL of a server on the own machine. -/
def ownUrl (id : String) : Url :=
  ⟨"http", "", "", some (.ipv4 2130706433), some 4000,
    .segments ((Api.deletionSegments [] id).map String.ofList), none, none⟩

theorem parse_own (id : String) :
    Url.parse ("http://127.0.0.1:4000" ++ Api.serverPath id) = .ok (ownUrl id) := by
  let client : Api.Client := ⟨"http://127.0.0.1:4000"⟩
  have hs : ownStem.text = Url.lead client.baseUrl.toList := by decide
  have hw : ownStem.IsWeb := .inl (by decide)
  have hfolder := Api.parse_folder hs hw
  have hread : Url.parse (client.baseUrl ++ "/") = .ok ⟨"http", "", "",
      some (.ipv4 2130706433), some 4000, .segments [""], none, none⟩ :=
    Api.eq_ok_of_toOption (by decide +kernel)
  have hpath := Api.parse_serverPath hs hw id
  rw [hread] at hfolder
  cases ha : Url.readAuthority ownStem.scheme ownStem.authority [] with
  | error cause =>
    rw [ha] at hfolder
    cases hfolder
  | ok a =>
    -- what is before the path is the same in both URLs
    rw [ha] at hfolder hpath
    simp only [Except.map, Except.ok.injEq, Url.mk.injEq, Url.Stem.url] at hfolder
    obtain ⟨-, husername, hpassword, hhost, hport, -⟩ := hfolder
    refine hpath.trans ?_
    simp only [Except.map, Url.Stem.url, ← husername, ← hpassword, ← hhost, ← hport]
    rfl

theorem splitUser_own (id : String) : (Api.Client.splitUser (ownUrl id)).1 = ownUrl id := rfl

/-- On the own machine a server is reached if its URL is short enough. -/
theorem reaches_own_iff (id : String) :
    Api.Client.Reaches ⟨"http://127.0.0.1:4000"⟩ (.delete id) ↔
      (ownUrl id).text.utf8ByteSize ≤ Http.urlLimit := by
  constructor
  · rintro ⟨url, hurl, -, hsize⟩
    obtain rfl := Except.ok.inj ((parse_own id).symm.trans hurl)
    rwa [splitUser_own] at hsize
  · intro hsize
    refine ⟨ownUrl id, parse_own id, rfl, ?_⟩
    rwa [splitUser_own]

theorem length_le_utf8ByteSize (cs : List Char) :
    cs.length ≤ (String.ofList cs).utf8ByteSize := by
  induction cs with
  | nil => exact Nat.zero_le _
  | cons c cs ih =>
    have hc := c.utf8Size_pos
    simp only [String.ofList_cons, String.utf8ByteSize_append, String.utf8ByteSize_singleton,
      List.length_cons]
    omega

/-- The URL is not shorter than the identifier as it is written. -/
theorem length_idText_le {id : String} (h : Api.IsPlainId id) :
    (Api.idText id).length ≤ (ownUrl id).text.utf8ByteSize := by
  have hsegments : (Api.deletionSegments [] id).map String.ofList =
      ["v1", "mcp", "server"] ++ [String.ofList (Api.idText id)] := by
    rw [Api.deletionSegments_of_isPlainId _ h]
    rfl
  have htarget : (ownUrl id).target.utf8ByteSize ≤ (ownUrl id).text.utf8ByteSize := by
    simp only [Url.text, String.utf8ByteSize_append]
    omega
  have hlast : (String.ofList (Api.idText id)).utf8ByteSize ≤ (ownUrl id).target.utf8ByteSize := by
    simp only [Url.target, ownUrl, hsegments, Api.segments_text_append, String.utf8ByteSize_append]
    omega
  exact (length_le_utf8ByteSize _).trans (hlast.trans htarget)

/-- A server with a long identifier is not reached. -/
theorem not_reaches_own {n : Nat} (h : Http.urlLimit < n) :
    ¬Api.Client.Reaches ⟨"http://127.0.0.1:4000"⟩
      (.delete (String.ofList (List.replicate n 'a'))) := by
  have hchars : ∀ c ∈ List.replicate n 'a', c = 'a' := fun c hc => (List.mem_replicate.1 hc).2
  have hplain : Api.IsPlainId (String.ofList (List.replicate n 'a')) := by
    have hlength : (String.ofList (List.replicate n 'a')).length = n := by simp
    refine ⟨?_, ?_, ?_⟩
    · rw [String.toList_ofList]
      exact fun hmem => absurd (hchars _ hmem) (by decide)
    · intro hpoint
      rw [hpoint] at hlength
      exact absurd (hlength ▸ h) (by decide)
    · intro hpoints
      rw [hpoints] at hlength
      exact absurd (hlength ▸ h) (by decide)
  have htext : Api.idText (String.ofList (List.replicate n 'a')) = List.replicate n 'a' := by
    rw [Api.idText, String.toList_ofList]
    refine Url.encode_eq_self fun c hc => ?_
    rw [hchars c hc]
    decide
  have hlength := length_idText_le hplain
  rw [htext, List.length_replicate] at hlength
  rw [reaches_own_iff]
  omega

/-- **A server is deleted on the own machine** with authority and consent only. One request is sent
then, the one that the client has for the identifier, unless its URL is too long. -/
theorem deletion_gated (session : Session) (id : String) (yes : Bool) (scene : Scene) :
    ∃ client url code errors requests after,
      Api.Client.ofBase "http://127.0.0.1:4000" = .ok client ∧
      Url.parse (client.baseUrl ++ Api.serverPath id) = .ok url ∧
      (carryOut client session (some (.delete id yes))).ending.run scene =
        (.exit code errors, after) ∧
      after.sent = scene.sent ++ requests ∧
      (∀ request ∈ requests, request.method = "DELETE" ∧ ∃ credential,
        session.credential = some credential ∧
          client.requestFor credential (.delete id) = .ok request) ∧
      requests.length ≤ 1 ∧
      (requests ≠ [] ↔ HasAuthority session ∧ Consents yes scene.input ∧
        url.text.utf8ByteSize ≤ Http.urlLimit) ∧
      (code = 0 ↔
        (∃ request ∈ requests, IsGranted scene request) ∨
          (session.credential ≠ none ∧ session.isAdmin = true ∧ ¬Consents yes scene.input)) := by
  obtain ⟨errors, hrun⟩ := run_delete ⟨"http://127.0.0.1:4000"⟩ session id yes scene
  obtain ⟨requests, hsent, hdeletion⟩ :=
    isDeletion_deleteServer ⟨"http://127.0.0.1:4000"⟩ session id yes scene
  have hbase : Api.Client.ofBase "http://127.0.0.1:4000" = .ok ⟨"http://127.0.0.1:4000"⟩ :=
    Api.eq_ok_of_toOption (by decide +kernel)
  have hiff := hdeletion.sent_iff
  rw [reaches_own_iff] at hiff
  exact ⟨_, ownUrl id, _, errors, requests, _, hbase, parse_own id, hrun, hsent,
    hdeletion.request, hdeletion.length, hiff, hdeletion.code_iff⟩

/-- **A server with a long identifier is not deleted**, whoever asks for it: the client sends no request,
and neither does the command. -/
theorem deletion_unsent :
    let id := String.ofList (List.replicate 65536 'a')
    let session : Session := ⟨some "sk", some "proxy_admin", none⟩
    let scene : Scene := ⟨⟨[], []⟩, [], fun _ => some ⟨200, "{}"⟩, [], ""⟩
    HasAuthority session ∧ Consents true scene.input ∧
      Api.Client.perform ⟨"http://127.0.0.1:4000"⟩ "sk" (.delete id) (fun _ => ⟨200, "{}"⟩) =
        (none, .error .transport) ∧
      ∃ code errors after,
        (carryOut ⟨"http://127.0.0.1:4000"⟩ session (some (.delete id true))).ending.run scene =
          (.exit code errors, after) ∧ after.sent = [] ∧ code ≠ 0 := by
  intro id session scene
  have hauthority : HasAuthority session := ⟨⟨"sk", rfl, by decide, by decide⟩, by decide⟩
  have hconsents : Consents true scene.input := .inl rfl
  have hlong := not_reaches_own (n := 65536) (by decide)
  obtain ⟨errors, hrun⟩ := run_delete ⟨"http://127.0.0.1:4000"⟩ session id true scene
  obtain ⟨requests, hsent, hdeletion⟩ :=
    isDeletion_deleteServer ⟨"http://127.0.0.1:4000"⟩ session id true scene
  have hnone : requests = [] := by
    by_contra hsome
    exact hlong (hdeletion.sent_iff.1 hsome).2.2
  refine ⟨hauthority, hconsents, Api.perform_of_unreached (by decide) (fun h => hlong h.2) _, _,
    errors, _, hrun, hsent.trans hnone, ?_⟩
  intro hcode
  rcases hdeletion.code_iff.1 hcode with ⟨request, hmem, -⟩ | ⟨-, -, hdeclined⟩
  · rw [hnone] at hmem
    cases hmem
  · exact hdeclined hconsents

end McpConsole.CommandLine

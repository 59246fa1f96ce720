import McpConsole.Proofs.Api.Answer
import McpConsole.Proofs.Api.Origin
import McpConsole.Proofs.Text.Blank

/-!
# What a call comes to

A call sends one request or none, and a blank credential sends none. One is sent if the call is reached
(`Client.Reaches`): nothing is sent by `https`, nor to a URL that is too long. What the call gives
follows from the answer to the request (`Call.Follows`): a result needs a status from 200 to 299 and a
body that gives it, and any other status is told as it is, with what the body says.

The request carries the access token. It is the only authorization of the request just when the base
URL names no user (`perform_follows`): the user of a base URL is sent before the access token
(`authorizations_user`).
-/

namespace McpConsole.Api

open McpConsole.Text

/-! ### Results -/

/-- A status that says that a request was done. -/
def IsDone (status : Nat) : Prop :=
  200 ≤ status ∧ status < 300

instance (status : Nat) : Decidable (IsDone status) :=
  inferInstanceAs (Decidable (_ ∧ _))

/-- What a refusal says: what its body says, or else the phrase of its status, or else `error`. -/
def Says (response : Http.Response) (reason : String) : Prop :=
  reasonOfBody? response.content = some reason ∨
    reasonOfBody? response.content = none ∧
      (Http.reasons.lookup response.status = some reason ∨
        Http.reasons.lookup response.status = none ∧ reason = "error")

/-- A result is what an answer means to a call. -/
structure Call.Follows (call : Call) (response : Http.Response) (result : Except Error Answer) :
    Prop where
  ok_iff : ∀ answer, result = .ok answer ↔
    IsDone response.status ∧ call.Gives response.content answer
  decode_iff : result = .error .decode ↔
    IsDone response.status ∧ ∀ answer, ¬call.Gives response.content answer
  status_iff : ∀ code reason, result = .error (.status code reason) ↔
    ¬IsDone response.status ∧ code = response.status ∧ Says response reason

theorem isSuccess_iff (status : Nat) : Http.isSuccess status = true ↔ IsDone status := by
  simp [Http.isSuccess, IsDone]

theorem says_iff (response : Http.Response) (reason : String) :
    Says response reason ↔
      reason = (reasonOfBody? response.content).getD (Http.reason response.status) := by
  unfold Says Http.reason
  cases reasonOfBody? response.content with
  | some said =>
    simp only [Option.some.injEq, reduceCtorEq, false_and, or_false, Option.getD_some]
    exact eq_comm
  | none =>
    cases Http.reasons.lookup response.status with
    | some phrase =>
      simp only [reduceCtorEq, Option.some.injEq, false_and, or_false, true_and, false_or,
        Option.getD_none, Option.getD_some]
      exact eq_comm
    | none => simp

theorem result_follows (call : Call) (response : Http.Response) :
    call.Follows response (call.result response) := by
  by_cases hdone : IsDone response.status
  · have hsuccess := (isSuccess_iff response.status).2 hdone
    cases hanswer : call.answer? response.content with
    | some answer =>
      have hgives := (answer?_eq_some_iff call response.content answer).1 hanswer
      have hresult : call.result response = .ok answer := by
        simp only [Call.result, hsuccess, hanswer, if_true]
      rw [hresult]
      constructor
      · intro other
        rw [← answer?_eq_some_iff, hanswer]
        simp [hdone]
      · exact iff_of_false nofun fun h => h.2 answer hgives
      · intro code reason
        exact iff_of_false nofun fun h => h.1 hdone
    | none =>
      have hgives : ∀ answer, ¬call.Gives response.content answer := by
        intro answer h
        rw [← answer?_eq_some_iff, hanswer] at h
        cases h
      have hresult : call.result response = .error .decode := by
        simp only [Call.result, hsuccess, hanswer, if_true]
      rw [hresult]
      constructor
      · intro answer
        exact iff_of_false nofun fun h => hgives answer h.2
      · exact iff_of_true rfl ⟨hdone, hgives⟩
      · intro code reason
        exact iff_of_false nofun fun h => h.1 hdone
  · have hsuccess : ¬Http.isSuccess response.status = true := fun h =>
      hdone ((isSuccess_iff response.status).1 h)
    have hresult : call.result response = .error (.status response.status
        ((reasonOfBody? response.content).getD (Http.reason response.status))) := by
      simp only [Call.result, hsuccess]
      rfl
    rw [hresult]
    constructor
    · intro answer
      exact iff_of_false nofun fun h => hdone h.1
    · exact iff_of_false nofun fun h => hdone h.1
    · intro code reason
      rw [says_iff]
      simp only [Except.error.injEq, Error.status.injEq, hdone, not_false_eq_true, true_and]
      exact and_congr eq_comm eq_comm

/-! ### Requests -/

/-- The authorizations of a request, in the order in which they are sent. -/
def authorizations (request : Http.Request) : List String :=
  (request.headers.filter fun header => header.1 == "authorization").map Prod.snd

/-- The URL for a call can be read, and something can be sent to it: it asks for no encryption, and is
short enough. -/
def Client.Reaches (client : Client) (call : Call) : Prop :=
  ∃ url, Url.parse (client.baseUrl ++ call.path) = .ok url ∧ url.scheme = "http" ∧
    (Client.splitUser url).1.text.utf8ByteSize ≤ Http.urlLimit

theorem path_head? (call : Call) : call.path.toList.head? = some '/' := by
  have hservers : serversPath.toList.head? = some '/' := by decide
  cases call with
  | delete id =>
    have happ : (serverPath id).toList.head? = some '/' := by
      rw [serverPath, String.append_assoc, String.toList_append, List.head?_append, hservers]
      rfl
    exact happ
  | list | create | update => exact hservers

theorem authorizations_withPayload (request : Http.Request) (payload : Option Json.Value) :
    authorizations (withPayload request payload) = authorizations request := by
  cases payload <;> simp [withPayload, authorizations]

theorem splitUser_snd_eq_nil_iff (url : Url) :
    (Client.splitUser url).2 = [] ↔ Client.userOf? url = none := by
  unfold Client.splitUser
  cases Client.userOf? url <;> simp

theorem authorizations_append (user : List (String × String)) (credential : String)
    (method body : String) (url : Url) :
    authorizations ⟨method, url, user ++
        [("user-agent", userAgent), ("authorization", "Bearer " ++ trimmed credential)], body⟩ =
      ((user.filter fun header => header.1 == "authorization").map Prod.snd) ++
        ["Bearer " ++ trimmed credential] := by
  simp [authorizations]

/-- The user of a URL is sent as an authorization. -/
theorem authorizations_user (url : Url) :
    (Client.splitUser url).2.filter (fun header => header.1 == "authorization") =
      (Client.splitUser url).2 := by
  unfold Client.splitUser
  cases Client.userOf? url <;> rfl

theorem scheme_splitUser (url : Url) : (Client.splitUser url).1.scheme = url.scheme := by
  unfold Client.splitUser
  cases Client.userOf? url <;> rfl

theorem url_withPayload (request : Http.Request) (payload : Option Json.Value) :
    (withPayload request payload).url = request.url := by
  cases payload <;> rfl

theorem userOf?_of_front {u v : Url} (h : u.front = v.front) :
    Client.userOf? u = Client.userOf? v := by
  simp only [Url.front, Prod.mk.injEq, Url.Authority.mk.injEq] at h
  obtain ⟨-, husername, hpassword, -, -⟩ := h
  rw [Client.userOf?, Client.userOf?, husername, hpassword]

section Sending

variable {credential : String} (client : Client) (call : Call)

theorem requestFor_of_blank (h : isBlankText credential = true) :
    client.requestFor credential call = .error .missingCredential := by
  have hempty : (trimmed credential).isEmpty = true := (isEmpty_trimmed credential).trans h
  unfold Client.requestFor Client.request
  dsimp only
  rw [if_pos hempty]
  rfl

/-- A credential that is not blank and cannot be sent either. -/
theorem requestFor_of_not_isUsable (hb : isBlankText credential = false)
    (hc : ¬IsUsable credential) :
    client.requestFor credential call = .error .transport := by
  have hempty : (trimmed credential).isEmpty = false := (isEmpty_trimmed credential).trans hb
  have hvalue : ¬Http.isHeaderValue ("Bearer " ++ trimmed credential) = true := fun h =>
    hc ⟨hempty, h⟩
  unfold Client.requestFor Client.request
  dsimp only
  rw [if_neg (Bool.eq_false_iff.1 hempty)]
  cases Url.parse (client.baseUrl ++ call.path) with
  | error cause => rfl
  | ok url =>
    dsimp only
    rw [if_neg hvalue]
    rfl

variable {client call}

theorem outgoing_of_error {cause : Error} (h : client.requestFor credential call = .error cause) :
    client.outgoing credential call = .error cause := by
  rw [Client.outgoing, h]
  rfl

theorem outgoing_of_ok {request : Http.Request}
    (h : client.requestFor credential call = .ok request) :
    client.outgoing credential call =
      if request.url.scheme = "http" then .ok request else .error .transport := by
  rw [Client.outgoing, h]
  by_cases hscheme : request.url.scheme = "http"
  · rw [if_pos hscheme]
    exact if_neg (not_not_intro hscheme)
  · rw [if_neg hscheme]
    exact if_pos hscheme

/-- What is sent is the request for the call. -/
theorem requestFor_of_outgoing {request : Http.Request}
    (h : client.outgoing credential call = .ok request) :
    client.requestFor credential call = .ok request := by
  cases hrequest : client.requestFor credential call with
  | error cause =>
    rw [outgoing_of_error hrequest] at h
    cases h
  | ok built =>
    rw [outgoing_of_ok hrequest] at h
    split at h
    · exact h
    · cases h

variable (client call)

/-- **When a request is sent**, and that without one nothing was reached. -/
theorem outgoing_cases (hb : isBlankText credential = false) :
    (¬(IsUsable credential ∧ client.Reaches call) ∧
        client.outgoing credential call = .error .transport) ∨
      ∃ url request, IsUsable credential ∧ client.Reaches call ∧
        Url.parse (client.baseUrl ++ call.path) = .ok url ∧
        client.outgoing credential call = .ok request ∧
        authorizations request =
          (Client.splitUser url).2.map Prod.snd ++ ["Bearer " ++ trimmed credential] := by
  by_cases hc : IsUsable credential
  · have hrequest := requestFor_of_isUsable hc client call
    cases hurl : Url.parse (client.baseUrl ++ call.path) with
    | error cause =>
      rw [hurl] at hrequest
      refine .inl ⟨?_, outgoing_of_error hrequest⟩
      rintro ⟨-, url, hread, -⟩
      cases hurl.symm.trans hread
    | ok url =>
      rw [hurl] at hrequest
      dsimp only at hrequest
      by_cases hsize : Http.urlLimit < (Client.splitUser url).1.text.utf8ByteSize
      · rw [if_pos hsize] at hrequest
        refine .inl ⟨?_, outgoing_of_error hrequest⟩
        rintro ⟨-, other, hread, -, hle⟩
        obtain rfl := Except.ok.inj (hurl.symm.trans hread)
        omega
      · rw [if_neg hsize] at hrequest
        have hsent := outgoing_of_ok hrequest
        rw [url_withPayload, scheme_splitUser] at hsent
        by_cases hscheme : url.scheme = "http"
        · rw [if_pos hscheme] at hsent
          refine .inr ⟨url, _, hc, ⟨url, hurl, hscheme, by omega⟩, rfl, hsent, ?_⟩
          rw [authorizations_withPayload, authorizations_append, authorizations_user]
        · rw [if_neg hscheme] at hsent
          refine .inl ⟨?_, hsent⟩
          rintro ⟨-, other, hread, hother, -⟩
          obtain rfl := Except.ok.inj (hurl.symm.trans hread)
          exact hscheme hother
  · exact .inl ⟨fun h => hc h.1, outgoing_of_error (requestFor_of_not_isUsable client call hb hc)⟩

/-- **What is sent**: the request for a call that is reached, with a credential that can be sent. -/
theorem exists_outgoing_iff :
    (∃ request, client.outgoing credential call = .ok request) ↔
      IsUsable credential ∧ client.Reaches call := by
  constructor
  · rintro ⟨request, h⟩
    cases hb : isBlankText credential with
    | true =>
      rw [outgoing_of_error (requestFor_of_blank client call hb)] at h
      cases h
    | false =>
      rcases outgoing_cases client call hb with ⟨-, he⟩ | ⟨_, _, hc, hreaches, -⟩
      · cases he.symm.trans h
      · exact ⟨hc, hreaches⟩
  · rintro ⟨hc, hreaches⟩
    have hb : isBlankText credential = false :=
      (isEmpty_trimmed credential).symm.trans hc.not_blank
    rcases outgoing_cases client call hb with ⟨hnot, -⟩ | ⟨_, request, -, -, -, h, -⟩
    · exact absurd ⟨hc, hreaches⟩ hnot
    · exact ⟨request, h⟩

end Sending

theorem method_of_outgoing {client : Client} {credential : String} {call : Call}
    {request : Http.Request} (h : client.outgoing credential call = .ok request) :
    request.method = call.method := by
  obtain ⟨hc, -⟩ := (exists_outgoing_iff client call).1 ⟨request, h⟩
  replace h := requestFor_of_outgoing h
  rw [requestFor_of_isUsable hc] at h
  split at h
  · cases h
  · split at h
    · cases h
    · cases h
      cases call <;> rfl

/-! ### Exchanges -/

/-- Where nothing is reached, nothing is sent. -/
theorem perform_of_unreached {client : Client} {credential : String} {call : Call}
    (hb : isBlankText credential = false) (h : ¬(IsUsable credential ∧ client.Reaches call))
    (server : Http.Request → Http.Response) :
    client.perform credential call server = (none, .error .transport) := by
  rcases outgoing_cases client call hb with ⟨-, he⟩ | ⟨_, _, hc, hreaches, -⟩
  · rw [Client.perform, he]
  · exact absurd ⟨hc, hreaches⟩ h

/-- **One request, and a result that follows the answer.** A blank credential is refused, and nothing is
sent. With any other one either nothing can be sent, or there is one request, and the result is
what the answer to it means. The last authorization of the request is the access token, and it is
the only one just when the base URL names no user. -/
theorem perform_follows {base : String} {client : Client} {url : Url}
    (hb : Client.ofBase base = .ok client) (hp : Url.parse base = .ok url) (credential : String)
    (call : Call) (server : Http.Request → Http.Response) :
    (isBlankText credential = true →
      client.perform credential call server = (none, .error .missingCredential)) ∧
    (isBlankText credential = false → ¬(IsUsable credential ∧ client.Reaches call) →
      client.perform credential call server = (none, .error .transport)) ∧
    (IsUsable credential → client.Reaches call → ∃ request result user,
      client.perform credential call server = (some request, result) ∧
        call.Follows (server request) result ∧
        authorizations request = user ++ ["Bearer " ++ trimmed credential] ∧
        (user = [] ↔ Client.userOf? url = none)) := by
  refine ⟨?_, fun hblank hnot => perform_of_unreached hblank hnot server, ?_⟩
  · intro hblank
    rw [Client.perform, outgoing_of_error (requestFor_of_blank client call hblank)]
  · intro hc hreaches
    have hblank : isBlankText credential = false :=
      (isEmpty_trimmed credential).symm.trans hc.not_blank
    rcases outgoing_cases client call hblank with
      ⟨hnot, -⟩ | ⟨read, request, -, -, hread, he, hauth⟩
    · exact absurd ⟨hc, hreaches⟩ hnot
    · obtain ⟨parts⟩ := nonempty_baseParts hb hp
      have hfront := parts.front_of_parse (path_head? call) hread
      rw [Client.perform, he]
      refine ⟨request, _, _, rfl, result_follows call (server request), hauth, ?_⟩
      rw [List.map_eq_nil_iff, splitUser_snd_eq_nil_iff, userOf?_of_front hfront]

/-- A list of two servers, in the order of the body. -/
theorem perform_follows_list : ∃ request servers,
    (Client.mk "http://127.0.0.1:4000").perform " sk " .list
        (fun _ => ⟨200, "[\x7b\"server_id\":\"b\"\x7d,\x7b\"server_id\":\"a\"\x7d]"⟩) =
      (some request, .ok (.servers servers)) ∧
    servers.map Server.id = ["b", "a"] ∧ authorizations request = ["Bearer sk"] := by
  have hb : Client.ofBase "http://127.0.0.1:4000/" = .ok ⟨"http://127.0.0.1:4000"⟩ :=
    eq_ok_of_toOption (by decide +kernel)
  have hp : Url.parse "http://127.0.0.1:4000/" = .ok ⟨"http", "", "", some (.ipv4 0x7F000001),
      some 4000, .segments [""], none, none⟩ := eq_ok_of_toOption (by decide +kernel)
  have hread : Url.parse ("http://127.0.0.1:4000" ++ serversPath) = .ok ⟨"http", "", "",
      some (.ipv4 0x7F000001), some 4000, .segments ["v1", "mcp", "server"], none, none⟩ :=
    eq_ok_of_toOption (by decide +kernel)
  have hids : (serversOfBody? "[\x7b\"server_id\":\"b\"\x7d,\x7b\"server_id\":\"a\"\x7d]").map
      (List.map Server.id) = some ["b", "a"] := by decide +kernel
  obtain ⟨servers, hservers, hids⟩ := Option.map_eq_some_iff.1 hids
  obtain ⟨items, hlist, hitems⟩ := (serversOfBody?_eq_some_iff _ servers).1 hservers
  obtain ⟨-, -, hsent⟩ := perform_follows hb hp " sk " .list fun _ =>
    ⟨200, "[\x7b\"server_id\":\"b\"\x7d,\x7b\"server_id\":\"a\"\x7d]"⟩
  obtain ⟨request, result, user, hperform, hfollows, hauth, huser⟩ :=
    hsent ⟨by decide +kernel, by decide +kernel⟩ ⟨_, hread, rfl, by decide +kernel⟩
  obtain rfl := (hfollows.ok_iff (.servers servers)).2 ⟨by decide, .list hlist hitems⟩
  refine ⟨request, servers, hperform, hids, ?_⟩
  rw [hauth, huser.2 (by decide +kernel)]
  decide +kernel

/-- **The user of a base URL is sent before the access token**, so that the request has two
authorizations. -/
theorem perform_user :
    (Client.ofBase "http://u:p@localhost:4000").toOption.map (fun client =>
      (client.perform "sk" .list fun _ => ⟨200, "[]"⟩).1.map authorizations) =
        some (some ["Basic dTpw", "Bearer sk"]) := by
  decide +kernel

end McpConsole.Api

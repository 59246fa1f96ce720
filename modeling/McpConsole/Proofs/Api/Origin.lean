import McpConsole.Proofs.Api.Base

/-!
# Where requests go

A client checks its base URL as it is written, and reads another text for a request: the base URL
without the slashes at its end, and the path behind it. `request_origin` says that this makes no
difference to whom a request is sent to, so that an access token leaves the own machine by `https`
only. Where a host or a port is followed by blanks there is no request at all
(`BaseParts.parse_front`).
-/

namespace McpConsole.Api

open McpConsole.Text

namespace BaseParts

variable {base path : String} {client : Client} {url : Url}

/-- A path that begins with a slash is read behind the base URL with the front of the base URL,
unless the base URL ends with blanks. -/
theorem parse_front (p : BaseParts base client url) (hpath : path.toList.head? = some '/') :
    (Url.parse (client.baseUrl ++ path)).map Url.front = .ok url.front ∨
      ¬Url.EndsPrinted base.toList ∧ ∃ cause, Url.parse (client.baseUrl ++ path) = .error cause := by
  obtain ⟨rest, hrest⟩ : ∃ rest, path.toList = '/' :: rest := by
    cases hl : path.toList with
    | nil =>
      rw [hl] at hpath
      cases hpath
    | cons c rest =>
      rw [hl] at hpath
      cases hpath
      exact ⟨rest, rfl⟩
  obtain ⟨rest', hcleaned⟩ := Url.cleaned_append_slash client.baseUrl.toList rest
  rw [Url.parse, Url.read_eq, String.toList_append, hrest, hcleaned, p.endsPrinted]
  have hf := p.kept.read_front p.isWeb p.endsPath p.isLow rest'
  rw [p.readAuthority] at hf
  rw [p.front_eq]
  exact hf

/-- What is read behind the base URL has the front of the base URL. -/
theorem front_of_parse (p : BaseParts base client url) (hpath : path.toList.head? = some '/')
    {read : Url} (h : Url.parse (client.baseUrl ++ path) = .ok read) : read.front = url.front := by
  rcases p.parse_front hpath with hf | ⟨-, cause, he⟩
  · rw [h] at hf
    exact Except.ok.inj hf
  · cases h.symm.trans he

end BaseParts

/-! ### Requests -/

/-- Only a usable credential is sent. -/
theorem isUsable_of_request {credential method path : String} {client : Client}
    {request : Http.Request} (h : client.request method path credential = .ok request) :
    IsUsable credential := by
  unfold Client.request at h
  dsimp only at h
  split at h
  · cases h
  · rename_i hb
    split at h
    · cases h
    · split at h
      · rename_i hv
        exact ⟨by simpa using hb, hv⟩
      · cases h

theorem splitUser_origin (url : Url) : (Client.splitUser url).1.origin = url.origin := by
  obtain ⟨username, password, hu⟩ := splitUser_fst url
  rw [hu]
  rfl

/-- **Requests go to the origin that was checked**, with the access token, for every path that begins
with a slash and however the base URL is written. Unless the base URL ends with blanks, there is a
request for every credential that can be sent. -/
theorem request_origin {base path : String} {client : Client}
    (hb : Client.ofBase base = .ok client) (hpath : path.toList.head? = some '/') :
    ∃ url, Url.parse base = .ok url ∧ IsTrusted url.origin ∧
      (∀ method credential request, client.request method path credential = .ok request →
        request.url.origin = url.origin ∧
          ("authorization", "Bearer " ++ trimmed credential) ∈ request.headers) ∧
      (Url.EndsPrinted base.toList → ∀ method credential, IsUsable credential →
        ∃ request, client.request method path credential = .ok request) := by
  obtain ⟨-, url, hp, htrusted⟩ := (ofBase_eq_ok_iff base client).1 hb
  obtain ⟨parts⟩ := nonempty_baseParts hb hp
  refine ⟨url, hp, htrusted, fun method credential request h => ?_, fun hends method credential hc =>
    ?_⟩
  · rw [request_of_isUsable (isUsable_of_request h)] at h
    cases hurl : Url.parse (client.baseUrl ++ path) with
    | error cause =>
      rw [hurl] at h
      cases h
    | ok read =>
      rw [hurl] at h
      cases h
      have hfront := parts.front_of_parse hpath hurl
      refine ⟨?_, by simp⟩
      rw [splitUser_origin]
      exact Url.origin_eq_of_front hfront
  · rcases parts.parse_front hpath with ho | ⟨hn, -⟩
    · rw [request_of_isUsable hc]
      cases hurl : Url.parse (client.baseUrl ++ path) with
      | error cause =>
        rw [hurl] at ho
        cases ho
      | ok read => exact ⟨_, rfl⟩
    · exact absurd hends hn

/-- The own machine is reached by `http`, however its base URL is written. -/
theorem request_origin_local : ∃ request,
    (Client.mk "HTTP:\\\\LocalHost:4000/\n").request "GET" "/v1/mcp/server" "token" = .ok request ∧
      request.url.origin = ⟨"http", some (.domain "localhost"), some 4000⟩ := by
  have hb : Client.ofBase "HTTP:\\\\LocalHost:4000/\n" = .ok ⟨"HTTP:\\\\LocalHost:4000/\n"⟩ :=
    eq_ok_of_toOption (by decide +kernel)
  have hp : Url.parse "HTTP:\\\\LocalHost:4000/\n" = .ok ⟨"http", "", "",
      some (.domain "localhost"), some 4000, .segments [""], none, none⟩ :=
    eq_ok_of_toOption (by decide +kernel)
  have hpath : "/v1/mcp/server".toList.head? = some '/' := by decide
  obtain ⟨url, hurl, -, horigin, hexists⟩ := request_origin hb hpath
  obtain rfl := Except.ok.inj (hp.symm.trans hurl)
  obtain ⟨request, h⟩ := hexists (by decide) "GET" "token" ⟨by decide, by decide⟩
  exact ⟨request, h, (horigin "GET" "token" request h).1⟩

end McpConsole.Api

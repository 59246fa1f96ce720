import McpConsole.Api.Call
import McpConsole.Proofs.Url.Origin

/-!
# Base URLs

Which base URLs a client accepts, and what it keeps of them. A base URL is accepted just when an
access token may be sent to it (`ofBase_eq_ok_iff`), and its text is kept without the slashes at its
end. `BaseParts` is this text in its parts: the stem that is read, what comes behind it, and what is
left of both. What a path behind the kept text is read as depends on the way it ends, of which there
are three (`Url.Stem.Kept`).
-/

namespace McpConsole.Api

open McpConsole.Text

/-! ### Accepted base URLs -/

/-- The own machine, whatever the case of its letters. -/
def IsLocal (host : Url.Host) : Prop :=
  lowercase host.text ∈ localHosts

/-- An origin that an access token may be sent to: any host by `https`, and the own machine. -/
def IsTrusted (origin : Url.Origin) : Prop :=
  ∃ host, origin.host = some host ∧
    (origin.scheme = "https" ∨ origin.scheme = "http" ∧ IsLocal host)

/-- **A URL passes the check just when an access token may be sent to it.** -/
theorem checkUrl_eq_ok_iff (text : String) (url : Url) :
    checkUrl text url = .ok () ↔ IsTrusted url.origin := by
  have htrusted : IsTrusted url.origin ↔ ∃ host, url.host = some host ∧
      (url.scheme = "https" ∨ url.scheme = "http" ∧ IsLocal host) := Iff.rfl
  rw [htrusted]
  unfold checkUrl
  cases url.host with
  | none => simp
  | some host =>
    simp only [Option.some.injEq, exists_eq_left']
    by_cases hl : localHosts.contains (lowercase host.text) = true
    · have hlocal : IsLocal host := List.contains_iff_mem.1 hl
      rw [if_pos hl]
      simp only [hlocal, and_true]
      split
      · rename_i hs
        exact iff_of_true rfl hs.symm
      · rename_i hs
        exact iff_of_false nofun fun h => hs h.symm
    · have hlocal : ¬IsLocal host := fun h => hl (List.contains_iff_mem.2 h)
      rw [if_neg hl]
      simp only [hlocal, and_false, or_false]
      split
      · rename_i hs
        exact iff_of_true rfl hs
      · rename_i hs
        exact iff_of_false nofun hs

/-- **The base URLs that are accepted**, and what is kept of them. -/
theorem ofBase_eq_ok_iff (base : String) (client : Client) :
    Client.ofBase base = .ok client ↔
      client = ⟨Client.withoutSlashes base⟩ ∧ ∃ url, Url.parse base = .ok url ∧
        IsTrusted url.origin := by
  unfold Client.ofBase checkBase
  cases Url.parse base with
  | error cause => simp
  | ok url =>
    have hcheck := checkUrl_eq_ok_iff base url
    dsimp only
    cases hc : checkUrl base url with
    | error cause =>
      rw [hc] at hcheck
      constructor
      · nofun
      · rintro ⟨-, _, ⟨⟩, ht⟩
        cases hcheck.2 ht
    | ok =>
      constructor
      · rintro ⟨⟩
        exact ⟨rfl, url, rfl, hcheck.1 hc⟩
      · rintro ⟨rfl, -⟩
        rfl

/-- An accepted base URL is kept without slashes at its end, and is an address of the web. -/
theorem of_ofBase {base : String} {client : Client} {url : Url}
    (hb : Client.ofBase base = .ok client) (hp : Url.parse base = .ok url) :
    client.baseUrl = Client.withoutSlashes base ∧ (url.scheme = "http" ∨ url.scheme = "https") := by
  obtain ⟨rfl, read, hread, host, -, hscheme⟩ := (ofBase_eq_ok_iff base client).1 hb
  obtain rfl := Except.ok.inj (hp.symm.trans hread)
  exact ⟨rfl, hscheme.symm.imp_left And.left⟩

/-! ### Kept texts -/

theorem withoutSlashes_toList (text : String) :
    ∃ n, text.toList = (Client.withoutSlashes text).toList ++ List.replicate n '/' := by
  refine ⟨(text.toList.reverse.takeWhile (· == '/')).length, ?_⟩
  have hr : text.toList.reverse.takeWhile (· == '/') =
      List.replicate (text.toList.reverse.takeWhile (· == '/')).length '/' :=
    List.eq_replicate_iff.2 ⟨rfl, fun c hc => by simpa using Url.of_mem_takeWhile hc⟩
  rw [Client.withoutSlashes, String.toList_ofList, ← List.reverse_replicate, ← hr,
    ← List.reverse_append, List.takeWhile_append_dropWhile, List.reverse_reverse]

theorem isPrinted_slashes (n : Nat) : Url.IsPrinted (List.replicate n '/') := by
  intro c hc
  rw [(List.mem_replicate.1 hc).2]
  decide

/-- The text of an accepted base URL in its parts. The client keeps what is left of them when the
slashes at the end are taken away. -/
structure BaseParts (base : String) (client : Client) (url : Url) where
  stem : Url.Stem
  /-- The query and the fragment. -/
  tail : List Char
  /-- The blanks at the end. -/
  dropped : List Char
  slashes : Nat
  authority : Url.Authority
  rest : List Char
  isWeb : stem.IsWeb
  endsPath : Url.EndsPath tail
  isLow : ∀ c ∈ dropped, Url.IsLow c
  readAuthority : Url.readAuthority stem.scheme stem.authority [] = .ok (authority, rest)
  url_eq : url = stem.urlWith authority tail
  kept : stem.Kept tail dropped slashes (Url.lead client.baseUrl.toList)
  endsPrinted : Url.EndsPrinted base.toList ↔ dropped = []

/-- **An accepted base URL has these parts.** -/
theorem nonempty_baseParts {base : String} {client : Client} {url : Url}
    (hb : Client.ofBase base = .ok client) (hp : Url.parse base = .ok url) :
    Nonempty (BaseParts base client url) := by
  obtain ⟨hk, hw⟩ := of_ofBase hb hp
  have hread : Url.readCleaned (Url.cleaned base.toList) = .ok url := hp
  obtain ⟨s, tail, htext, htail, hscheme⟩ := Url.Stem.exists_of_read hread hw
  have hweb : s.IsWeb := by
    rw [Url.Stem.IsWeb, hscheme]
    exact hw
  obtain ⟨dropped, hlead, hlow⟩ := Url.lead_eq_cleaned base.toList
  obtain ⟨n, hn⟩ := withoutSlashes_toList base
  rw [← hk] at hn
  have hkept : s.Kept tail dropped n (Url.lead client.baseUrl.toList) := by
    apply s.exists_kept htail hlow
    rw [← Url.lead_append _ (isPrinted_slashes n), ← hn, hlead, htext, List.append_assoc]
  have hne : Url.cleaned base.toList ≠ [] := by simp [htext, Url.Stem.text]
  rw [htext, s.read_append hweb htail] at hread
  cases ha : Url.readAuthority s.scheme s.authority [] with
  | error cause =>
    rw [ha] at hread
    cases hread
  | ok a =>
    rw [ha] at hread
    cases hread
    exact ⟨⟨s, tail, dropped, n, a.1, a.2, hweb, htail, hlow, ha, rfl, hkept,
      Url.endsPrinted_iff hlead hlow hne⟩⟩

namespace BaseParts

variable {base path : String} {client : Client} {url : Url} (p : BaseParts base client url)

theorem origin_eq : url.origin = ⟨p.stem.scheme, p.authority.host, p.authority.port⟩ :=
  congrArg Url.origin p.url_eq

theorem front_eq : url.front = (p.stem.scheme, p.authority) :=
  congrArg Url.front p.url_eq

theorem path_eq : url.path = .segments (Url.readSegments true p.stem.path) :=
  congrArg Url.path p.url_eq

theorem query_eq : url.query = (Url.readTail true p.tail).1 :=
  congrArg Url.query p.url_eq

theorem fragment_eq : url.fragment = (Url.readTail true p.tail).2 :=
  congrArg Url.fragment p.url_eq

/-- Without a query and a fragment nothing comes behind the stem. -/
theorem tail_eq_nil (hq : url.query = none) (hf : url.fragment = none) : p.tail = [] := by
  rw [p.query_eq] at hq
  rw [p.fragment_eq] at hf
  exact Url.eq_nil_of_readTail true p.endsPath (Prod.ext hq hf)

end BaseParts

/-- The text that counts of a base URL is a stem. -/
theorem exists_stem {base : String} {client : Client} {url : Url}
    (hb : Client.ofBase base = .ok client) (hp : Url.parse base = .ok url)
    (hq : url.query = none) (hf : url.fragment = none) :
    ∃ s : Url.Stem, s.text = Url.lead client.baseUrl.toList ∧ s.IsWeb := by
  obtain ⟨parts⟩ := nonempty_baseParts hb hp
  have hnil := parts.tail_eq_nil hq hf
  cases parts.kept with
  | tail mark rest rest' htail hcs => cases htail.symm.trans hnil
  | path t htail hcs hscheme hauthority hpath =>
    refine ⟨t, hcs.symm, ?_⟩
    rw [Url.Stem.IsWeb, hscheme]
    exact parts.isWeb
  | host htail hpath hdropped hcs =>
    exact ⟨parts.stem.widened parts.isLow, (Url.Stem.widened_text hpath parts.isLow).trans hcs.symm,
      parts.isWeb⟩

/-! ### Texts behind the kept one -/

/-- **What a path below a base URL is read as.** -/
theorem parse_below {s : Url.Stem} {kept text : String} {rest : List Char}
    (hs : s.text = Url.lead kept.toList) (hw : s.IsWeb) (ht : text.toList = '/' :: rest)
    (hprinted : Url.IsPrinted rest) (hends : ∀ c ∈ rest, Url.endsPath c = false) :
    Url.parse (kept ++ text) =
      (Url.readAuthority s.scheme s.authority []).map fun a => (s.below rest hends).url a.1 := by
  have hslash : Url.IsPrinted ('/' :: rest) := by
    intro c hc
    rcases List.mem_cons.1 hc with rfl | hc
    · decide
    · exact hprinted c hc
  have hbelow : (s.below rest hends).IsWeb := hw
  rw [Url.parse, Url.read_eq, String.toList_append, ht,
    Url.cleaned_append _ hslash (List.cons_ne_nil _ _), ← hs, ← s.below_text rest hends]
  exact (s.below rest hends).read hbelow

/-- What the folder of a base URL is read as. -/
theorem parse_folder {s : Url.Stem} {kept : String} (hs : s.text = Url.lead kept.toList)
    (hw : s.IsWeb) : Url.parse (kept ++ "/") =
      (Url.readAuthority s.scheme s.authority []).map fun a => (s.below [] nofun).url a.1 :=
  parse_below hs hw (by rfl) (by nofun) (by nofun)

/-! ### Requests -/

/-- Sending the user as a header changes nothing else of a URL. -/
theorem splitUser_fst (url : Url) : ∃ username password,
    (Client.splitUser url).1 = { url with username, password } := by
  unfold Client.splitUser
  split
  · exact ⟨_, _, rfl⟩
  · exact ⟨_, _, rfl⟩

/-- A credential that can be sent: it is not blank, and can be the value of a header. -/
structure IsUsable (credential : String) : Prop where
  not_blank : (trimmed credential).isEmpty = false
  isHeaderValue : Http.isHeaderValue ("Bearer " ++ trimmed credential) = true

/-- The request with a usable credential, once its URL is read. -/
theorem request_of_isUsable {credential : String} (h : IsUsable credential) (client : Client)
    (method path : String) :
    client.request method path credential =
      match Url.parse (client.baseUrl ++ path) with
      | .error _ => .error .transport
      | .ok url => .ok {
          method := method
          url := (Client.splitUser url).1
          headers := (Client.splitUser url).2 ++
            [("user-agent", userAgent), ("authorization", "Bearer " ++ trimmed credential)]
          body := "" } := by
  have hb : ¬(trimmed credential).isEmpty = true := Bool.eq_false_iff.1 h.not_blank
  unfold Client.request
  dsimp only
  rw [if_neg hb]
  cases Url.parse (client.baseUrl ++ path) with
  | error cause => rfl
  | ok url => exact if_pos h.isHeaderValue

/-- The request for a call with a usable credential, once its URL is read. -/
theorem requestFor_of_isUsable {credential : String} (h : IsUsable credential) (client : Client)
    (call : Call) :
    client.requestFor credential call =
      match Url.parse (client.baseUrl ++ call.path) with
      | .error _ => .error .transport
      | .ok url =>
        if Http.urlLimit < (Client.splitUser url).1.text.utf8ByteSize then .error .transport
        else .ok (withPayload {
          method := call.method
          url := (Client.splitUser url).1
          headers := (Client.splitUser url).2 ++
            [("user-agent", userAgent), ("authorization", "Bearer " ++ trimmed credential)]
          body := "" } call.payload?) := by
  unfold Client.requestFor
  rw [request_of_isUsable h]
  cases Url.parse (client.baseUrl ++ call.path) with
  | error cause => rfl
  | ok url =>
    simp only [bind, Except.bind, throw, throwThe, MonadExceptOf.throw]
    split
    · rfl
    · rfl

theorem eq_ok_of_toOption {ε α : Type} {result : Except ε α} {a : α}
    (h : result.toOption = some a) : result = .ok a := by
  cases result with
  | error => cases h
  | ok => cases h; rfl

end McpConsole.Api

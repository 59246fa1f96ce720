import McpConsole.Api.Call
import McpConsole.Proofs.Api.Base
import McpConsole.Proofs.Url.PathText

/-!
# The endpoint of a base URL

Which base URLs lead to the servers. Of a base URL only the scheme and the host are checked, and the
path of the servers is put behind its text. `endpoint_iff` says for which of the accepted base URLs
the request goes to the path of the base URL with the path of the servers behind it. A query and a
fragment swallow what is put behind them. Blanks at the end do not count as long as the base URL is
read by itself, but do when it is continued (`BaseParts.folder_eq_iff`). And only slashes at the end
of the text are taken away, so that the path may still end with an empty segment, which a backslash
leaves, or points, or a line break behind a slash.
-/

namespace McpConsole.Api

open McpConsole.Text

/-- A URL leads to the servers below another one: its path is that of the other without slashes at
the end, and the path of the servers, of which there is nothing in the query and the fragment. -/
structure IsEndpoint (read url : Url) : Prop where
  path : read.path.text = Client.withoutSlashes url.path.text ++ serversPath
  query : read.query = url.query
  fragment : read.fragment = url.fragment

/-- The folder that the kept base URL names does not end with an empty segment. -/
def Client.HasPlainFolder (client : Client) : Prop :=
  ∀ folder, Url.parse (client.baseUrl ++ "/") = .ok folder →
    ¬['/', '/'] <:+ folder.path.text.toList

/-! ### Slashes at the end -/

theorem withoutSlashes_eq {text : String} {cs : List Char} {n : Nat}
    (h : text.toList = cs ++ List.replicate n '/') (hl : cs.getLast? ≠ some '/') :
    (Client.withoutSlashes text).toList = cs := by
  rw [Client.withoutSlashes, String.toList_ofList, h, List.reverse_append, List.reverse_replicate,
    Url.dropWhile_append_stop, List.reverse_reverse]
  · intro c hc
    simp [(List.mem_replicate.1 hc).2]
  · intro c hc
    rw [List.head?_reverse] at hc
    refine beq_eq_false_iff_ne.2 ?_
    rintro rfl
    exact hl hc

theorem withoutSlashes_getLast? (text : String) :
    (Client.withoutSlashes text).toList.getLast? ≠ some '/' := by
  intro h
  rw [Client.withoutSlashes, String.toList_ofList, List.getLast?_reverse] at h
  have hn := List.head?_dropWhile_not (· == '/') text.toList.reverse
  rw [h] at hn
  cases hn

theorem length_withoutSlashes_le (text : String) :
    (Client.withoutSlashes text).toList.length ≤ text.toList.length := by
  obtain ⟨n, hn⟩ := withoutSlashes_toList text
  rw [hn, List.length_append]
  exact Nat.le_add_right _ _

/-- Two slashes end a text with a slash behind it just when one ends the text. -/
theorem slashes_suffix_iff (cs : List Char) :
    ['/', '/'] <:+ cs ++ ['/'] ↔ cs.getLast? = some '/' := by
  constructor
  · rintro ⟨front, h⟩
    have hsplit : front ++ ['/'] ++ ['/'] = cs ++ ['/'] := by simpa using h
    rw [← (List.append_inj' hsplit rfl).1, List.getLast?_concat]
  · intro h
    obtain ⟨front, rfl⟩ := List.getLast?_eq_some_iff.1 h
    exact ⟨front, by simp⟩

/-! ### The path of the servers -/

/-- What comes behind the base URL and a slash. -/
def serversText : List Char :=
  "v1/mcp/server".toList

theorem serversPath_toList : serversPath.toList = '/' :: serversText := rfl

theorem isPrinted_serversPath : Url.IsPrinted serversPath.toList := by
  have h : (serversPath.toList.all fun c => 0x20 < c.toNat) = true := by decide
  intro c hc
  simpa using List.all_eq_true.1 h c hc

theorem endsPath_serversText : ∀ c ∈ serversText, Url.endsPath c = false := by
  have h : (serversText.all fun c => !Url.endsPath c) = true := by decide
  intro c hc
  simpa using List.all_eq_true.1 h c hc

theorem servers_segments (places : List (List Char)) :
    Url.resolve places (Url.piecesFrom true [] serversText) =
      places.reverse ++ ["v1".toList, "mcp".toList, "server".toList] := by
  have h : Url.resolve places (Url.piecesFrom true [] serversText) =
      ("server".toList :: "mcp".toList :: "v1".toList :: places).reverse := rfl
  rw [h]
  simp

/-- No path ends with the path of the servers and is the same without it. -/
theorem ne_append_serversPath (text : String) :
    text ≠ Client.withoutSlashes text ++ serversPath := by
  intro h
  obtain ⟨n, hn⟩ := withoutSlashes_toList text
  have hlist := congrArg String.toList h
  rw [String.toList_append, hn] at hlist
  have hslash : 'v' ∈ List.replicate n '/' := by
    rw [List.append_cancel_left hlist]
    decide
  cases (List.mem_replicate.1 hslash).2

/-! ### Requests -/

section Request

variable {base credential method : String} {client : Client} {url : Url} {s : Url.Stem}

/-- There is an endpoint if the URL of the request is one. -/
theorem exists_isEndpoint_iff (hc : IsUsable credential) :
    (∃ request, client.request method serversPath credential = .ok request ∧
        IsEndpoint request.url url) ↔
      ∃ read, Url.parse (client.baseUrl ++ serversPath) = .ok read ∧ IsEndpoint read url := by
  rw [request_of_isUsable hc]
  cases Url.parse (client.baseUrl ++ serversPath) with
  | error cause => simp
  | ok read =>
    obtain ⟨username, password, hu⟩ := splitUser_fst read
    constructor
    · rintro ⟨request, ⟨⟩, hpath, hquery, hfragment⟩
      rw [hu] at hpath hquery hfragment
      exact ⟨read, rfl, hpath, hquery, hfragment⟩
    · rintro ⟨_, ⟨⟩, hpath, hquery, hfragment⟩
      refine ⟨_, rfl, ?_, ?_, ?_⟩ <;> rw [hu] <;> assumption

/-- The path of the servers behind a stem. -/
theorem parse_serversPath (hs : s.text = Url.lead client.baseUrl.toList) (hw : s.IsWeb) :
    Url.parse (client.baseUrl ++ serversPath) =
      (Url.readAuthority s.scheme s.authority []).map fun a =>
        { s.url a.1 with path := .segments ((s.places.reverse ++
            ["v1".toList, "mcp".toList, "server".toList]).map String.ofList) } := by
  have hprinted : Url.IsPrinted serversText := fun c hc =>
    isPrinted_serversPath c (List.mem_cons_of_mem _ hc)
  rw [parse_below hs hw serversPath_toList hprinted endsPath_serversText, ← servers_segments,
    ← s.below_segments]
  rfl

/-- The path of the folder of a stem. -/
theorem hasPlainFolder_iff (hs : s.text = Url.lead client.baseUrl.toList) (hw : s.IsWeb)
    {a : Url.Authority × List Char} (ha : Url.readAuthority s.scheme s.authority [] = .ok a) :
    client.HasPlainFolder ↔ (Url.pathText s.places.reverse).getLast? ≠ some '/' := by
  have hfolder := parse_folder hs hw
  rw [ha] at hfolder
  have htext : ((s.below [] (List.forall_mem_nil _)).url a.1).path.text.toList =
      Url.pathText s.places.reverse ++ ['/'] := by
    have hpath : ((s.below [] (List.forall_mem_nil _)).url a.1).path =
        .segments ((s.places.reverse ++ [[]]).map String.ofList) := by
      rw [List.map_append]
      exact congrArg Url.Route.segments s.folder_segments
    rw [hpath, Url.segments_text, Url.pathText_append]
    rfl
  unfold Client.HasPlainFolder
  rw [hfolder]
  constructor
  · intro h hlast
    apply h _ rfl
    rw [htext]
    exact (slashes_suffix_iff _).2 hlast
  · rintro h folder ⟨⟩ hsuffix
    rw [htext] at hsuffix
    exact h ((slashes_suffix_iff _).1 hsuffix)

end Request

/-! ### Kept texts -/

namespace BaseParts

variable {base : String} {client : Client} {url : Url} (p : BaseParts base client url)

/-- A query or a fragment swallows the path of the servers. -/
theorem not_endpoint_of_tail {mark : Char} {rest rest' : List Char} (htail : p.tail = mark :: rest)
    (hcs : Url.lead client.baseUrl.toList = p.stem.text ++ mark :: rest') :
    (¬∃ read, Url.parse (client.baseUrl ++ serversPath) = .ok read ∧ IsEndpoint read url) ∧
      ¬(url.query = none ∧ url.fragment = none) := by
  have hends : Url.EndsPath (mark :: rest) := htail ▸ p.endsPath
  constructor
  · rintro ⟨read, hread, hpath, -, -⟩
    have hends' : Url.EndsPath (mark :: (rest' ++ serversPath.toList)) := hends
    rw [Url.parse, Url.read_eq, String.toList_append,
      Url.cleaned_append _ isPrinted_serversPath (by decide), hcs, List.append_assoc,
      List.cons_append, p.stem.read_append p.isWeb hends', p.readAuthority] at hread
    cases hread
    -- the path is that of the base URL, and nothing is behind it
    have hsame : (p.stem.urlWith p.authority (mark :: (rest' ++ serversPath.toList))).path =
        url.path := p.path_eq.symm
    rw [hsame] at hpath
    exact ne_append_serversPath _ hpath
  · rw [p.query_eq, p.fragment_eq, htail]
    rintro ⟨hquery, hfragment⟩
    cases Url.eq_nil_of_readTail true hends (Prod.ext hquery hfragment)

/-- Where the path comes last, the path of the servers is put behind its folder. -/
theorem endpoint_iff_of_path {t : Url.Stem} (htail : p.tail = [])
    (hcs : Url.lead client.baseUrl.toList = t.text) (hweb : t.IsWeb)
    (ha : Url.readAuthority t.scheme t.authority [] = .ok (p.authority, p.rest)) :
    (∃ read, Url.parse (client.baseUrl ++ serversPath) = .ok read ∧ IsEndpoint read url) ↔
      Url.pathText t.places.reverse = (Client.withoutSlashes url.path.text).toList := by
  have htext : (Url.Route.segments ((t.places.reverse ++
      ["v1".toList, "mcp".toList, "server".toList]).map String.ofList)).text.toList =
      Url.pathText t.places.reverse ++ serversPath.toList := by
    rw [Url.segments_text, Url.pathText_append]
    rfl
  rw [parse_serversPath hcs.symm hweb, ha]
  constructor
  · rintro ⟨_, ⟨⟩, hpath, -, -⟩
    have hlist := congrArg String.toList hpath
    rw [htext, String.toList_append] at hlist
    exact List.append_cancel_right hlist
  · intro h
    refine ⟨_, rfl, ?_, ?_, ?_⟩
    · apply String.toList_injective
      rw [htext, h, String.toList_append]
    · rw [p.query_eq, htail]
      rfl
    · rw [p.fragment_eq, htail]
      rfl

/-- The folder is the path of the base URL without slashes at the end, just when no blanks come behind
the path and the folder does not end with an empty segment. -/
theorem folder_eq_iff {t : Url.Stem}
    (hpath : p.stem.path ++ p.dropped = t.path ++ List.replicate p.slashes '/') :
    Url.pathText t.places.reverse = (Client.withoutSlashes url.path.text).toList ↔
      Url.EndsPrinted base.toList ∧ (Url.pathText t.places.reverse).getLast? ≠ some '/' := by
  rw [p.endsPrinted]
  by_cases hd : p.dropped = []
  · rw [hd, List.append_nil] at hpath
    obtain ⟨k, htext⟩ := Url.Stem.path_text hpath
    rw [← p.path_eq] at htext
    constructor
    · intro h
      refine ⟨hd, ?_⟩
      rw [h]
      exact withoutSlashes_getLast? _
    · rintro ⟨-, hl⟩
      exact (withoutSlashes_eq htext hl).symm
  · -- the blanks are a part of the folder, and make it longer than the path
    have hlt := Url.Stem.length_path_lt hpath p.isLow hd
    rw [← p.path_eq] at hlt
    have hle := length_withoutSlashes_le url.path.text
    constructor
    · intro h
      rw [h] at hlt
      exact absurd hle (Nat.not_le_of_lt hlt)
    · rintro ⟨hnil, -⟩
      exact absurd hnil hd

end BaseParts

/-- **Which base URLs lead to the servers**, of those that are accepted: the ones without a query and
a fragment and without blanks at the end, whose folder does not end with an empty segment. -/
theorem endpoint_iff {base credential : String} {client : Client} {url : Url}
    (hb : Client.ofBase base = .ok client) (hp : Url.parse base = .ok url)
    (hc : IsUsable credential) (method : String) :
    (∃ request, client.request method serversPath credential = .ok request ∧
        IsEndpoint request.url url) ↔
      url.query = none ∧ url.fragment = none ∧ Url.EndsPrinted base.toList ∧
        client.HasPlainFolder := by
  obtain ⟨parts⟩ := nonempty_baseParts hb hp
  rw [exists_isEndpoint_iff hc]
  cases parts.kept with
  | tail mark rest rest' htail hcs =>
    obtain ⟨hno, hnone⟩ := parts.not_endpoint_of_tail htail hcs
    exact ⟨fun h => absurd h hno, fun h => absurd ⟨h.1, h.2.1⟩ hnone⟩
  | path t htail hcs hscheme hauthority hpath =>
    have hweb : t.IsWeb := by
      rw [Url.Stem.IsWeb, hscheme]
      exact parts.isWeb
    have ha := parts.readAuthority
    rw [← hscheme, ← hauthority] at ha
    have hquery : url.query = none := by
      rw [parts.query_eq, htail]
      rfl
    have hfragment : url.fragment = none := by
      rw [parts.fragment_eq, htail]
      rfl
    rw [parts.endpoint_iff_of_path htail hcs hweb ha, parts.folder_eq_iff hpath,
      hasPlainFolder_iff hcs.symm hweb ha]
    simp [hquery, hfragment]
  | host htail hpath hdropped hcs =>
    constructor
    · rintro ⟨read, hread, -⟩
      rw [Url.parse, Url.read_eq, String.toList_append,
        Url.cleaned_append _ isPrinted_serversPath (by decide), hcs, serversPath_toList] at hread
      obtain ⟨cause, he⟩ := Url.Stem.read_host parts.isWeb hpath parts.isLow hdropped serversText
      cases he.symm.trans hread
    · rintro ⟨-, -, hends, -⟩
      exact absurd (parts.endsPrinted.1 hends) hdropped

/-- A base URL with a path leads to the servers below the path. -/
theorem endpoint_iff_folder : ∃ request,
    (Client.mk "https://x.dev/litellm").request "GET" serversPath "token" = .ok request ∧
      IsEndpoint request.url ⟨"https", "", "", some (.domain "x.dev"), none,
        .segments ["litellm", ""], none, none⟩ := by
  have hb : Client.ofBase "https://x.dev/litellm/" = .ok ⟨"https://x.dev/litellm"⟩ :=
    eq_ok_of_toOption (by decide +kernel)
  have hp : Url.parse "https://x.dev/litellm/" = .ok ⟨"https", "", "", some (.domain "x.dev"), none,
      .segments ["litellm", ""], none, none⟩ := eq_ok_of_toOption (by decide +kernel)
  have hc : IsUsable "token" := ⟨by decide, by decide⟩
  refine (endpoint_iff hb hp hc "GET").2 ⟨rfl, rfl, by decide, fun folder hfolder => ?_⟩
  obtain rfl := Except.ok.inj (hp.symm.trans hfolder)
  decide

/-- **Accepted base URLs may lead nowhere.** With a blank at the end there is no request, and with a
query the path of the servers is a part of the query. -/
theorem endpoint_lost :
    ((Client.ofBase "https://x.dev ").toOption.map fun client =>
      (client.request "GET" serversPath "sk").toOption.map Http.Request.target) = some none ∧
    ((Client.ofBase "https://x.dev?team=a").toOption.map fun client =>
      (client.request "GET" serversPath "sk").toOption.map Http.Request.target) =
        some (some "/?team=a/v1/mcp/server") := by
  decide +kernel

end McpConsole.Api

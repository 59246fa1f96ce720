import McpConsole.Api.Call
import McpConsole.Proofs.Api.Base

/-!
# Requests that delete

Which server a request to delete addresses. The identifier is written as the last segment of the
path, with the characters encoded that a segment cannot have. Two things are not encoded, but are
no segment: a backslash, which parts segments as a slash does, and the two identifiers made of one
or two points, which are followed. `IsPlainId` leaves them out, and `delete_addresses` says that an
identifier is addressed if and only if it is plain. Plain identifiers are told apart by what is
requested; `delete_addresses_another` has two identifiers with the same target.

What is below a base URL is below the folder that its text names when a slash is put behind it.
`Client.IsBelow` says that this is the base URL itself, which only blanks at its end prevent.
-/

namespace McpConsole.Api

open McpConsole.Text

/-! ### Identifiers -/

/-- An identifier that stands for itself in a path. -/
def IsPlainId (id : String) : Prop :=
  '\\' ∉ id.toList ∧ id ≠ "." ∧ id ≠ ".."

instance (id : String) : Decidable (IsPlainId id) :=
  inferInstanceAs (Decidable (_ ∧ _ ∧ _))

/-- An identifier as it is written in a path. -/
def idText (id : String) : List Char :=
  Url.encode Url.isEncodedInSegment id.toList

/-- What an identifier is written with: neither what a path encodes nor a slash, and no backslash
of its own. -/
theorem of_mem_idText {id : String} {c : Char} (h : c ∈ idText id) :
    c.toNat < 0x80 ∧ 0x20 < c.toNat ∧ Url.isEncodedInPath c = false ∧ c ≠ '/' ∧
      (c = '\\' → '\\' ∈ id.toList) := by
  have digits : ∀ n < 16, (Url.hexDigit n).toNat < 0x80 ∧ 0x20 < (Url.hexDigit n).toNat ∧
      Url.isEncodedInPath (Url.hexDigit n) = false ∧ Url.hexDigit n ≠ '/' ∧
      Url.hexDigit n ≠ '\\' := by decide
  obtain ⟨hm, hlt, he⟩ | rfl | ⟨n, hn, rfl⟩ := Url.mem_encode h
  · simp only [Url.isEncodedInSegment, Bool.or_eq_false_iff, beq_eq_false_iff_ne] at he
    obtain ⟨⟨hp, -⟩, hs⟩ := he
    exact ⟨hlt, Url.lt_toNat_of_isEncodedInPath hp, hp, hs, fun hb => hb ▸ hm⟩
  · exact ⟨by decide, by decide, by decide, by decide, nofun⟩
  · obtain ⟨h1, h2, h3, h4, h5⟩ := digits n hn
    exact ⟨h1, h2, h3, h4, fun hb => absurd hb h5⟩

theorem isPrinted_idText (id : String) : Url.IsPrinted (idText id) := fun _ hc =>
  (of_mem_idText hc).2.1

theorem encode_idText {id : String} {cs : List Char} (h : ∀ c ∈ cs, c ∈ idText id) :
    Url.encode Url.isEncodedInPath cs = cs :=
  Url.encode_eq_self fun c hc => ⟨(of_mem_idText (h c hc)).1, (of_mem_idText (h c hc)).2.2.1⟩

/-- The octets of an identifier are read back from what is written. -/
theorem decode_idText (id : String) :
    Url.decode (idText id) = id.toList.flatMap String.utf8EncodeChar :=
  Url.decode_encode rfl id.toList

theorem backslash_mem_idText {id : String} (h : '\\' ∈ id.toList) : '\\' ∈ idText id :=
  List.mem_flatMap.2 ⟨'\\', h, by decide⟩

/-- What comes behind the base URL and a slash. -/
def deletionText (id : String) : List Char :=
  "v1/mcp/server/".toList ++ idText id

theorem serverPath_toList (id : String) : (serverPath id).toList = '/' :: deletionText id := by
  simp only [serverPath, serversPath, String.toList_append, String.toList_ofList]
  rfl

theorem isPrinted_deletionText (id : String) : Url.IsPrinted (deletionText id) := by
  intro c hc
  rcases List.mem_append.1 hc with hc | hc
  · have h : ("v1/mcp/server/".toList.all fun c => 0x20 < c.toNat) = true := by decide
    simpa using List.all_eq_true.1 h c hc
  · exact isPrinted_idText id c hc

theorem endsPath_deletionText (id : String) : ∀ c ∈ deletionText id, Url.endsPath c = false := by
  intro c hc
  rcases List.mem_append.1 hc with hc | hc
  · have h : ("v1/mcp/server/".toList.all fun c => !Url.endsPath c) = true := by decide
    simpa using List.all_eq_true.1 h c hc
  · have he := (of_mem_idText hc).2.2.1
    simp only [Url.isEncodedInPath, Bool.or_eq_false_iff, List.contains_cons,
      beq_eq_false_iff_ne] at he
    obtain ⟨-, h1, h2, -⟩ := he
    simp [Url.endsPath, h1, h2]

/-! ### Segments -/

/-- The segments of a request to delete below a folder. -/
def deletionSegments (places : List (List Char)) (id : String) : List (List Char) :=
  Url.resolve places (Url.piecesFrom true [] (deletionText id))

/-- The pieces of the identifier come after those of the path of all servers. -/
theorem deletionSegments_eq (places : List (List Char)) (id : String) :
    deletionSegments places id =
      Url.resolve ("server".toList :: "mcp".toList :: "v1".toList :: places)
        (Url.piecesFrom true [] (idText id)) := by
  have hp : Url.piecesFrom true [] (deletionText id) =
      ["v1".toList, "mcp".toList, "server".toList] ++ Url.piecesFrom true [] (idText id) := rfl
  rw [deletionSegments, hp, Url.resolve_append _ _ (Url.piecesFrom_ne_nil _ _ _)]
  rfl

/-- **A plain identifier is a segment of its own.** -/
theorem deletionSegments_of_isPlainId (places : List (List Char)) {id : String}
    (h : IsPlainId id) :
    deletionSegments places id =
      places.reverse ++ ["v1".toList, "mcp".toList, "server".toList, idText id] := by
  obtain ⟨hb, h1, h2⟩ := h
  have hs : ∀ c ∈ idText id, Url.isSlash true c = false := by
    intro c hc
    obtain ⟨-, -, -, hs, hbc⟩ := of_mem_idText hc
    have hn : c ≠ '\\' := fun he => hb (hbc he)
    simp [Url.isSlash, hs, hn]
  have hd : Url.isDoubleDot (idText id) = false :=
    Bool.eq_false_iff.2 fun hd => h2 (Url.isDoubleDot_encode rfl hd)
  have hd' : Url.isSingleDot (idText id) = false :=
    Bool.eq_false_iff.2 fun hd => h1 (Url.isSingleDot_encode rfl hd)
  rw [deletionSegments_eq, Url.piecesFrom_of_noSlash hs, List.nil_append, Url.resolve_singleton, hd,
    hd', encode_idText fun _ hc => hc]
  simp

theorem eq_empty_of_decode_nil {id : String}
    (h : Url.textOfOctets? (Url.decode []) = some id) : id = "" := by
  rw [Url.decode] at h
  exact Option.some.inj (h.symm.trans (Url.textOfOctets?_utf8 ""))

/-- The last segment never stands for an identifier with a backslash. -/
theorem backslash_notMem_of_decode {places front : List (List Char)} {id : String}
    {last : List Char} (h : deletionSegments places id = front ++ [last])
    (hd : Url.textOfOctets? (Url.decode last) = some id) : '\\' ∉ id.toList := by
  intro hb
  obtain ⟨before, after, he, hn⟩ := Url.exists_last_of_mem (backslash_mem_idText hb)
  have hmem : ∀ c ∈ after, c ∈ idText id := fun c hc => by simp [he, hc]
  have hs : ∀ c ∈ after, Url.isSlash true c = false := by
    intro c hc
    have h1 := (of_mem_idText (hmem c hc)).2.2.2.1
    have h2 : c ≠ '\\' := by rintro rfl; exact hn hc
    simp [Url.isSlash, h1, h2]
  rw [deletionSegments_eq, he, Url.piecesFrom_append rfl, Url.piecesFrom_of_noSlash hs,
    List.nil_append] at h
  rcases Url.resolve_last h with rfl | rfl
  · rw [eq_empty_of_decode_nil hd] at hb
    simp at hb
  · -- the last piece is shorter than the identifier, which has a backslash before it
    rw [encode_idText hmem] at hd
    have ho := Url.eq_utf8_of_textOfOctets? hd
    rw [← decode_idText, he, Url.decode_append_cons (by decide) (by decide)] at ho
    have hlen := congrArg List.length ho
    simp only [List.length_append, String.length_utf8EncodeChar] at hlen
    have := Char.utf8Size_pos '\\'
    omega

/-- The last segment never stands for an identifier that is not plain. -/
theorem isPlainId_of_decode {places front : List (List Char)} {id : String} {last : List Char}
    (h : deletionSegments places id = front ++ [last])
    (hd : Url.textOfOctets? (Url.decode last) = some id) : IsPlainId id := by
  refine ⟨backslash_notMem_of_decode h hd, ?_, ?_⟩
  · rintro rfl
    have hp : Url.piecesFrom true [] (idText ".") = [['.']] := by decide
    rw [deletionSegments_eq, hp] at h
    obtain rfl := Url.resolve_dots (by decide) h
    exact absurd (eq_empty_of_decode_nil hd) (by decide)
  · rintro rfl
    have hp : Url.piecesFrom true [] (idText "..") = [['.', '.']] := by decide
    rw [deletionSegments_eq, hp] at h
    obtain rfl := Url.resolve_dots (by decide) h
    exact absurd (eq_empty_of_decode_nil hd) (by decide)

/-! ### Base URLs -/

/-- What a client requests is below a URL: the folder that the kept base URL names has its host,
and its path but for slashes at the end. -/
def Client.IsBelow (client : Client) (url : Url) : Prop :=
  ∃ folder root slashes, Url.parse (client.baseUrl ++ "/") = .ok folder ∧
    folder.scheme = url.scheme ∧ folder.host = url.host ∧ folder.port = url.port ∧
    folder.path = .segments (root ++ [""]) ∧
    url.path = .segments (root ++ List.replicate slashes "")

/-- **A base URL that does not end with a blank is what requests are below.** -/
theorem isBelow_of_last {base : String} {client : Client} {url : Url}
    (hb : Client.ofBase base = .ok client) (hp : Url.parse base = .ok url)
    (hq : url.query = none) (hf : url.fragment = none)
    (hl : ∀ c ∈ base.toList.getLast?, 0x20 < c.toNat) : client.IsBelow url := by
  obtain ⟨parts⟩ := nonempty_baseParts hb hp
  have hnil := parts.tail_eq_nil hq hf
  have hdropped := parts.endsPrinted.1 (Url.endsPrinted_of_last hl)
  cases parts.kept with
  | tail mark rest rest' htail hcs => cases htail.symm.trans hnil
  | host htail hpath hne hcs => exact absurd hdropped hne
  | path t htail hcs hscheme hauthority hpath =>
    have hweb : t.IsWeb := by
      rw [Url.Stem.IsWeb, hscheme]
      exact parts.isWeb
    have hfolder := parse_folder hcs.symm hweb
    rw [hscheme, hauthority, parts.readAuthority] at hfolder
    rw [hdropped, List.append_nil] at hpath
    obtain ⟨k, hsegments⟩ := t.own_segments parts.slashes
    have horigin := parts.origin_eq
    refine ⟨_, t.places.reverse.map String.ofList, k, hfolder, ?_, ?_, ?_, ?_, ?_⟩
    · exact hscheme.trans (congrArg Url.Origin.scheme horigin).symm
    · exact (congrArg Url.Origin.host horigin).symm
    · exact (congrArg Url.Origin.port horigin).symm
    · exact congrArg Url.Route.segments t.folder_segments
    · rw [parts.path_eq, hpath, hsegments]

/-! ### Requests -/

/-- The request to delete a server, once its URL is read. -/
theorem requestFor_delete {credential : String} (h : IsUsable credential) (client : Client)
    (id : String) :
    client.requestFor credential (.delete id) =
      match Url.parse (client.baseUrl ++ serverPath id) with
      | .error _ => .error .transport
      | .ok url =>
        if Http.urlLimit < (Client.splitUser url).1.text.utf8ByteSize then .error .transport
        else .ok {
          method := "DELETE"
          url := (Client.splitUser url).1
          headers := (Client.splitUser url).2 ++
            [("user-agent", userAgent), ("authorization", "Bearer " ++ trimmed credential)] ++
            [("accept", "application/json")]
          body := "" } := by
  rw [requestFor_of_isUsable h]
  rfl

section Below

variable {credential id : String} {client : Client} {s : Url.Stem}

/-- The URL of a request to delete, where the text that counts of the base URL is a stem. -/
theorem parse_serverPath (hs : s.text = Url.lead client.baseUrl.toList) (hw : s.IsWeb)
    (id : String) :
    Url.parse (client.baseUrl ++ serverPath id) =
      (Url.readAuthority s.scheme s.authority []).map fun a =>
        { s.url a.1 with
          path := .segments ((deletionSegments s.places id).map String.ofList) } := by
  rw [parse_below hs hw (serverPath_toList id) (isPrinted_deletionText id)
    (endsPath_deletionText id), deletionSegments, ← s.below_segments]
  rfl

/-- What is requested, if it is. -/
theorem of_requestFor (hs : s.text = Url.lead client.baseUrl.toList) (hw : s.IsWeb)
    (hc : IsUsable credential) {request : Http.Request}
    (h : client.requestFor credential (.delete id) = .ok request) :
    ∃ a username password, Url.readAuthority s.scheme s.authority [] = .ok a ∧
      request.method = "DELETE" ∧
      request.url = { s.url a.1 with
        username, password
        path := .segments ((deletionSegments s.places id).map String.ofList) } := by
  rw [requestFor_delete hc, parse_serverPath hs hw] at h
  cases ha : Url.readAuthority s.scheme s.authority [] with
  | error cause =>
    rw [ha] at h
    cases h
  | ok a =>
    rw [ha] at h
    simp only [Except.map] at h
    split at h
    · cases h
    · cases h
      obtain ⟨username, password, hu⟩ := splitUser_fst { s.url a.1 with
        path := .segments ((deletionSegments s.places id).map String.ofList) }
      exact ⟨a, username, password, rfl, rfl, hu⟩

end Below

/-- A request deletes the server with an identifier below a URL: behind the path of the URL, but for
slashes at its end, and the path of all servers, there is one segment, which stands for the
identifier. -/
structure Deletes (request : Http.Request) (url : Url) (id : String) : Prop where
  method : request.method = "DELETE"
  scheme : request.url.scheme = url.scheme
  host : request.url.host = url.host
  port : request.url.port = url.port
  query : request.url.query = none
  path : ∃ root slashes segment, url.path = .segments (root ++ List.replicate slashes "") ∧
    request.url.path = .segments (root ++ ["v1", "mcp", "server", segment]) ∧
    '/' ∉ segment.toList ∧ Url.textOfOctets? (Url.decode segment.toList) = some id

/-- Whether the URL of a request to delete is short enough to be sent. -/
def Client.Fits (client : Client) (id : String) : Prop :=
  ∀ url, Url.parse (client.baseUrl ++ serverPath id) = .ok url →
    (Client.splitUser url).1.text.utf8ByteSize ≤ Http.urlLimit

theorem segments_text_append (names : List String) (last : String) :
    (Url.Route.segments (names ++ [last])).text = (Url.Route.segments names).text ++ ("/" ++ last) := by
  simp [Url.Route.text, String.join_append]

/-- Below one folder, plain identifiers have targets of their own. -/
theorem eq_of_target {credential id id' : String} {client : Client} {s : Url.Stem}
    (hs : s.text = Url.lead client.baseUrl.toList) (hw : s.IsWeb) (hc : IsUsable credential)
    {request request' : Http.Request} (hi : IsPlainId id) (hi' : IsPlainId id')
    (h : client.requestFor credential (.delete id) = .ok request)
    (h' : client.requestFor credential (.delete id') = .ok request')
    (ht : request.target = request'.target) : id = id' := by
  have target_eq {id : String} {request : Http.Request} (hi : IsPlainId id)
      (h : client.requestFor credential (.delete id) = .ok request) :
      request.target.toList = (Url.Route.segments ((s.places.reverse ++
        ["v1".toList, "mcp".toList, "server".toList]).map String.ofList)).text.toList ++
          '/' :: idText id := by
    obtain ⟨a, _, _, -, -, hu⟩ := of_requestFor hs hw hc h
    rw [Http.Request.target, Url.target, hu]
    dsimp only
    rw [deletionSegments_of_isPlainId _ hi]
    have hsplit : (s.places.reverse ++
        ["v1".toList, "mcp".toList, "server".toList, idText id]).map String.ofList =
        (s.places.reverse ++ ["v1".toList, "mcp".toList, "server".toList]).map String.ofList ++
          [String.ofList (idText id)] := by simp
    rw [hsplit, segments_text_append]
    simp [Url.marked, Url.Stem.url]
  have htext := congrArg String.toList ht
  rw [target_eq hi h, target_eq hi' h'] at htext
  have hid : idText id = idText id' := (List.cons.inj (List.append_cancel_left htext)).2
  have hd := Url.textOfOctets?_utf8 id
  rw [← decode_idText, hid, decode_idText, Url.textOfOctets?_utf8] at hd
  exact (Option.some.inj hd).symm

/-- A server is addressed by a plain identifier only, and below the folder. -/
theorem of_deletes {credential id : String} {client : Client} {s : Url.Stem} {url : Url}
    (hs : s.text = Url.lead client.baseUrl.toList) (hw : s.IsWeb) (hc : IsUsable credential)
    {request : Http.Request} (h : client.requestFor credential (.delete id) = .ok request)
    (hd : Deletes request url id) : IsPlainId id ∧ client.IsBelow url ∧ client.Fits id := by
  obtain ⟨a, username, password, ha, -, hu⟩ := of_requestFor hs hw hc h
  obtain ⟨root, slashes, segment, hurl, hpath, -, hid⟩ := hd.path
  rw [hu] at hpath
  have hnames : (deletionSegments s.places id).map String.ofList =
      (root ++ ["v1", "mcp", "server"]) ++ [segment] := by
    rw [List.append_assoc]
    exact Url.Route.segments.inj hpath
  have hplain : IsPlainId id := by
    obtain ⟨front, back, he, -, hback⟩ := List.map_eq_append_iff.1 hnames
    obtain ⟨last, rfl, hlast⟩ := List.map_eq_singleton_iff.1 hback
    rw [← hlast, String.toList_ofList] at hid
    exact isPlainId_of_decode he hid
  refine ⟨hplain, ?_, fun url' hp => ?_⟩
  · have hfolder := parse_folder hs hw
    rw [ha] at hfolder
    rw [deletionSegments_of_isPlainId _ hplain, List.map_append, List.append_assoc] at hnames
    obtain ⟨hroot, -⟩ := List.append_inj' hnames rfl
    have hscheme := hd.scheme
    have hhost := hd.host
    have hport := hd.port
    rw [hu] at hscheme hhost hport
    refine ⟨_, root, slashes, hfolder, hscheme, hhost, hport, ?_, hurl⟩
    rw [← hroot, ← s.folder_segments]
    rfl
  · rw [requestFor_delete hc, hp] at h
    dsimp only at h
    split at h
    · cases h
    · exact Nat.le_of_not_lt (by assumption)

/-- A server is addressed by a plain identifier. -/
theorem exists_deletes {credential id : String} {client : Client} {s : Url.Stem} {url : Url}
    (hs : s.text = Url.lead client.baseUrl.toList) (hw : s.IsWeb) (hc : IsUsable credential)
    (hi : IsPlainId id) (hbelow : client.IsBelow url) (hfits : client.Fits id) :
    ∃ request, client.requestFor credential (.delete id) = .ok request ∧
      Deletes request url id := by
  obtain ⟨folder, root, slashes, hf, hscheme, hhost, hport, hpath, hurl⟩ := hbelow
  rw [parse_folder hs hw] at hf
  cases ha : Url.readAuthority s.scheme s.authority [] with
  | error cause =>
    rw [ha] at hf
    cases hf
  | ok a =>
    rw [ha] at hf
    cases hf
    have hroot : root = s.places.reverse.map String.ofList := by
      have hnames := (s.folder_segments).symm.trans (Url.Route.segments.inj hpath)
      exact (List.append_inj' hnames rfl).1.symm
    have hparse := parse_serverPath hs hw id
    rw [ha] at hparse
    have hfit := hfits _ hparse
    have hreq := requestFor_delete hc client id
    rw [hparse] at hreq
    dsimp only [Except.map] at hreq
    rw [if_neg (Nat.not_lt_of_le hfit)] at hreq
    refine ⟨_, hreq, ?_⟩
    obtain ⟨a', username, password, ha', hm, hu⟩ := of_requestFor hs hw hc hreq
    rw [ha] at ha'
    cases ha'
    refine ⟨rfl, ?_, ?_, ?_, ?_, root, slashes, String.ofList (idText id), hurl, ?_, ?_, ?_⟩
    · rw [hu]; exact hscheme
    · rw [hu]; exact hhost
    · rw [hu]; exact hport
    · rw [hu]; rfl
    · rw [hu, deletionSegments_of_isPlainId _ hi, hroot]
      simp
    · rw [String.toList_ofList]
      exact fun hmem => (of_mem_idText hmem).2.2.2.1 rfl
    · rw [String.toList_ofList, decode_idText, Url.textOfOctets?_utf8]

/-- **A request to delete addresses the server that it names**, if and only if the identifier is
plain, requests are below the base URL, and the URL is short enough. So two plain identifiers never
have the same target. That requests are below the base URL is so unless it ends with a blank. -/
theorem delete_addresses {base credential : String} {client : Client} {url : Url}
    (hb : Client.ofBase base = .ok client) (hp : Url.parse base = .ok url)
    (hq : url.query = none) (hf : url.fragment = none) (hc : IsUsable credential) :
    (∀ id, (∃ request, client.requestFor credential (.delete id) = .ok request ∧
        Deletes request url id) ↔
      IsPlainId id ∧ client.IsBelow url ∧ client.Fits id) ∧
    (∀ id id' request request', IsPlainId id → IsPlainId id' →
      client.requestFor credential (.delete id) = .ok request →
      client.requestFor credential (.delete id') = .ok request' →
      request.target = request'.target → id = id') ∧
    ((∀ c ∈ base.toList.getLast?, 0x20 < c.toNat) → client.IsBelow url) := by
  obtain ⟨s, hs, hw⟩ := exists_stem hb hp hq hf
  refine ⟨fun id => ⟨?_, ?_⟩, fun id id' request request' hi hi' h h' ht =>
    eq_of_target hs hw hc hi hi' h h' ht, isBelow_of_last hb hp hq hf⟩
  · rintro ⟨request, h, hd⟩
    exact of_deletes hs hw hc h hd
  · rintro ⟨hi, hbelow, hfits⟩
    exact exists_deletes hs hw hc hi hbelow hfits

/-- An identifier with a slash is addressed on the own machine. -/
theorem delete_addresses_slash : ∃ request,
    (Client.mk "http://localhost:4000").requestFor "token" (.delete "team a/b") = .ok request ∧
      Deletes request ⟨"http", "", "", some (.domain "localhost"), some 4000, .segments [""], none,
        none⟩ "team a/b" := by
  have hb : Client.ofBase "http://localhost:4000" = .ok ⟨"http://localhost:4000"⟩ :=
    eq_ok_of_toOption (by decide +kernel)
  have hp : Url.parse "http://localhost:4000" = .ok ⟨"http", "", "", some (.domain "localhost"),
      some 4000, .segments [""], none, none⟩ := eq_ok_of_toOption (by decide +kernel)
  have hc : IsUsable "token" := ⟨by decide, by decide⟩
  have hlast : "http://localhost:4000".toList.getLast? = some '0' := by decide
  obtain ⟨hiff, -, hbelow⟩ := delete_addresses hb hp rfl rfl hc
  refine (hiff "team a/b").2 ⟨by decide, hbelow fun c h => ?_, fun url hu => ?_⟩
  · cases hlast.symm.trans h
    decide
  have hpath : Url.parse ("http://localhost:4000" ++ serverPath "team a/b") =
      .ok ⟨"http", "", "", some (.domain "localhost"), some 4000,
        .segments ["v1", "mcp", "server", "team%20a%2Fb"], none, none⟩ :=
    eq_ok_of_toOption (by decide +kernel)
  cases hpath.symm.trans hu
  decide

/-- **Deleting a server can delete another one.** Two identifiers with the same target. -/
theorem delete_addresses_another :
    ((Client.ofBase "http://127.0.0.1:4000").toOption.bind fun client =>
      (client.requestFor "sk" (.delete "x\\..\\y")).toOption.map Http.Request.target) =
        some "/v1/mcp/server/y" ∧
    ((Client.ofBase "http://127.0.0.1:4000").toOption.bind fun client =>
      (client.requestFor "sk" (.delete "y")).toOption.map Http.Request.target) =
        some "/v1/mcp/server/y" := by
  decide +kernel

end McpConsole.Api

import McpConsole.Proofs.Json.Record
import McpConsole.Server.Wire

/-!
# What is written of a server is read back

A server, details and a revision are written as records (`Server.toValue_eq` and its like), so that
reading gives every text back as it was, and a kind as its text is understood. So they come back as
they are just when their kinds are settled (`comesBack_iff_isSettled`): `.other "SSE"` is not, for
the text `SSE` means a known transport. Whatever is read is settled, because a text that means no
known kind is kept as it is (`isSettled_ofWire`), and this is the main statement, `wire_comesBack`.
-/

namespace McpConsole

open McpConsole.Json
open McpConsole.Text

/-! ### Kinds -/

/-- A transport that the text it is written as means. -/
def Transport.IsSettled (t : Transport) : Prop :=
  Transport.ofWire t.wire = t

/-- An authentication kind that the text it is written as means. -/
def Auth.IsSettled (a : Auth) : Prop :=
  Auth.ofWire a.wire = a

/-- The texts that transports are known by. -/
def Transport.names : List String :=
  ["sse", "http", "streamable_http", "streamable-http", "stdio"]

/-- The texts that authentication kinds are known by. -/
def Auth.names : List String :=
  ["", "none", "api_key", "bearer_token", "basic"]

/-- **A text that transports are not known by is kept as it is**, and any other one means a known
transport. -/
theorem Transport.ofWire_cases (text : String) :
    lowercase (trimmed text) ∈ names ∧ ofWire text ∈ choices ∨
      lowercase (trimmed text) ∉ names ∧ ofWire text = .other text := by
  unfold ofWire
  generalize lowercase (trimmed text) = name
  simp only [names, List.mem_cons, List.not_mem_nil, or_false]
  split_ifs with hsse hhttp hstdio
  · simp [hsse, choices]
  · rcases hhttp with rfl | rfl | rfl
    · simp [choices]
    · simp [choices]
    · simp [choices]
  · simp [hstdio, choices]
  · simp [hsse, hhttp, hstdio]

theorem Auth.ofWire_cases (text : String) :
    lowercase (trimmed text) ∈ names ∧ ofWire text ∈ choices ∨
      lowercase (trimmed text) ∉ names ∧ ofWire text = .other text := by
  unfold ofWire
  generalize lowercase (trimmed text) = name
  simp only [names, List.mem_cons, List.not_mem_nil, or_false]
  split_ifs with hnone hkey hbearer hbasic
  · rcases hnone with rfl | rfl
    · simp [choices]
    · simp [choices]
  · simp [hkey, choices]
  · simp [hbearer, choices]
  · simp [hbasic, choices]
  · simp [not_or.1 hnone, hkey, hbearer, hbasic]

theorem Transport.isSettled_of_mem : ∀ t ∈ choices, t.IsSettled := by
  unfold IsSettled
  decide

theorem Auth.isSettled_of_mem : ∀ a ∈ choices, a.IsSettled := by
  unfold IsSettled
  decide

/-- **The transport of a text is settled.** -/
theorem Transport.isSettled_ofWire (text : String) : (ofWire text).IsSettled := by
  rcases ofWire_cases text with ⟨-, hknown⟩ | ⟨-, hother⟩
  · exact isSettled_of_mem _ hknown
  · rw [hother]
    exact hother

/-- **The authentication kind of a text is settled.** -/
theorem Auth.isSettled_ofWire (text : String) : (ofWire text).IsSettled := by
  rcases ofWire_cases text with ⟨-, hknown⟩ | ⟨-, hother⟩
  · exact isSettled_of_mem _ hknown
  · rw [hother]
    exact hother

/-- A kind that is read is the default one or that of a text. -/
theorem Server.of_kind? {α : Type} [Inhabited α] {ofWire : String → α} {P : α → Prop}
    (hdefault : P default) (htext : ∀ text, P (ofWire text)) {field : Option Node} {kind : α}
    (h : Server.kind? ofWire field = some kind) : P kind := by
  obtain ⟨text, -, rfl⟩ := Option.map_eq_some_iff.1 h
  cases text with
  | none => exact hdefault
  | some text => exact htext text

/-! ### What is written -/

namespace Details

/-- Details with settled kinds. -/
def IsSettled (d : Details) : Prop :=
  d.transport.IsSettled ∧ d.auth.IsSettled

/-- The details with their kinds as the texts of these are understood. -/
def settled (d : Details) : Details :=
  { d with transport := .ofWire d.transport.wire, auth := .ofWire d.auth.wire }

theorem settled_eq_iff (d : Details) : d.settled = d ↔ d.IsSettled := by
  obtain ⟨name, description, transport, auth, url⟩ := d
  simp [settled, IsSettled, Transport.IsSettled, Auth.IsSettled]

/-- The fields of details. -/
def fields (d : Details) : List (String × Option String) :=
  [("alias", d.name), ("description", d.description), ("transport", some d.transport.wire),
   ("auth_type", some d.auth.wire), ("url", some d.url)]

theorem toValue_eq (d : Details) : d.toValue = .record (present d.fields) := by
  obtain ⟨name, description, transport, auth, url⟩ := d
  cases name with
  | none => cases description with
    | none => rfl
    | some description => rfl
  | some name => cases description with
    | none => rfl
    | some description => rfl

theorem nodup_fields (d : Details) : (d.fields.map Prod.fst).Nodup := by
  have hkeys : keys.Nodup := by decide
  exact hkeys

theorem ofNode?_record (d : Details) : ofNode? (.record (present d.fields)) = some d.settled := by
  have hfields : (Node.record (present d.fields)).fields? keys = some
      [d.name.map fun s => .string (some s), d.description.map fun s => .string (some s),
        some (.string (some d.transport.wire)), some (.string (some d.auth.wire)),
        some (.string (some d.url))] := by
    rw [fields?_present d.nodup_fields]
    simp [keys, fields, List.lookup_cons]
  rw [ofNode?, hfields, Option.bind_some, ofFields?]
  simp only [optionalString?_string, requiredString?, Option.bind_eq_bind, Option.bind_some,
    settled]

/-- What is read has settled kinds. -/
theorem isSettled_of_ofFields? {fields : List (Option Node)} {d : Details}
    (h : ofFields? fields = some d) : d.IsSettled := by
  unfold ofFields? at h
  split at h
  · simp only [Option.bind_eq_bind, Option.bind_eq_some_iff, Option.some.injEq] at h
    obtain ⟨name, -, description, -, transport, -, auth, -, url, -, rfl⟩ := h
    simp only [IsSettled]
    exact ⟨Transport.isSettled_ofWire transport, Auth.isSettled_ofWire auth⟩
  · cases h

end Details

namespace Revision

/-- The fields of a revision. -/
def fields (r : Revision) : List (String × Option String) :=
  ("server_id", some r.id) :: r.details.fields

theorem toValue_eq (r : Revision) : r.toValue = .record (present r.fields) := by
  have hdetails := r.details.toValue_eq
  rw [Details.toValue, Value.record, Value.object.injEq] at hdetails
  rw [toValue, hdetails]
  rfl

theorem nodup_fields (r : Revision) : (r.fields.map Prod.fst).Nodup := by
  have hkeys : ("server_id" :: Details.keys).Nodup := by decide
  exact hkeys

theorem ofNode?_record (r : Revision) :
    ofNode? (.record (present r.fields)) = some { r with details := r.details.settled } := by
  have hfields : (Node.record (present r.fields)).fields? ("server_id" :: Details.keys) = some
      [some (.string (some r.id)), r.details.name.map fun s => .string (some s),
        r.details.description.map fun s => .string (some s),
        some (.string (some r.details.transport.wire)),
        some (.string (some r.details.auth.wire)), some (.string (some r.details.url))] := by
    rw [fields?_present r.nodup_fields]
    simp [Details.keys, Details.fields, fields, List.lookup_cons]
  rw [ofNode?, hfields]
  simp only [optionalString?_string, requiredString?, Option.bind_eq_bind, Option.bind_some,
    Details.ofFields?, Details.settled]

theorem isSettled_of_ofNode? {node : Node} {r : Revision} (h : ofNode? node = some r) :
    r.details.IsSettled := by
  obtain ⟨fields, -, h⟩ := Option.bind_eq_some_iff.1 h
  cases fields with
  | nil => cases h
  | cons id fields =>
    obtain ⟨id, -, h⟩ := Option.bind_eq_some_iff.1 h
    obtain ⟨details, hdetails, h⟩ := Option.bind_eq_some_iff.1 h
    cases h
    exact Details.isSettled_of_ofFields? hdetails

end Revision

namespace Server

/-- The fields of a server. -/
def fields (s : Server) : List (String × Option String) :=
  ("server_id", some s.id) :: s.details.fields ++
    [("created_at", s.createdAt), ("updated_at", s.updatedAt), ("created_by", s.createdBy),
     ("updated_by", s.updatedBy)]

theorem toValue_eq (s : Server) : s.toValue = .record s.fields := rfl

theorem nodup_fields (s : Server) : (s.fields.map Prod.fst).Nodup := by
  have hkeys : keys.Nodup := by decide
  exact hkeys

theorem kind?_string {α : Type} [Inhabited α] (ofWire : String → α) (text : String) :
    kind? ofWire (some (.string (some text))) = some (ofWire text) := rfl

theorem ofNode?_record (s : Server) :
    ofNode? (.record s.fields) = some { s with details := s.details.settled } := by
  have hfields : (Node.record s.fields).fields? keys = some
      [some (.string (some s.id)), some (.ofOption s.details.name),
        some (.ofOption s.details.description), some (.string (some s.details.transport.wire)),
        some (.string (some s.details.auth.wire)), some (.string (some s.details.url)),
        some (.ofOption s.createdAt), some (.ofOption s.updatedAt), some (.ofOption s.createdBy),
        some (.ofOption s.updatedBy)] := by
    rw [fields?_record s.nodup_fields]
    simp [keys, Details.keys, fields, Details.fields, List.lookup_cons, Node.ofOption]
  rw [ofNode?, hfields, Option.bind_some, ofFields?]
  simp only [optionalString?_ofOption, requiredString?, stringOrEmpty?, kind?_string,
    Option.bind_eq_bind, Option.bind_some, Details.settled]

theorem isSettled_of_ofNode? {node : Node} {s : Server} (h : ofNode? node = some s) :
    s.details.IsSettled := by
  obtain ⟨fields, -, h⟩ := Option.bind_eq_some_iff.1 h
  unfold ofFields? at h
  split at h
  · simp only [Option.bind_eq_bind, Option.bind_eq_some_iff, Option.some.injEq] at h
    obtain ⟨id, -, name, -, description, -, transport, htransport, auth, hauth, url, -, _, -, _, -,
      _, -, _, -, rfl⟩ := h
    exact ⟨of_kind? (Transport.isSettled_of_mem default (by decide)) Transport.isSettled_ofWire
      htransport, of_kind? (Auth.isSettled_of_mem default (by decide)) Auth.isSettled_ofWire hauth⟩
  · cases h

end Server

/-! ### What comes back -/

/-- What is written as a value comes back: it is read from both texts of the value, and writing what
is read gives the same text again. -/
structure ComesBack {α : Type} (read? : List Char → Option α) (toValue : α → Value) (a : α) :
    Prop where
  compact : read? (toValue a).compact = some a
  indented : read? ((toValue a).indented 0) = some a
  stable : (read? (toValue a).compact).map (fun b => (toValue b).compact) =
    some (toValue a).compact

/-- What is written as a record comes back just when the record is read as what was written. -/
theorem comesBack_record_iff {α : Type} (ofNode? : Node → Option α) {toValue : α → Value} {a : α}
    {fields : List (String × Option String)} (h : toValue a = .record fields) :
    ComesBack (fun cs => (Json.read? cs).bind ofNode?) toValue a ↔
      ofNode? (.record fields) = some a := by
  have hcompact : (Json.read? (toValue a).compact).bind ofNode? = ofNode? (.record fields) := by
    rw [h, read?_compact_record, Option.bind_some]
  have hindented : (Json.read? ((toValue a).indented 0)).bind ofNode? =
      ofNode? (.record fields) := by
    rw [h, read?_indented_record, Option.bind_some]
  constructor
  · intro hback
    exact hcompact.symm.trans hback.compact
  · intro hread
    refine ⟨hcompact.trans hread, hindented.trans hread, ?_⟩
    rw [hcompact, hread]
    rfl

theorem Details.comesBack_iff_isSettled (d : Details) :
    ComesBack Details.read? Details.toValue d ↔ d.IsSettled := by
  refine (comesBack_record_iff Details.ofNode? d.toValue_eq).trans ?_
  rw [ofNode?_record, Option.some.injEq, settled_eq_iff]

theorem Revision.comesBack_iff_isSettled (r : Revision) :
    ComesBack Revision.read? Revision.toValue r ↔ r.details.IsSettled := by
  refine (comesBack_record_iff Revision.ofNode? r.toValue_eq).trans ?_
  obtain ⟨id, details⟩ := r
  rw [ofNode?_record, Option.some.injEq, ← Details.settled_eq_iff, Revision.mk.injEq]
  exact and_iff_right rfl

/-- **A server comes back just when its kinds are settled.** -/
theorem Server.comesBack_iff_isSettled (s : Server) :
    ComesBack Server.read? Server.toValue s ↔ s.details.IsSettled := by
  refine (comesBack_record_iff Server.ofNode? s.toValue_eq).trans ?_
  obtain ⟨id, details, createdAt, updatedAt, createdBy, updatedBy⟩ := s
  rw [ofNode?_record, Option.some.injEq, ← Details.settled_eq_iff, Server.mk.injEq]
  exact ⟨fun h => h.2.1, fun h => ⟨rfl, h, rfl, rfl, rfl, rfl⟩⟩

/-- **Whatever is read comes back when it is written**, and so does the revision that changes nothing
of a server. A kind is what its text means, and a text that means none is kept as it is. -/
theorem wire_comesBack :
    (∀ cs s, Server.read? cs = some s → ComesBack Server.read? Server.toValue s ∧
      ComesBack Revision.read? Revision.toValue s.revision) ∧
    (∀ cs d, Details.read? cs = some d → ComesBack Details.read? Details.toValue d) ∧
    (∀ cs r, Revision.read? cs = some r → ComesBack Revision.read? Revision.toValue r) ∧
    (∀ text, Transport.ofWire (Transport.ofWire text).wire = Transport.ofWire text ∧
      (lowercase (trimmed text) ∈ Transport.names ∧ Transport.ofWire text ∈ Transport.choices ∨
        lowercase (trimmed text) ∉ Transport.names ∧ Transport.ofWire text = .other text)) ∧
    (∀ text, Auth.ofWire (Auth.ofWire text).wire = Auth.ofWire text ∧
      (lowercase (trimmed text) ∈ Auth.names ∧ Auth.ofWire text ∈ Auth.choices ∨
        lowercase (trimmed text) ∉ Auth.names ∧ Auth.ofWire text = .other text)) := by
  refine ⟨?_, ?_, ?_, ?_, ?_⟩
  · intro cs s h
    obtain ⟨node, -, hnode⟩ := Option.bind_eq_some_iff.1 h
    have hsettled := Server.isSettled_of_ofNode? hnode
    exact ⟨s.comesBack_iff_isSettled.2 hsettled, s.revision.comesBack_iff_isSettled.2 hsettled⟩
  · intro cs d h
    obtain ⟨node, -, hnode⟩ := Option.bind_eq_some_iff.1 h
    obtain ⟨fields, -, hfields⟩ := Option.bind_eq_some_iff.1 hnode
    exact d.comesBack_iff_isSettled.2 (Details.isSettled_of_ofFields? hfields)
  · intro cs r h
    obtain ⟨node, -, hnode⟩ := Option.bind_eq_some_iff.1 h
    exact r.comesBack_iff_isSettled.2 (Revision.isSettled_of_ofNode? hnode)
  · exact fun text => ⟨Transport.isSettled_ofWire text, Transport.ofWire_cases text⟩
  · exact fun text => ⟨Auth.isSettled_ofWire text, Auth.ofWire_cases text⟩

/-- Kinds that are known by other texts, and one that is not known. -/
theorem wire_comesBack_unknown :
    (ComesBack Server.read? Server.toValue
      ⟨"a", ⟨some "\u0001\"", none, .sse, .other "OAuth ", ""⟩, none, none, none, none⟩ ∧
      ComesBack Revision.read? Revision.toValue
        ⟨"a", ⟨some "\u0001\"", none, .sse, .other "OAuth ", ""⟩⟩) ∧
    ComesBack Details.read? Details.toValue ⟨none, none, .http, .none, "u"⟩ ∧
    ComesBack Revision.read? Revision.toValue ⟨"b", ⟨none, some "d", .stdio, .apiKey, "u"⟩⟩ := by
  obtain ⟨hserver, hdetails, hrevision, -⟩ := wire_comesBack
  refine ⟨hserver ("\x7b\"alias\":\"\\u0001\\\"\",\"auth_type\":\"OAuth \"," ++
      "\"transport\":\" SSE\",\"server_id\":\"a\"\x7d").toList
    _ ?_, hdetails "[null,null,\"Streamable_HTTP\",\" \",\"u\"]".toList _ ?_,
    hrevision "[\"b\",null,\"d\",\"stdio\",\"api_key\",\"u\"]".toList _ ?_⟩
  · decide +kernel
  · decide +kernel
  · decide +kernel

end McpConsole

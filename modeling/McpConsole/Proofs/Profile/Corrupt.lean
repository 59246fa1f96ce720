import McpConsole.Proofs.Profile

/-!
# Files that are no profile

Whatever is in the file of a profile, reading it should give a profile: the one that the content
means, or the empty one (`IsToldBy`). `corrupt_isIgnored_iff` says that this is so exactly for the
files that hold text, while a file that holds none is a failure to read, and that a missing file gives
the empty profile. `corrupt_isRefused` is a file of one octet that is no text.
-/

namespace McpConsole.Profile

open McpConsole.Json

variable {disk : Disk} {path : String} {content : ByteArray}

/-- What the content of a file tells: the profile that it is the JSON text of, in UTF-8, or nothing at
all, whatever else it is. -/
inductive IsToldBy : ByteArray → Profile → Prop
  | profile {text : String} {node : Node} {p : Profile} (hread : read? text.toList = some node)
      (hnode : ofNode? node = some p) : IsToldBy text.toUTF8 p
  | nothing {content : ByteArray} (h : ∀ (text : String) (node : Node) (p : Profile),
      content = text.toUTF8 → read? text.toList = some node → ofNode? node ≠ some p) :
      IsToldBy content empty

/-- The content of a file is text in UTF-8. -/
def IsText (content : ByteArray) : Prop :=
  ∃ text : String, content = text.toUTF8

theorem fromUTF8?_eq_some_iff {text : String} :
    String.fromUTF8? content = some text ↔ content = text.toUTF8 := by
  constructor
  · intro h
    rw [String.fromUTF8?] at h
    split at h
    · cases h
      rfl
    · cases h
  · rintro rfl
    exact Disk.fromUTF8?_toUTF8 text

theorem toUTF8_inj {text other : String} (h : text.toUTF8 = other.toUTF8) : text = other := by
  have hsome := fromUTF8?_eq_some_iff.2 h
  rw [Disk.fromUTF8?_toUTF8] at hsome
  exact Option.some.inj hsome

/-- A text tells the profile that it means. -/
theorem isToldBy_ofText (text : String) : IsToldBy text.toUTF8 (ofText text) := by
  cases hmeans : (read? text.toList).bind ofNode? with
  | none =>
    rw [ofText, hmeans]
    refine .nothing fun other node p hother hread hnode => ?_
    obtain rfl := toUTF8_inj hother
    rw [hread, Option.bind_some, hnode] at hmeans
    cases hmeans
  | some p =>
    obtain ⟨node, hread, hnode⟩ := Option.bind_eq_some_iff.1 hmeans
    rw [ofText, hmeans]
    exact .profile hread hnode

theorem load_of_isText {text : String} (h : disk.read path = .ok text.toUTF8) :
    load disk path = .ok (ofText text) := by
  rw [load, Disk.readText, h]
  simp only [bind, Except.bind, Disk.fromUTF8?_toUTF8]
  rfl

theorem load_of_not_isText (h : disk.read path = .ok content) (htext : ¬ IsText content) :
    load disk path = .error .notText := by
  have hnone : String.fromUTF8? content = none := by
    rw [Option.eq_none_iff_forall_ne_some]
    exact fun text hsome => htext ⟨text, fromUTF8?_eq_some_iff.1 hsome⟩
  rw [load, Disk.readText, h]
  simp only [bind, Except.bind, hnone]
  rfl

theorem load_of_notFound (h : disk.read path = .error .notFound) : load disk path = .ok empty := by
  rw [load, Disk.readText, h]
  rfl

/-- **A file that is no profile is ignored** exactly when it is text, be it of a profile or not; what
is no text is a failure to read. A file that is missing is no failure. -/
theorem corrupt_isIgnored_iff (disk : Disk) (path : String) :
    (∀ content, disk.read path = .ok content →
      ((∃ p, load disk path = .ok p ∧ IsToldBy content p) ↔ IsText content) ∧
      (load disk path = .error .notText ↔ ¬ IsText content)) ∧
    (disk.read path = .error .notFound → load disk path = .ok empty) := by
  refine ⟨fun content hread => ?_, load_of_notFound⟩
  by_cases htext : IsText content
  · obtain ⟨text, rfl⟩ := htext
    have htext : IsText text.toUTF8 := ⟨text, rfl⟩
    rw [load_of_isText hread]
    refine ⟨iff_of_true ⟨ofText text, rfl, isToldBy_ofText text⟩ htext, ?_⟩
    exact iff_of_false nofun (not_not.2 htext)
  · rw [load_of_not_isText hread htext]
    exact ⟨iff_of_false (by rintro ⟨p, ⟨⟩, -⟩) htext, iff_of_true rfl htext⟩

/-- A folder with one file. -/
def oneFile (content : ByteArray) : Disk :=
  ⟨[(["p.json"], .file content)], []⟩

/-- A file of text that is no JSON is ignored, and so is one that is not there. -/
theorem corrupt_isIgnored_iff_text :
    let disk := oneFile "\x7bnot json".toUTF8
    (disk.read "p.json" = .ok "\x7bnot json".toUTF8 ∧
        ∃ p, load disk "p.json" = .ok p ∧ IsToldBy "\x7bnot json".toUTF8 p) ∧
      disk.read "q.json" = .error .notFound ∧ load disk "q.json" = .ok empty := by
  intro disk
  have hread : disk.read "p.json" = .ok "\x7bnot json".toUTF8 := rfl
  have hmissing : disk.read "q.json" = .error .notFound := rfl
  obtain ⟨hloads, -⟩ := (corrupt_isIgnored_iff disk "p.json").1 _ hread
  exact ⟨⟨hread, hloads.2 ⟨_, rfl⟩⟩, hmissing, (corrupt_isIgnored_iff disk "q.json").2 hmissing⟩

/-- One octet that is no text, and loading the profile fails. -/
theorem corrupt_isRefused :
    (oneFile ⟨#[255]⟩).read "p.json" = .ok ⟨#[255]⟩ ∧
      load (oneFile ⟨#[255]⟩) "p.json" = .error .notText :=
  ⟨rfl, rfl⟩

end McpConsole.Profile

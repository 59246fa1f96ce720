import McpConsole.Proofs.Disk.Write

/-!
# Making folders

Folders are made where nothing was, so that everything stays as it was (`Grows`). `file?` is the
content of the file at a path, if there is one. A file that is there can be written; so where writing
fails, there was none before and there is none after, whatever folders were made on the way
(`file?_of_write_error`).
-/

namespace McpConsole.Disk

variable {disk other made : Disk} {path : String} {content : ByteArray}

/-! ### Folders -/

/-- Everything on a disk is there on another one, as it was. -/
structure Grows (disk other : Disk) : Prop where
  here : other.here = disk.here
  entry : ∀ place entry, disk.entry? place = some entry → other.entry? place = some entry

namespace Grows

theorem refl (disk : Disk) : disk.Grows disk :=
  ⟨rfl, fun _ _ h => h⟩

theorem trans (h : disk.Grows other) (h' : other.Grows made) : disk.Grows made :=
  ⟨h'.here.trans h.here, fun place entry he => h'.entry place entry (h.entry place entry he)⟩

theorem keeps (h : disk.Grows other) : disk.Keeps other :=
  ⟨h.here, fun place => h.entry place .folder⟩

theorem read (h : disk.Grows other) (hread : disk.read path = .ok content) :
    other.read path = .ok content := by
  obtain ⟨place, hpath, hentry⟩ := exists_of_bind hread
  rw [Disk.read, h.keeps.locatePath hpath]
  cases hold : disk.entry? place with
  | none =>
    rw [hold] at hentry
    cases hentry
  | some entry =>
    rw [hold] at hentry
    simp only [bind, Except.bind, h.entry place entry hold]
    exact hentry

end Grows

theorem grows_put {place : Place} (entry : Entry) (hplace : disk.entry? place = none) :
    disk.Grows (disk.put place entry) where
  here := rfl
  entry other old hold := by
    have hne : other ≠ place := by
      rintro rfl
      rw [hplace] at hold
      cases hold
    rw [entry?_put_of_ne disk entry hne, hold]

theorem makeFolder_grows {route : Route} (h : disk.makeFolder route = .ok made) :
    disk.Grows made := by
  obtain ⟨place, -, hput⟩ := exists_of_bind h
  split at hput
  · cases hput
  · cases hput
    exact grows_put .folder (by assumption)

theorem orExisting_grows {route : Route} {result : Except DiskError Disk}
    (hresult : ∀ after, result = .ok after → disk.Grows after)
    (h : disk.orExisting route result = .ok made) : disk.Grows made := by
  cases result with
  | ok after =>
    obtain rfl := Except.ok.inj h
    exact hresult _ rfl
  | error cause =>
    simp only [orExisting] at h
    split at h
    · cases h
      exact .refl disk
    · cases h

/-- **Making folders changes nothing that was there.** -/
theorem makeFolders_grows {isAbsolute : Bool} {names : List String}
    (h : disk.makeFolders isAbsolute names = .ok made) : disk.Grows made := by
  induction names generalizing disk made with
  | nil =>
    cases h
    exact .refl disk
  | cons name above ih =>
    unfold makeFolders at h
    dsimp only at h
    split at h
    · rename_i after hfolder
      cases h
      exact makeFolder_grows hfolder
    · obtain ⟨after, habove, hlast⟩ := exists_of_bind h
      exact (ih habove).trans (orExisting_grows (fun _ => makeFolder_grows) hlast)
    · exact orExisting_grows (by simp) h

theorem makeParents_grows (h : disk.makeParents path = .ok made) : disk.Grows made := by
  unfold makeParents at h
  split at h
  · cases h
    exact .refl disk
  · exact makeFolders_grows h

/-! ### The file at a path -/

/-- The content of the file at a path, if there is one. -/
def file? (disk : Disk) (path : String) : Option ByteArray :=
  (disk.read path).toOption

theorem file?_eq_some_iff : disk.file? path = some content ↔ disk.read path = .ok content := by
  unfold file?
  cases disk.read path <;> simp [Except.toOption]

theorem file?_of_write {after : Disk} (h : disk.write path content = .ok after) :
    after.file? path = some content :=
  file?_eq_some_iff.2 (read_of_write h)

/-- A file that is there can be written. -/
theorem exists_canWrite_of_file? {old : ByteArray} (h : disk.file? path = some old) :
    ∃ place, disk.CanWrite path place := by
  obtain ⟨place, hpath, hread⟩ := exists_of_bind (file?_eq_some_iff.1 h)
  split at hread
  · cases hread
  · cases hread
  · rename_i hentry
    split at hread
    · cases hread
    · exact ⟨place, hpath, by simp [hentry], Bool.eq_false_iff.2 (by assumption)⟩

/-- **Where writing fails, there is no file**, and there was none before folders were made for it. -/
theorem file?_of_write_error {cause : DiskError} (h : disk.Grows made)
    (hwrite : made.write path content = .error cause) :
    disk.file? path = none ∧ made.file? path = none := by
  have hmade : made.file? path = none := by
    cases hfile : made.file? path with
    | none => rfl
    | some old =>
      obtain ⟨place, hcan⟩ := exists_canWrite_of_file? hfile
      rw [write_of_canWrite content hcan] at hwrite
      cases hwrite
  refine ⟨?_, hmade⟩
  cases hfile : disk.file? path with
  | none => rfl
  | some old =>
    rw [file?_eq_some_iff.2 (h.read (file?_eq_some_iff.1 hfile))] at hmade
    cases hmade

end McpConsole.Disk

import AuthRedirect.Files

/-!
Writing to a folder. A path that leads to a file, or to where one can be put, passes folders
only. Writing leaves every folder what it is, so that the path leads to the same place
afterwards, and every other path to the file that it led to before.
-/

namespace AuthRedirect.Folder

variable {folder : Folder} {spot place : Path} {bytes old : Bytes} {steps : List (List Char)}

/-! ## One place -/

/-- Writing what is there already changes nothing. -/
theorem put_eq_self (there : folder.lookup place = some bytes) :
    folder.put place bytes = folder := by
  induction folder with
  | nil => cases there
  | cons file rest ih =>
      obtain ⟨other, found⟩ := file
      rw [put]
      by_cases same : other = place
      · rw [if_pos same]
        rw [same, List.lookup_cons_self] at there
        rw [same, Option.some.inj there]
      · rw [if_neg same, ih]
        rwa [List.lookup_cons, beq_false_of_ne (Ne.symm same)] at there

/-- A file that is there is there after a write, perhaps with other bytes. -/
theorem exists_mem_put {file : Path × Bytes} (among : file ∈ folder) (spot : Path)
    (bytes : Bytes) : ∃ written ∈ folder.put spot bytes, written.1 = file.1 := by
  induction folder with
  | nil => cases among
  | cons first rest ih =>
      obtain ⟨other, found⟩ := first
      rw [put]
      split
      · next same =>
          rcases List.mem_cons.mp among with rfl | later
          · exact ⟨_, List.mem_cons_self, same.symm⟩
          · exact ⟨file, List.mem_cons_of_mem _ later, rfl⟩
      · rcases List.mem_cons.mp among with rfl | later
        · exact ⟨_, List.mem_cons_self, rfl⟩
        · obtain ⟨written, inRest, same⟩ := ih later
          exact ⟨written, List.mem_cons_of_mem _ inRest, same⟩

/-- A folder stays one. -/
theorem isFolder_put (isFolder : folder.isFolder place = true) :
    (folder.put spot bytes).isFolder place = true := by
  rw [Folder.isFolder, Bool.or_eq_true] at isFolder ⊢
  refine isFolder.imp_right fun below => ?_
  obtain ⟨file, among, inside⟩ := List.any_eq_true.mp below
  obtain ⟨written, there, same⟩ := exists_mem_put among spot bytes
  exact List.any_eq_true.mpr ⟨written, there, by rw [same]; exact inside⟩

/-! ## Walks -/

/-- Whether a place may be written to: a file is there, or at least no folder is. -/
def IsFree (folder : Folder) (spot : Path) : Prop :=
  folder.lookup spot = none → folder.isFolder spot = false

/-- What is at a free place. -/
def entryAt (folder : Folder) (spot : Path) : Entry :=
  (folder.lookup spot).elim .vacant .file

/-- Steps that lead through folders to a free place. -/
inductive Leads (folder : Folder) : Path → List (List Char) → Path → Prop
  | last {place : Path} {step : List Char} : Path.isLongStep step = false →
    folder.IsFree (place.enter step) → Leads folder place [step] (place.enter step)
  | pass {place spot : Path} {step : List Char} {rest : List (List Char)} :
    Path.isLongStep step = false → folder.lookup (place.enter step) = none →
    folder.isFolder (place.enter step) = true → Leads folder (place.enter step) rest spot →
    Leads folder place (step :: rest) spot

theorem Leads.isFree (leads : folder.Leads place steps spot) : folder.IsFree spot := by
  induction leads with
  | last _ free => exact free
  | pass _ _ _ _ ih => exact ih

/-- The walk of steps that lead to a free place. -/
theorem Leads.walk_eq (leads : folder.Leads place steps spot) :
    folder.walk place steps = (folder.entryAt spot, spot) := by
  induction leads with
  | @last place step short free =>
      rw [Folder.walk, entryAt]
      cases there : folder.lookup (place.enter step) with
      | some bytes => simp [short]
      | none => simp [short, free there]
  | pass short noFile isFolder _ ih =>
      rw [Folder.walk, noFile, ← ih]
      simp [short, isFolder]

/-- A walk to a file, or to where one can be put, leads to a free place. -/
theorem leads_of_walk
    (ends : (∃ bytes, (folder.walk place steps).1 = .file bytes) ∨
      (folder.walk place steps).1 = .vacant) :
    folder.Leads place steps (folder.walk place steps).2 := by
  induction steps generalizing place with
  | nil => simp [Folder.walk] at ends
  | cons step rest ih =>
      rw [Folder.walk] at ends ⊢
      cases long : Path.isLongStep step with
      | true => simp [long] at ends
      | false =>
          simp only [long, Bool.false_eq_true, if_false] at ends ⊢
          cases there : folder.lookup (place.enter step) with
          | some bytes =>
              rw [there] at ends
              cases rest with
              | nil => exact .last long fun absent => by rw [there] at absent; cases absent
              | cons next rest => simp at ends
          | none =>
              rw [there] at ends
              cases isFolder : folder.isFolder (place.enter step) with
              | true =>
                  simp only [isFolder, if_true] at ends ⊢
                  exact .pass long there isFolder (ih ends)
              | false =>
                  cases rest with
                  | nil => exact .last long fun _ => isFolder
                  | cons next rest => simp [isFolder] at ends

/-- Steps that led to a free place lead to it after a write to a free place, if a file is
there then. -/
theorem Leads.put {target : Path} (leads : folder.Leads place steps target)
    (free : folder.IsFree spot) (there : (folder.put spot bytes).lookup target ≠ none) :
    (folder.put spot bytes).Leads place steps target := by
  induction leads with
  | last short _ => exact .last short fun absent => absurd absent there
  | @pass place _ step _ short noFile isFolder _ ih =>
      refine .pass short ?_ (isFolder_put isFolder) (ih there)
      -- The written place is no folder, so it is not on the way.
      rw [lookup_put, if_neg, noFile]
      intro written
      rw [written] at noFile isFolder
      rw [free noFile] at isFolder
      cases isFolder

/-! ## Paths -/

/-- A path that can be walked and leads to a free place. -/
structure PathLeads (folder : Folder) (path spot : Path) : Prop where
  nameable : path.isUnnameable = false
  short : path.isLong = false
  steps : folder.Leads path.start path.steps spot

variable {path : Path}

theorem PathLeads.files_eq (leads : folder.PathLeads path spot) :
    folder.files path = folder.entryAt spot := by
  simp [Folder.files, leads.nameable, leads.short, leads.steps.walk_eq]

theorem pathLeads_of_files
    (ends : (∃ bytes, folder.files path = .file bytes) ∨ folder.files path = .vacant) :
    folder.PathLeads path (folder.place path) := by
  unfold Folder.files at ends
  split at ends
  · simp at ends
  · next nameable =>
      split at ends
      · simp at ends
      · next short =>
          exact ⟨by simpa using nameable, by simpa using short, leads_of_walk ends⟩

/-- A path to a file leads to its bytes. -/
theorem lookup_of_files (file : folder.files path = .file bytes) :
    folder.PathLeads path (folder.place path) ∧
      folder.lookup (folder.place path) = some bytes := by
  have leads := pathLeads_of_files (.inl ⟨bytes, file⟩)
  refine ⟨leads, ?_⟩
  rw [leads.files_eq, entryAt] at file
  cases there : folder.lookup (folder.place path) with
  | some found =>
      rw [there] at file
      rw [Entry.file.inj file]
  | none =>
      rw [there] at file
      cases file

theorem pathLeads_of_writable (writable : folder.files.writable path = .ok ()) :
    folder.PathLeads path (folder.place path) := by
  apply pathLeads_of_files
  rw [Files.writable] at writable
  split at writable
  · next file => exact .inl ⟨_, file⟩
  · next vacant => exact .inr vacant
  all_goals cases writable

/-! ## Writes -/

/-- What was written to a path is found there. -/
theorem files_write (writable : folder.files.writable path = .ok ()) (bytes : Bytes) :
    (folder.write path bytes).files path = .file bytes := by
  have leads := pathLeads_of_writable writable
  have written :
      (folder.put (folder.place path) bytes).lookup (folder.place path) = some bytes := by
    rw [lookup_put, if_pos rfl]
  have again : (folder.write path bytes).PathLeads path (folder.place path) :=
    { leads with steps := leads.steps.put leads.steps.isFree (by simp [written]) }
  rw [again.files_eq, entryAt, Folder.write, written]
  rfl

/-- A path to another file still leads to it after a write. -/
theorem files_write_of_ne {other : Path} (writable : folder.files.writable path = .ok ())
    (file : folder.files other = .file old) (apart : folder.place other ≠ folder.place path) :
    (folder.write path bytes).files other = .file old := by
  obtain ⟨leads, there⟩ := lookup_of_files file
  have kept : (folder.put (folder.place path) bytes).lookup (folder.place other) = some old := by
    rw [lookup_put, if_neg apart, there]
  have again : (folder.write path bytes).PathLeads other (folder.place other) :=
    { leads with
      steps := leads.steps.put (pathLeads_of_writable writable).steps.isFree (by simp [kept]) }
  rw [again.files_eq, entryAt, Folder.write, kept]
  rfl

/-- A path to the place of a file leads to this file. -/
theorem files_of_place_eq {other : Path} (writable : folder.files.writable path = .ok ())
    (file : folder.files other = .file old) (same : folder.place other = folder.place path) :
    folder.files path = .file old := by
  rw [(pathLeads_of_writable writable).files_eq, entryAt, ← same, (lookup_of_files file).2]
  rfl

/-- Writing what a file has already changes nothing. -/
theorem write_eq_self (file : folder.files path = .file bytes) : folder.write path bytes = folder :=
  put_eq_self (lookup_of_files file).2

end AuthRedirect.Folder

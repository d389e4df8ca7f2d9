import QueryBindings.Disk.FileTree
import QueryBindings.Proofs.Tables

/-! # Slots of file trees

A path names a slot of a tree where a file can stand: the way to it leads through folders, and no
folder stands there.  In a sound tree the slots hang on the folders alone, so writing, moving and
taking away files leaves all of them as they are.  Each of the four operations on a file is said by
slots: where a path has one, it is the operation on the table of files at that key, and where it
has none the operation fails.

Main statements: `slot?_congr`, `read_eq_ok_iff` and, each with its failures, `disk_write_of_slot`,
`disk_remove_of_slot`, `disk_rename_of_slots`. -/

namespace QueryBindings.FileTree

open Disk (Path)

/-! ### Sound trees -/

def Sound (t : FileTree) : Prop :=
  ∀ key, t.files.contains key = true → t.folders.contains key = false

theorem sound_iff {t : FileTree} :
    t.Sound ↔ ∀ key ∈ t.files.keys, t.folders.contains key = false := by
  refine ⟨fun h key hkey => h key ?_, fun h key hkey => h key ?_⟩
  · obtain ⟨e, he, rfl⟩ := List.mem_map.mp hkey
    exact (t.files.contains_iff e.1).mpr ⟨e.2, Table.get?_of_mem_entries he⟩
  · obtain ⟨text, htext⟩ := (t.files.contains_iff key).mp hkey
    exact Table.mem_keys_of_get? htext

instance (t : FileTree) : Decidable t.Sound := decidable_of_iff _ sound_iff.symm

def withFiles (t : FileTree) (files : Table String) : FileTree := { t with files }

@[simp] theorem withFiles_files (t : FileTree) (files : Table String) :
    (t.withFiles files).files = files := rfl

@[simp] theorem withFiles_folders (t : FileTree) (files : Table String) :
    (t.withFiles files).folders = t.folders := rfl

@[simp] theorem withFiles_withFiles (t : FileTree) (files later : Table String) :
    (t.withFiles files).withFiles later = t.withFiles later := rfl

@[simp] theorem withFiles_self (t : FileTree) : t.withFiles t.files = t := rfl

variable {t t' : FileTree} {p q : Path} {k k' text : String}

theorem kindAt_eq_folder_iff (ht : t.Sound) (place : Location) :
    t.kindAt place = some .folder ↔
      isAbove place = true ∨ t.folders.contains (key place) = true := by
  unfold kindAt
  cases isAbove place with
  | true => simp
  | false =>
      cases hfile : t.files.contains (key place) with
      | true => simp [ht _ hfile]
      | false => simp

/-! ### The way to a file -/

section congr

variable (ht : t.Sound) (ht' : t'.Sound) (hfolders : t'.folders = t.folders)
include ht ht' hfolders

theorem kindAt_folder_congr (place : Location) :
    t'.kindAt place = some .folder ↔ t.kindAt place = some .folder := by
  rw [kindAt_eq_folder_iff ht, kindAt_eq_folder_iff ht', hfolders]

theorem walk_congr {place goal : Location} {steps : List String}
    (h : t.walk place steps = .ok goal) : t'.walk place steps = .ok goal := by
  induction steps generalizing place with
  | nil => exact h
  | cons step rest ih =>
      unfold walk at h ⊢
      split at h
      · rename_i hfolder
        rw [(kindAt_folder_congr ht ht' hfolders place).mpr hfolder]
        dsimp only
        split at h
        · cases h
        · rename_i hshort
          rw [if_neg hshort]
          exact ih h
      · cases h
      · cases h

theorem locate_congr {place : Location} (h : t.locate p = .ok place) :
    t'.locate p = .ok place := by
  unfold locate at h ⊢
  split at h
  · cases h
  · rename_i hsomewhere
    rw [if_neg hsomewhere]
    split at h
    · cases h
    · rename_i hshort
      rw [if_neg hshort]
      exact walk_congr ht ht' hfolders h

end congr

/-! ### Slots -/

/-- The key of the file that can stand at `p`, whether it stands there or not. -/
def slot? (t : FileTree) (p : Path) : Option String :=
  if p.name?.isNone || p.asFolder then none
  else
    match t.locate p with
    | .error _ => none
    | .ok place => if t.kindAt place = some .folder then none else some (key place)

theorem slot?_eq_some_iff : t.slot? p = some k ↔
    p.name?.isNone = false ∧ p.asFolder = false ∧
      ∃ place, t.locate p = .ok place ∧ t.kindAt place ≠ some .folder ∧ key place = k := by
  unfold slot?
  cases p.name?.isNone with
  | true => simp
  | false =>
      cases p.asFolder with
      | true => simp
      | false =>
          cases t.locate p with
          | error fault => simp
          | ok place => simp

theorem contains_folders_of_slot (ht : t.Sound) (h : t.slot? p = some k) :
    t.folders.contains k = false := by
  obtain ⟨-, -, place, -, hkind, rfl⟩ := slot?_eq_some_iff.mp h
  rw [ne_eq, kindAt_eq_folder_iff ht, not_or] at hkind
  exact Bool.eq_false_iff.mpr hkind.2

/-- Slots hang on the folders alone. -/
theorem slot?_congr (ht : t.Sound) (ht' : t'.Sound) (hfolders : t'.folders = t.folders) :
    t'.slot? p = t.slot? p := by
  have htransfer : ∀ {a b : FileTree}, a.Sound → b.Sound → b.folders = a.folders →
      ∀ k, a.slot? p = some k → b.slot? p = some k := by
    intro a b ha hb hab k h
    obtain ⟨hname, hfile, place, hplace, hkind, hkey⟩ := slot?_eq_some_iff.mp h
    exact slot?_eq_some_iff.mpr ⟨hname, hfile, place, locate_congr ha hb hab hplace,
      fun hfolder => hkind ((kindAt_folder_congr ha hb hab place).mp hfolder), hkey⟩
  exact Option.ext fun k => ⟨htransfer ht' ht hfolders.symm k, htransfer ht ht' hfolders k⟩

/-! ### Files in slots -/

section withFiles

variable {files : Table String} (hfiles : (t.withFiles files).Sound)
include hfiles

theorem slot?_withFiles (ht : t.Sound) (p : Path) : (t.withFiles files).slot? p = t.slot? p :=
  slot?_congr ht hfiles rfl

theorem sound_insert (ht : t.Sound) (h : t.slot? p = some k) (text : String) :
    (t.withFiles (files.insert k text)).Sound := by
  intro other hother
  by_cases heq : other = k
  · rw [heq, withFiles_folders]
    exact contains_folders_of_slot ht h
  · refine hfiles other ?_
    unfold Table.contains at hother ⊢
    rwa [withFiles_files, Table.get?_insert, if_neg heq] at hother

theorem sound_erase (k : String) : (t.withFiles (files.erase k)).Sound := by
  intro other hother
  refine hfiles other ?_
  unfold Table.contains at hother ⊢
  rw [withFiles_files, Table.get?_erase] at hother
  split at hother
  · cases hother
  · exact hother

end withFiles

theorem kindAt_of_not_folder {place : Location} (h : t.kindAt place ≠ some .folder) :
    t.kindAt place = if t.files.contains (key place) then some .file else none := by
  unfold kindAt at h ⊢
  split at h
  · exact absurd rfl h
  · rename_i habove
    rw [if_neg habove]
    split at h
    · rename_i hfile
      rw [if_pos hfile, if_pos hfile]
    · rename_i hfile
      rw [if_neg hfile, if_neg hfile]
      split at h
      · exact absurd rfl h
      · rename_i hnone
        rw [if_neg hnone]

theorem read_eq_ok_iff (h : t.slot? p = some k) :
    t.read p = .ok text ↔ t.files.get? k = some text := by
  obtain ⟨-, hfile, place, hplace, hkind, rfl⟩ := slot?_eq_some_iff.mp h
  unfold read
  rw [hplace, hfile]
  dsimp only [bind, Except.bind]
  rw [kindAt_of_not_folder hkind]
  unfold Table.contains
  cases t.files.get? (key place) with
  | none => simp
  | some other => simp

/-- A file is written into its `slot?`. -/
theorem write_of_slot (h : t.slot? p = some k) (text : String) :
    t.write p text = .ok (t.withFiles (t.files.insert k text)) := by
  obtain ⟨-, hfile, place, hplace, hkind, rfl⟩ := slot?_eq_some_iff.mp h
  unfold write
  rw [hplace, hfile]
  exact if_neg (by simpa using hkind)

theorem write_of_no_slot (hname : p.name?.isNone = false) (h : t.slot? p = none)
    (text : String) : ∃ fault, t.write p text = .error fault := by
  unfold slot? at h
  unfold write
  rw [hname] at h
  cases hplace : t.locate p with
  | error fault => exact ⟨fault, rfl⟩
  | ok place =>
      rw [hplace] at h
      refine ⟨.isDirectory, if_pos ?_⟩
      cases hfolder : p.asFolder with
      | true => simp
      | false =>
          rw [hfolder] at h
          simpa using h

theorem remove_of_slot (h : t.slot? p = some k) : t.remove p =
    if t.files.contains k then .ok (t.withFiles (t.files.erase k)) else .error .missing := by
  obtain ⟨-, -, place, hplace, hkind, rfl⟩ := slot?_eq_some_iff.mp h
  unfold remove
  rw [hplace]
  dsimp only [bind, Except.bind]
  rw [kindAt_of_not_folder hkind]
  cases t.files.contains (key place) <;> rfl

theorem locateTarget_eq_ok_iff {place : Location} : t.locateTarget p = .ok place ↔
    t.locate p = .ok place ∧ p.ending ≠ .dot ∧ p.name?.isNone = false := by
  unfold locateTarget
  cases t.locate p with
  | error fault => simp [bind, Except.bind]
  | ok place =>
      dsimp only [bind, Except.bind]
      split
      · rename_i hdot
        cases t.kindAt place with
        | none => simp [hdot]
        | some kind => cases kind <;> simp [hdot]
      · rename_i hdot
        cases p.name?.isNone <;> simp [hdot]

theorem locateTarget_of_slot (h : t.slot? p = some k) : ∃ place, t.locateTarget p = .ok place ∧
    t.kindAt place ≠ some .folder ∧ key place = k := by
  obtain ⟨hname, hfile, place, hplace, hkind, hkey⟩ := slot?_eq_some_iff.mp h
  refine ⟨place, locateTarget_eq_ok_iff.mpr ⟨hplace, fun hdot => ?_, hname⟩, hkind, hkey⟩
  rw [Path.asFolder, hdot] at hfile
  cases hfile

/-- A file is moved from its `slot?` to another one. -/
theorem rename_of_slots (hp : t.slot? p = some k) (hq : t.slot? q = some k')
    (htext : t.files.get? k = some text) :
    t.rename p q = .ok (t.withFiles ((t.files.erase k).insert k' text)) := by
  obtain ⟨-, -, start, hstart, -, rfl⟩ := slot?_eq_some_iff.mp hp
  obtain ⟨finish, hfinish, hkind, rfl⟩ := locateTarget_of_slot hq
  obtain ⟨-, hfile, -⟩ := slot?_eq_some_iff.mp hq
  unfold rename
  rw [hstart, hfinish, hfile]
  dsimp only [bind, Except.bind]
  rw [htext]
  dsimp only
  rw [if_neg Bool.false_ne_true, if_neg hkind]
  rfl

theorem rename_of_empty (hp : t.slot? p = some k) (hnone : t.files.get? k = none) (q : Path) :
    ∃ fault, t.rename p q = .error fault := by
  obtain ⟨-, -, start, hstart, -, rfl⟩ := slot?_eq_some_iff.mp hp
  unfold rename
  rw [hstart]
  cases t.locateTarget q with
  | error fault => exact ⟨fault, rfl⟩
  | ok finish =>
      dsimp only [bind, Except.bind]
      rw [hnone]
      exact ⟨.missing, rfl⟩

theorem rename_of_no_slot (p : Path) (hq : t.slot? q = none) :
    ∃ fault, t.rename p q = .error fault := by
  unfold rename
  cases t.locate p with
  | error fault => exact ⟨fault, rfl⟩
  | ok start =>
      cases hfinish : t.locateTarget q with
      | error fault => exact ⟨fault, rfl⟩
      | ok finish =>
          obtain ⟨hplace, -, hname⟩ := locateTarget_eq_ok_iff.mp hfinish
          unfold slot? at hq
          rw [hplace, hname] at hq
          dsimp only [bind, Except.bind]
          cases t.files.get? (key start) with
          | none => exact ⟨.missing, rfl⟩
          | some text =>
              dsimp only
              cases hfolder : q.asFolder with
              | true => exact ⟨.notDirectory, rfl⟩
              | false =>
                  rw [hfolder] at hq
                  have hkind : t.kindAt finish = some .folder := by simpa using hq
                  exact ⟨.isDirectory, if_pos hkind⟩

/-! ### The operations of the disk -/

theorem change_ok (step : FileTree → Except FileFault FileTree) {after : FileTree}
    (h : step t = .ok after) : change step t = (.ok (), after) := by
  unfold change
  rw [h]

theorem change_error (step : FileTree → Except FileFault FileTree) {fault : FileFault}
    (h : step t = .error fault) : change step t = (.error fault, t) := by
  unfold change
  rw [h]

theorem disk_write_of_slot (h : t.slot? p = some k) (text : String) :
    disk.write p text t = (.ok (), t.withFiles (t.files.insert k text)) :=
  change_ok (·.write p text) (write_of_slot h text)

theorem disk_write_of_no_slot (hname : p.name?.isNone = false) (h : t.slot? p = none)
    (text : String) : ∃ fault, disk.write p text t = (.error fault, t) := by
  obtain ⟨fault, hfault⟩ := write_of_no_slot hname h text
  exact ⟨fault, change_error (·.write p text) hfault⟩

theorem disk_remove_of_slot (h : t.slot? p = some k) :
    (disk.remove p t).2 = t.withFiles (t.files.erase k) := by
  have hremove := remove_of_slot h
  cases hcontains : t.files.contains k with
  | true =>
      rw [hcontains] at hremove
      exact congrArg Prod.snd (change_ok (·.remove p) hremove)
  | false =>
      have hnone : t.files.get? k = none :=
        Option.not_isSome_iff_eq_none.mp (Bool.eq_false_iff.mp hcontains)
      rw [hcontains] at hremove
      rw [Table.erase_eq_self hnone]
      exact congrArg Prod.snd (change_error (·.remove p) hremove)

theorem disk_rename_of_slots (hp : t.slot? p = some k) (hq : t.slot? q = some k')
    (htext : t.files.get? k = some text) : disk.rename p q t =
      (.ok (), t.withFiles ((t.files.erase k).insert k' text)) :=
  change_ok (·.rename p q) (rename_of_slots hp hq htext)

theorem disk_rename_of_none (hp : t.slot? p = some k)
    (h : t.files.get? k = none ∨ t.slot? q = none) :
    ∃ fault, disk.rename p q t = (.error fault, t) := by
  have hfails : ∃ fault, t.rename p q = .error fault := by
    rcases h with hempty | hq
    · exact rename_of_empty hp hempty q
    · exact rename_of_no_slot p hq
  obtain ⟨fault, hfault⟩ := hfails
  exact ⟨fault, change_error (·.rename p q) hfault⟩

end QueryBindings.FileTree

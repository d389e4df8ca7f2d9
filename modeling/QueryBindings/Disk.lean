import QueryBindings.Error
import QueryBindings.Text

/-! # Disks

Paths, what a run needs of a disk, and how it writes several files together. -/

namespace QueryBindings.Disk

/-! ## Paths

The steps to a file or folder, from the working folder or from the root of the disk.  A step is a
name, or `..` for the folder above. -/

open QueryBindings.Text

/-- What follows the last step of a path: nothing, a slash, or a dot that stays in the folder.
Where something follows, only a folder can stand. -/
inductive Ending where
  | plain
  | slash
  | dot
deriving DecidableEq, Repr, Inhabited

/-- A path; `ending` is what follows its last step. -/
structure Path where
  absolute : Bool
  steps : List String
  ending : Ending
deriving DecidableEq, Repr, Inhabited

namespace Path

def here : Path := ⟨false, [], .dot⟩

def root : Path := ⟨true, [], .slash⟩

/-- Whether only a folder can stand at `p`. -/
def asFolder (p : Path) : Bool := p.ending ≠ .plain

/-- The path that `text` writes; steps that stay where they are do not count. -/
def ofText (text : String) : Path :=
  let cs := text.toList
  let parts := (splitOnChar '/' cs).map String.ofList
  let ending :=
    if (parts.filter (· ≠ "")).getLast? = some "." then .dot
    else if cs.getLast? = some '/' then .slash
    else .plain
  ⟨cs.head? = some '/', parts.filter fun s => s ≠ "" && s ≠ ".", ending⟩

def text (p : Path) : String :=
  let last := match p.ending with
    | .plain => ""
    | .slash => "/"
    | .dot => if p.steps.isEmpty then "." else "/."
  if p.absolute then "/" ++ "/".intercalate p.steps ++ if p.steps.isEmpty then "" else last
  else "/".intercalate p.steps ++ last

/-- One `step` further. -/
def child (p : Path) (step : String) : Path :=
  if step = "" then { p with ending := if p.ending = .plain then .slash else p.ending }
  else if step = "." then { p with ending := .dot }
  else { p with steps := p.steps ++ [step], ending := .plain }

/-- The name at the end of a path; `..` is none. -/
def name? (p : Path) : Option String := p.steps.getLast?.filter (· ≠ "..")

/-- The path with `name` at its end, in place of the name there if there is one. -/
def withName (p : Path) (name : String) : Path :=
  let folder := if p.name?.isSome then p.steps.dropLast else p.steps
  { p with steps := folder ++ [name], ending := .plain }

end Path

end QueryBindings.Disk

/-! ## Disks

What a run needs of a disk.  A run is the same on a real disk and on a tree of files held in
memory. -/

namespace QueryBindings

open Disk (Path)

/-- What stands at a path. -/
inductive EntryKind where
  | file
  | folder
deriving DecidableEq, Repr, Inhabited

/-- The operations of a disk.  A run is written once for every monad `m`. -/
structure Disk (m : Type → Type) where
  /-- What stands at a path, if anything does. -/
  kind? : Path → m (Option EntryKind)
  /-- The names in a folder. -/
  list : Path → m (Except FileFault (List String))
  /-- The text of a file. -/
  read : Path → m (Except FileFault String)
  /-- Writes a file, in place of one that stands there. -/
  write : Path → String → m (Except FileFault Unit)
  /-- Takes a file away. -/
  remove : Path → m (Except FileFault Unit)
  /-- Moves a file, in place of one that stands at the target. -/
  rename : Path → Path → m (Except FileFault Unit)

def Disk.isFolder {m : Type → Type} [Monad m] (d : Disk m) (p : Path) : m Bool := do
  return (← d.kind? p) == some .folder

/-! ## Writing files together

Every text is first written beside its target, and only when all are written are they moved into
place.  If one cannot be written, those already written are taken away again. -/

/-- A text and where it belongs. -/
structure OutputFile where
  path : Path
  text : String
deriving DecidableEq, Repr, Inhabited

namespace OutputFile

/-- Where a text waits: beside its target, hidden and marked with `.tmp`. -/
def stagingPath (f : OutputFile) : Path :=
  f.path.withName ("." ++ f.path.name?.getD "" ++ ".tmp")

variable {m : Type → Type} [Monad m]

/-- Takes the files away, whether that succeeds or not. -/
def removeAll (disk : Disk m) : List Path → m Unit
  | [] => return ()
  | p :: rest => do
    let _ ← disk.remove p
    removeAll disk rest

/-- Writes every text at its `stagingPath`.  The paths in `staged`, oldest first, are written
already. -/
def stageAll (disk : Disk m) (staged : List Path) :
    List OutputFile → m (Except FileFault Unit)
  | [] => return .ok ()
  | f :: rest => do
    match ← disk.write f.stagingPath f.text with
    | .error fault =>
      removeAll disk staged
      return .error fault
    | .ok () => stageAll disk (staged ++ [f.stagingPath]) rest

/-- Moves every text from its `stagingPath` into place, up to the first that cannot be moved. -/
def placeAll (disk : Disk m) : List OutputFile → m (Except FileFault Unit)
  | [] => return .ok ()
  | f :: rest => do
    match ← disk.rename f.stagingPath f.path with
    | .error fault => return .error fault
    | .ok () => placeAll disk rest

/-- Writes the files together: `stageAll`, then `placeAll`; what was staged is taken away if staging
fails. -/
def writeAll (disk : Disk m) (files : List OutputFile) : m (Except FileFault Unit) := do
  match ← stageAll disk [] files with
  | .error fault => return .error fault
  | .ok () => placeAll disk files

end OutputFile

end QueryBindings

import QueryBindings.Disk
import QueryBindings.Table

/-! # File trees

A disk held in memory: the texts of files and the folders below the working folder, by location.
Nothing is known of what lies outside. -/

namespace QueryBindings

open Disk (Path)

/-- Files and folders by the `key` of their `Location`. -/
structure FileTree where
  files : Table String
  folders : Table Unit
deriving DecidableEq, Repr

namespace FileTree

/-- A location: the names on the way to it, the last one first. -/
abbrev Location := List String

/-- The key of a location: its names with slashes between them. -/
def key (place : Location) : String := "/".intercalate place.reverse

def empty : FileTree := ⟨∅, ∅⟩

instance : EmptyCollection FileTree := ⟨empty⟩

instance : Inhabited FileTree := ⟨empty⟩

/-- Whether `place` is the working folder or lies on the way to it from above. -/
def isAbove : Location → Bool
  | [] => true
  | name :: _ => name = ".." || name = "/"

/-- What stands at a location. -/
def kindAt (t : FileTree) (place : Location) : Option EntryKind :=
  if isAbove place then some .folder
  else if t.files.contains (key place) then some .file
  else if t.folders.contains (key place) then some .folder
  else none

/-- The location one `step` further; `..` leads back up. -/
def stepFrom (place : Location) (step : String) : Location :=
  if step = ".." then
    match place with
    | [] => [".."]
    | name :: above => if name = "/" then place else if name = ".." then ".." :: place else above
  else step :: place

/-- No name has more bytes. -/
def nameLimit : Nat := 255

/-- The text of a path has fewer bytes. -/
def pathLimit : Nat := 4096

/-- Goes the steps one after another, each from a folder. -/
def walk (t : FileTree) : Location → List String → Except FileFault Location
  | place, [] => .ok place
  | place, step :: rest =>
    match t.kindAt place with
    | some .folder =>
      if step.utf8ByteSize > nameLimit then .error .longName
      else walk t (stepFrom place step) rest
    | some .file => .error .notDirectory
    | none => .error .missing

/-- The location of `p`, by `walk`; a path that is too long has none. -/
def locate (t : FileTree) (p : Path) : Except FileFault Location :=
  if p.steps.isEmpty && !p.absolute && !p.asFolder then .error .missing
  else if p.text.utf8ByteSize ≥ pathLimit then .error .longName
  else t.walk (if p.absolute then ["/"] else []) p.steps

/-- What stands at a path. -/
def kindOf (t : FileTree) (p : Path) : Option EntryKind :=
  match t.locate p with
  | .error _ => none
  | .ok place =>
    match t.kindAt place with
    | some .file => if p.asFolder then none else some .file
    | other => other

/-- The name of what stands directly in `folder` under `key`. -/
def childName? (folder key : String) : Option String :=
  let rest := if folder = "" then some key.toList
    else (folder ++ "/").toList.isPrefixOf? key.toList
  match rest with
  | some name => if name.contains '/' then none else some (String.ofList name)
  | none => none

def list (t : FileTree) (p : Path) : Except FileFault (List String) := do
  let place ← t.locate p
  match t.kindAt place with
  | some .folder => return (t.files.keys ++ t.folders.keys).filterMap (childName? (key place))
  | some .file => .error .notDirectory
  | none => .error .missing

def read (t : FileTree) (p : Path) : Except FileFault String := do
  let place ← t.locate p
  match t.kindAt place, t.files.get? (key place) with
  | some .file, some text => if p.asFolder then .error .notDirectory else .ok text
  | some .folder, _ => .error .isDirectory
  | _, _ => .error .missing

def write (t : FileTree) (p : Path) (text : String) : Except FileFault FileTree := do
  let place ← t.locate p
  if t.kindAt place = some .folder || p.asFolder then .error .isDirectory
  else return { t with files := t.files.insert (key place) text }

def remove (t : FileTree) (p : Path) : Except FileFault FileTree := do
  let place ← t.locate p
  match t.kindAt place with
  | some .file => return { t with files := t.files.erase (key place) }
  | some .folder => .error .isDirectory
  | none => .error .missing

/-- The target of a move, found before anything is moved.  A folder that a dot or two name is always
in use. -/
def locateTarget (t : FileTree) (target : Path) : Except FileFault Location := do
  let place ← t.locate target
  if target.ending = .dot then
    match t.kindAt place with
    | some .folder => .error .busy
    | some .file => .error .notDirectory
    | none => .error .missing
  else if target.name?.isNone then .error .busy
  else .ok place

def rename (t : FileTree) (source target : Path) : Except FileFault FileTree := do
  let start ← t.locate source
  let finish ← t.locateTarget target
  match t.files.get? (key start) with
  | none => .error .missing
  | some text =>
    if target.asFolder then .error .notDirectory
    else if t.kindAt finish = some .folder then .error .isDirectory
    else return { t with files := (t.files.erase (key start)).insert (key finish) text }

def isInside (key : String) : Bool :=
  match key.toList with
  | '/' :: _ | '.' :: '.' :: '/' :: _ => false
  | _ => true

/-- The files below the working folder, by key. -/
def entries (t : FileTree) : List (String × String) := t.files.entries.filter fun e => isInside e.1

/-- Adds a file with the folders on the way to it. -/
def addFile (t : FileTree) (path text : String) : FileTree :=
  let names := (Path.ofText path).steps
  let folders := (List.range (names.length - 1)).foldl
    (fun folders n => folders.insert ("/".intercalate (names.take (n + 1))) ()) t.folders
  ⟨t.files.insert ("/".intercalate names) text, folders⟩

def ofFiles (files : List (String × String)) : FileTree :=
  files.foldl (fun t f => t.addFile f.1 f.2) ∅

/-- Makes the change `f`, or leaves the tree as it is. -/
def change (f : FileTree → Except FileFault FileTree) : StateM FileTree (Except FileFault Unit) :=
  fun t =>
    match f t with
    | .ok after => (.ok (), after)
    | .error fault => (.error fault, t)

/-- A tree as a `Disk`, whose state it is. -/
def disk : Disk (StateM FileTree) where
  kind? p := fun t => (t.kindOf p, t)
  list p := fun t => (t.list p, t)
  read p := fun t => (t.read p, t)
  write p text := change (·.write p text)
  remove p := change (·.remove p)
  rename source target := change (·.rename source target)

end FileTree

end QueryBindings

import QueryBindings.CommandLine.Run

/-! # The program

The command line on the real disk.  No request leaves the program: the transport is closed, so no
JSON is read and it does not count how its faults are worded. -/

namespace QueryBindings

open Disk (Path)

/-- The fault that an error of the system stands for.  The code of a fault may come negated. -/
def FileFault.ofError : IO.Error → FileFault
  | .noFileOrDirectory _ _ _ => .missing
  | .inappropriateType _ code _ =>
    if code = 20 || code = 0 - 20 then .notDirectory else .isDirectory
  | .permissionDenied _ _ _ => .other "Permission denied (os error 13)"
  | .resourceBusy _ _ => .busy
  | .invalidArgument _ code details =>
    if code = 36 || code = 0 - 36 then .longName else .other details
  | e => .other (toString e)

def attempt {α : Type} (action : IO α) : IO (Except FileFault α) := do
  try return .ok (← action) catch e => return .error (.ofError e)

/-- Where a path leads from the working folder of the process. -/
def Disk.Path.place (p : Path) := do
  return (← IO.currentDir) / p.text

/-- The files of the process. -/
def realDisk : Disk IO where
  kind? p := do
    try
      let about ← (← p.place).metadata
      return some (if about.type matches .dir then .folder else .file)
    catch _ => return none
  list p := attempt do
    return ((← (← p.place).readDir).map (·.fileName)).toList
  read p := do
    match ← attempt do IO.FS.readBinFile (← p.place) with
    | .error fault => return .error fault
    | .ok bytes =>
      match String.fromUTF8? bytes with
      | some text => return .ok text
      | none => return .error (.other "stream did not contain valid UTF-8")
  write p text := attempt do IO.FS.writeFile (← p.place) text
  remove p := attempt do IO.FS.removeFile (← p.place)
  rename source target := attempt do IO.FS.rename (← source.place) (← target.place)

end QueryBindings

open QueryBindings in
def main (arguments : List String) : IO UInt32 := do
  let outcome ← CommandLine.run Json.Fault.category realDisk Endpoint.Transport.closed arguments
  IO.print outcome.said
  IO.eprint (outcome.reported.getD "")
  return outcome.code.toUInt32

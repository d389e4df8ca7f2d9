import QueryBindings.Json.Reading
import QueryBindings.Text.Shown

/-! # Typed readings

A decoder takes a reading to a value of a type.  A `Record` describes an object with known
members: each has a name and a decoder, and may have a value that stands in for a missing one.
Unknown members are passed over.  A record may also be written as an array of its members in
declared order.

Of several faults the first in reading order is reported; a missing member is missed when the
object ends, the first declared one first. -/

namespace QueryBindings.Json

/-- Why a text does not hold what is asked for: it is JSON of another shape, or no JSON. -/
inductive Fault where
  | data (message : String)
  | stop (stop : Stop)
deriving DecidableEq, Repr

/-- How the JSON library words a fault.  It tells of the place in the text too, which no fault here
holds, so a wording is a parameter of what reports faults. -/
abbrev Wording := Fault → String

/-- A fault in a word. -/
def Fault.category : Wording
  | data _ => "data"
  | stop .malformed => "syntax"
  | stop .cutOff => "eof"

/-- A decoder; the first argument, at the outset `depthLimit`, bounds how deep arrays and objects
may still nest. -/
abbrev Decoder (α : Type) := Nat → Reading → Except Fault α

def depthLimit : Nat := 127

/-- `text` must hold the value that `decoder` asks for, and nothing else. -/
def decodeText {α : Type} (decoder : Decoder α) (text : String) : Except Fault α :=
  let (reading, trailing) := read text
  match decoder depthLimit reading with
  | .error fault => .error fault
  | .ok a => if trailing then .error (.stop .malformed) else .ok a

/-! ### Mismatches -/

/-- What a message calls a number. -/
def Number.described : Number → String
  | integer value => "integer `" ++ toString value ++ "`"
  | binary value => "floating point `" ++ Number.text (.binary value) ++ "`"

/-- The fault of finding `found` instead of what was `expected`. -/
def mismatch (found expected : String) : Fault :=
  .data ("invalid type: " ++ found ++ ", expected " ++ expected)

/-- The fault of a reading that is not what was `expected`. -/
def Reading.unexpected (expected : String) : Reading → Fault
  | .null => mismatch "null" expected
  | .boolean true => mismatch "boolean `true`" expected
  | .boolean false => mismatch "boolean `false`" expected
  | .number text =>
    match text.number? with
    | some n => mismatch n.described expected
    | none => .stop .malformed
  | .string (some text) => mismatch ("string " ++ Text.shown text) expected
  | .string none => .stop .malformed
  | .array _ _ => mismatch "sequence" expected
  | .object _ _ => mismatch "map" expected
  | .broken b => .stop b.reading

/-! ### Simple decoders -/

def string : Decoder String
  | _, .string (some text) => .ok text
  | _, r => .error (r.unexpected "a string")

def boolean : Decoder Bool
  | _, .boolean b => .ok b
  | _, r => .error (r.unexpected "a boolean")

/-- An integer with `isSigned64`. -/
def int64 : Decoder Int
  | _, .number text =>
    match text.number? with
    | some (.integer n) =>
      if Number.isSigned64 n then .ok n
      else .error (.data ("invalid value: " ++ (Number.integer n).described ++ ", expected i64"))
    | some n => .error (mismatch n.described "i64")
    | none => .error (.stop .malformed)
  | _, r => .error (r.unexpected "i64")

/-- A string that names a value, by its `meaning`.  The name may also be the only member of an
object, whose value is `null`. -/
def enumeration {α : Type} (meaning : String → α) : Decoder α
  | _, .string (some text) => .ok (meaning text)
  | _, .broken b => .error (.stop b.naming)
  | _ + 1, .object [(some name, .null)] none => .ok (meaning name)
  | _ + 1, .object [(some _, .null)] (some b) => .error (.stop b.reading)
  | _ + 1, .object ((some _, .null) :: _) _ => .error (.stop .malformed)
  | _ + 1, .object ((some _, r) :: _) _ => .error (r.unexpected "unit")
  | _ + 1, .object [] (some b) => .error (.stop b.reading)
  | _, _ => .error (.stop .malformed)

/-- A value, or `none` for `null`. -/
def nullable {α : Type} (decoder : Decoder α) : Decoder (Option α)
  | _, .null => .ok none
  | depth, r => (decoder depth r).map some

/-- The fault of the break that ends an array or object, if there is one. -/
def endingFault? (ending : Option Break) : Option Fault := ending.map fun b => .stop b.reading

/-- The items in order, each by `decoder`, then the end of the array. -/
def decodeItems {α : Type} (decoder : Decoder α) (depth : Nat) (ending : Option Break) :
    List Reading → Except Fault (List α)
  | [] =>
    match endingFault? ending with
    | some fault => .error fault
    | none => .ok []
  | r :: rest =>
    match decoder depth r with
    | .error fault => .error fault
    | .ok a => (decodeItems decoder depth ending rest).map (a :: ·)

def list {α : Type} (decoder : Decoder α) : Decoder (List α)
  | 0, .array _ _ => .error (.stop .malformed)
  | depth + 1, .array items ending => decodeItems decoder depth ending items
  | _, r => .error (r.unexpected "a sequence")

/-- The members in order, the last of a repeated name kept, then the end of the object. -/
def decodeMembers {α : Type} (decoder : Decoder α) (depth : Nat) (ending : Option Break) :
    List (String × α) → List (Option String × Reading) → Except Fault (List (String × α))
  | before, [] =>
    match endingFault? ending with
    | some fault => .error fault
    | none => .ok before
  | _, (none, _) :: _ => .error (.stop .malformed)
  | before, (some key, r) :: rest =>
    match decoder depth r with
    | .error fault => .error fault
    | .ok a =>
      decodeMembers decoder depth ending (before.filter (·.1 ≠ key) ++ [(key, a)]) rest

def value : Decoder Value
  | _, .null => .ok .null
  | _, .boolean b => .ok (.boolean b)
  | _, .number text =>
    match text.number? with
    | some n => .ok (.number n)
    | none => .error (.stop .malformed)
  | _, .string (some text) => .ok (.string text)
  | depth + 1, .array items ending =>
    (decodeItems (fun _ => value depth) depth ending items).map .array
  | depth + 1, .object members ending =>
    (decodeMembers (fun _ => value depth) depth ending [] members).map .object
  | _, .broken b => .error (.stop b.reading)
  | _, _ => .error (.stop .malformed)

/-! ### Records -/

/-- Where a record is read from: an object or an array. -/
inductive Source where
  | members (members : List (Option String × Reading))
  | elements (items : List Reading)
deriving Repr

/-- What the members of a record are read with; messages call the record by its `title`. -/
structure Context where
  title : String
  names : List String
  depth : Nat
  source : Source
deriving Repr

/-- A result, or a fault with its place in reading order. -/
abbrev Placed (α : Type) := Except (Nat × Fault) α

/-- A record: the `names` of its members, and how it is made of them. -/
structure Record (α : Type) where
  names : List String
  build : Context → Placed α

namespace Context

/-- The member `name` with its place in reading order. -/
def find? (c : Context) (name : String) : Option (Nat × Reading) :=
  match c.source with
  | .members members =>
    let place := members.findIdx fun m => m.1 = some name
    members[place]?.map fun m => (place, m.2)
  | .elements items =>
    let place := c.names.idxOf name
    items[place]?.map fun r => (place, r)

/-- The fault of a missing member: an object misses it at its end, an array at its place. -/
def missing (c : Context) (name : String) : Nat × Fault :=
  match c.source with
  | .members members => (members.length + 1, .data ("missing field `" ++ name ++ "`"))
  | .elements _ =>
    let place := c.names.idxOf name
    let count := c.names.length
    let elements := toString count ++ (if count = 1 then " element" else " elements")
    (place, .data ("invalid length " ++ toString place ++ ", expected struct " ++ c.title ++
      " with " ++ elements))

def isArray (c : Context) : Bool :=
  match c.source with
  | .members _ => false
  | .elements _ => true

end Context

namespace Record

variable {α β : Type}

/-- One member.  `absentMember` and `absentElement` stand in for it where it is missing. -/
def member (name : String) (absentMember absentElement : Option α) (decoder : Decoder α) :
    Record α where
  names := [name]
  build c :=
    match c.find? name with
    | some (place, r) =>
      match decoder c.depth r with
      | .ok a => .ok a
      | .error fault => .error (place, fault)
    | none =>
      match if c.isArray then absentElement else absentMember with
      | some a => .ok a
      | none => .error (c.missing name)

/-- A member that must be there, by `member` without stand-ins. -/
def required (name : String) (decoder : Decoder α) : Record α := member name none none decoder

/-- A member for which `default` stands in. -/
def withDefault (name : String) (default : α) (decoder : Decoder α) : Record α :=
  member name (some default) (some default) decoder

/-- A member that may be missing or `null`. -/
def optional (name : String) (decoder : Decoder α) : Record (Option α) :=
  withDefault name none (nullable decoder)

/-- A record without members. -/
def const (a : α) : Record α := ⟨[], fun _ => .ok a⟩

/-- Both records; of two faults the first in reading order counts. -/
def both (f : Record (α → β)) (a : Record α) : Record β where
  names := f.names ++ a.names
  build c :=
    match f.build c, a.build c with
    | .ok g, .ok x => .ok (g x)
    | .ok _, .error e => .error e
    | .error e, .ok _ => .error e
    | .error e, .error e' => if e'.1 < e.1 then .error e' else .error e

instance : Pure Record := ⟨const⟩

instance : Seq Record := ⟨fun f a => f.both (a ())⟩

instance : Functor Record := ⟨fun f a => (const f).both a, fun a b => (const fun _ => a).both b⟩

/-- The first fault of the members as such: an unreadable or a repeated one of `names`, a break in a
member that is passed over, or the break that ends the object. -/
def memberFault? (names : List String) (ending : Option Break) :
    Nat → List String → List (Option String × Reading) → Option (Nat × Fault)
  | place, _, [] => (endingFault? ending).map (place, ·)
  | place, _, (none, _) :: _ => some (place, .stop .malformed)
  | place, seen, (some key, r) :: rest =>
    if seen.contains key then some (place, .data ("duplicate field `" ++ key ++ "`"))
    else if names.contains key then memberFault? names ending (place + 1) (key :: seen) rest
    else match r.break? with
      | some b => some (place, .stop b.passing)
      | none => memberFault? names ending (place + 1) seen rest

/-- The first fault of the elements as such: more than `count`, or the break that ends the array. -/
def elementFault? (count : Nat) (items : List Reading) (ending : Option Break) :
    Option (Nat × Fault) :=
  if count < items.length then some (count, .stop .malformed)
  else (endingFault? ending).map (items.length, ·)

/-- The outcome of `built`, unless `sourceFault` comes before its own. -/
def settle (sourceFault : Option (Nat × Fault)) (built : Placed α) : Except Fault α :=
  match sourceFault, built with
  | none, .ok a => .ok a
  | none, .error e => .error e.2
  | some e, .ok _ => .error e.2
  | some e, .error e' => if e'.1 < e.1 then .error e'.2 else .error e.2

/-- The decoder of a record; messages call it by `title`. -/
def decoder (title : String) (r : Record α) : Decoder α
  | depth + 1, .object members ending =>
    settle (memberFault? r.names ending 0 [] members)
      (r.build ⟨title, r.names, depth, .members members⟩)
  | depth + 1, .array items ending =>
    settle (elementFault? r.names.length items ending)
      (r.build ⟨title, r.names, depth, .elements items⟩)
  | 0, .object _ _ | 0, .array _ _ => .error (.stop .malformed)
  | _, reading => .error (reading.unexpected ("struct " ++ title))

end Record

end QueryBindings.Json

import QueryBindings.Text

/-! # Arguments of the command line

Arguments are read from left to right, and the first that decides the run does so: a wrong one,
or one that asks for help or for the version. -/

namespace QueryBindings.CommandLine

open QueryBindings.Text

/-- What the arguments of a run say. -/
structure Arguments where
  endpoint : Option String
  headers : List String
  /-- The time limit in seconds. -/
  timeout : Option Nat
  schema : Option String
  operations : Option String
  out : Option String
  schemaOut : Option String
  full : Bool
  showBuiltins : Bool
  keepBuiltins : Bool
  scalars : List (String × String)
  fallback : Option String
  nonNullScalars : Bool
deriving DecidableEq, Repr, Inhabited

/-- What `read` makes of the arguments; `misuse` if they do not fit together. -/
inductive Wish where
  | run (arguments : Arguments)
  | help
  | version
  | misuse
deriving DecidableEq, Repr

namespace Arguments

def blank : Arguments :=
  ⟨none, [], none, none, none, none, none, false, false, false, [], none, false⟩

/-- A number of 64 bits, below `unsigned64Bound`; a plus sign may stand before it. -/
def number? (text : String) : Option Nat :=
  let digits := match text.toList with
    | '+' :: rest => rest
    | cs => cs
  if digits.isEmpty || !digits.all isAsciiDigit then none
  else
    let n := decimalValue digits
    if n < Number.unsigned64Bound then some n else none

/-- A path as `text`, which is not empty. -/
def path? (text : String) : Option String := if text = "" then none else some text

/-- A scalar and its target, around the first equals sign of `text`; neither is blank. -/
def scalar? (text : String) : Option (String × String) :=
  let cs := text.toList
  let name := trim (String.ofList (cs.takeWhile (· ≠ '=')))
  let target := trim (String.ofList ((cs.dropWhile (· ≠ '=')).drop 1))
  if name = "" || target = "" then none else some (name, target)

/-- The options that take a value. -/
def isValued (name : String) : Bool :=
  ["endpoint", "header", "timeout", "schema", "operations", "out", "schema-out", "scalar",
    "fallback"].contains name

/-- The value `given`, unless there is one `before`. -/
def once {α : Type} (before given : Option α) : Option α :=
  if before.isSome then none else given

/-- `a` with the option `name` set to `value`. -/
def give? (a : Arguments) (name value : String) : Option Arguments :=
  match name with
  | "endpoint" => (once a.endpoint (some value)).map fun v => { a with endpoint := some v }
  | "header" => some { a with headers := a.headers ++ [value] }
  | "timeout" => (once a.timeout (number? value)).map fun v => { a with timeout := some v }
  | "schema" => (once a.schema (path? value)).map fun v => { a with schema := some v }
  | "operations" => (once a.operations (some value)).map fun v => { a with operations := some v }
  | "out" => (once a.out (path? value)).map fun v => { a with out := some v }
  | "schema-out" => (once a.schemaOut (path? value)).map fun v => { a with schemaOut := some v }
  | "scalar" => (scalar? value).map fun v => { a with scalars := a.scalars ++ [v] }
  | "fallback" => (once a.fallback (some value)).map fun v => { a with fallback := some v }
  | _ => none

/-- `a` with the flag `name`, which may be given once. -/
def raise? (a : Arguments) (name : String) : Option Arguments :=
  match name with
  | "full" => if a.full then none else some { a with full := true }
  | "emit-builtins" => if a.showBuiltins then none else some { a with showBuiltins := true }
  | "include-builtins" => if a.keepBuiltins then none else some { a with keepBuiltins := true }
  | "non-null-scalars" =>
    if a.nonNullScalars then none else some { a with nonNullScalars := true }
  | _ => none

/-- `run` if the schema comes from a file or from an endpoint, and not from both; else `misuse`. -/
def wish (a : Arguments) : Wish :=
  if a.schema.isSome = a.endpoint.isSome then .misuse else .run a

end Arguments

/-! ### Reading -/

/-- Whether `argument` is an option and not a value: it starts with a hyphen and is longer. -/
def isOption (argument : String) : Bool :=
  match argument.toList with
  | '-' :: _ :: _ => true
  | _ => false

/-- An option as its name and the value that hangs on it, as in `--name=value`. -/
def option? (argument : String) : Option (String × Option String) :=
  match argument.toList with
  | '-' :: '-' :: long =>
    some (String.ofList (long.takeWhile (· ≠ '=')),
      if long.contains '=' then some (String.ofList ((long.dropWhile (· ≠ '=')).drop 1)) else none)
  | ['-', 'E'] => some ("endpoint", none)
  | '-' :: 'E' :: '=' :: value | '-' :: 'E' :: value =>
    some ("endpoint", some (String.ofList value))
  | ['-', 'H'] => some ("header", none)
  | '-' :: 'H' :: '=' :: value | '-' :: 'H' :: value => some ("header", some (String.ofList value))
  | '-' :: 'h' :: _ => some ("help", none)
  | '-' :: 'V' :: _ => some ("version", none)
  | _ => none

/-- What the arguments ask for, after those that `a` tells of; `--` ends them. -/
def readFrom (a : Arguments) : List String → Wish
  | [] => a.wish
  | ["--"] => a.wish
  | argument :: rest =>
    match option? argument with
    | none => .misuse
    | some ("help", none) => .help
    | some ("version", none) => .version
    | some (name, some value) =>
      match a.give? name value with
      | some a => readFrom a rest
      | none => .misuse
    | some (name, none) =>
      if Arguments.isValued name then
        match rest with
        | value :: rest =>
          if isOption value then .misuse
          else match a.give? name value with
            | some a => readFrom a rest
            | none => .misuse
        | [] => .misuse
      else match a.raise? name with
        | some a => readFrom a rest
        | none => .misuse

def read (arguments : List String) : Wish := readFrom .blank arguments

end QueryBindings.CommandLine

import QueryBindings.CommandLine.Arguments
import QueryBindings.Declaration.OfOperation
import QueryBindings.Disk
import QueryBindings.Endpoint.Answer
import QueryBindings.Glob
import QueryBindings.Schema.Assembly

/-! # Runs

A run reads a schema and operations, makes the declarations and writes them.  It does so on any
disk and over any transport, and reports faults of JSON in any wording.  Nothing is written unless
all else has succeeded. -/

namespace QueryBindings.CommandLine

open QueryBindings.Disk (Path)
open QueryBindings.Endpoint (Settings Transport)

/-- The options that `a` chooses, over `Options.default`. -/
def Arguments.options (a : Arguments) : Options :=
  let map := match a.fallback with
    | some fallback => ScalarMap.builtin.withFallback fallback
    | none => .builtin
  { Options.default with
    showBuiltins := a.showBuiltins
    keepBuiltins := a.keepBuiltins
    full := a.full
    scalarNullability := if a.nonNullScalars then .nonNull else .nullable
    scalars := a.scalars.foldl (fun m s => m.withTarget s.1 s.2) map }

/-- The settings for `endpoint` that `a` chooses, over `Settings.ofAddress`. -/
def Arguments.settings (a : Arguments) (endpoint : String) : Except Error Settings :=
  let settings := { Settings.ofAddress endpoint with timeout := .ofSeconds (a.timeout.getD 30) }
  do
    let settings ← a.headers.foldlM Settings.withHeaderText settings
    settings.check
    return settings

variable {m : Type → Type} [Monad m]

/-- A step whose `outcome` does not touch the world. -/
def settled {α : Type} (outcome : Except Error α) : ExceptT Error m α := ExceptT.mk (pure outcome)

/-- A step on the disk; a `FileFault` becomes an `Error`. -/
def onDisk {α : Type} (step : m (Except FileFault α)) : ExceptT Error m α :=
  ExceptT.mk ((·.mapError Error.file) <$> step)

/-- The schema that `a` names: the text of a file, or the answer of an endpoint. -/
def loadSchema (wording : Json.Wording) (disk : Disk m) (send : Transport m)
    (a : Arguments) : ExceptT Error m Schema := do
  match a.schema, a.endpoint with
  | some path, _ =>
    let text ← onDisk (disk.read (.ofText path))
    settled (Schema.ofText text)
  | none, some endpoint =>
    let settings ← settled (a.settings endpoint)
    let payload ← ExceptT.mk (settings.ask wording send)
    settled (Schema.ofPayload a.options payload)
  | none, none => throw (.config .noSource)

/-- The texts of the files that the pattern of `a` matches, in the order of `Glob.search`. -/
def loadOperations (disk : Disk m) (a : Arguments) : ExceptT Error m (List String) := do
  match a.operations with
  | none => return []
  | some text =>
    let pattern ← settled (Glob.PathPattern.ofText text)
    onDisk (Glob.search disk pattern >>= Glob.readFound disk)

/-- The files of a bundle: `declarations`, and `schema` if `a` asks for it. -/
def Arguments.outputs (a : Arguments) (declarations schema : String) : List OutputFile :=
  ⟨.ofText (a.out.getD "schema.rs"), declarations⟩ ::
    a.schemaOut.toList.map fun path => ⟨.ofText path, schema⟩

/-- A whole run, up to `OutputFile.writeAll`. -/
def runArguments (wording : Json.Wording) (disk : Disk m) (send : Transport m) (a : Arguments) :
    ExceptT Error m Unit := do
  let schema ← loadSchema wording disk send a
  let texts ← loadOperations disk a
  let document ← settled (Document.ofTexts texts)
  let bundle ← settled (generate a.options schema document)
  let source ← settled (bundle.source a.options)
  onDisk (OutputFile.writeAll disk (a.outputs source bundle.schemaText))

/-! ### Outcomes -/

/-- How a run ends: its exit code, what it says, and what it reports as an error. -/
structure Outcome where
  code : Nat
  said : String
  reported : Option String
deriving DecidableEq, Repr, Inhabited

def programName : String := "gqlcodegen"

def versionText : String := programName ++ " 0.1.0\n"

def usageText : String :=
  "Usage: " ++ programName ++ " [OPTIONS] <--endpoint <ENDPOINT>|--schema <SCHEMA>>\n\n" ++
  "Options:\n" ++
  "  -E, --endpoint <ENDPOINT>      graphql endpoint to introspect\n" ++
  "  -H, --header <HEADERS>         extra request header as `Name: value` (repeatable)\n" ++
  "      --timeout <TIMEOUT>        request timeout in seconds [default: 30]\n" ++
  "      --schema <SCHEMA>          schema definition language file\n" ++
  "      --operations <OPERATIONS>  glob matching operation documents\n" ++
  "      --out <OUT>                generated file [default: schema.rs]\n" ++
  "      --schema-out <SCHEMA_OUT>  also write the canonical schema here\n" ++
  "      --full                     emit every schema type, not only the used ones\n" ++
  "      --emit-builtins            print builtin definitions in the schema\n" ++
  "      --include-builtins         keep introspection types when building the schema\n" ++
  "      --scalar <SCALARS>         map a scalar to a type as `NAME=TYPE` (repeatable)\n" ++
  "      --fallback <FALLBACK>      type for scalars without a mapping\n" ++
  "      --non-null-scalars         treat bare introspected scalars as non-null\n" ++
  "  -h, --help                     print help\n" ++
  "  -V, --version                  print version\n"

/-- Runs with these arguments; an error is reported by its `Error.message`. -/
def run (wording : Json.Wording) (disk : Disk m) (send : Transport m) (arguments : List String) :
    m Outcome := do
  match read arguments with
  | .help => return ⟨0, usageText, none⟩
  | .version => return ⟨0, versionText, none⟩
  | .misuse => return ⟨2, "", some usageText⟩
  | .run a =>
    match ← (runArguments wording disk send a).run with
    | .ok () => return ⟨0, "", none⟩
    | .error e => return ⟨1, "", some (programName ++ ": " ++ e.message wording ++ "\n")⟩

end QueryBindings.CommandLine

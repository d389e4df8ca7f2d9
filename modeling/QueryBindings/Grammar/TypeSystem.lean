import QueryBindings.Grammar.Value
import QueryBindings.Schema
import QueryBindings.Text

/-! # Reading schemas

The rules for the definitions of a schema text.  A text holds at least one definition; a body,
where there is one, has at least one member.  An extension has the shape of a definition with
only the slots filled that it adds to. -/

namespace QueryBindings.Grammar

open Rule

/-- The root types that a schema block names. -/
structure RootBlock where
  query : Option String
  mutation : Option String
  subscription : Option String
deriving DecidableEq, Repr, Inhabited

/-- What a schema text defines.  An `extension` is a definition of what is added. -/
inductive SchemaEntry where
  | roots (block : RootBlock)
  | type (definition : Definition)
  | extension (addition : Definition)
  | directive (definition : DirectiveDefinition)
deriving DecidableEq, Repr

/-- The places where a directive may be declared to apply, such as `FIELD`. -/
def directiveLocations : List String := [
  "QUERY", "MUTATION", "SUBSCRIPTION", "FIELD", "FRAGMENT_DEFINITION", "FRAGMENT_SPREAD",
  "INLINE_FRAGMENT", "SCHEMA", "SCALAR", "OBJECT", "FIELD_DEFINITION", "ARGUMENT_DEFINITION",
  "INTERFACE", "UNION", "ENUM", "ENUM_VALUE", "INPUT_OBJECT", "INPUT_FIELD_DEFINITION",
  "VARIABLE_DEFINITION"]

/-! ### Parts of definitions -/

/-- A description, if there is one. -/
def description : Rule (Option String) := fun ts =>
  match ts with
  | .string text :: rest => .ok (some text, rest)
  | ts => .ok (none, ts)

/-- The declaration of an argument or of an input field. -/
def argumentDefinition (depth : Nat) : Rule ArgumentDefinition := do
  let about ← description
  let n ← name
  symbol ':'
  let type ← typeExpr depth
  let given ← defaultValue depth
  return ⟨n, Text.nonBlank? about, given, type, ← directives true depth⟩

/-- Members between `opening` and `closing`, if there is an opening bracket. -/
def optionalBody {α : Type} (opening closing : Char) (member : Nat → Rule α) (depth : Nat) :
    Rule (List α) := do
  if ← isNext (.symbol opening) then
    bracketed opening (fun depth => someUntil closing (member depth)) depth
  else return []

/-- Declared arguments in parentheses, if there are any, by `optionalBody`. -/
def argumentDefinitions (depth : Nat) : Rule (List ArgumentDefinition) :=
  optionalBody '(' ')' argumentDefinition depth

/-- A field of an object or an interface. -/
def fieldDefinition (depth : Nat) : Rule FieldDefinition := do
  let about ← description
  let n ← name
  let declared ← argumentDefinitions depth
  symbol ':'
  let type ← typeExpr depth
  return ⟨n, Text.nonBlank? about, declared, none, type, ← directives true depth⟩

/-- A value of an enum. -/
def enumValue (depth : Nat) : Rule EnumValue := do
  let about ← description
  let n ← name
  return ⟨n, Text.nonBlank? about, ← directives true depth⟩

/-- Names with `separator` between two of them, which may also stand before the first. -/
def separatedNames (separator : Char) : Rule (List String) := do
  let _ ← option (.symbol separator)
  let first ← name
  return first :: (← manyAfter separator name)

/-- The interfaces after `implements`, if there are any. -/
def implemented : Rule (List String) := do
  if ← option (.name "implements") then separatedNames '&' else return []

/-- The members of a union, if there are any. -/
def unionMembers : Rule (List String) := do
  if ← option (.symbol '=') then separatedNames '|' else return []

/-! ### Definitions -/

/-- What follows the name of a type of this `kind`, in the slots that the kind has. -/
def typeParts (kind : TypeKind) (typeName : String) : Rule Definition := do
  let bare := Definition.bare kind typeName
  match kind with
  | .scalar => return { bare with directives := ← directives true nestingLimit }
  | .object | .interface =>
    let interfaces ← implemented
    let applied ← directives true nestingLimit
    let fields ← optionalBody '{' '}' fieldDefinition nestingLimit
    return { bare with interfaces := interfaces, directives := applied, fields := fields }
  | .union =>
    let applied ← directives true nestingLimit
    return { bare with directives := applied, members := ← unionMembers }
  | .enum =>
    let applied ← directives true nestingLimit
    let values ← optionalBody '{' '}' enumValue nestingLimit
    return { bare with directives := applied, values := values }
  | .inputObject =>
    let applied ← directives true nestingLimit
    let fields ← optionalBody '{' '}' argumentDefinition nestingLimit
    return { bare with directives := applied, fields := fields.map (·.toField) }

/-- The kinds of types with the words that open them. -/
def typeKinds : List (String × TypeKind) :=
  [TypeKind.scalar, .object, .interface, .union, .enum, .inputObject].map fun k => (k.keyword, k)

/-- The word that opens a type, one of `typeKinds`, as the kind of the type. -/
def typeKeyword : Rule TypeKind := fun ts =>
  match ts with
  | .name word :: rest =>
    match typeKinds.lookup word with
    | some kind => .ok (kind, rest)
    | none => .error (.name word :: rest)
  | ts => .error ts

/-- One of `directiveLocations`. -/
def directiveLocation : Rule String := fun ts =>
  match ts with
  | .name n :: rest =>
    if directiveLocations.contains n then .ok (n, rest) else .error (.name n :: rest)
  | ts => .error ts

/-- The places where a directive may apply; there may be none, unless a bar stands before them. -/
def locations : Rule (List String) := do
  let opened ← option (.symbol '|')
  match ← peek with
  | some (.name _) =>
    let first ← directiveLocation
    return first :: (← manyAfter '|' directiveLocation)
  | _ => if opened then fail else return []

/-- A directive definition after its opening word, with the description `about`. -/
def directiveParts (about : Option String) : Rule DirectiveDefinition := do
  symbol '@'
  let n ← name
  let declared ← argumentDefinitions nestingLimit
  let repeatable ← option (.name "repeatable")
  keyword "on"
  return ⟨n, Text.nonBlank? about, declared, repeatable, ← locations, isBuiltinDirective n⟩

/-- A type or a directive with its `description`. -/
def describedEntry : Rule SchemaEntry := do
  let about ← description
  if ← option (.name "directive") then return .directive (← directiveParts about)
  else
    let kind ← typeKeyword
    let n ← name
    let definition ← typeParts kind n
    return .type { definition with description := Text.nonBlank? about }

/-! ### Root blocks and extensions -/

/-- The word for a kind of operation and the root type that serves it. -/
def rootEntry : Rule (String × String) := do
  let word ← name
  symbol ':'
  return (word, ← name)

/-- The block with these entries, unless a word is unknown or repeated. -/
def RootBlock.ofEntries? : List (String × String) → RootBlock → Option RootBlock
  | [], block => some block
  | (word, type) :: rest, block =>
    if word = "query" ∧ block.query = none then
      ofEntries? rest { block with query := some type }
    else if word = "mutation" ∧ block.mutation = none then
      ofEntries? rest { block with mutation := some type }
    else if word = "subscription" ∧ block.subscription = none then
      ofEntries? rest { block with subscription := some type }
    else none

/-- A schema block, by `RootBlock.ofEntries?`.  An entry that is unknown or repeated is an error of
the whole block. -/
def schemaBlock : Rule SchemaEntry := do
  let start ← get
  keyword "schema"
  let _ ← directives true nestingLimit
  let entries ← bracketed '{' (fun _ => manyUntil '}' rootEntry) nestingLimit
  match RootBlock.ofEntries? entries ⟨none, none, none⟩ with
  | some block => return .roots block
  | none => throw start

/-- Whether the extension `d` adds enough to be one. -/
def extendsAnything (d : Definition) : Bool :=
  !d.directives.isEmpty || !d.fields.isEmpty || !d.values.isEmpty || !d.members.isEmpty ||
    (d.kind = .object && !d.interfaces.isEmpty)

/-- An extension.  One that does not `extendsAnything` is an error of its opening word. -/
def typeExtension : Rule SchemaEntry := do
  keyword "extend"
  let start ← get
  let kind ← typeKeyword
  let n ← name
  let addition ← typeParts kind n
  if extendsAnything addition then return .extension addition else throw start

/-- One entry of a schema text: `schemaBlock`, `typeExtension` or `describedEntry`. -/
def schemaEntry : Rule SchemaEntry := do
  if ← isNext (.name "schema") then schemaBlock
  else if ← isNext (.name "extend") then typeExtension
  else describedEntry

/-- At least one entry, up to the end. -/
def schemaText : Rule (List SchemaEntry) := do
  let first ← schemaEntry
  return first :: (← many (fun _ => true) schemaEntry)

/-- The entries of the schema text `text`, or the position at which it stops being one. -/
def readSchema (text : String) : Except Position (List SchemaEntry) := readAll schemaText text

end QueryBindings.Grammar

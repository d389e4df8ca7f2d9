import QueryBindings.Declaration
import QueryBindings.Options
import QueryBindings.Text.Letter

/-! # Names and types of declarations

How names are respelled, and how the types of a schema are declared. -/

namespace QueryBindings

/-! ## Spelling of declared names

How names are respelled: items and variants in camel case, members in snake case.  Item names
that the generated text needs itself get a suffix, and member names that are keywords are
written raw. -/

/-- Camel case: underscores and hyphens go, and the letter after one is `capital`. -/
def camelChars (capital : Bool) : List Char → List Char
  | [] => []
  | c :: rest =>
    if c = '_' ∨ c = '-' then camelChars true rest
    else if capital then Text.toUpper c ++ camelChars false rest
    else c :: camelChars false rest

/-- Item names that the generated text uses itself; `itemName` puts a suffix to them. -/
def takenItemNames : List String :=
  ["Self", "Type", "Box", "Option", "Result", "String", "Vec"]

/-- The name of an item: `name` in camel case, and not one of `takenItemNames`. -/
def itemName (name : String) : String :=
  let camel := String.ofList (camelChars true name.toList)
  if camel = "" then "Unnamed"
  else if takenItemNames.contains camel then camel ++ "Type"
  else camel

/-- The name of a variant: `itemName`, after a `name` without small letters is taken down to them.
-/
def variantName (name : String) : String :=
  if name.toList.any Text.isLower then itemName name else itemName (Text.lower name)

/-- Snake case: every capital letter becomes small, after an underscore if `afterSmall`. -/
def snakeChars (afterSmall : Bool) : List Char → List Char
  | [] => []
  | c :: rest =>
    if Text.isUpper c then
      (if afterSmall then ['_'] else []) ++ Text.toLower c ++ snakeChars false rest
    else c :: snakeChars (Text.isLower c || Text.isAsciiDigit c) rest

def keywords : List String := [
  "as", "break", "const", "continue", "crate", "else", "enum", "extern", "false", "fn", "for",
  "if", "impl", "in", "let", "loop", "match", "mod", "move", "mut", "pub", "ref", "return",
  "static", "struct", "super", "trait", "true", "type", "unsafe", "use", "where", "while",
  "async", "await", "dyn"]

def needsLetter : List Char → Bool
  | [] => true
  | c :: _ => Text.isAsciiDigit c

/-- The name of a member in snake case, raw if it is one of `keywords`; underscores at the start are
dropped. -/
def memberName (name : String) : String :=
  let snake := snakeChars false (name.toList.dropWhile (· = '_'))
  let text := String.ofList snake
  if needsLetter snake then "field_" ++ text
  else if keywords.contains text then "r#" ++ text
  else text

/-! ## Declarations of types

How the types of a schema are declared.  Nullable becomes optional, a list stays a list, and a
member that holds a record of its own kind without a list in between is boxed. -/

/-- The target of a type expression around `leaf`; `isBoxed` boxes a leaf that is in no list. -/
def TargetType.ofTypeExpr (leaf : String) (isBoxed : Bool) : TypeExpr → TargetType
  | .named _ mark =>
    let core := if isBoxed then boxed (name leaf) else name leaf
    if mark then core else optional core
  | .list element mark =>
    let core := list (ofTypeExpr leaf false element)
    if mark then core else optional core

/-- The target of `name`: a builtin scalar by `ScalarMap.target`, another type by its `itemName`, an
unknown one as an untyped value. -/
def Schema.targetName (schema : Schema) (options : Options) (name : String) : String :=
  match schema.type? name with
  | some d =>
    if d.kind = .scalar && d.builtin then options.scalars.target name else itemName d.name
  | none => "serde_json::Value"

/-- A member for a field; a base type of kind `boxedKind` is boxed. -/
def FieldDefinition.member (schema : Schema) (options : Options) (boxedKind : TypeKind)
    (skipAbsent : Bool) (f : FieldDefinition) : Member :=
  let base := f.type.baseName
  ⟨f.description, f.name, memberName f.name,
    .ofTypeExpr (schema.targetName options base) (schema.hasKind base boxedKind) f.type,
    skipAbsent && !f.type.nonNull⟩

def EnumValue.variant (v : EnumValue) : Variant :=
  ⟨v.description, v.name, variantName v.name⟩

namespace Definition

def declaration (schema : Schema) (options : Options) (d : Definition) : Declaration :=
  let item := itemName d.name
  match d.kind with
  | .scalar => .synonym d.description item (options.scalars.target d.name)
  | .enum => .enumeration d.description item (d.values.map (·.variant))
  | .inputObject =>
    .record d.description item (d.fields.map (·.member schema options .inputObject true))
  | .object =>
    .record d.description item
      ((d.fields.filter fun f => !isMetaName f.name).map (·.member schema options .object false))
  | .interface | .union => .wrapper d.description item

/-- Whether `d` is declared only when every type is: an object other than the roots, an interface or
a union. -/
def isOutputOnly (schema : Schema) (d : Definition) : Bool :=
  match d.kind with
  | .object => !schema.isRoot d.name
  | .interface | .union => true
  | .scalar | .enum | .inputObject => false

end Definition

/-- The types to declare, in the order of their declarations: scalars, enums, input objects, and
with `Options.full` those that are `isOutputOnly`. -/
def Schema.declaredTypes (schema : Schema) (options : Options) (names : List String) :
    List Definition :=
  let types := names.filterMap schema.type?
  types.filter (·.kind = .scalar) ++ types.filter (·.kind = .enum) ++
    types.filter (·.kind = .inputObject) ++
    if options.full then types.filter (·.isOutputOnly schema) else []

end QueryBindings

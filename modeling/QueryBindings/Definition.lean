import QueryBindings.Literal

/-! # Types and definitions

Type expressions, and what a schema defines. -/

namespace QueryBindings

/-! ## Type expressions

A type expression names a type or is a list of another type expression; at every level it may be
marked non-null.  The mark belongs to its own level, so `[String!]` and `[String]!` differ. -/

/-- A named type or a list, each with its non-null mark. -/
inductive TypeExpr where
  | named (name : String) (nonNull : Bool)
  | list (element : TypeExpr) (nonNull : Bool)
deriving DecidableEq, Repr, Inhabited

namespace TypeExpr

def nonNull : TypeExpr → Bool
  | named _ mark => mark
  | list _ mark => mark

/-- The expression with its outermost mark set to `mark`. -/
def withNonNull (mark : Bool) : TypeExpr → TypeExpr
  | named name _ => named name mark
  | list element _ => list element mark

/-- The name at the innermost level. -/
def baseName : TypeExpr → String
  | named name _ => name
  | list element _ => element.baseName

def isList : TypeExpr → Bool
  | named _ _ => false
  | list _ _ => true

/-- The written form: a name or a bracketed element, then `!` if non-null. -/
def text : TypeExpr → String
  | named name mark => if mark then name ++ "!" else name
  | list element mark => if mark then "[" ++ element.text ++ "]!" else "[" ++ element.text ++ "]"

/-! ### Marks and bases -/

@[simp] theorem baseName_withNonNull (mark : Bool) (t : TypeExpr) :
    (t.withNonNull mark).baseName = t.baseName := by cases t <;> rfl

@[simp] theorem nonNull_withNonNull (mark : Bool) (t : TypeExpr) :
    (t.withNonNull mark).nonNull = mark := by cases t <;> rfl

end TypeExpr

/-! ## Definitions

What a schema defines: named types of six kinds and directives.  A definition has a slot for
everything that some kind may hold, and refers to other types by name only.  Values of arguments
and defaults are kept as their written text. -/

inductive TypeKind where
  | scalar
  | object
  | interface
  | union
  | enum
  | inputObject
deriving DecidableEq, Repr, Inhabited

/-- The word that opens a definition of this kind, such as `type` for an object. -/
def TypeKind.keyword : TypeKind → String
  | scalar => "scalar"
  | object => "type"
  | interface => "interface"
  | union => "union"
  | enum => "enum"
  | inputObject => "input"

/-- Whether values of this kind are read through a selection of fields. -/
def TypeKind.isComposite : TypeKind → Bool
  | object | interface | union => true
  | scalar | enum | inputObject => false

structure Argument where
  name : String
  value : String
deriving DecidableEq, Repr, Inhabited

/-- A directive applied to something. -/
structure Directive where
  name : String
  arguments : List Argument
deriving DecidableEq, Repr, Inhabited

/-- `@deprecated`, with the reason if there is one. -/
def Directive.deprecated (reason : Option String) : Directive where
  name := "deprecated"
  arguments := reason.toList.map fun text => ⟨"reason", Literal.quote text⟩

structure ArgumentDefinition where
  name : String
  description : Option String
  defaultValue : Option String
  type : TypeExpr
  directives : List Directive
deriving DecidableEq, Repr, Inhabited

/-- A field of an object, an interface or an input object; `defaultValue` is meant for the last. -/
structure FieldDefinition where
  name : String
  description : Option String
  arguments : List ArgumentDefinition
  defaultValue : Option String
  type : TypeExpr
  directives : List Directive
deriving DecidableEq, Repr, Inhabited

structure EnumValue where
  name : String
  description : Option String
  directives : List Directive
deriving DecidableEq, Repr, Inhabited

structure DirectiveDefinition where
  name : String
  description : Option String
  arguments : List ArgumentDefinition
  repeatable : Bool
  locations : List String
  builtin : Bool
deriving DecidableEq, Repr, Inhabited

/-- A named type of any kind, with a slot for everything that some `kind` may hold. -/
structure Definition where
  kind : TypeKind
  name : String
  description : Option String
  interfaces : List String
  members : List String
  fields : List FieldDefinition
  values : List EnumValue
  directives : List Directive
  builtin : Bool
deriving DecidableEq, Repr, Inhabited

def builtinScalars : List String := ["String", "Int", "Float", "Boolean", "ID"]

def builtinDirectives : List String :=
  ["skip", "include", "deprecated", "specifiedBy", "oneOf"]

/-- Whether `name` is reserved for introspection: it starts with two underscores. -/
def isMetaName (name : String) : Bool := ['_', '_'].isPrefixOf name.toList

/-- Whether a type of this name comes with every schema: it is reserved or one of `builtinScalars`.
-/
def isBuiltinType (name : String) : Bool := isMetaName name || builtinScalars.contains name

def isBuiltinDirective (name : String) : Bool := builtinDirectives.contains name

/-- A definition with nothing in its slots. -/
def Definition.bare (kind : TypeKind) (name : String) : Definition where
  kind := kind
  name := name
  description := none
  interfaces := []
  members := []
  fields := []
  values := []
  directives := []
  builtin := isBuiltinType name

def Definition.field? (d : Definition) (name : String) : Option FieldDefinition :=
  d.fields.find? (·.name = name)

/-- An input field is declared like an argument, with a `defaultValue` and without arguments. -/
def ArgumentDefinition.toField (a : ArgumentDefinition) : FieldDefinition where
  name := a.name
  description := a.description
  arguments := []
  defaultValue := a.defaultValue
  type := a.type
  directives := a.directives

end QueryBindings

import QueryBindings.Definition
import QueryBindings.Table

/-! # Schemas

A schema is a table of types, a table of directives, the names of its root types, and for every
abstract type the names of the objects that can stand in for it. -/

namespace QueryBindings

inductive OperationKind where
  | query
  | mutation
  | subscription
deriving DecidableEq, Repr, Inhabited

namespace OperationKind

/-- The word that opens an operation of this kind. -/
def keyword : OperationKind → String
  | query => "query"
  | mutation => "mutation"
  | subscription => "subscription"

/-- The root type that serves this kind when the schema names none. -/
def defaultRoot : OperationKind → String
  | query => "Query"
  | mutation => "Mutation"
  | subscription => "Subscription"

/-- All kinds, in the order in which schemas list them. -/
def all : List OperationKind := [query, mutation, subscription]

end OperationKind

/-- A schema: `types` and `directives` by name, the root types, and in `possible` the names of the
types that can stand in for a name. -/
structure Schema where
  types : Table Definition
  directives : Table DirectiveDefinition
  queryRoot : Option String
  mutationRoot : Option String
  subscriptionRoot : Option String
  possible : Table (List String)
deriving DecidableEq, Repr

namespace Schema

def empty : Schema := ⟨∅, ∅, none, none, none, ∅⟩

instance : Inhabited Schema := ⟨empty⟩

def type? (s : Schema) (name : String) : Option Definition := s.types.get? name

def rootName? (s : Schema) : OperationKind → Option String
  | .query => s.queryRoot
  | .mutation => s.mutationRoot
  | .subscription => s.subscriptionRoot

/-- The definition of the root type that `rootName?` gives. -/
def root? (s : Schema) (kind : OperationKind) : Option Definition :=
  (s.rootName? kind).bind s.type?

/-- The schema in which `name` is the root type that serves `kind`. -/
def setRoot (s : Schema) (kind : OperationKind) (name : Option String) : Schema :=
  match kind with
  | .query => { s with queryRoot := name }
  | .mutation => { s with mutationRoot := name }
  | .subscription => { s with subscriptionRoot := name }

/-- Adds a type, in place of another of its name. -/
def addType (s : Schema) (d : Definition) : Schema :=
  { s with types := s.types.insert d.name d }

/-- Adds a directive, in place of another of its name. -/
def addDirective (s : Schema) (d : DirectiveDefinition) : Schema :=
  { s with directives := s.directives.insert d.name d }

def removeType (s : Schema) (name : String) : Schema :=
  { s with types := s.types.erase name }

/-- The names recorded as standing in for `name`. -/
def possibleNames (s : Schema) (name : String) : List String :=
  (s.possible.get? name).getD []

/-- Records that `member` can stand in for `name`; recording it again changes nothing. -/
def addPossible (s : Schema) (name member : String) : Schema :=
  let names := s.possibleNames name
  let extended := if names.contains member then names else names ++ [member]
  { s with possible := s.possible.insert name extended }

/-- The definitions of the `possibleNames`. -/
def possibleTypes (s : Schema) (name : String) : List Definition :=
  (s.possibleNames name).filterMap s.type?

def ownField? (s : Schema) (type field : String) : Option FieldDefinition :=
  (s.type? type).bind (·.field? field)

/-- The field of a type by `ownField?`, or else of the first of the `possibleTypes` that declares
one. -/
def findField? (s : Schema) (type field : String) : Option FieldDefinition :=
  s.ownField? type field <|> (s.possibleTypes type).findSome? (·.field? field)

def isComposite (s : Schema) (name : String) : Bool :=
  match s.type? name with
  | some d => d.kind.isComposite
  | none => false

def hasKind (s : Schema) (name : String) (kind : TypeKind) : Bool :=
  match s.type? name with
  | some d => d.kind = kind
  | none => false

/-- `name` is that of a root type. -/
def isRoot (s : Schema) (name : String) : Bool :=
  OperationKind.all.any fun kind => s.rootName? kind = some name

end Schema

end QueryBindings

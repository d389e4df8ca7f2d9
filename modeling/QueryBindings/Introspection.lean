import QueryBindings.Definition
import QueryBindings.Response

/-! # Introspection

What a server tells of its schema, and how its answer is read. -/

namespace QueryBindings.Introspection

/-! ## Introspection

What a server tells of its schema: references to types as chains of wrappers, and records of
types, fields, input values, enum values and directives.  `TypeRef.typeExpr?` takes a chain to
the type expression that it stands for. -/

/-- What a link of a type reference is: a type of some kind, or a wrapper around another link. -/
inductive LinkKind where
  | named (kind : TypeKind)
  | list
  | nonNull
  | unknown
deriving DecidableEq, Repr, Inhabited

/-- The kind that a server calls `name`; any other name is `unknown`. -/
def LinkKind.ofName (name : String) : LinkKind :=
  if name = "SCALAR" then named .scalar
  else if name = "OBJECT" then named .object
  else if name = "INTERFACE" then named .interface
  else if name = "UNION" then named .union
  else if name = "ENUM" then named .enum
  else if name = "INPUT_OBJECT" then named .inputObject
  else if name = "LIST" then list
  else if name = "NON_NULL" then nonNull
  else unknown

/-- A reference to a type: the `last` link of a chain, or a link `around` another. -/
inductive TypeRef where
  | last (kind : LinkKind) (name : Option String)
  | around (kind : LinkKind) (name : Option String) (inner : TypeRef)
deriving DecidableEq, Repr, Inhabited

/-- Whether a scalar that no link marks as `nonNull` is taken as nullable. -/
inductive ScalarNullability where
  | nullable
  | nonNull
deriving DecidableEq, Repr, Inhabited

namespace TypeRef

def name? : TypeRef → Option String
  | last _ name => name
  | around _ name _ => name

/-- The type expression that a reference stands for.  There is none for an unknown kind and for
a chain that ends without a name. -/
def typeExpr? (scalars : ScalarNullability) : TypeRef → Option TypeExpr
  | last .nonNull name => name.map fun n => .named n true
  | last (.named .scalar) name => name.map fun n => .named n (scalars = .nonNull)
  | last (.named _) name => name.map fun n => .named n false
  | last .list _ => none
  | last .unknown _ => none
  | around .nonNull _ inner => (inner.typeExpr? scalars).map (·.withNonNull true)
  | around (.named .scalar) name _ => name.map fun n => .named n (scalars = .nonNull)
  | around (.named _) name inner =>
    inner.typeExpr? scalars <|> name.map fun n => .named n false
  | around .list _ inner => (inner.typeExpr? scalars).map fun t => .list t false
  | around .unknown _ _ => none

end TypeRef

/-! ### Records -/

/-- An argument or an input field. -/
structure InputRecord where
  name : String
  description : Option String
  type : Option TypeRef
  defaultValue : Option String
deriving DecidableEq, Repr, Inhabited

structure FieldRecord where
  name : String
  description : Option String
  arguments : List InputRecord
  type : Option TypeRef
  deprecated : Bool
  reason : Option String
deriving DecidableEq, Repr, Inhabited

structure EnumValueRecord where
  name : String
  description : Option String
  deprecated : Bool
  reason : Option String
deriving DecidableEq, Repr, Inhabited

structure TypeRecord where
  kind : LinkKind
  name : String
  description : Option String
  fields : Option (List FieldRecord)
  inputFields : Option (List InputRecord)
  interfaces : Option (List (Option TypeRef))
  values : Option (List EnumValueRecord)
  possibleTypes : Option (List (Option TypeRef))
deriving DecidableEq, Repr, Inhabited

structure DirectiveRecord where
  name : String
  description : Option String
  repeatable : Bool
  locations : List String
  arguments : List InputRecord
deriving DecidableEq, Repr, Inhabited

/-- All that a server tells of its schema. -/
structure Payload where
  queryRoot : Option String
  mutationRoot : Option String
  subscriptionRoot : Option String
  types : List (Option TypeRecord)
  directives : List DirectiveRecord
deriving DecidableEq, Repr, Inhabited

/-! ### The question -/

/-- The lines of `query`.  It follows a chain seven links deep. -/
def queryLines : List String := [
  "query IntrospectionQuery \x7b",
  "  __schema \x7b",
  "    queryType \x7b name \x7d",
  "    mutationType \x7b name \x7d",
  "    subscriptionType \x7b name \x7d",
  "    types \x7b",
  "      ...FullType",
  "    \x7d",
  "    directives \x7b",
  "      name",
  "      description",
  "      isRepeatable",
  "      locations",
  "      args \x7b",
  "        ...InputValue",
  "      \x7d",
  "    \x7d",
  "  \x7d",
  "\x7d",
  "",
  "fragment FullType on __Type \x7b",
  "  kind",
  "  name",
  "  description",
  "  fields(includeDeprecated: true) \x7b",
  "    name",
  "    description",
  "    args \x7b",
  "      ...InputValue",
  "    \x7d",
  "    type \x7b",
  "      ...TypeRef",
  "    \x7d",
  "    isDeprecated",
  "    deprecationReason",
  "  \x7d",
  "  inputFields \x7b",
  "    ...InputValue",
  "  \x7d",
  "  interfaces \x7b",
  "    ...TypeRef",
  "  \x7d",
  "  enumValues(includeDeprecated: true) \x7b",
  "    name",
  "    description",
  "    isDeprecated",
  "    deprecationReason",
  "  \x7d",
  "  possibleTypes \x7b",
  "    ...TypeRef",
  "  \x7d",
  "\x7d",
  "",
  "fragment InputValue on __InputValue \x7b",
  "  name",
  "  description",
  "  type \x7b",
  "    ...TypeRef",
  "  \x7d",
  "  defaultValue",
  "\x7d",
  "",
  "fragment TypeRef on __Type \x7b",
  "  kind",
  "  name",
  "  ofType \x7b",
  "    kind",
  "    name",
  "    ofType \x7b",
  "      kind",
  "      name",
  "      ofType \x7b",
  "        kind",
  "        name",
  "        ofType \x7b",
  "          kind",
  "          name",
  "          ofType \x7b",
  "            kind",
  "            name",
  "            ofType \x7b",
  "              kind",
  "              name",
  "            \x7d",
  "          \x7d",
  "        \x7d",
  "      \x7d",
  "    \x7d",
  "  \x7d",
  "\x7d"]

/-- The query that asks for a schema. -/
def query : String := String.join (queryLines.map (· ++ "\n"))

/-! ## Reading introspection answers

Decoders for the records of an introspection answer. -/

open Json Json.Record

/-- Reads the kind of a link by `LinkKind.ofName`; an unknown one is kept as such. -/
def LinkKind.decoder : Decoder LinkKind := enumeration LinkKind.ofName

/-- A link without or around another. -/
def TypeRef.make (kind : LinkKind) (name : Option String) : Option TypeRef → TypeRef
  | none => last kind name
  | some inner => around kind name inner

/-- Reads a type reference, as a chain of links under `ofType`. -/
def TypeRef.decoder : Decoder TypeRef
  | 0, r => Record.decoder "TypeRef" (TypeRef.make .unknown none <$> const none) 0 r
  | depth + 1, r =>
    Record.decoder "TypeRef"
      (TypeRef.make <$> required "kind" LinkKind.decoder <*> optional "name" string
        <*> optional "ofType" fun _ inner => TypeRef.decoder depth inner)
      (depth + 1) r

def InputRecord.decoder : Decoder InputRecord :=
  Record.decoder "InputValueRecord"
    (InputRecord.mk <$> required "name" string <*> optional "description" string
      <*> optional "type" TypeRef.decoder <*> optional "defaultValue" string)

def FieldRecord.decoder : Decoder FieldRecord :=
  Record.decoder "FieldRecord"
    (FieldRecord.mk <$> required "name" string <*> optional "description" string
      <*> withDefault "args" [] (list InputRecord.decoder) <*> optional "type" TypeRef.decoder
      <*> withDefault "isDeprecated" false boolean <*> optional "deprecationReason" string)

def EnumValueRecord.decoder : Decoder EnumValueRecord :=
  Record.decoder "EnumValueRecord"
    (EnumValueRecord.mk <$> required "name" string <*> optional "description" string
      <*> withDefault "isDeprecated" false boolean <*> optional "deprecationReason" string)

def TypeRecord.decoder : Decoder TypeRecord :=
  Record.decoder "FullType"
    (TypeRecord.mk <$> required "kind" LinkKind.decoder <*> required "name" string
      <*> optional "description" string
      <*> optional "fields" (list FieldRecord.decoder)
      <*> optional "inputFields" (list InputRecord.decoder)
      <*> optional "interfaces" (list (nullable TypeRef.decoder))
      <*> optional "enumValues" (list EnumValueRecord.decoder)
      <*> optional "possibleTypes" (list (nullable TypeRef.decoder)))

def DirectiveRecord.decoder : Decoder DirectiveRecord :=
  Record.decoder "IntrospectionDirective"
    (DirectiveRecord.mk <$> required "name" string <*> optional "description" string
      <*> withDefault "isRepeatable" false boolean
      <*> withDefault "locations" [] (list string)
      <*> withDefault "args" [] (list InputRecord.decoder))

/-- Reads the name of a root type. -/
def rootDecoder : Decoder String := Record.decoder "RootTypeRef" (required "name" string)

/-- Reads what a server tells of its schema, the value of `__schema`. -/
def Payload.decoder : Decoder Payload :=
  Record.decoder "IntrospectionSchema"
    (Payload.mk <$> optional "queryType" rootDecoder <*> optional "mutationType" rootDecoder
      <*> optional "subscriptionType" rootDecoder
      <*> withDefault "types" [] (list (nullable TypeRecord.decoder))
      <*> withDefault "directives" [] (list DirectiveRecord.decoder))

/-- Reads the data of an introspection answer. -/
def dataDecoder : Decoder (Option Payload) :=
  Record.decoder "IntrospectionData" (optional "__schema" Payload.decoder)

/-- Reads an introspection answer: `dataDecoder` under `data`, and errors beside it. -/
def responseDecoder : Decoder (Response (Option Payload)) := Response.decoder dataDecoder

end QueryBindings.Introspection

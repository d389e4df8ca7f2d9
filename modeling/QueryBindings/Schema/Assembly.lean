import QueryBindings.Error
import QueryBindings.Grammar.TypeSystem
import QueryBindings.Introspection
import QueryBindings.Options
import QueryBindings.Schema
import QueryBindings.Text

/-! # Building schemas

A schema is built from text (`Schema.ofText`) or from what a server tells (`Schema.ofPayload`,
`Schema.ofAnswer`).  Either way `Schema.assemble` comes last. -/

namespace QueryBindings

/-! ## Assembling a schema

What every schema goes through once its types and directives are collected: the objects that can
stand in for each type are recorded, and every reference to a type must resolve.  The first
dangling reference counts, in a fixed order: root types, then types by name with their
interfaces, members, fields and arguments, then the arguments of directives by name. -/

/-- What a definition says of objects standing in for types: an object for itself and for its
interfaces, a member for its union. -/
def Definition.standIns (d : Definition) : List (String × String) :=
  match d.kind with
  | .object => (d.name, d.name) :: d.interfaces.map fun i => (i, d.name)
  | .union => d.members.map fun m => (d.name, m)
  | _ => []

/-- The types that a definition refers to, in order. -/
def Definition.references (d : Definition) : List String :=
  d.interfaces ++ d.members ++ d.fields.flatMap fun f =>
    f.type.baseName :: f.arguments.map (·.type.baseName)

namespace Schema

/-- Records the `standIns` of every definition. -/
def indexPossible (s : Schema) : Schema :=
  (s.types.values.flatMap (·.standIns)).foldl (fun s p => s.addPossible p.1 p.2) s

/-- All references to types, each with what holds it. -/
def references (s : Schema) : List (String × String) :=
  (OperationKind.all.filterMap fun kind =>
    (s.rootName? kind).map fun name => ("schema." ++ kind.keyword, name)) ++
  (s.types.values.flatMap fun d => d.references.map (d.name, ·)) ++
  s.directives.values.flatMap fun d => d.arguments.map fun a => ("@" ++ d.name, a.type.baseName)

/-- The first of the `references` to a type that is not defined. -/
def danglingReference? (s : Schema) : Option (String × String) :=
  s.references.find? fun r => !s.types.contains r.2

/-- The schema with its index, unless there is a `danglingReference?`. -/
def assemble (s : Schema) : Except Error Schema :=
  let indexed := s.indexPossible
  match indexed.danglingReference? with
  | some (holder, name) => .error (.unknownType holder name)
  | none => .ok indexed

end Schema

/-! ## Schemas from text

A schema text defines types and directives, extends types, and may name the root types.  Of two
definitions with one name the later one counts; extensions are applied after all definitions,
in document order.  Without a schema block the types with the default names are the roots. -/

open Grammar (SchemaEntry)

/-- The definition with everything in `addition` at the end of its slots. -/
def Definition.extend (d addition : Definition) : Definition :=
  { d with
    interfaces := d.interfaces ++ addition.interfaces
    members := d.members ++ addition.members
    fields := d.fields ++ addition.fields
    values := d.values ++ addition.values
    directives := d.directives ++ addition.directives }

namespace Schema

/-- The schema of the `builtinScalars` alone. -/
def builtin : Schema :=
  builtinScalars.foldl (fun s name => s.addType (.bare .scalar name)) empty

/-- Adds what an entry defines; extensions wait for `extendType`. -/
def addEntry (s : Schema) : SchemaEntry → Schema
  | .roots block =>
    { s with
      queryRoot := block.query
      mutationRoot := block.mutation
      subscriptionRoot := block.subscription }
  | .type d => s.addType d
  | .directive d => s.addDirective d
  | .extension _ => s

/-- Extends the type that `addition` names. -/
def extendType (s : Schema) (addition : Definition) : Except Error Schema :=
  match s.type? addition.name with
  | some d => .ok { s with types := s.types.insert addition.name (d.extend addition) }
  | none => .error (.unknownType ("extend " ++ addition.name) addition.name)

/-- Makes the types with the default names the roots. -/
def withDefaultRoots (s : Schema) : Schema :=
  OperationKind.all.foldl (fun s kind =>
    if s.types.contains kind.defaultRoot then s.setRoot kind (some kind.defaultRoot) else s) s

/-- The addition that an entry makes to another definition. -/
def addition? : SchemaEntry → Option Definition
  | .extension addition => some addition
  | _ => none

def namesRoots : SchemaEntry → Bool
  | .roots _ => true
  | _ => false

/-- The schema that the entries define: `addEntry` for all, then `extendType` for the extensions,
then `assemble`. -/
def ofEntries (entries : List SchemaEntry) : Except Error Schema := do
  let defined := entries.foldl addEntry builtin
  let extended ← (entries.filterMap addition?).foldlM extendType defined
  let rooted := if entries.any namesRoots then extended else extended.withDefaultRoots
  rooted.assemble

/-- The schema that a text defines, by `ofEntries`. -/
def ofText (text : String) : Except Error Schema :=
  match Grammar.readSchema text with
  | .error position => .error (.unreadable .schema position)
  | .ok entries => ofEntries entries

end Schema

/-! ## Schemas from introspection

A server's records become definitions.  What cannot be decoded is left out: a field, an argument
or an input field whose type reference stands for nothing, and a record of no kind of type.
Reserved types are left out unless the options keep them; of two types with one name the later
one counts. -/

open Introspection

namespace Introspection

variable (scalars : ScalarNullability)

/-- The directives of something that may be deprecated. -/
def deprecation (deprecated : Bool) (reason : Option String) : List Directive :=
  if deprecated then [.deprecated reason] else []

/-- The argument of a record, if `typeExpr?` decodes its type. -/
def InputRecord.definition? (r : InputRecord) : Option ArgumentDefinition :=
  (r.type.bind (·.typeExpr? scalars)).map fun type =>
    ⟨r.name, Text.nonBlank? r.description, r.defaultValue, type, []⟩

/-- The field of a record, if `typeExpr?` decodes its type. -/
def FieldRecord.definition? (r : FieldRecord) : Option FieldDefinition :=
  (r.type.bind (·.typeExpr? scalars)).map fun type =>
    ⟨r.name, Text.nonBlank? r.description, r.arguments.filterMap (·.definition? scalars), none,
      type, deprecation r.deprecated r.reason⟩

def EnumValueRecord.definition (r : EnumValueRecord) : EnumValue :=
  ⟨r.name, Text.nonBlank? r.description, deprecation r.deprecated r.reason⟩

/-- The names that a list of references gives. -/
def referenceNames (refs : Option (List (Option TypeRef))) : List String :=
  (refs.getD []).filterMap fun r => r.bind (·.name?)

/-- The definition of a record, if its kind is known.  Only the slots of its kind are filled, and
the interfaces. -/
def TypeRecord.definition? (r : TypeRecord) : Option Definition :=
  match r.kind with
  | .named kind =>
    let bare := Definition.bare kind r.name
    let named := { bare with
      description := Text.nonBlank? r.description
      interfaces := referenceNames r.interfaces }
    some <| match kind with
      | .object | .interface =>
        { named with fields := (r.fields.getD []).filterMap (·.definition? scalars) }
      | .inputObject =>
        { named with
          fields := (r.inputFields.getD []).filterMap fun i =>
            (i.definition? scalars).map (·.toField) }
      | .enum => { named with values := (r.values.getD []).map (·.definition) }
      | .union => { named with members := referenceNames r.possibleTypes }
      | .scalar => named
  | .list | .nonNull | .unknown => none

def DirectiveRecord.definition (r : DirectiveRecord) : DirectiveDefinition :=
  ⟨r.name, Text.nonBlank? r.description, r.arguments.filterMap (·.definition? scalars),
    r.repeatable, r.locations, isBuiltinDirective r.name⟩

end Introspection

namespace Schema

/-- The records of a payload that are taken: those of reserved names only with `keepBuiltins`. -/
def takenTypes (keepBuiltins : Bool) (payload : Payload) : List TypeRecord :=
  (payload.types.filterMap id).filter fun r => keepBuiltins || !isMetaName r.name

/-- The schema that a payload tells of, by `assemble`. -/
def ofPayload (options : Options) (payload : Payload) : Except Error Schema :=
  let types := (takenTypes options.keepBuiltins payload).filterMap
    (·.definition? options.scalarNullability)
  let directives := payload.directives.map (·.definition options.scalarNullability)
  let roots : Schema :=
    { empty with
      queryRoot := payload.queryRoot
      mutationRoot := payload.mutationRoot
      subscriptionRoot := payload.subscriptionRoot }
  (directives.foldl addDirective (types.foldl addType roots)).assemble

/-- The schema in the text of an introspection answer, by `ofPayload`. -/
def ofAnswer (options : Options) (text : String) : Except Error Schema :=
  match Json.decodeText responseDecoder text with
  | .error fault => .error (.json fault)
  | .ok response =>
    if response.hasErrors then
      .error (.response none response.errors text response.summary)
    else match response.data.bind id with
      | some payload => ofPayload options payload
      | none => .error .incompleteIntrospection

end Schema

end QueryBindings

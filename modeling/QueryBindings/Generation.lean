import QueryBindings.Document.Fragments
import QueryBindings.Document.Validation
import QueryBindings.Grammar.Executable
import QueryBindings.Layout
import QueryBindings.Options

/-! # Generation

From a schema and a document to the bundle that declarations are made of: every operation
inlined, with the text to send for it; the canonical text of the schema; and the names of the
types to declare.  The text to send is the operation as written, followed by the fragments it
needs, so a server can still check its conditions. -/

namespace QueryBindings

/-- An inlined operation with the `text` to send for it. -/
structure RenderedOperation where
  operation : Operation
  text : String
deriving DecidableEq, Repr, Inhabited

/-- A set of names, ascending. -/
abbrev NameSet := Table Unit

/-- All that declarations are made of.  `referenced` are the types in use, or all of them. -/
structure Generation where
  schema : Schema
  schemaText : String
  operations : List RenderedOperation
  referenced : NameSet
deriving DecidableEq, Repr

/-! ### Documents from texts -/

/-- The document in `text`, by `Grammar.readDocument`. -/
def Document.ofText (text : String) : Except Error Document :=
  match Grammar.readDocument text with
  | .error position => .error (.unreadable .query position)
  | .ok d => .ok d

/-- The documents of all texts, by `Document.merge`. -/
def Document.ofTexts (texts : List String) : Except Error Document :=
  (texts.mapM Document.ofText).map Document.merge

/-! ### Types in use -/

namespace Schema

/-- Adds a type to a set, and with an input object the types of its fields.  Input objects nest at
most `depth` deep; the number of types is enough, as a type in the set is not added again. -/
def addUsed (s : Schema) : (depth : Nat) → NameSet → String → NameSet
  | depth, seen, name =>
    if seen.contains name then seen
    else
      let seen := seen.insert name ()
      match depth, s.type? name with
      | depth + 1, some d =>
        if d.kind = .inputObject then
          d.fields.foldl (fun seen f => addUsed s depth seen f.type.baseName) seen
        else seen
      | _, _ => seen

/-- Adds `name` and all that it needs to `seen`, by `addUsed`. -/
def addTypeInUse (s : Schema) (seen : NameSet) (name : String) : NameSet :=
  s.addUsed (s.types.size + 1) seen name

/-- Adds the types of the fields that are selected in `scope`, as far as `findField?` finds them
there. -/
def addSelected (s : Schema) : (scope : String) → SelectionSet → NameSet → NameSet
  | _, .nil, seen => seen
  | scope, .field f inner rest, seen =>
    let seen := match s.findField? scope f.name with
      | none => seen
      | some d => addSelected s d.type.baseName inner (s.addTypeInUse seen d.type.baseName)
    addSelected s scope rest seen
  | scope, .spread _ rest, seen => addSelected s scope rest seen
  | scope, .inline i inner rest, seen =>
    addSelected s scope rest (addSelected s (i.condition.getD scope) inner seen)

/-- Adds the types of the variables and selections of `o` to `seen`. -/
def addOperation (s : Schema) (seen : NameSet) (o : Operation) : NameSet :=
  let seen := o.parameters.foldl (fun seen v => s.addTypeInUse seen v.type.baseName) seen
  match s.rootName? o.kind with
  | some root => s.addSelected root o.selections seen
  | none => seen

/-- Whether `name` belongs to a type that is not builtin. -/
def isOwnType (s : Schema) (name : String) : Bool :=
  match s.type? name with
  | some d => !d.builtin
  | none => false

/-- The types that `operations` use, as far as they are `isOwnType`. -/
def referencedTypes (s : Schema) (operations : List Operation) : NameSet :=
  let seen := operations.foldl s.addOperation ∅
  .ofList (seen.entries.filter fun e => s.isOwnType e.1)

def ownTypes (s : Schema) : NameSet :=
  .ofList ((s.types.values.filter fun d => !d.builtin).map fun d => (d.name, ()))

end Schema

/-! ### The bundle -/

/-- The text to send for `o`: the operation and the fragments that it needs, by `Document.print`. -/
def Operation.requestText (options : Options) (o : Operation) (used : List Fragment) : String :=
  Document.print options.indent ⟨[o], used⟩

/-- Inlines the operations in order, and lays out their `requestText`. -/
def renderOperations (options : Options) (table : FragmentTable) :
    Inliner → List Operation → Except Error (List RenderedOperation)
  | _, [] => .ok []
  | inliner, o :: rest =>
    match inliner.inlineOperation o with
    | (.error e, _) => .error e
    | (.ok flat, inliner) => do
      let used ← table.usedBy o
      let others ← renderOperations options table inliner rest
      return ⟨flat, o.requestText options used⟩ :: others

/-- The bundle of `schema` and a `document` that fits it, by `Document.validate` and
`renderOperations`. -/
def generate (options : Options) (schema : Schema) (document : Document) :
    Except Error Generation := do
  document.validate schema
  let table ← document.fragmentTable
  let operations ← renderOperations options table (.fresh table) document.operations
  let referenced :=
    if options.full then schema.ownTypes
    else schema.referencedTypes (operations.map (·.operation))
  return ⟨schema, schema.print options.indent options.showBuiltins, operations, referenced⟩

end QueryBindings

import QueryBindings.Declaration.OfType
import QueryBindings.Document.Validation
import QueryBindings.Generation

/-! # Declarations of operations

Every operation gets a record of its variables, a record of its answer for every selection set
in it, and an item of its own.  A record cannot hold a response key twice, so what is selected
under one key is merged first; it has to be the same field with the same arguments.

Every item name is claimed once.  An operation whose name is taken gets its kind as a suffix;
any other clash is an error. -/

namespace QueryBindings

/-! ### Item names -/

/-- The item names in use, each with its owner. -/
abbrev ItemNames := Table String

/-- Claims `item` for `owner`; it is an error if another owner has it. -/
def ItemNames.claim (names : ItemNames) (item owner : String) : Except Error ItemNames :=
  match names.get? item with
  | some previous => reject (.sameItem owner previous item)
  | none => .ok (names.insert item owner)

def ItemNames.claimType (names : ItemNames) (d : Definition) : Except Error ItemNames :=
  names.claim (itemName d.name) ("type " ++ d.name)

/-! ### Merging response keys -/

/-- A field with all that is selected of its value. -/
structure Selected where
  field : Field
  inner : SelectionSet
deriving DecidableEq, Repr, Inhabited

/-- The number of entries in and under the selected fields, which bounds `responseRecords`. -/
def weight : List Selected → Nat
  | [] => 0
  | s :: rest => s.inner.size + 1 + weight rest

/-- Adds `f`, merging it with an earlier field under its `responseKey`; the two must be alike. -/
def mergeField (f : Field) (inner : SelectionSet) : List Selected → Except Error (List Selected)
  | [] => .ok [⟨f, inner⟩]
  | s :: rest =>
    if s.field.responseKey = f.responseKey then
      if s.field.name = f.name ∧ s.field.arguments = f.arguments then
        .ok ({ s with inner := s.inner ++ inner } :: rest)
      else reject (.conflictingFields f.responseKey)
    else
      match mergeField f inner rest with
      | .error e => .error e
      | .ok merged => .ok (s :: merged)

/-- Adds the fields of a set, one for each `responseKey`. -/
def mergeFields (merged : List Selected) : SelectionSet → Except Error (List Selected)
  | .nil => .ok merged
  | .field f inner rest =>
    match mergeField f inner merged with
    | .error e => .error e
    | .ok merged => mergeFields merged rest
  | .spread _ _ | .inline _ _ _ => reject .fragmentsLeft

theorem weight_mergeField_le {f : Field} {inner : SelectionSet} {before after : List Selected}
    (h : mergeField f inner before = .ok after) :
    weight after ≤ weight before + inner.size + 1 := by
  induction before generalizing after with
  | nil => simp [mergeField] at h; subst h; simp [weight]
  | cons s rest ih =>
    simp only [mergeField] at h
    split at h
    · split at h
      · cases h; simp [weight]; omega
      · simp [reject] at h
    · split at h
      · simp at h
      · rename_i merged hm
        cases h
        have := ih hm
        simp only [weight] at this ⊢
        omega

theorem weight_mergeFields_le {set : SelectionSet} {before after : List Selected}
    (h : mergeFields before set = .ok after) : weight after ≤ weight before + set.size := by
  induction set generalizing before with
  | nil => simp [mergeFields] at h; subst h; simp [SelectionSet.size]
  | field f inner rest _ ih =>
    simp only [mergeFields] at h
    split at h
    · simp at h
    · rename_i merged hm
      have := weight_mergeField_le hm
      have := ih h
      simp only [SelectionSet.size]
      omega
  | spread s rest _ => simp [mergeFields, reject] at h
  | inline i inner rest _ _ => simp [mergeFields, reject] at h

/-! ### Records of answers -/

structure RecordContext where
  schema : Schema
  options : Options
  owner : String

/-- Records with the `ItemNames` in use after them. -/
abbrev Records := List Declaration × ItemNames

/-- The type of a selected field: as `parent` declares it, or optional on the outside if only a type
that can stand in for `parent` does. -/
def selectedType (schema : Schema) (parent : String) (d : FieldDefinition) : TypeExpr :=
  if (schema.ownField? parent d.name).isSome then d.type else d.type.withNonNull false

/-- A member under `key`, which is spelled as `memberName` has it. -/
def responseMember (key : String) (type : TargetType) : Member :=
  ⟨none, key, memberName key, type, false⟩

mutual

/-- The record `name` for `set` selected on `parent`, followed by the records for the sets inside
it. -/
def responseRecords (c : RecordContext) (name parent : String) (set : SelectionSet)
    (names : ItemNames) : Except Error Records :=
  match names.claim name c.owner with
  | .error e => .error e
  | .ok names =>
    match _h : mergeFields [] set with
    | .error e => .error e
    | .ok fields =>
      match responseMembers c name parent fields names with
      | .error e => .error e
      | .ok (members, nested, names) => .ok (.record none name members :: nested, names)
termination_by 2 * set.size + 1
decreasing_by
  have := weight_mergeFields_le _h
  simp only [weight] at this
  omega

/-- The members for `fields`, and the records for the sets inside them. -/
def responseMembers (c : RecordContext) (name parent : String) (fields : List Selected)
    (names : ItemNames) : Except Error (List Member × List Declaration × ItemNames) :=
  match fields with
  | [] => .ok ([], [], names)
  | s :: rest =>
    let key := s.field.responseKey
    if s.field.name = "__typename" then
      match responseMembers c name parent rest names with
      | .error e => .error e
      | .ok (members, nested, names) =>
        .ok (responseMember key (.name "String") :: members, nested, names)
    else
      match c.schema.findField? parent s.field.name with
      | none => reject (.unknownField s.field.name parent)
      | some d =>
        let base := d.type.baseName
        let type := selectedType c.schema parent d
        if s.inner.isEmpty then
          let member := responseMember key
            (.ofTypeExpr (c.schema.targetName c.options base) false type)
          match responseMembers c name parent rest names with
          | .error e => .error e
          | .ok (members, nested, names) => .ok (member :: members, nested, names)
        else
          let inside := name ++ itemName key
          let member := responseMember key (.ofTypeExpr inside false type)
          match responseRecords c inside base s.inner names with
          | .error e => .error e
          | .ok (records, names) =>
            match responseMembers c name parent rest names with
            | .error e => .error e
            | .ok (members, nested, names) => .ok (member :: members, records ++ nested, names)
termination_by 2 * weight fields
decreasing_by
  all_goals simp only [weight]; omega

end

/-! ### Operations -/

def VariableDefinition.member (schema : Schema) (options : Options) (v : VariableDefinition) :
    Member :=
  ⟨none, v.name, memberName v.name,
    .ofTypeExpr (schema.targetName options v.type.baseName) false v.type, !v.type.nonNull⟩

/-- The item of an operation: `itemName`, with the kind of the operation as a suffix if that is
taken. -/
def operationItem (names : ItemNames) (kind : OperationKind) (name : String) : String :=
  let item := itemName name
  if names.contains item then item ++ itemName kind.keyword else item

/-- The declarations of an operation: its variables, its `responseRecords`, and the item that ties
its text to them. -/
def RenderedOperation.declarations (schema : Schema) (options : Options) (names : ItemNames)
    (r : RenderedOperation) : Except Error Records := do
  let o := r.operation
  match o.name with
  | none => reject (.anonymous o.kind)
  | some name =>
    match schema.rootName? o.kind with
    | none => reject (.noRoot o.kind)
    | some root =>
      let owner := o.kind.keyword ++ " " ++ name
      let item := operationItem names o.kind name
      let names ← names.claim item owner
      let names ← names.claim (item ++ "Variables") owner
      let (records, names) ←
        responseRecords ⟨schema, options, owner⟩ (item ++ "Response") root o.selections names
      let input := Declaration.record none (item ++ "Variables")
        (o.parameters.map (·.member schema options))
      let operation := Declaration.operation item name r.text (item ++ "Variables")
        (item ++ "Response")
      return (input :: records ++ [operation], names)

def operationDeclarations (schema : Schema) (options : Options) (names : ItemNames) :
    List RenderedOperation → Except Error (List Declaration)
  | [] => .ok []
  | r :: rest => do
    let (declarations, names) ← r.declarations schema options names
    let others ← operationDeclarations schema options names rest
    return declarations ++ others

/-! ### Whole bundles -/

/-- All declarations of `g`: those of its types, then those of its operations. -/
def Generation.declarations (g : Generation) (options : Options) :
    Except Error (List Declaration) := do
  let types := g.schema.declaredTypes options g.referenced.keys
  let names ← types.foldlM ItemNames.claimType (∅ : Table String)
  let operations ← operationDeclarations g.schema options names g.operations
  return types.map (·.declaration g.schema options) ++ operations

def Generation.source (g : Generation) (options : Options) : Except Error String :=
  (g.declarations options).map declarationsText

end QueryBindings

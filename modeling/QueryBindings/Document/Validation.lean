import QueryBindings.Document.Fragments

/-! # Validation

Whether a document fits a schema: names are unique, fragments are on composite types and none
leads back to itself, fields exist on the type in whose scope they are written, and a field has
selections exactly if its type is composite.  The first fault in document order counts, all
fragments before all operations. -/

namespace QueryBindings

/-- Fails with `reason`. -/
def reject {α : Type} (reason : Invalid) : Except Error α := .error (.invalid reason)

/-! ### Selections -/

/-- Whether `f` fits its type `parent` and its selections `inner`; gives the type of its value. -/
def checkField (schema : Schema) (parent : String) (f : Field) (inner : SelectionSet) :
    Except Error String :=
  match schema.ownField? parent f.name with
  | none => reject (.unknownField f.name parent)
  | some d =>
    let type := d.type.baseName
    if schema.isComposite type && inner.isEmpty then
      reject (.selectionNeeded parent f.name type)
    else if !schema.isComposite type && !inner.isEmpty then
      reject (.selectionRefused parent f.name type)
    else .ok type

/-- The scope inside a fragment written in line: its `condition`, or else `parent`. -/
def checkCondition (schema : Schema) (parent : String) (condition : Option String) :
    Except Error String :=
  match condition with
  | none => .ok parent
  | some type =>
    match schema.type? type with
    | none => reject (.inlineOnUnknown type)
    | some d => if d.kind.isComposite then .ok type else reject (.inlineOnLeaf type)

/-- Whether selections fit the type in whose `scope` they are written.  Reserved fields are not
looked into. -/
def checkSelections (schema : Schema) (table : FragmentTable) :
    (scope : String) → SelectionSet → Except Error Unit
  | _, .nil => .ok ()
  | scope, .field f inner rest => do
    if f.name = "__typename" then
      if inner.isEmpty then pure () else reject .selectionOfTypename
    else if isMetaName f.name then pure ()
    else
      let type ← checkField schema scope f inner
      checkSelections schema table type inner
    checkSelections schema table scope rest
  | scope, .spread s rest => do
    if table.contains s.name then pure () else .error (.unresolvedFragment s.name)
    checkSelections schema table scope rest
  | scope, .inline i inner rest => do
    let inside ← checkCondition schema scope i.condition
    checkSelections schema table inside inner
    checkSelections schema table scope rest

/-! ### Cycles -/

/-- Follows the spreads from a fragment depth first.  `path` holds the fragments on the way,
innermost first, and `done` those that are known to lead to no cycle; the result adds to them.
The way is at most `depth` long; one more than the number of fragments is enough. -/
def visitFragment (table : FragmentTable) :
    (depth : Nat) → (path done : List String) → Fragment → Except Error (List String)
  | 0, _, done, _ => .ok done
  | depth + 1, path, done, f =>
    if done.contains f.name then .ok done
    else if path.contains f.name then .error (.cyclicFragment (f.name :: path).reverse)
    else do
      let done ← f.selections.spreads.foldlM (fun done name =>
        match table.get? name with
        | some next => visitFragment table depth (f.name :: path) done next
        | none => .ok done) done
      return f.name :: done

/-- No fragment leads back to itself, as `visitFragment` finds from each of them. -/
def checkCycles (table : FragmentTable) (fragments : List Fragment) : Except Error Unit := do
  let _ ← fragments.foldlM (visitFragment table (table.size + 2) []) []
  return ()

/-! ### Documents -/

/-- The names of operations differ from each other and from those in `seen`. -/
def checkOperationNames : (seen : List String) → List Operation → Except Error Unit
  | _, [] => .ok ()
  | seen, o :: rest =>
    match o.name with
    | none => checkOperationNames seen rest
    | some name =>
      if seen.contains name then reject (.repeatedOperation name)
      else checkOperationNames (name :: seen) rest

/-- A fragment is on a composite type and its selections fit, by `checkSelections`. -/
def checkFragment (schema : Schema) (table : FragmentTable) (f : Fragment) : Except Error Unit :=
  match schema.type? f.condition with
  | none => reject (.fragmentOnUnknown f.name f.condition)
  | some d =>
    if d.kind.isComposite then checkSelections schema table f.condition f.selections
    else reject (.fragmentOnLeaf f.name f.condition)

def checkVariable (schema : Schema) (v : VariableDefinition) : Except Error Unit :=
  if schema.types.contains v.type.baseName then .ok ()
  else reject (.unknownVariableType v.name v.type.text)

/-- An operation has a root type, known variable types, and selections that fit. -/
def checkOperation (schema : Schema) (table : FragmentTable) (o : Operation) :
    Except Error Unit :=
  match schema.root? o.kind with
  | none => reject (.noRoot o.kind)
  | some root => do
    o.parameters.forM (checkVariable schema)
    checkSelections schema table root.name o.selections

/-- Whether `d` fits `schema`: fragments first, then operations. -/
def Document.validate (d : Document) (schema : Schema) : Except Error Unit := do
  let table ← d.fragmentTable
  checkOperationNames [] d.operations
  d.fragments.forM (checkFragment schema table)
  checkCycles table d.fragments
  d.operations.forM (checkOperation schema table)

end QueryBindings

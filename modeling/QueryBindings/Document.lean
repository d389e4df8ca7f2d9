import QueryBindings.Definition
import QueryBindings.Schema

/-! # Documents

What operations select, and the documents that define them. -/

namespace QueryBindings

/-! ## Selection sets

What an operation asks of a value: a list of fields, each with what is asked of its own value,
and of fragments, spread by name or written in line.  A selection set is read from its first
entry, so that a statement about all of them is one induction. -/

/-- A selected field, without what is selected of its value. -/
structure Field where
  aliasName : Option String
  name : String
  arguments : List Argument
  directives : List Directive
deriving DecidableEq, Repr, Inhabited

/-- The key of the field in an answer: `aliasName`, or else `name`. -/
def Field.responseKey (f : Field) : String := f.aliasName.getD f.name

/-- A fragment spread by name. -/
structure Spread where
  name : String
  directives : List Directive
deriving DecidableEq, Repr, Inhabited

/-- The head of a fragment written in line; without a `condition` it is on the type around it. -/
structure InlineFragment where
  condition : Option String
  directives : List Directive
deriving DecidableEq, Repr, Inhabited

/-- The selected entries, in order.  `rest` is what comes after an entry, `inner` what is selected
in it. -/
inductive SelectionSet where
  | nil
  | field (field : Field) (inner rest : SelectionSet)
  | spread (spread : Spread) (rest : SelectionSet)
  | inline (fragment : InlineFragment) (inner rest : SelectionSet)
deriving DecidableEq, Repr, Inhabited

namespace SelectionSet

def isEmpty : SelectionSet → Bool
  | nil => true
  | _ => false

/-- The number of entries, not counting what lies in their `inner` sets. -/
def length : SelectionSet → Nat
  | nil => 0
  | field _ _ rest | spread _ rest | inline _ _ rest => rest.length + 1

/-- The entries of the first set, then those of the second. -/
def append : SelectionSet → SelectionSet → SelectionSet
  | nil, t => t
  | field f inner rest, t => field f inner (rest.append t)
  | spread s rest, t => spread s (rest.append t)
  | inline i inner rest, t => inline i inner (rest.append t)

instance : Append SelectionSet := ⟨append⟩

/-- Whether no `spread` and no `inline` is left at any depth. -/
def isFlat : SelectionSet → Bool
  | nil => true
  | field _ inner rest => inner.isFlat && rest.isFlat
  | spread _ _ | inline _ _ _ => false

/-- The names of the spread fragments in document order, `inner` sets included. -/
def spreads : SelectionSet → List String
  | nil => []
  | field _ inner rest => inner.spreads ++ rest.spreads
  | spread s rest => s.name :: rest.spreads
  | inline _ inner rest => inner.spreads ++ rest.spreads

/-- The number of entries at all depths. -/
def size : SelectionSet → Nat
  | nil => 0
  | field _ inner rest | inline _ inner rest => inner.size + rest.size + 1
  | spread _ rest => rest.size + 1

/-! ### Appending -/

@[simp] theorem nil_append (t : SelectionSet) : nil ++ t = t := rfl

@[simp] theorem field_append (f : Field) (inner rest t : SelectionSet) :
    field f inner rest ++ t = field f inner (rest ++ t) := rfl

@[simp] theorem spread_append (s : Spread) (rest t : SelectionSet) :
    spread s rest ++ t = spread s (rest ++ t) := rfl

@[simp] theorem inline_append (i : InlineFragment) (inner rest t : SelectionSet) :
    inline i inner rest ++ t = inline i inner (rest ++ t) := rfl

@[simp] theorem append_nil (s : SelectionSet) : s ++ nil = s := by
  induction s <;> simp_all

theorem append_assoc (s t u : SelectionSet) : s ++ t ++ u = s ++ (t ++ u) := by
  induction s <;> simp_all

@[simp] theorem size_append (s t : SelectionSet) : (s ++ t).size = s.size + t.size := by
  induction s with
  | nil => simp [size]
  | field f inner rest _ ih => simp [size, ih]; omega
  | spread s rest ih => simp [size, ih]; omega
  | inline i inner rest _ ih => simp [size, ih]; omega

@[simp] theorem spreads_append (s t : SelectionSet) :
    (s ++ t).spreads = s.spreads ++ t.spreads := by
  induction s <;> simp_all [spreads]

end SelectionSet

/-! ## Documents

Operations and fragments, as one or several texts define them. -/

/-- A variable that an operation declares. -/
structure VariableDefinition where
  name : String
  type : TypeExpr
  defaultValue : Option String
deriving DecidableEq, Repr, Inhabited

structure Operation where
  kind : OperationKind
  name : Option String
  parameters : List VariableDefinition
  directives : List Directive
  selections : SelectionSet
deriving DecidableEq, Repr, Inhabited

structure Fragment where
  name : String
  condition : String
  directives : List Directive
  selections : SelectionSet
deriving DecidableEq, Repr, Inhabited

/-- The operations and the fragments of one or several texts. -/
structure Document where
  operations : List Operation
  fragments : List Fragment
deriving DecidableEq, Repr, Inhabited

namespace Document

def empty : Document := ⟨[], []⟩

def append (a b : Document) : Document :=
  ⟨a.operations ++ b.operations, a.fragments ++ b.fragments⟩

instance : Append Document := ⟨append⟩

/-- The operations and fragments of all documents, in order, by `append`. -/
def merge (documents : List Document) : Document := documents.foldl append empty

end Document

end QueryBindings

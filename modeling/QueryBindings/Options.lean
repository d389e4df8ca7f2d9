import QueryBindings.Error
import QueryBindings.Introspection
import QueryBindings.Table

/-! # Options of a run

What may be chosen about building, laying out and declaring, the names of scalars with it. -/

namespace QueryBindings

/-! ## Names for scalars

Which target type stands for a scalar: what the table says, or else the fallback. -/

/-- Target types by scalar name; `fallback` stands for the scalars that `table` leaves out. -/
structure ScalarMap where
  table : Table String
  fallback : String
deriving DecidableEq, Repr

namespace ScalarMap

def empty (fallback : String) : ScalarMap := ⟨∅, fallback⟩

/-- Maps the scalar `name`, in place of an earlier target. -/
def withTarget (m : ScalarMap) (name target : String) : ScalarMap :=
  { m with table := m.table.insert name target }

def withFallback (m : ScalarMap) (fallback : String) : ScalarMap :=
  { m with fallback := fallback }

def lookup? (m : ScalarMap) (name : String) : Option String := m.table.get? name

/-- The target of a scalar by `lookup?`, else the `fallback`. -/
def target (m : ScalarMap) (name : String) : String := (m.lookup? name).getD m.fallback

def builtin : ScalarMap :=
  ⟨.ofList [("ID", "String"), ("String", "String"), ("Int", "i64"), ("Float", "f64"),
    ("Boolean", "bool")], "String"⟩

end ScalarMap

/-! ## Options of a run -/

/-- What may be chosen about building, laying out and declaring. -/
structure Options where
  /-- `Schema.print` lays out builtin types and directives too. -/
  showBuiltins : Bool
  /-- Types reserved for introspection are kept when a schema is built from an answer. -/
  keepBuiltins : Bool
  /-- Every type is declared, not only the `referencedTypes`. -/
  full : Bool
  scalarNullability : Introspection.ScalarNullability
  scalars : ScalarMap
  /-- One level of indentation in laid out text. -/
  indent : String
deriving DecidableEq, Repr

namespace Options

def default : Options := ⟨false, false, false, .nullable, .builtin, "  "⟩

instance : Inhabited Options := ⟨default⟩

/-- Spaces and tabs, at least one: what can serve as `indent`. -/
def isIndent (text : String) : Bool :=
  text ≠ "" && text.toList.all fun c => c = ' ' || c = '\t'

/-- Chooses the indentation, if it has `isIndent`. -/
def withIndent (o : Options) (indent : String) : Except Error Options :=
  if isIndent indent then .ok { o with indent := indent }
  else .error (.config (.indent indent))

end Options

end QueryBindings

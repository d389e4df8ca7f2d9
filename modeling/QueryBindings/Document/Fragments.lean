import QueryBindings.Document
import QueryBindings.Error

/-! # Fragments

The fragments of a document by name, the ones that an operation needs, and how all of them are
inlined. -/

namespace QueryBindings

/-! ## Fragments of a document

Fragments are looked up by name in a table.  `usedBy` lists the fragments that an operation
needs, directly or through other fragments, in the order in which a reader meets them first. -/

/-- Fragments by name. -/
abbrev FragmentTable := Table Fragment

namespace FragmentTable

/-- Adds the fragments in order, unless a name comes again; that is `Invalid.repeatedFragment`. -/
def addAll : FragmentTable → List Fragment → Except Error FragmentTable
  | table, [] => .ok table
  | table, f :: rest =>
    if table.contains f.name then .error (.invalid (.repeatedFragment f.name))
    else addAll (table.insert f.name f) rest

/-- The table of `fragments`, whose names must differ. -/
def ofFragments (fragments : List Fragment) : Except Error FragmentTable :=
  addAll (∅ : Table Fragment) fragments

end FragmentTable

def Document.fragmentTable (d : Document) : Except Error FragmentTable :=
  FragmentTable.ofFragments d.fragments

/-! ### Fragments in use -/

/-- The entries with other keys than `key`. -/
def without (key : String) (entries : List (String × Fragment)) : List (String × Fragment) :=
  entries.filter (·.1 ≠ key)

theorem length_without_lt {key : String} {entries : List (String × Fragment)} {f : Fragment}
    (h : entries.lookup key = some f) : (without key entries).length < entries.length := by
  unfold without
  induction entries with
  | nil => simp at h
  | cons head rest ih =>
    by_cases hkey : head.1 = key
    · have hle := List.length_filter_le (·.1 ≠ key) rest
      rw [List.filter_cons_of_neg (by simp [hkey]), List.length_cons]
      exact Nat.lt_succ_of_le hle
    · rw [List.filter_cons_of_pos (by simp [hkey]), List.length_cons, List.length_cons]
      exact Nat.succ_lt_succ (ih (by grind))

/-- The fragments still to be listed when the spreads in `pending` are followed in order.  The
fragments named in `used` have been listed, those in `unused` have not. -/
def usedFrom (unused : List (String × Fragment)) (used pending : List String) :
    Except Error (List Fragment) :=
  match pending with
  | [] => .ok []
  | name :: rest =>
    if used.contains name then usedFrom unused used rest
    else match _h : unused.lookup name with
      | none => .error (.unresolvedFragment name)
      | some f =>
        (usedFrom (without name unused) (name :: used) (f.selections.spreads ++ rest)).map (f :: ·)
termination_by (unused.length, pending.length)
decreasing_by
  · exact Prod.Lex.right _ (by simp)
  · exact Prod.Lex.left _ _ (length_without_lt _h)

/-- The fragments that `set` needs, each once, in order of first use. -/
def FragmentTable.usedIn (table : FragmentTable) (set : SelectionSet) :
    Except Error (List Fragment) :=
  usedFrom table.entries [] set.spreads

/-- The fragments that `o` needs, each once, in order of first use. -/
def FragmentTable.usedBy (table : FragmentTable) (o : Operation) : Except Error (List Fragment) :=
  table.usedIn o.selections

/-! ## Inlining

Inlining puts in the place of every spread and of every fragment written in line the fields that
it selects, at every depth.  Order and repetitions stay; conditions and directives of fragments
go.  An `Inliner` remembers which fragments it is expanding, so a fragment that leads back to
itself is an error and not a loop. -/

/-- A step of inlining.  The state holds the names of the fragments being expanded, innermost
first; it survives an error. -/
abbrev Inlining := ExceptT Error (StateM (List String))

namespace Inlining

/-- Runs `step` while `name` is being expanded; afterwards it no longer is, whatever the outcome. -/
def whileExpanding {α : Type} (name : String) (step : Inlining α) : Inlining α :=
  ExceptT.mk fun active =>
    let (outcome, after) := step.run (name :: active)
    (outcome, after.tail)

/-- The fields that a set selects, where `expand` gives those of a spread fragment. -/
def flatten (expand : String → Inlining SelectionSet) : SelectionSet → Inlining SelectionSet
  | .nil => return .nil
  | .field f inner rest => do
    let inner ← flatten expand inner
    return .field f inner (← flatten expand rest)
  | .spread s rest => do
    let body ← expand s.name
    return body ++ (← flatten expand rest)
  | .inline _ inner rest => do
    let body ← flatten expand inner
    return body ++ (← flatten expand rest)

/-- The fields that a fragment selects.  Expansions nest at most `depth` deep; one more than
the number of fragments is enough, as the fragments being expanded differ. -/
def expand (table : FragmentTable) : (depth : Nat) → (name : String) → Inlining SelectionSet
  | 0, name => throw (.unresolvedFragment name)
  | depth + 1, name => do
    match table.get? name with
    | none => throw (.unresolvedFragment name)
    | some f =>
      let active ← get
      if active.contains name then throw (.cyclicFragment (name :: active).reverse)
      else whileExpanding name (flatten (expand table depth) f.selections)

/-- The fields that `set` selects, by `flatten` and `expand`. -/
def inline (table : FragmentTable) (set : SelectionSet) : Inlining SelectionSet :=
  flatten (expand table (table.size + 1)) set

end Inlining

/-- A table of fragments, with those in `active` being expanded. -/
structure Inliner where
  table : FragmentTable
  active : List String
deriving DecidableEq, Repr

namespace Inliner

def fresh (table : FragmentTable) : Inliner := ⟨table, []⟩

/-- The outcome of inlining `set`, and the inliner after it. -/
def inline (i : Inliner) (set : SelectionSet) : Except Error SelectionSet × Inliner :=
  let (outcome, active) := (Inlining.inline i.table set).run i.active
  (outcome, { i with active := active })

/-- The outcome of inlining `o`, and the inliner after it. -/
def inlineOperation (i : Inliner) (o : Operation) : Except Error Operation × Inliner :=
  let (outcome, i) := i.inline o.selections
  (outcome.map fun set => { o with selections := set }, i)

/-- The outcomes of inlining the sets one after another, each with the inliner that the last one
left. -/
def inlineEach : Inliner → List SelectionSet → List (Except Error SelectionSet)
  | _, [] => []
  | i, set :: rest =>
    let (outcome, i) := i.inline set
    outcome :: inlineEach i rest

/-- Inlines the operations in order, up to the first error. -/
def inlineOperations : Inliner → List Operation → Except Error (List Operation)
  | _, [] => .ok []
  | i, o :: rest =>
    match i.inlineOperation o with
    | (.error e, _) => .error e
    | (.ok flat, i) => (inlineOperations i rest).map (flat :: ·)

end Inliner

/-- The outcome of inlining `set` with a `fresh` inliner. -/
def SelectionSet.inlined (table : FragmentTable) (set : SelectionSet) :
    Except Error SelectionSet :=
  ((Inliner.fresh table).inline set).1

/-- The operations of `d`, inlined against its own fragments. -/
def Document.inlinedOperations (d : Document) : Except Error (List Operation) := do
  let table ← d.fragmentTable
  (Inliner.fresh table).inlineOperations d.operations

end QueryBindings

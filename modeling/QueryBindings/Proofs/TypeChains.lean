import QueryBindings.Introspection

/-! # Chains of type references

A server tells of a type expression from the outside to the inside: one link for every list, one for
every mark, and at last the named type.  Each wrapper does its own work on what its inner chain
stands for, so a whole chain stands for the expression that it was made of, however lists and marks
alternate; and a chain of which the inside is missing or unknown stands for nothing.

Main statement: `typeExpr?_chain`. -/

namespace QueryBindings

namespace Introspection

/-- A link around another one. -/
inductive Wrapper where
  | list
  | nonNull
deriving DecidableEq, Repr

namespace Wrapper

def kind : Wrapper → LinkKind
  | list => .list
  | nonNull => .nonNull

/-- What a wrapper makes of the type expression inside it. -/
def apply : Wrapper → TypeExpr → TypeExpr
  | list, t => .list t false
  | nonNull, t => t.withNonNull true

end Wrapper

namespace TypeRef

/-- Wrappers without names around a chain, the outermost first. -/
def wrapped (ws : List Wrapper) (inner : TypeRef) : TypeRef :=
  ws.foldr (fun w r => around w.kind none r) inner

/-- The first `n` links of a chain; no chain at all if that is none of them. -/
def cut : Nat → TypeRef → Option TypeRef
  | 0, _ => none
  | _ + 1, last kind name => some (last kind name)
  | n + 1, around kind name inner =>
    match cut n inner with
    | none => some (last kind name)
    | some inner => some (around kind name inner)

theorem typeExpr?_around (scalars : ScalarNullability) (w : Wrapper) (inner : TypeRef) :
    (around w.kind none inner).typeExpr? scalars = (inner.typeExpr? scalars).map w.apply := by
  cases w <;> rfl

theorem typeExpr?_last (scalars : ScalarNullability) (w : Wrapper) :
    (last w.kind none).typeExpr? scalars = none := by
  cases w <;> rfl

theorem typeExpr?_wrapped (scalars : ScalarNullability) (ws : List Wrapper) (inner : TypeRef) :
    (wrapped ws inner).typeExpr? scalars =
      (inner.typeExpr? scalars).map fun t => ws.foldr Wrapper.apply t := by
  induction ws with
  | nil => exact Option.map_id'.symm
  | cons w ws ih =>
      show (around w.kind none (wrapped ws inner)).typeExpr? scalars = _
      rw [typeExpr?_around, ih, Option.map_map]
      rfl

/-- A chain that is `cut` among its wrappers stands for nothing. -/
theorem typeExpr?_cut_wrapped (scalars : ScalarNullability) {ws : List Wrapper} (inner : TypeRef)
    {n : Nat} (h : n ≤ ws.length) :
    ((wrapped ws inner).cut n).bind (·.typeExpr? scalars) = none := by
  induction ws generalizing n with
  | nil =>
      rw [Nat.le_zero.mp h]
      rfl
  | cons w ws ih =>
      cases n with
      | zero => rfl
      | succ n =>
          have ih := ih (Nat.le_of_succ_le_succ h)
          show ((around w.kind none (wrapped ws inner)).cut (n + 1)).bind _ = none
          rw [cut]
          cases hcut : (wrapped ws inner).cut n with
          | none => exact typeExpr?_last scalars w
          | some part =>
              rw [hcut] at ih
              show (around w.kind none part).typeExpr? scalars = none
              rw [typeExpr?_around]
              exact Option.map_eq_none_iff.mpr ih

theorem cut_wrapped {ws : List Wrapper} (kind : LinkKind) (name : Option String) {n : Nat}
    (h : ws.length < n) :
    (wrapped ws (last kind name)).cut n = some (wrapped ws (last kind name)) := by
  induction ws generalizing n with
  | nil =>
      obtain ⟨m, rfl⟩ := Nat.exists_eq_add_one.mpr h
      rfl
  | cons w ws ih =>
      obtain ⟨m, rfl⟩ := Nat.exists_eq_add_one.mpr (Nat.zero_lt_of_lt h)
      show (around w.kind none (wrapped ws (last kind name))).cut (m + 1) = _
      rw [cut, ih (Nat.lt_of_succ_lt_succ h)]
      rfl

theorem typeExpr?_named (scalars : ScalarNullability) (kind : TypeKind) (name : String) :
    (last (.named kind) (some name)).typeExpr? scalars =
      some (.named name (kind = .scalar ∧ scalars = .nonNull)) := by
  cases kind <;> simp [typeExpr?]

end TypeRef

end Introspection

namespace TypeExpr

open Introspection

/-- The wrappers around the innermost name, the outermost first: one for every list and one for
every mark. -/
def wrappers : TypeExpr → List Wrapper
  | named _ mark => if mark then [.nonNull] else []
  | list element mark => (if mark then [.nonNull] else []) ++ .list :: element.wrappers

/-- The chain of `wrappers` by which an answer tells of an expression around a type of this kind. -/
def chain (kind : TypeKind) (t : TypeExpr) : TypeRef :=
  .wrapped t.wrappers (.last (.named kind) (some t.baseName))

/-- The expression with a mark on its innermost level. -/
def markInnermost : TypeExpr → TypeExpr
  | named name _ => named name true
  | list element mark => list element.markInnermost mark

/-- The `wrappers` of an expression, applied to its innermost name, make the expression. -/
theorem foldr_wrappers (t : TypeExpr) (mark : Bool) :
    t.wrappers.foldr Wrapper.apply (named t.baseName mark) =
      if mark then t.markInnermost else t := by
  induction t with
  | named name own =>
      cases own <;> cases mark <;> rfl
  | list element own ih =>
      have helement : (Wrapper.list :: element.wrappers).foldr Wrapper.apply
          (named element.baseName mark) =
          list (if mark then element.markInnermost else element) false := by
        rw [List.foldr_cons, ih]
        rfl
      show ((if own then [Wrapper.nonNull] else []) ++ .list :: element.wrappers).foldr
        Wrapper.apply (named element.baseName mark) = _
      rw [List.foldr_append, helement]
      cases own <;> cases mark <;> rfl

end TypeExpr

namespace Introspection.TypeRef

/-- **Chains and type expressions.**  `typeExpr?` gives for the `chain` of a type expression the
expression, except that a scalar is marked if unmarked scalars are taken as non-null.  Of any last
link within any wrappers, the first links stand for nothing until the last one is among them; and
wrappers around an unknown kind stand for nothing. -/
theorem typeExpr?_chain (scalars : ScalarNullability) :
    (∀ (t : TypeExpr) (kind : TypeKind), (t.chain kind).typeExpr? scalars =
      some (if kind = .scalar ∧ scalars = .nonNull then t.markInnermost else t)) ∧
    (∀ (ws : List Wrapper) (kind : LinkKind) (name : Option String) (n : Nat),
      ((wrapped ws (last kind name)).cut n).bind (·.typeExpr? scalars) =
        if n ≤ ws.length then none else (wrapped ws (last kind name)).typeExpr? scalars) ∧
    ∀ (ws : List Wrapper) (name : Option String),
      (wrapped ws (last .unknown name)).typeExpr? scalars = none ∧
      ∀ inner, (wrapped ws (around .unknown name inner)).typeExpr? scalars = none := by
  refine ⟨fun t kind => ?_, fun ws kind name n => ?_, fun ws name => ⟨?_, fun inner => ?_⟩⟩
  · unfold TypeExpr.chain
    rw [typeExpr?_wrapped, typeExpr?_named, Option.map_some, t.foldr_wrappers]
    simp only [decide_eq_true_eq]
  · split
    · rename_i hle
      exact typeExpr?_cut_wrapped scalars _ hle
    · rename_i hlt
      rw [cut_wrapped kind name (Nat.lt_of_not_le hlt)]
      rfl
  · rw [typeExpr?_wrapped]
    rfl
  · rw [typeExpr?_wrapped]
    rfl

/-- Seven links show five lists of a non-null scalar, but not six. -/
example :
    let chain (lists : Nat) : TypeRef :=
      wrapped (List.replicate lists .list ++ [.nonNull]) (last (.named .scalar) (some "Int"))
    (((chain 5).cut 7).bind (·.typeExpr? .nullable)).isSome = true ∧
      ((chain 6).cut 7).bind (·.typeExpr? .nullable) = none := by decide

end Introspection.TypeRef

end QueryBindings

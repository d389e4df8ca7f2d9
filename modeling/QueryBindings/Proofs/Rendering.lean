import QueryBindings.Generation
import QueryBindings.Proofs.FragmentUse
import QueryBindings.Proofs.Inlining

/-! # Operations rendered one by one

The inliner that goes from operation to operation is fresh before each of them, so every operation
is rendered as if it were the only one.

Main statements: `forall_rendered` (what a run of operations gives) and `exists_unrendered` (where
it fails). -/

namespace QueryBindings

/-- An operation rendered on its own, by a fresh inliner. -/
def Operation.rendered (options : Options) (table : FragmentTable) (o : Operation) :
    Except Error RenderedOperation := do
  let flat ← o.selections.inlined table
  return ⟨{ o with selections := flat }, o.requestText options (← table.usedBy o)⟩

variable {options : Options} {table : FragmentTable}

theorem inlineOperation_fresh (table : FragmentTable) (o : Operation) :
    (Inliner.fresh table).inlineOperation o =
      ((o.selections.inlined table).map fun flat => { o with selections := flat },
        Inliner.fresh table) := by
  unfold Inliner.inlineOperation
  rw [SelectionSet.inline_fresh]

/-- Rendering an operation leaves the inliner fresh for the next one. -/
theorem renderOperations_cons (o : Operation) (rest : List Operation) :
    renderOperations options table (.fresh table) (o :: rest) =
      (do let r ← o.rendered options table
          return r :: (← renderOperations options table (.fresh table) rest)) := by
  rw [renderOperations, inlineOperation_fresh]
  unfold Operation.rendered
  cases o.selections.inlined table with
  | error e => rfl
  | ok flat =>
      show (table.usedBy o >>= _) = ((table.usedBy o >>= _) >>= _)
      cases table.usedBy o <;> rfl

theorem forall_rendered {os : List Operation} {rs : List RenderedOperation}
    (h : renderOperations options table (.fresh table) os = .ok rs) :
    List.Forall₂ (fun o r => o.rendered options table = .ok r) os rs := by
  induction os generalizing rs with
  | nil =>
      cases h
      exact .nil
  | cons o rest ih =>
      rw [renderOperations_cons] at h
      obtain ⟨r, others, hfirst, hothers, rfl⟩ := combine_eq_ok.mp h
      exact .cons hfirst (ih hothers)

/-- `renderOperations` fails only where an operation cannot be `rendered`. -/
theorem exists_unrendered {os : List Operation} {e : Error}
    (h : renderOperations options table (.fresh table) os = .error e) :
    ∃ o ∈ os, o.rendered options table = .error e := by
  induction os with
  | nil => cases h
  | cons o rest ih =>
      rw [renderOperations_cons] at h
      rcases combine_eq_error h with h | h
      · exact ⟨o, List.mem_cons_self, h⟩
      · obtain ⟨other, hother, h⟩ := ih h
        exact ⟨other, List.mem_cons_of_mem o hother, h⟩

/-- What a bundle is made of, if `generate` gives one. -/
theorem generate_eq_ok {schema : Schema} {document : Document} {g : Generation}
    (h : generate options schema document = .ok g) :
    ∃ table, document.validate schema = .ok () ∧ document.fragmentTable = .ok table ∧
      g.schema = schema ∧
        List.Forall₂ (fun o r => o.rendered options table = .ok r) document.operations
          g.operations := by
  unfold generate at h
  obtain ⟨_, hvalid, h⟩ := bind_eq_ok.mp h
  obtain ⟨table, htable, h⟩ := bind_eq_ok.mp h
  obtain ⟨rs, hrender, h⟩ := bind_eq_ok.mp h
  cases h
  exact ⟨table, hvalid, htable, rfl, forall_rendered hrender⟩

theorem referenced_of_generate {schema : Schema} {document : Document} {g : Generation}
    (h : generate options schema document = .ok g) :
    g.schemaText = schema.print options.indent options.showBuiltins ∧
      g.referenced = if options.full then schema.ownTypes
        else schema.referencedTypes (g.operations.map (·.operation)) := by
  unfold generate at h
  obtain ⟨_, -, h⟩ := bind_eq_ok.mp h
  obtain ⟨table, -, h⟩ := bind_eq_ok.mp h
  obtain ⟨rs, -, h⟩ := bind_eq_ok.mp h
  cases h
  exact ⟨rfl, rfl⟩

/-- A bundle of a valid document fails only where an operation cannot be `rendered`. -/
theorem unrendered_of_generate {schema : Schema} {document : Document} {e : Error}
    (hvalid : document.validate schema = .ok ()) (htable : document.fragmentTable = .ok table)
    (h : generate options schema document = .error e) :
    ∃ o ∈ document.operations, o.rendered options table = .error e := by
  unfold generate at h
  rw [hvalid, htable] at h
  have hrun : (renderOperations options table (.fresh table) document.operations >>= _) =
    .error e := h
  rcases bind_eq_error.mp hrun with hrun | ⟨rs, -, hrun⟩
  · exact exists_unrendered hrun
  · cases hrun

/-- The bundle of a document that holds one operation without spreads and no fragments. -/
theorem generate_of_spreads_eq_nil {schema : Schema} {o : Operation} {flat : SelectionSet}
    (hvalid : Document.validate ⟨[o], []⟩ schema = .ok ()) (hspreads : o.selections.spreads = [])
    (hflat : o.selections.inlined ∅ = .ok flat) :
    generate options schema ⟨[o], []⟩ =
      .ok ⟨schema, schema.print options.indent options.showBuiltins,
        [⟨{ o with selections := flat }, o.requestText options []⟩],
        if options.full then schema.ownTypes
        else schema.referencedTypes [{ o with selections := flat }]⟩ := by
  have hused : (∅ : FragmentTable).usedBy o = .ok [] :=
    FragmentTable.usedIn_of_spreads_eq_nil hspreads
  have hrender : renderOperations options ∅ (.fresh ∅) [o] =
      .ok [⟨{ o with selections := flat }, o.requestText options []⟩] := by
    rw [renderOperations_cons]
    unfold Operation.rendered
    rw [hflat, hused]
    rfl
  unfold generate
  rw [hvalid]
  show (renderOperations options ∅ (.fresh ∅) [o] >>= _) = _
  rw [hrender]
  rfl

end QueryBindings

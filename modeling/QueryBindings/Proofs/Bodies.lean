import QueryBindings.Proofs.DocumentRoundTrip
import QueryBindings.Proofs.FragmentTables
import QueryBindings.Proofs.Occurrences

/-! # Bodies of fragments

Where no fragment has an empty body, expanding a set never empties it.  A document that is read has
no empty bodies, as there is an entry between any two braces.

Main statements: `Expansion.eq_nil_iff` (what expands to nothing) and `filled_of_ofTexts` (documents
that are read). -/

namespace QueryBindings

namespace SelectionSet

/-- No fragment in line has an empty body, at any depth. -/
def Filled : SelectionSet → Prop
  | nil => True
  | field _ inner rest => inner.Filled ∧ rest.Filled
  | spread _ rest => rest.Filled
  | inline _ inner rest => inner ≠ nil ∧ inner.Filled ∧ rest.Filled

/-- What stands between braces: not `nil`, and `Filled`. -/
def IsBody (set : SelectionSet) : Prop := set ≠ nil ∧ set.Filled

theorem append_ne_nil {s : SelectionSet} (h : s ≠ nil) (t : SelectionSet) : s ++ t ≠ nil := by
  cases s with
  | nil => exact absurd rfl h
  | field | spread | inline => exact nofun

theorem filled_append {s t : SelectionSet} (hs : s.Filled) (ht : t.Filled) : (s ++ t).Filled := by
  induction s with
  | nil => exact ht
  | field f inner rest _ ih => exact ⟨hs.1, ih hs.2⟩
  | spread s rest ih => exact ih hs
  | inline i inner rest _ ih => exact ⟨hs.1, hs.2.1, ih hs.2.2⟩

end SelectionSet

structure Document.Filled (d : Document) : Prop where
  operations : ∀ o ∈ d.operations, o.selections.Filled
  fragments : ∀ f ∈ d.fragments, f.selections.IsBody

/-! ### Expansions -/

namespace FragmentTable

/-- Every fragment in the table has a body that `IsBody`. -/
def Filled (table : FragmentTable) : Prop :=
  ∀ name f, table.get? name = some f → f.selections.IsBody

theorem filled_of_ofFragments {table : FragmentTable} {fs : List Fragment}
    (h : ofFragments fs = .ok table) (hfilled : ∀ f ∈ fs, f.selections.IsBody) : table.Filled :=
  fun name f hget => hfilled f (((ofFragments_eq_ok h).2 name f).mp hget).1

variable {table : FragmentTable}

/-- Without empty bodies, only the empty set expands to nothing. -/
theorem Expansion.eq_nil_iff (htable : table.Filled) {set flat : SelectionSet}
    (h : table.Expansion set flat) (hset : set.Filled) : flat = .nil ↔ set = .nil := by
  induction h with
  | nil => exact Iff.rfl
  | field => exact iff_of_false nofun nofun
  | @spread s fragment body rest rest' hget _ _ ihbody _ =>
      obtain ⟨hsome, hfilled⟩ := htable s.name fragment hget
      have hbody : body ≠ .nil := fun hnil => hsome ((ihbody hfilled).mp hnil)
      exact iff_of_false (SelectionSet.append_ne_nil hbody rest') nofun
  | @inline i inner body rest rest' _ _ ihbody _ =>
      have hbody : body ≠ .nil := fun hnil => hset.1 ((ihbody hset.2.1).mp hnil)
      exact iff_of_false (SelectionSet.append_ne_nil hbody rest') nofun

/-- What is selected of a written field is `Filled` too. -/
theorem Writes.filled {schema : Schema} (htable : table.Filled) {scope : Option String}
    {set : SelectionSet} {path : List Field} {site : Site}
    (h : table.Writes schema scope set path site) (hset : set.Filled) : site.inner.Filled := by
  induction h with
  | here => exact hset.1
  | inside _ ih => exact ih hset.1
  | afterField _ ih => exact ih hset.2
  | spread hget _ ih => exact ih (htable _ _ hget).2
  | afterSpread _ ih => exact ih hset
  | inline _ ih => exact ih hset.2.1
  | afterInline _ ih => exact ih hset.2.2

end FragmentTable

/-! ### Documents that are read -/

namespace Grammar

open Rule SelectionSet

variable {depth : Nat} {inner : Rule SelectionSet}

theorem isBody_of_fieldTail (hdepth : depth ≤ nestingLimit) (hinner : inner.Yields IsBody)
    (k : List Argument → List Directive → Field) :
    Yields (do
      let given ← arguments true depth
      let applied ← directives true depth
      let selected ← if ← isNext (.symbol '\x7b') then inner else pure .nil
      return .field (k given applied) selected .nil) IsBody := by
  refine Yields.bind (yields_arguments true hdepth) fun given _ => ?_
  refine Yields.bind (yields_directives true hdepth) fun applied _ => ?_
  refine Yields.bind (yields_isNext _) fun isOpen _ => ?_
  split
  · exact Yields.bind hinner fun selected hselected => yields_pure ⟨nofun, hselected.2, trivial⟩
  · refine Yields.bind (yields_pure rfl : Yields _ fun selected => selected = .nil) ?_
    rintro _ rfl
    exact yields_pure ⟨nofun, trivial, trivial⟩

theorem isBody_of_fieldEntry (hdepth : depth ≤ nestingLimit) (hinner : inner.Yields IsBody) :
    (fieldEntry depth inner).Yields IsBody := by
  unfold fieldEntry
  refine Yields.bind yields_name fun first _ => ?_
  refine Yields.bind (yields_option (by simp)) fun isAlias _ => ?_
  split
  · refine Yields.bind (yields_name.map fun n _ => ⟨n, rfl⟩ :
      Yields _ fun second => ∃ n, second = some n) ?_
    rintro _ ⟨n, rfl⟩
    exact isBody_of_fieldTail hdepth hinner fun given applied => ⟨some first, n, given, applied⟩
  · refine Yields.bind (yields_pure rfl : Yields _ fun second => second = none) ?_
    rintro _ rfl
    exact isBody_of_fieldTail hdepth hinner fun given applied => ⟨none, first, given, applied⟩

theorem isBody_of_fragmentEntry (hdepth : depth ≤ nestingLimit) (hinner : inner.Yields IsBody) :
    (fragmentEntry depth inner).Yields IsBody := by
  have hinline : ∀ condition, Yields (do
      let applied ← directives true depth
      return .inline ⟨condition, applied⟩ (← inner) .nil) IsBody := by
    intro condition
    refine Yields.bind (yields_directives true hdepth) fun applied _ => ?_
    refine Yields.bind hinner fun selected hselected => ?_
    exact yields_pure ⟨nofun, hselected.1, hselected.2, trivial⟩
  unfold fragmentEntry
  refine Yields.bind (yields_option (by simp)) fun isOn _ => ?_
  split
  · exact Yields.bind yields_name fun condition _ => hinline (some condition)
  · refine Yields.bind yields_peek fun next _ => ?_
    split
    · refine Yields.bind yields_name fun n _ => ?_
      refine Yields.bind (yields_directives true hdepth) fun applied _ => ?_
      exact yields_pure ⟨nofun, trivial⟩
    · exact hinline none

theorem isBody_of_entry (hdepth : depth ≤ nestingLimit) (hinner : inner.Yields IsBody) :
    (entry depth inner).Yields IsBody := by
  unfold entry
  refine Yields.bind (yields_option (by simp)) fun isDots _ => ?_
  split
  · exact isBody_of_fragmentEntry hdepth hinner
  · exact isBody_of_fieldEntry hdepth hinner

theorem filled_foldr {entries : List SelectionSet} (h : ∀ e ∈ entries, e.IsBody) :
    (entries.foldr (· ++ ·) SelectionSet.nil).Filled := by
  induction entries with
  | nil => exact trivial
  | cons e entries ih =>
      exact filled_append (h e List.mem_cons_self).2
        (ih fun t ht => h t (List.mem_cons_of_mem e ht))

/-- What `selectionSet` reads has an entry, and so has every body in it. -/
theorem isBody_of_selectionSet (hdepth : depth ≤ nestingLimit) :
    (selectionSet depth).Yields IsBody := by
  induction depth with
  | zero => exact yields_fail
  | succ depth ih =>
      have hless : depth ≤ nestingLimit := Nat.le_of_succ_le hdepth
      unfold selectionSet
      refine Yields.bind (yields_symbol '\x7b') fun _ _ => ?_
      refine Yields.bind (yields_someUntil (isBody_of_entry hless (ih hless))) fun entries h => ?_
      obtain ⟨first, others, rfl⟩ := List.exists_cons_of_ne_nil h.1
      refine yields_pure ⟨?_, filled_foldr h.2⟩
      exact append_ne_nil (h.2 first List.mem_cons_self).1 _

theorem isBody_of_operation (kind : OperationKind) :
    (operation kind).Yields fun o => o.selections.IsBody := by
  have htail : ∀ n : Option String, Yields (do
      let declared ← variableDefinitions nestingLimit
      let applied ← directives true nestingLimit
      return (⟨kind, n, declared, applied, ← selectionSet nestingLimit⟩ : Operation))
      fun o => o.selections.IsBody := by
    intro n
    refine Yields.bind (yields_variableDefinitions (Nat.le_refl _)) fun declared _ => ?_
    refine Yields.bind (yields_directives true (Nat.le_refl _)) fun applied _ => ?_
    exact Yields.bind (isBody_of_selectionSet (Nat.le_refl _)) fun s hs => yields_pure hs
  unfold operation
  refine Yields.bind yields_peek fun next _ => ?_
  split
  · exact Yields.bind (yields_name.map fun n _ => trivial : Yields _ fun _ => True)
      fun n _ => htail n
  · exact Yields.bind (yields_pure trivial : Yields _ fun _ => True) fun n _ => htail n

theorem isBody_of_fragment : fragment.Yields fun f => f.selections.IsBody := by
  unfold fragment
  refine Yields.bind yields_name fun n _ => ?_
  refine Yields.bind (yields_keyword "on") fun _ _ => ?_
  refine Yields.bind yields_name fun c _ => ?_
  refine Yields.bind (yields_directives true (Nat.le_refl _)) fun applied _ => ?_
  exact Yields.bind (isBody_of_selectionSet (Nat.le_refl _)) fun s hs => yields_pure hs

theorem filled_single {o : Operation} (h : o.selections.IsBody) : Document.Filled ⟨[o], []⟩ :=
  ⟨List.forall_mem_singleton.mpr h.2, List.forall_mem_nil _⟩

theorem filled_of_executableDefinition : executableDefinition.Yields Document.Filled := by
  have hoperation : ∀ kind, Yields (do return ⟨[← operation kind], []⟩) Document.Filled :=
    fun kind => Yields.bind (isBody_of_operation kind) fun o ho => yields_pure (filled_single ho)
  unfold executableDefinition
  refine Yields.bind (yields_isNext _) fun isShort _ => ?_
  split
  · exact Yields.bind (isBody_of_selectionSet (Nat.le_refl _)) fun s hs =>
      yields_pure (filled_single hs)
  refine Yields.bind (yields_option (by simp)) fun isQuery _ => ?_
  split
  · exact hoperation .query
  refine Yields.bind (yields_option (by simp)) fun isMutation _ => ?_
  split
  · exact hoperation .mutation
  refine Yields.bind (yields_option (by simp)) fun isSubscription _ => ?_
  split
  · exact hoperation .subscription
  refine Yields.bind (yields_keyword "fragment") fun _ _ => ?_
  refine Yields.bind isBody_of_fragment fun f hf => yields_pure ?_
  exact ⟨List.forall_mem_nil _, List.forall_mem_singleton.mpr hf⟩

theorem filled_merge {ds : List Document} (h : ∀ d ∈ ds, d.Filled) : (Document.merge ds).Filled := by
  rw [Document.merge_eq]
  refine ⟨fun o ho => ?_, fun f hf => ?_⟩
  · obtain ⟨d, hd, hmem⟩ := List.mem_flatMap.mp ho
    exact (h d hd).operations o hmem
  · obtain ⟨d, hd, hmem⟩ := List.mem_flatMap.mp hf
    exact (h d hd).fragments f hmem

theorem filled_of_executableDocument : executableDocument.Yields Document.Filled := by
  unfold executableDocument
  refine Yields.bind filled_of_executableDefinition fun first hfirst => ?_
  refine Yields.bind (yields_many filled_of_executableDefinition) fun others hothers => ?_
  exact yields_pure (filled_merge (List.forall_mem_cons.mpr ⟨hfirst, hothers⟩))

end Grammar

open Grammar

/-- No document that `ofTexts` reads has an empty body. -/
theorem filled_of_ofTexts {texts : List String} {d : Document}
    (h : Document.ofTexts texts = .ok d) : d.Filled := by
  obtain ⟨ds, hread, rfl⟩ := map_eq_ok.mp h
  refine filled_merge fun part hpart => ?_
  obtain ⟨text, -, htext⟩ := exists_of_mapM hread part hpart
  rw [Document.ofText_eq_ok, readAll_eq_ok] at htext
  exact (filled_of_executableDocument _ (Rule.named_of_lex _) part [] htext).1

end QueryBindings

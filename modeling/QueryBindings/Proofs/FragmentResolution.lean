import QueryBindings.Proofs.FragmentCycles
import QueryBindings.Proofs.FragmentUse
import QueryBindings.Proofs.Rendering
import QueryBindings.Proofs.Validation
import QueryBindings.Schema.Assembly

/-! # Fragments of valid documents

In a valid document no fragment leads back to itself, and every spread names a fragment unless it
lies inside a reserved field.  Inlining and listing follow the spreads inside reserved fields too,
so those are all that can still stop them.

Main statement: `resolution_of_validate` (when the operations of a valid document can be inlined,
and the only error that is left). -/

namespace QueryBindings

namespace FragmentTable

variable {table : FragmentTable} {schema : Schema} {scope : String} {set : SelectionSet}

/-- `name` is spread inside a reserved field, by a set or by a fragment that it leads to. -/
def Overlooked (table : FragmentTable) (set : SelectionSet) (name : String) : Prop :=
  name ∈ set.reservedSpreads ∨
    ∃ m f, table.Reachable set m ∧ table.get? m = some f ∧ name ∈ f.selections.reservedSpreads

theorem Overlooked.reachable {name : String} (h : table.Overlooked set name) :
    table.Reachable set name := by
  rcases h with h | ⟨m, f, ⟨n, hn, hlead⟩, hget, hname⟩
  · exact ⟨name, set.reservedSpreads_subset h, .refl⟩
  · exact ⟨n, hn, hlead.tail ⟨f, hget, f.selections.reservedSpreads_subset hname⟩⟩

/-- The error names what is `Overlooked` and is no fragment. -/
def Unresolved (table : FragmentTable) (set : SelectionSet) (e : Error) : Prop :=
  ∃ n, table.Overlooked set n ∧ table.contains n = false ∧ e = .unresolvedFragment n

/-- What a set that was checked leads to is a fragment, or is `Overlooked`. -/
theorem contains_or_overlooked_of_reachable (htable : table.Checked schema)
    (hset : checkSelections schema table scope set = .ok ()) {name : String}
    (h : table.Reachable set name) : table.contains name = true ∨ table.Overlooked set name := by
  obtain ⟨n, hn, hlead⟩ := h
  cases hlead with
  | refl => exact (contains_or_overlooked hset name hn).imp_right .inl
  | @tail m _ hlead hstep =>
      obtain ⟨f, hget, hname⟩ := hstep
      refine (contains_or_overlooked (htable m f hget) name hname).imp_right fun hreserved => ?_
      exact .inr ⟨m, f, ⟨n, hn, hlead⟩, hget, hreserved⟩

theorem reachable_iff_overlooked (htable : table.Checked schema)
    (hset : checkSelections schema table scope set = .ok ()) :
    (∀ n, table.Reachable set n → table.contains n = true) ↔
      ∀ n, table.Overlooked set n → table.contains n = true := by
  constructor
  · exact fun h n hn => h n hn.reachable
  · exact fun h n hn => (contains_or_overlooked_of_reachable htable hset hn).elim id (h n)

end FragmentTable

/-! ### Valid documents -/

def Document.selectionSets (d : Document) : List SelectionSet :=
  d.operations.map Operation.selections ++ d.fragments.map Fragment.selections

/-- What validation settles about the fragments of a document. -/
structure FragmentsValid (schema : Schema) (d : Document) (table : FragmentTable) : Prop where
  keyed : table.Keyed
  acyclic : ∀ n, ¬ Relation.TransGen table.Spreads n n
  checked : table.Checked schema
  sets : ∀ set ∈ d.selectionSets, ∃ scope, checkSelections schema table scope set = .ok ()

theorem fragmentsValid_of_validate {schema : Schema} {d : Document}
    (h : d.validate schema = .ok ()) :
    ∃ table, d.fragmentTable = .ok table ∧ FragmentsValid schema d table := by
  obtain ⟨table, htable, -, hfragments, hcycles, hoperations⟩ := validate_eq_ok_iff.mp h
  have hget := (FragmentTable.ofFragments_eq_ok htable).2
  refine ⟨table, htable, FragmentTable.keyed_of_ofFragments htable,
    (checkCycles_eq_ok_iff htable).mp hcycles, fun name f hf => ?_, fun set hset => ?_⟩
  · exact (checkFragment_eq_ok.mp (hfragments f ((hget name f).mp hf).1)).2
  · rcases List.mem_append.mp hset with hset | hset
    · obtain ⟨o, ho, rfl⟩ := List.mem_map.mp hset
      obtain ⟨root, -, -, hselections⟩ := checkOperation_eq_ok.mp (hoperations o ho)
      exact ⟨root.name, hselections⟩
    · obtain ⟨f, hf, rfl⟩ := List.mem_map.mp hset
      exact ⟨f.condition, (checkFragment_eq_ok.mp (hfragments f hf)).2⟩

namespace FragmentsValid

variable {schema : Schema} {d : Document} {table : FragmentTable} {o : Operation}

theorem selections (h : FragmentsValid schema d table) (ho : o ∈ d.operations) :
    ∃ scope, checkSelections schema table scope o.selections = .ok () :=
  h.sets o.selections (List.mem_append_left _ (List.mem_map_of_mem ho))

theorem exists_inlined_iff (h : FragmentsValid schema d table) (ho : o ∈ d.operations) :
    (∃ flat, o.selections.inlined table = .ok flat) ↔
      ∀ n, table.Overlooked o.selections n → table.contains n = true := by
  obtain ⟨scope, hset⟩ := h.selections ho
  rw [← FragmentTable.reachable_iff_overlooked h.checked hset]
  constructor
  · rintro ⟨flat, hflat⟩
    have hresolves := FragmentTable.resolves_reachable_iff.mp
      (SelectionSet.expansion_of_inlined hflat).resolves
    exact fun n hn => (hresolves n hn).1
  · intro hdefined
    exact SelectionSet.exists_inlined (FragmentTable.resolves_reachable_iff.mpr
      fun n hn => ⟨hdefined n hn, h.acyclic n⟩)

theorem exists_usedBy_iff (h : FragmentsValid schema d table) (ho : o ∈ d.operations) :
    (∃ used, table.usedBy o = .ok used) ↔
      ∀ n, table.Overlooked o.selections n → table.contains n = true := by
  obtain ⟨scope, hset⟩ := h.selections ho
  rw [← FragmentTable.reachable_iff_overlooked h.checked hset]
  exact FragmentTable.exists_usedIn_iff h.keyed

theorem unresolved (h : FragmentsValid schema d table) (ho : o ∈ d.operations) {n : String}
    (hnone : table.get? n = none) (hn : table.Reachable o.selections n) :
    table.Unresolved o.selections (.unresolvedFragment n) := by
  obtain ⟨scope, hset⟩ := h.selections ho
  have hcontains : table.contains n = false := by
    unfold Table.contains
    rw [hnone]
    rfl
  refine ⟨n, ?_, hcontains, rfl⟩
  rcases FragmentTable.contains_or_overlooked_of_reachable h.checked hset hn with hdefined | hn
  · rw [hcontains] at hdefined
    cases hdefined
  · exact hn

/-- `rendered` fails, after validation, only with an error that is `Unresolved`. -/
theorem unresolved_of_rendered {options : Options} {e : Error}
    (h : FragmentsValid schema d table) (ho : o ∈ d.operations)
    (herror : o.rendered options table = .error e) : table.Unresolved o.selections e := by
  rcases combine_eq_error herror with herror | herror
  · obtain ⟨n, hn, hblocks⟩ := SelectionSet.blocks_of_inlined herror
    cases hblocks with
    | undefined hnone hlead => exact h.unresolved ho hnone ⟨n, hn, hlead⟩
    | cyclic hcycle => exact absurd hcycle (h.acyclic _)
  · obtain ⟨n, rfl, hnone, hn⟩ :=
      FragmentTable.error_of_usedFrom (FragmentTable.unlisted_entries table) herror
    exact h.unresolved ho hnone hn

end FragmentsValid

/-- A valid document without spreads inside reserved fields has a bundle. -/
theorem exists_generate_of_validate {options : Options} {schema : Schema} {d : Document}
    (h : d.validate schema = .ok ()) (hnone : ∀ set ∈ d.selectionSets, set.reservedSpreads = []) :
    ∃ g, generate options schema d = .ok g := by
  obtain ⟨table, htable, hvalid⟩ := fragmentsValid_of_validate h
  cases hg : generate options schema d with
  | ok g => exact ⟨g, rfl⟩
  | error e =>
      obtain ⟨o, ho, herror⟩ := unrendered_of_generate h htable hg
      obtain ⟨n, hn | ⟨m, f, -, hget, hn⟩, -⟩ := hvalid.unresolved_of_rendered ho herror
      · rw [hnone _ (List.mem_append_left _ (List.mem_map_of_mem ho))] at hn
        cases hn
      · obtain ⟨hf, -⟩ := ((FragmentTable.ofFragments_eq_ok htable).2 m f).mp hget
        rw [hnone _ (List.mem_append_right _ (List.mem_map_of_mem hf))] at hn
        cases hn

/-- After `validate` all spreads outside reserved fields name fragments and none is cyclic.
`inlined` and `usedBy` succeed on an operation exactly if the `Overlooked` names are those of
fragments; if not, that is the one error with which a bundle can still fail. -/
theorem resolution_of_validate {schema : Schema} {d : Document}
    (h : d.validate schema = .ok ()) :
    ∃ table, d.fragmentTable = .ok table ∧ (∀ n, ¬ Relation.TransGen table.Spreads n n) ∧
      (∀ set ∈ d.selectionSets, ∀ n ∈ set.spreads,
        table.contains n = true ∨ n ∈ set.reservedSpreads) ∧
      (∀ o ∈ d.operations,
        ((∃ flat, ((Inliner.fresh table).inlineOperation o).1 = .ok flat) ↔
          ∀ n, table.Overlooked o.selections n → table.contains n = true) ∧
        ((∃ used, table.usedBy o = .ok used) ↔
          ∀ n, table.Overlooked o.selections n → table.contains n = true)) ∧
      ∀ options e, generate options schema d = .error e →
        ∃ o ∈ d.operations, table.Unresolved o.selections e := by
  obtain ⟨table, htable, hvalid⟩ := fragmentsValid_of_validate h
  refine ⟨table, htable, hvalid.acyclic, fun set hset => ?_, fun o ho => ⟨?_, ?_⟩,
    fun options e herror => ?_⟩
  · obtain ⟨scope, hchecked⟩ := hvalid.sets set hset
    exact contains_or_overlooked hchecked
  · rw [← hvalid.exists_inlined_iff ho, inlineOperation_fresh]
    cases o.selections.inlined table with
    | error e => exact iff_of_false nofun nofun
    | ok flat => exact iff_of_true ⟨_, rfl⟩ ⟨_, rfl⟩
  · exact hvalid.exists_usedBy_iff ho
  · obtain ⟨o, ho, herror⟩ := unrendered_of_generate h htable herror
    exact ⟨o, ho, hvalid.unresolved_of_rendered ho herror⟩

/-! ### A spread inside a reserved field -/

def oneField : Schema :=
  let query := { Definition.bare .object "Query" with
    fields := [⟨"a", none, [], none, .named "Int" false, []⟩] }
  { Schema.builtin.addType query with
    queryRoot := some "Query"
    possible := .ofList [("Query", ["Query"])] }

def hiddenSpread : Operation :=
  ⟨.query, some "Q", [], [], .field ⟨none, "__schema", [], []⟩ (.spread ⟨"F", []⟩ .nil) .nil⟩

def hiddenFragment : Fragment := ⟨"F", "Query", [], .field ⟨none, "a", [], []⟩ .nil .nil⟩

theorem exists_usedBy_hiddenSpread :
    Document.validate ⟨[hiddenSpread], [hiddenFragment]⟩ oneField = .ok () ∧
      ∃ table, Document.fragmentTable ⟨[hiddenSpread], [hiddenFragment]⟩ = .ok table ∧
        ∃ used, table.usedBy hiddenSpread = .ok used := by
  have hvalid : Document.validate ⟨[hiddenSpread], [hiddenFragment]⟩ oneField = .ok () :=
    eq_ok_of_toOption (by decide +kernel)
  obtain ⟨table, htable, -, -, hresolution, -⟩ := resolution_of_validate hvalid
  have hcontains := FragmentTable.contains_ofFragments_iff htable
  refine ⟨hvalid, table, htable, (hresolution _ List.mem_cons_self).2.mpr ?_⟩
  rintro n (hn | ⟨m, f, -, hget, hn⟩)
  · rw [List.mem_singleton.mp (show n ∈ ["F"] from hn)]
    exact (hcontains "F").mpr ⟨hiddenFragment, List.mem_cons_self, rfl⟩
  · obtain ⟨hmem, -⟩ := ((FragmentTable.ofFragments_eq_ok htable).2 m f).mp hget
    rw [List.mem_singleton.mp hmem] at hn
    cases hn

/-- Without the fragment the document is valid, but neither inlining nor listing succeeds. -/
theorem unresolved_hiddenSpread :
    Schema.ofText "type Query { a: Int }" = .ok oneField ∧
      Document.ofText "query Q { __schema { ...F } }" = .ok ⟨[hiddenSpread], []⟩ ∧
      Document.validate ⟨[hiddenSpread], []⟩ oneField = .ok () ∧
      Document.fragmentTable ⟨[hiddenSpread], []⟩ = .ok ∅ ∧
      (¬ ∃ flat, ((Inliner.fresh ∅).inlineOperation hiddenSpread).1 = .ok flat) ∧
      ¬ ∃ used, (∅ : FragmentTable).usedBy hiddenSpread = .ok used := by
  refine ⟨eq_ok_of_toOption (by decide +kernel), eq_ok_of_toOption (by decide +kernel),
    eq_ok_of_toOption (by decide +kernel), rfl, ?_, ?_⟩
  · rintro ⟨flat, h⟩
    cases h
  · intro h
    have hreachable : (∅ : FragmentTable).Reachable hiddenSpread.selections "F" :=
      ⟨"F", List.mem_cons_self, .refl⟩
    have hkeyed : (∅ : FragmentTable).Keyed :=
      FragmentTable.keyed_of_ofFragments (show FragmentTable.ofFragments [] = .ok ∅ from rfl)
    exact absurd ((FragmentTable.exists_usedIn_iff hkeyed).mp h "F" hreachable) (by decide)

end QueryBindings

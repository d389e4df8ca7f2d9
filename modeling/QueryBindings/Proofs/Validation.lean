import QueryBindings.Document.Validation
import QueryBindings.Proofs.Occurrences

/-! # What validation checks

A set that was checked in a scope has fields that fit the scope, conditions on composite types, and
spreads of fragments that are there, but for what lies inside reserved fields, which are not looked
into.

Main statements: `checkSelections_field`, `checkSelections_spread` and `checkSelections_inline` (one
entry of a set), `FragmentTable.Writes.fits` (every field that is written outside reserved ones),
`contains_or_overlooked` (every spread) and `validate_eq_ok_iff` (a whole document). -/

namespace QueryBindings

variable {schema : Schema} {table : FragmentTable} {scope : String}

/-! ### One entry -/

/-- A field fits a scope: `__typename` selects nothing, other reserved fields are not looked into,
and any other field is declared in the scope and selects something exactly if its type is composite.
-/
inductive FieldFits (schema : Schema) (table : FragmentTable) (scope : String) (f : Field)
    (inner : SelectionSet) : Prop where
  | typename (hname : f.name = "__typename") (hinner : inner = .nil)
  | reserved (hname : f.name ≠ "__typename") (hreserved : isMetaName f.name = true)
  | declared {d : FieldDefinition} (hplain : isMetaName f.name = false)
      (hown : schema.ownField? scope f.name = some d)
      (hcomposite : schema.isComposite d.type.baseName = !inner.isEmpty)
      (hinner : checkSelections schema table d.type.baseName inner = .ok ())

theorem checkField_eq_ok {f : Field} {inner : SelectionSet} {type : String} :
    checkField schema scope f inner = .ok type ↔ ∃ d, schema.ownField? scope f.name = some d ∧
      schema.isComposite d.type.baseName = !inner.isEmpty ∧ d.type.baseName = type := by
  unfold checkField
  cases schema.ownField? scope f.name with
  | none => exact iff_of_false nofun fun ⟨_, h, _⟩ => nomatch h
  | some d =>
      dsimp only
      cases hcomposite : schema.isComposite d.type.baseName <;> cases inner.isEmpty <;>
        simp [reject, hcomposite]

theorem checkSelections_field {f : Field} {inner rest : SelectionSet} :
    checkSelections schema table scope (.field f inner rest) = .ok () ↔
      FieldFits schema table scope f inner ∧ checkSelections schema table scope rest = .ok () := by
  rw [checkSelections]
  dsimp only
  constructor
  · intro h
    split at h
    · rename_i hname
      split at h
      · rename_i hempty
        refine ⟨.typename hname ?_, h⟩
        cases inner with
        | nil => rfl
        | _ => cases hempty
      · cases h
    · rename_i hname
      split at h
      · rename_i hreserved
        exact ⟨.reserved hname hreserved, h⟩
      · rename_i hplain
        rw [Bool.not_eq_true] at hplain
        obtain ⟨type, htype, h⟩ := bind_eq_ok.mp h
        obtain ⟨_, hinner, hrest⟩ := bind_eq_ok.mp h
        obtain ⟨d, hown, hcomposite, rfl⟩ := checkField_eq_ok.mp htype
        exact ⟨.declared hplain hown hcomposite hinner, hrest⟩
  · rintro ⟨hfits, hrest⟩
    cases hfits with
    | typename hname hinner =>
        rw [if_pos hname, hinner]
        exact hrest
    | reserved hname hreserved =>
        rw [if_neg hname, if_pos hreserved]
        exact hrest
    | @declared d hplain hown hcomposite hinner =>
        have hname : f.name ≠ "__typename" := by
          intro hname
          rw [hname] at hplain
          exact absurd hplain (by decide)
        rw [if_neg hname, if_neg (by rw [hplain]; exact Bool.false_ne_true)]
        exact bind_eq_ok.mpr ⟨_, checkField_eq_ok.mpr ⟨d, hown, hcomposite, rfl⟩,
          bind_eq_ok.mpr ⟨(), hinner, hrest⟩⟩

theorem checkSelections_spread {s : Spread} {rest : SelectionSet} :
    checkSelections schema table scope (.spread s rest) = .ok () ↔
      table.contains s.name = true ∧ checkSelections schema table scope rest = .ok () := by
  rw [checkSelections]
  dsimp only
  cases table.contains s.name with
  | true => simp
  | false => exact iff_of_false nofun fun h => nomatch h.1

/-- Inside a fragment written in line its condition is the scope, and else the scope stays. -/
theorem scope_of_checkCondition {condition : Option String} {inside : String}
    (h : checkCondition schema scope condition = .ok inside) :
    condition.getD scope = inside := by
  unfold checkCondition at h
  split at h
  · cases h
    rfl
  · split at h
    · cases h
    · split at h
      · cases h
        rfl
      · cases h

/-- A set that begins with a fragment in line: the condition is the scope of what is inside. -/
theorem checkSelections_inline {i : InlineFragment} {inner rest : SelectionSet} :
    checkSelections schema table scope (.inline i inner rest) = .ok () ↔
      checkCondition schema scope i.condition = .ok (i.condition.getD scope) ∧
        checkSelections schema table (i.condition.getD scope) inner = .ok () ∧
          checkSelections schema table scope rest = .ok () := by
  rw [checkSelections]
  constructor
  · intro h
    obtain ⟨inside, hinside, h⟩ := bind_eq_ok.mp h
    obtain ⟨_, hinner, hrest⟩ := bind_eq_ok.mp h
    have hscope := scope_of_checkCondition hinside
    subst hscope
    exact ⟨hinside, hinner, hrest⟩
  · rintro ⟨hinside, hinner, hrest⟩
    exact bind_eq_ok.mpr ⟨_, hinside, bind_eq_ok.mpr ⟨(), hinner, hrest⟩⟩

/-! ### Spreads -/

/-- The spreads inside reserved fields. -/
def SelectionSet.reservedSpreads : SelectionSet → List String
  | nil => []
  | field f inner rest =>
    (if isMetaName f.name then inner.spreads else inner.reservedSpreads) ++ rest.reservedSpreads
  | spread _ rest => rest.reservedSpreads
  | inline _ inner rest => inner.reservedSpreads ++ rest.reservedSpreads

theorem SelectionSet.reservedSpreads_subset (set : SelectionSet) :
    set.reservedSpreads ⊆ set.spreads := by
  induction set with
  | nil => exact List.nil_subset _
  | field f inner rest ihinner ihrest =>
      refine List.append_subset.mpr ⟨?_, List.subset_append_of_subset_right _ ihrest⟩
      split
      · exact List.subset_append_left _ _
      · exact List.subset_append_of_subset_left _ ihinner
  | spread s rest ih => exact List.subset_cons_of_subset _ ih
  | inline i inner rest ihinner ihrest =>
      exact List.append_subset.mpr ⟨List.subset_append_of_subset_left _ ihinner,
        List.subset_append_of_subset_right _ ihrest⟩

/-- In a set that `checkSelections` passed every spread names a fragment or lies inside a reserved
field. -/
theorem contains_or_overlooked {set : SelectionSet}
    (h : checkSelections schema table scope set = .ok ()) :
    ∀ n ∈ set.spreads, table.contains n = true ∨ n ∈ set.reservedSpreads := by
  induction set generalizing scope with
  | nil => exact nofun
  | field f inner rest ihinner ihrest =>
      obtain ⟨hfits, hrest⟩ := checkSelections_field.mp h
      unfold SelectionSet.spreads SelectionSet.reservedSpreads
      rw [List.forall_mem_append]
      refine ⟨fun n hn => ?_, fun n hn => (ihrest hrest n hn).imp_right (List.mem_append_right _)⟩
      cases hfits with
      | typename _ hinner =>
          rw [hinner] at hn
          cases hn
      | reserved _ hreserved =>
          rw [if_pos hreserved]
          exact .inr (List.mem_append_left _ hn)
      | declared hplain _ _ hinner =>
          rw [hplain]
          exact (ihinner hinner n hn).imp_right (List.mem_append_left _)
  | spread s rest ih =>
      obtain ⟨hcontains, hrest⟩ := checkSelections_spread.mp h
      exact List.forall_mem_cons.mpr ⟨.inl hcontains, ih hrest⟩
  | inline i inner rest ihinner ihrest =>
      obtain ⟨-, hinner, hrest⟩ := checkSelections_inline.mp h
      refine List.forall_mem_append.mpr ⟨fun n hn => ?_, fun n hn => ?_⟩
      · exact (ihinner hinner n hn).imp_right (List.mem_append_left _)
      · exact (ihrest hrest n hn).imp_right (List.mem_append_right _)

/-- A set that `checkSelections` passed is passed with any table that holds the fragments it
spreads. -/
theorem checkSelections_of_contains {other : FragmentTable} {set : SelectionSet}
    (h : checkSelections schema table scope set = .ok ())
    (hspreads : ∀ n ∈ set.spreads, other.contains n = true) :
    checkSelections schema other scope set = .ok () := by
  induction set generalizing scope with
  | nil => rfl
  | field f inner rest ihinner ihrest =>
      obtain ⟨hfits, hrest⟩ := checkSelections_field.mp h
      obtain ⟨hin, hout⟩ := List.forall_mem_append.mp hspreads
      refine checkSelections_field.mpr ⟨?_, ihrest hrest hout⟩
      cases hfits with
      | typename hname hinner => exact .typename hname hinner
      | reserved hname hreserved => exact .reserved hname hreserved
      | declared hplain hown hcomposite hinner =>
          exact .declared hplain hown hcomposite (ihinner hinner hin)
  | spread s rest ih =>
      obtain ⟨-, hrest⟩ := checkSelections_spread.mp h
      obtain ⟨hcontains, hout⟩ := List.forall_mem_cons.mp hspreads
      exact checkSelections_spread.mpr ⟨hcontains, ih hrest hout⟩
  | inline i inner rest ihinner ihrest =>
      obtain ⟨hcondition, hinner, hrest⟩ := checkSelections_inline.mp h
      obtain ⟨hin, hout⟩ := List.forall_mem_append.mp hspreads
      exact checkSelections_inline.mpr ⟨hcondition, ihinner hinner hin, ihrest hrest hout⟩

/-! ### Fields -/

/-- The selections of every fragment of a table were checked in the scope of its condition. -/
def FragmentTable.Checked (table : FragmentTable) (schema : Schema) : Prop :=
  ∀ name f, table.get? name = some f → checkSelections schema table f.condition f.selections = .ok ()

/-- A field that is written outside reserved ones stands in a scope that it fits. -/
theorem FragmentTable.Writes.fits {start : Option String} {set : SelectionSet} {path : List Field}
    {site : Site} (h : table.Writes schema start set path site) (htable : table.Checked schema)
    (hstart : start = some scope) (hset : checkSelections schema table scope set = .ok ())
    (hpath : ∀ f ∈ path, isMetaName f.name = false) :
    ∃ inside, site.scope = some inside ∧ FieldFits schema table inside site.field site.inner := by
  induction h generalizing scope with
  | here => exact ⟨scope, hstart, (checkSelections_field.mp hset).1⟩
  | @inside _ f _ _ _ _ _ ih =>
      rw [List.forall_mem_cons] at hpath
      cases (checkSelections_field.mp hset).1 with
      | typename hname =>
          rw [hname] at hpath
          exact absurd hpath.1 (by decide)
      | reserved _ hreserved =>
          rw [hpath.1] at hreserved
          cases hreserved
      | @declared d _ hown _ hinner =>
          refine ih ?_ hinner hpath.2
          rw [hstart]
          show (schema.ownField? scope f.name).map _ = _
          rw [hown]
          rfl
  | afterField _ ih => exact ih hstart (checkSelections_field.mp hset).2 hpath
  | spread hget _ ih => exact ih rfl (htable _ _ hget) hpath
  | afterSpread _ ih => exact ih hstart (checkSelections_spread.mp hset).2 hpath
  | @inline _ i _ _ _ _ _ ih =>
      refine ih ?_ (checkSelections_inline.mp hset).2.1 hpath
      rw [hstart]
      cases i.condition <;> rfl
  | afterInline _ ih => exact ih hstart (checkSelections_inline.mp hset).2.2 hpath

/-! ### Documents -/

theorem checkFragment_eq_ok {f : Fragment} :
    checkFragment schema table f = .ok () ↔ schema.isComposite f.condition = true ∧
      checkSelections schema table f.condition f.selections = .ok () := by
  unfold checkFragment Schema.isComposite
  cases schema.type? f.condition with
  | none => exact iff_of_false nofun fun h => nomatch h.1
  | some d =>
      dsimp only
      split
      · rename_i hcomposite
        exact (and_iff_right hcomposite).symm
      · rename_i hleaf
        exact iff_of_false nofun fun h => hleaf h.1

theorem checkOperation_eq_ok {o : Operation} :
    checkOperation schema table o = .ok () ↔ ∃ root, schema.root? o.kind = some root ∧
      (∀ v ∈ o.parameters, checkVariable schema v = .ok ()) ∧
        checkSelections schema table root.name o.selections = .ok () := by
  unfold checkOperation
  cases schema.root? o.kind with
  | none => exact iff_of_false nofun fun ⟨_, h, _⟩ => nomatch h
  | some root =>
      rw [← forM_eq_ok]
      constructor
      · intro h
        obtain ⟨_, hparameters, hselections⟩ := bind_eq_ok.mp h
        exact ⟨root, rfl, hparameters, hselections⟩
      · rintro ⟨other, hroot, hparameters, hselections⟩
        cases hroot
        exact bind_eq_ok.mpr ⟨(), hparameters, hselections⟩

/-- `validate` succeeds exactly if names differ, fragments and operations fit the schema, and no
fragment leads back to itself. -/
theorem validate_eq_ok_iff {d : Document} :
    d.validate schema = .ok () ↔ ∃ table, d.fragmentTable = .ok table ∧
      checkOperationNames [] d.operations = .ok () ∧
      (∀ f ∈ d.fragments, checkFragment schema table f = .ok ()) ∧
      checkCycles table d.fragments = .ok () ∧
      ∀ o ∈ d.operations, checkOperation schema table o = .ok () := by
  unfold Document.validate
  constructor
  · intro h
    obtain ⟨table, htable, h⟩ := bind_eq_ok.mp h
    obtain ⟨_, hnames, h⟩ := bind_eq_ok.mp h
    obtain ⟨_, hfragments, h⟩ := bind_eq_ok.mp h
    obtain ⟨_, hcycles, hoperations⟩ := bind_eq_ok.mp h
    exact ⟨table, htable, hnames, forM_eq_ok.mp hfragments, hcycles, forM_eq_ok.mp hoperations⟩
  · rintro ⟨table, htable, hnames, hfragments, hcycles, hoperations⟩
    exact bind_eq_ok.mpr ⟨table, htable, bind_eq_ok.mpr ⟨(), hnames, bind_eq_ok.mpr
      ⟨(), forM_eq_ok.mpr hfragments, bind_eq_ok.mpr ⟨(), hcycles, forM_eq_ok.mpr hoperations⟩⟩⟩⟩

/-- Every operation of a valid document fits the schema. -/
theorem checkOperation_of_validate {d : Document} {o : Operation} (h : d.validate schema = .ok ())
    (htable : d.fragmentTable = .ok table) (ho : o ∈ d.operations) :
    checkOperation schema table o = .ok () := by
  obtain ⟨table', htable', -, -, -, hoperations⟩ := validate_eq_ok_iff.mp h
  cases htable.symm.trans htable'
  exact hoperations o ho

theorem exists_rootName_of_validate {d : Document} {o : Operation} (h : d.validate schema = .ok ())
    (htable : d.fragmentTable = .ok table) (ho : o ∈ d.operations) :
    ∃ root, schema.rootName? o.kind = some root := by
  obtain ⟨root, hroot, -⟩ := checkOperation_eq_ok.mp (checkOperation_of_validate h htable ho)
  obtain ⟨name, hname, -⟩ := Option.bind_eq_some_iff.mp hroot
  exact ⟨name, hname⟩

end QueryBindings

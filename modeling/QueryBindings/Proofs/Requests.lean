import Mathlib.Data.List.Forall2
import Mathlib.Data.List.Nodup
import QueryBindings.Proofs.FragmentResolution

/-! # Requests that stand on their own

The text to send for an operation is that of a document in which the operation stands alone with the
fragments that it needs.  A part of a valid document is valid if every spread in it resolves inside
it, and the fragments that an operation needs are exactly such a part, with nothing to spare.

Main statements: `validate_of_part` (validity of a part) and `standsAlone_of_generate` (the requests
of a bundle). -/

namespace QueryBindings

/-- Every spread in a document names one of its fragments. -/
def Document.Resolved (d : Document) : Prop :=
  ∀ set ∈ d.selectionSets, ∀ n ∈ set.spreads, ∃ f ∈ d.fragments, f.name = n

/-! ### Parts of a document -/

theorem FragmentTable.Within.spreads {small large : FragmentTable} (h : small.Within large)
    {a b : String} (hab : small.Spreads a b) : large.Spreads a b := by
  obtain ⟨f, hget, hb⟩ := hab
  exact ⟨f, h a f hget, hb⟩

/-- Some operations and fragments of a valid document are a valid document if their names differ and
they hold all that they spread. -/
theorem validate_of_part {schema : Schema} {whole part : Document}
    (h : whole.validate schema = .ok ()) (hoperations : part.operations ⊆ whole.operations)
    (hfragments : part.fragments ⊆ whole.fragments)
    (hnames : checkOperationNames [] part.operations = .ok ())
    (hdistinct : (part.fragments.map Fragment.name).Nodup) (hresolved : part.Resolved) :
    part.validate schema = .ok () := by
  obtain ⟨large, hlarge, -, hfits, hcycles, hruns⟩ := validate_eq_ok_iff.mp h
  obtain ⟨small, hsmall⟩ := FragmentTable.exists_ofFragments hdistinct
  have hwithin := FragmentTable.within_of_subset hsmall hlarge hfragments
  have hinside : ∀ set ∈ part.selectionSets, ∀ n ∈ set.spreads, small.contains n = true :=
    fun set hset n hn =>
      (FragmentTable.contains_ofFragments_iff hsmall n).mpr (hresolved set hset n hn)
  refine validate_eq_ok_iff.mpr ⟨small, hsmall, hnames, fun f hf => ?_,
    (checkCycles_eq_ok_iff hsmall).mpr fun n hcycle => ?_, fun o ho => ?_⟩
  · obtain ⟨hcomposite, hselections⟩ := checkFragment_eq_ok.mp (hfits f (hfragments hf))
    refine checkFragment_eq_ok.mpr ⟨hcomposite, checkSelections_of_contains hselections ?_⟩
    exact hinside f.selections (List.mem_append_right _ (List.mem_map_of_mem hf))
  · exact (checkCycles_eq_ok_iff hlarge).mp hcycles n
      (.mono (fun a b => hwithin.spreads) n n hcycle)
  · obtain ⟨root, hroot, hparameters, hselections⟩ :=
      checkOperation_eq_ok.mp (hruns o (hoperations ho))
    refine checkOperation_eq_ok.mpr ⟨root, hroot, hparameters,
      checkSelections_of_contains hselections ?_⟩
    exact hinside o.selections (List.mem_append_left _ (List.mem_map_of_mem ho))

/-! ### One operation -/

/-- The operation `o` and the fragments `used` make a valid document of their own, with nothing to
spare. -/
structure StandsAlone (schema : Schema) (o : Operation) (used : List Fragment) : Prop where
  valid : Document.validate ⟨[o], used⟩ schema = .ok ()
  distinct : (used.map Fragment.name).Nodup
  resolved : Document.Resolved ⟨[o], used⟩
  /-- Without some of the fragments a spread would name none. -/
  needed : ∀ kept ⊆ used, Document.Resolved ⟨[o], kept⟩ → used ⊆ kept

theorem checkOperationNames_singleton (o : Operation) : checkOperationNames [] [o] = .ok () := by
  unfold checkOperationNames
  cases o.name <;> rfl

theorem resolved_singleton_iff {o : Operation} {fragments : List Fragment} :
    Document.Resolved ⟨[o], fragments⟩ ↔
      (∀ n ∈ o.selections.spreads, ∃ f ∈ fragments, f.name = n) ∧
        ∀ f ∈ fragments, ∀ n ∈ f.selections.spreads, ∃ g ∈ fragments, g.name = n := by
  unfold Document.Resolved Document.selectionSets
  rw [List.forall_mem_append, List.forall_mem_map, List.forall_mem_map, List.forall_mem_singleton]

theorem subset_of_names {kept used : List Fragment} (hdistinct : (used.map Fragment.name).Nodup)
    (hkept : kept ⊆ used) (h : ∀ f ∈ used, ∃ g ∈ kept, g.name = f.name) : used ⊆ kept := by
  intro f hf
  obtain ⟨g, hg, hname⟩ := h f hf
  rwa [List.inj_on_of_nodup_map hdistinct hf (hkept hg) hname.symm]

/-- An operation of a valid document `StandsAlone` with the fragments of `usedBy`. -/
theorem standsAlone_of_usedBy {schema : Schema} {d : Document} {table : FragmentTable}
    {o : Operation} {used : List Fragment} (h : d.validate schema = .ok ())
    (htable : d.fragmentTable = .ok table) (ho : o ∈ d.operations)
    (hused : table.usedBy o = .ok used) : StandsAlone schema o used := by
  have hlisted := FragmentTable.listed_of_usedIn (FragmentTable.keyed_of_ofFragments htable) hused
  have hresolved : Document.Resolved ⟨[o], used⟩ := resolved_singleton_iff.mpr
    ⟨fun n hn => (hlisted.covered n hn).resolve_left List.not_mem_nil,
      fun f hf n hn => (hlisted.closed f hf n hn).resolve_left List.not_mem_nil⟩
  have hpart : used ⊆ d.fragments := fun f hf =>
    (((FragmentTable.ofFragments_eq_ok htable).2 f.name f).mp (hlisted.found f hf)).1
  refine ⟨validate_of_part h (List.cons_subset.mpr ⟨ho, List.nil_subset _⟩) hpart
    (checkOperationNames_singleton o) hlisted.distinct hresolved, hlisted.distinct, hresolved,
    fun kept hkept hclosed => subset_of_names hlisted.distinct hkept ?_⟩
  obtain ⟨hpending, hspreads⟩ := resolved_singleton_iff.mp hclosed
  -- The listing holds nothing beyond what every closed choice has to keep.
  refine hlisted.least (fun n => ∃ g ∈ kept, g.name = n) hpending fun f hf hmem n hn => ?_
  obtain ⟨g, hg, hname⟩ := hmem
  have hsame : g = f := List.inj_on_of_nodup_map hlisted.distinct (hkept hg) hf hname
  exact hspreads f (hsame ▸ hg) n hn

/-! ### Bundles -/

theorem text_of_rendered {options : Options} {table : FragmentTable} {o : Operation}
    {r : RenderedOperation} (h : o.rendered options table = .ok r) :
    ∃ used, table.usedBy o = .ok used ∧ r.text = Document.print options.indent ⟨[o], used⟩ := by
  obtain ⟨flat, used, -, hused, rfl⟩ := combine_eq_ok.mp h
  exact ⟨used, hused, rfl⟩

/-- The text of every operation of a bundle is that of a document that `StandsAlone`: the operation
as it was written with the fragments that it needs. -/
theorem standsAlone_of_generate {options : Options} {schema : Schema} {d : Document}
    {g : Generation} (h : generate options schema d = .ok g) :
    ∃ table, d.fragmentTable = .ok table ∧
      List.Forall₂ (fun o r => ∃ used, table.usedBy o = .ok used ∧
        r.text = Document.print options.indent ⟨[o], used⟩ ∧ StandsAlone schema o used)
        d.operations g.operations := by
  obtain ⟨table, hvalid, htable, -, hrendered⟩ := generate_eq_ok h
  refine ⟨table, htable, ?_⟩
  have hmembers := (List.forall₂_and_left _ _).mpr ⟨fun o ho => ho, hrendered⟩
  refine hmembers.imp fun o r ⟨ho, hr⟩ => ?_
  obtain ⟨used, hused, htext⟩ := text_of_rendered hr
  exact ⟨used, hused, htext, standsAlone_of_usedBy hvalid htable ho hused⟩

/-- The operation spreads `F`, and `F` spreads `G`; nothing spreads `H`. -/
def nestedFragments : Document :=
  let a : SelectionSet := .field ⟨none, "a", [], []⟩ .nil .nil
  { operations := [⟨.query, some "Q", [], [], .spread ⟨"F", []⟩ .nil⟩]
    fragments := [⟨"G", "Query", [], a⟩, ⟨"F", "Query", [], .spread ⟨"G", []⟩ .nil⟩,
      ⟨"H", "Query", [], a⟩] }

theorem standsAlone_nestedFragments :
    ∃ g table, generate .default oneField nestedFragments = .ok g ∧
      nestedFragments.fragmentTable = .ok table ∧
        List.Forall₂ (fun o r => ∃ used, table.usedBy o = .ok used ∧
          r.text = Document.print Options.default.indent ⟨[o], used⟩ ∧ StandsAlone oneField o used)
          nestedFragments.operations g.operations := by
  have hvalid : nestedFragments.validate oneField = .ok () := eq_ok_of_toOption (by decide +kernel)
  obtain ⟨g, hg⟩ := exists_generate_of_validate hvalid (by decide)
  obtain ⟨table, htable, hall⟩ := standsAlone_of_generate hg
  exact ⟨g, table, hg, htable, hall⟩

end QueryBindings

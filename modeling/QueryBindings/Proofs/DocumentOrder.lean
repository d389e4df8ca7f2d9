import Mathlib.Data.List.Flatten
import Mathlib.Data.List.Forall2
import QueryBindings.Proofs.Bodies
import QueryBindings.Proofs.Declaration.Bundles
import QueryBindings.Proofs.Requests
import QueryBindings.Proofs.TypesInUse

/-! # The order of documents

Documents that are merged in another order have the same table of fragments, and whether one is
valid is a question about its parts, not about their order.  An operation is rendered from the
table alone, and what it needs of the table is there in every larger table, so other documents do
not disturb it.

Main statements: `rendered_of_within` (an operation against a larger table), `validate_of_reordered`
and `generate_merge` (bundles of documents merged in any order, and with others). -/

namespace QueryBindings

/-! ### Larger tables -/

namespace FragmentTable

variable {small large : FragmentTable}

theorem Expansion.of_within (hwithin : small.Within large) {set e : SelectionSet}
    (h : small.Expansion set e) : large.Expansion set e := by
  induction h with
  | nil => exact .nil
  | field _ _ ihinner ihrest => exact .field ihinner ihrest
  | spread hget _ _ ihbody ihrest => exact .spread (hwithin _ _ hget) ihbody ihrest
  | inline _ _ ihbody ihrest => exact .inline ihbody ihrest

theorem inlined_of_within (hwithin : small.Within large) {set flat : SelectionSet}
    (h : set.inlined small = .ok flat) : set.inlined large = .ok flat := by
  have hexpansion := (SelectionSet.expansion_of_inlined h).of_within hwithin
  obtain ⟨other, hother⟩ := SelectionSet.exists_inlined hexpansion.resolves
  rw [hother, (SelectionSet.expansion_of_inlined hother).unique hexpansion]

theorem usedFrom_of_within (hwithin : small.Within large)
    {unused others : List (String × Fragment)} {used pending : List String} {fs : List Fragment}
    (hunused : Unlisted small unused used) (hothers : Unlisted large others used)
    (h : usedFrom unused used pending = .ok fs) : usedFrom others used pending = .ok fs := by
  fun_induction usedFrom unused used pending generalizing others fs with
  | case1 =>
      cases h
      rw [usedFrom]
  | case2 unused used name rest hused ih =>
      rw [usedFrom, if_pos hused]
      exact ih hunused hothers h
  | case3 unused used name rest hnew hnone => cases h
  | case4 unused used name rest hnew f hfind ih =>
      have hmem : name ∉ used := fun hmem => hnew (List.contains_iff_mem.mpr hmem)
      have hget : small.get? name = some f := (hunused name hmem).symm.trans hfind
      have hthere : others.lookup name = some f :=
        (hothers name hmem).trans (hwithin name f hget)
      obtain ⟨later, hlater, rfl⟩ := map_eq_ok.mp h
      have hrest := ih (hunused.without name) (hothers.without name) hlater
      rw [usedFrom, if_neg hnew]
      split
      · rename_i hnone
        rw [hthere] at hnone
        cases hnone
      · rename_i g hg
        rw [hthere] at hg
        cases hg
        exact map_eq_ok.mpr ⟨later, hrest, rfl⟩

end FragmentTable

/-- An operation is `rendered` as before when there are more fragments. -/
theorem rendered_of_within {options : Options} {small large : FragmentTable}
    (hwithin : small.Within large) {o : Operation} {r : RenderedOperation}
    (h : o.rendered options small = .ok r) : o.rendered options large = .ok r := by
  obtain ⟨flat, used, hflat, hused, rfl⟩ := combine_eq_ok.mp h
  exact combine_eq_ok.mpr ⟨flat, used, FragmentTable.inlined_of_within hwithin hflat,
    FragmentTable.usedFrom_of_within hwithin (FragmentTable.unlisted_entries small)
      (FragmentTable.unlisted_entries large) hused, rfl⟩

/-! ### Another order -/

/-- Two documents with the same operations and the same fragments, each in some order. -/
structure Document.Reordered (d e : Document) : Prop where
  operations : d.operations.Perm e.operations
  fragments : d.fragments.Perm e.fragments

namespace Document

variable {d e : Document} {schema : Schema}

theorem Reordered.symm (h : d.Reordered e) : e.Reordered d :=
  ⟨h.operations.symm, h.fragments.symm⟩

theorem reordered_merge {documents others : List Document} (h : documents.Perm others) :
    (merge documents).Reordered (merge others) := by
  rw [merge_eq, merge_eq]
  exact ⟨h.flatMap_right _, h.flatMap_right _⟩

theorem fragmentTable_of_reordered {table : FragmentTable} (h : d.Reordered e)
    (htable : d.fragmentTable = .ok table) : e.fragmentTable = .ok table :=
  FragmentTable.ofFragments_of_perm h.fragments htable

/-- Whether a document is valid does not depend on the order of its parts, though the first fault
that is found may. -/
theorem validate_of_reordered (h : d.Reordered e) (hvalid : d.validate schema = .ok ()) :
    e.validate schema = .ok () := by
  obtain ⟨table, htable, hnames, hfragments, hcycles, hoperations⟩ := validate_eq_ok_iff.mp hvalid
  have htable' := fragmentTable_of_reordered h htable
  have hacyclic := (checkCycles_eq_ok_iff htable).mp hcycles
  exact validate_eq_ok_iff.mpr ⟨table, htable', checkOperationNames_of_perm h.operations hnames,
    fun f hf => hfragments f (h.fragments.mem_iff.mpr hf),
    (checkCycles_eq_ok_iff htable').mpr hacyclic,
    fun o ho => hoperations o (h.operations.mem_iff.mpr ho)⟩

/-- There is a bundle exactly if the document is valid and each operation can be `rendered`. -/
theorem exists_generate_iff {options : Options} :
    (∃ g, generate options schema d = .ok g) ↔ d.validate schema = .ok () ∧
      ∃ table, d.fragmentTable = .ok table ∧
        ∀ o ∈ d.operations, ∃ r, o.rendered options table = .ok r := by
  constructor
  · rintro ⟨g, h⟩
    obtain ⟨table, hvalid, htable, -, hrendered⟩ := generate_eq_ok h
    refine ⟨hvalid, table, htable, fun o ho => ?_⟩
    obtain ⟨r, -, hr⟩ := exists_of_forall₂ hrendered ho
    exact ⟨r, hr⟩
  · rintro ⟨hvalid, table, htable, hall⟩
    cases hg : generate options schema d with
    | ok g => exact ⟨g, rfl⟩
    | error e =>
        obtain ⟨o, ho, herror⟩ := unrendered_of_generate hvalid htable hg
        obtain ⟨r, hr⟩ := hall o ho
        rw [hr] at herror
        cases herror

theorem exists_generate_of_reordered {options : Options} (h : d.Reordered e)
    (hd : ∃ g, generate options schema d = .ok g) : ∃ g, generate options schema e = .ok g := by
  obtain ⟨hvalid, table, htable, hall⟩ := exists_generate_iff.mp hd
  exact exists_generate_iff.mpr ⟨validate_of_reordered h hvalid, table,
    fragmentTable_of_reordered h htable, fun o ho => hall o (h.operations.mem_iff.mpr ho)⟩

/-! ### Bundles -/

theorem eq_map_of_rendered {options : Options} {table : FragmentTable} {os : List Operation}
    {rs : List RenderedOperation} {pair : Operation → RenderedOperation}
    (h : List.Forall₂ (fun o r => o.rendered options table = .ok r) os rs)
    (hpair : ∀ o r, o.rendered options table = .ok r → pair o = r) : rs = os.map pair := by
  induction h with
  | nil => rfl
  | cons hfirst _ ih => rw [List.map_cons, hpair _ _ hfirst, ← ih]

/-- Operations keep what they were rendered to when more fragments come, and with them more
operations. -/
theorem exists_pair_of_subset {options : Options} {g g' : Generation}
    (hfragments : d.fragments ⊆ e.fragments) (h : generate options schema d = .ok g)
    (h' : generate options schema e = .ok g') :
    ∃ pair : Operation → RenderedOperation,
      g.operations = d.operations.map pair ∧ g'.operations = e.operations.map pair := by
  obtain ⟨small, -, hsmall, -, hrendered⟩ := generate_eq_ok h
  obtain ⟨large, -, hlarge, -, hrendered'⟩ := generate_eq_ok h'
  have hwithin := FragmentTable.within_of_subset hsmall hlarge hfragments
  let pair (o : Operation) : RenderedOperation := (o.rendered options large).toOption.getD default
  have hpair : ∀ o r, o.rendered options large = .ok r → pair o = r := by
    intro o r hr
    show (o.rendered options large).toOption.getD default = r
    rw [hr]
    rfl
  exact ⟨pair, eq_map_of_rendered hrendered fun o r hr => hpair o r (rendered_of_within hwithin hr),
    eq_map_of_rendered hrendered' hpair⟩

/-- Bundles of documents that are `Reordered` differ in the order of the operations alone. -/
theorem generate_of_reordered {options : Options} {g g' : Generation} (hre : d.Reordered e)
    (h : generate options schema d = .ok g) (h' : generate options schema e = .ok g') :
    g.operations.Perm g'.operations ∧ g.referenced = g'.referenced ∧
      g.schemaText = g'.schemaText := by
  obtain ⟨pair, hd, he⟩ := exists_pair_of_subset hre.fragments.subset h h'
  obtain ⟨htext, hreferenced⟩ := referenced_of_generate h
  obtain ⟨htext', hreferenced'⟩ := referenced_of_generate h'
  have hperm : g.operations.Perm g'.operations := by
    rw [hd, he]
    exact hre.operations.map pair
  have htypes := schema.referencedTypes_of_perm (hperm.map (·.operation))
  refine ⟨hperm, ?_, htext.trans htext'.symm⟩
  rw [hreferenced, hreferenced', htypes]

/-- The order of the documents that `merge` joins does not matter: `generate` gives a bundle in one
order exactly if it does in the other, with the same operations and texts to send, the same
`referencedTypes` and the same text of the schema.  And documents do not disturb each other: if more
of them are merged, each operation keeps the one pair of what it is inlined to and the text to send
for it. -/
theorem generate_merge (options : Options) (schema : Schema) (documents others : List Document) :
    (documents.Perm others →
      ((∃ g, generate options schema (merge documents) = .ok g) ↔
        ∃ g, generate options schema (merge others) = .ok g) ∧
      ∀ g g', generate options schema (merge documents) = .ok g →
        generate options schema (merge others) = .ok g' →
          g.operations.Perm g'.operations ∧ g.referenced = g'.referenced ∧
            g.schemaText = g'.schemaText) ∧
    (documents ⊆ others →
      ∀ g g', generate options schema (merge documents) = .ok g →
        generate options schema (merge others) = .ok g' →
          ∃ pair : Operation → RenderedOperation,
            g.operations = (merge documents).operations.map pair ∧
              g'.operations = (merge others).operations.map pair) := by
  refine ⟨fun hperm => ⟨?_, fun g g' h h' => ?_⟩, fun hsubset g g' h h' => ?_⟩
  · have hre := reordered_merge hperm
    exact ⟨exists_generate_of_reordered hre, exists_generate_of_reordered hre.symm⟩
  · exact generate_of_reordered (reordered_merge hperm) h h'
  · refine exists_pair_of_subset ?_ h h'
    rw [merge_eq, merge_eq]
    intro f hf
    obtain ⟨d, hd, hmem⟩ := List.mem_flatMap.mp hf
    exact List.mem_flatMap.mpr ⟨d, hsubset hd, hmem⟩

def separateParts : List Document :=
  [⟨[⟨.query, some "Q", [], [], .spread ⟨"F", []⟩ .nil⟩], []⟩, ⟨[], [hiddenFragment]⟩,
    ⟨[⟨.query, some "R", [], [], .field ⟨none, "a", [], []⟩ .nil .nil⟩], []⟩]

theorem generate_merge_separateParts :
    ∃ first reversed all, generate .default oneField (merge (separateParts.take 2)) = .ok first ∧
      generate .default oneField (merge (separateParts.take 2).reverse) = .ok reversed ∧
      first.operations.Perm reversed.operations ∧
      generate .default oneField (merge separateParts) = .ok all ∧
      ∃ pair : Operation → RenderedOperation,
        first.operations = (merge (separateParts.take 2)).operations.map pair ∧
          all.operations = (merge separateParts).operations.map pair := by
  have hfirst : (merge (separateParts.take 2)).validate oneField = .ok () :=
    eq_ok_of_toOption (by decide +kernel)
  have hall : (merge separateParts).validate oneField = .ok () :=
    eq_ok_of_toOption (by decide +kernel)
  obtain ⟨first, hg⟩ := exists_generate_of_validate hfirst (by decide)
  obtain ⟨all, hall⟩ := exists_generate_of_validate hall (by decide)
  obtain ⟨hiff, hsame⟩ := (generate_merge .default oneField _ _).1
    (List.reverse_perm (separateParts.take 2)).symm
  obtain ⟨reversed, hreversed⟩ := hiff.mp ⟨first, hg⟩
  have hpair := (generate_merge .default oneField _ _).2
    (List.take_subset 2 separateParts) first all hg hall
  exact ⟨first, reversed, all, hg, hreversed, (hsame first reversed hg hreversed).1, hall, hpair⟩

end Document

end QueryBindings

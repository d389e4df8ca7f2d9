import QueryBindings.Proofs.Layout.Outlines
import QueryBindings.Proofs.SchemaRoundTrip

/-! # Root types in printed schemas

A canonical text names the root types in a block unless each of those that are set has its default
name, and a text without a block sets every root type for which there is a type of the default
name.  So the root types of the text are those of the schema exactly if the block is written, or no
type of a default name is there for a root type that is not set.

Main statement: `print_keeps_roots_iff`. -/

namespace QueryBindings

open Grammar

open Grammar.SchemaEntry (Alike)

namespace Schema

/-! ### Schemas from entries that are alike -/

/-- The same root types, and types of the same names. -/
structure Akin (s t : Schema) : Prop where
  roots : ∀ kind, t.rootName? kind = s.rootName? kind
  types : ∀ n, t.types.contains n = s.types.contains n

theorem Akin.addEntry {s t : Schema} (h : s.Akin t) {e f : SchemaEntry} (halike : e.Alike f) :
    (s.addEntry e).Akin (t.addEntry f) := by
  cases halike with
  | roots b => exact ⟨fun kind => by cases kind <;> rfl, h.types⟩
  | @type d e hname =>
      refine ⟨fun kind => ?_, fun n => ?_⟩
      · have hsame := h.roots kind
        cases kind <;> exact hsame
      · show (t.types.insert e.name e).contains n = (s.types.insert d.name d).contains n
        rw [contains_insert, contains_insert, hname, h.types]
  | directive d e =>
      refine ⟨fun kind => ?_, h.types⟩
      have hsame := h.roots kind
      cases kind <;> exact hsame

theorem Akin.foldl_addEntry {s t : Schema} (h : s.Akin t) {es fs : List SchemaEntry}
    (halike : List.Forall₂ Alike es fs) :
    (es.foldl Schema.addEntry s).Akin (fs.foldl Schema.addEntry t) := by
  induction halike generalizing s t with
  | nil => exact h
  | cons hfirst _ ih => exact ih (h.addEntry hfirst)

theorem plain_of_alike {es fs : List SchemaEntry} (h : List.Forall₂ Alike es fs) :
    fs.filterMap addition? = [] ∧ fs.any namesRoots = es.any namesRoots := by
  induction h with
  | nil => exact ⟨rfl, rfl⟩
  | cons hfirst _ ih =>
      cases hfirst with
      | roots b => exact ⟨ih.1, rfl⟩
      | type hname => exact ih
      | directive d e => exact ih

theorem types_setRoot (s : Schema) (kind : OperationKind) (root : Option String) :
    (s.setRoot kind root).types = s.types := by
  cases kind <;> rfl

theorem rootName?_setRoot (s : Schema) (kind other : OperationKind) (root : Option String) :
    (s.setRoot kind root).rootName? other = if other = kind then root else s.rootName? other := by
  cases kind <;> cases other <;> rfl

/-- `withDefaultRoots` sets every root type for which there is a type of the default name. -/
theorem rootName?_withDefaultRoots (s : Schema) (kind : OperationKind) :
    s.withDefaultRoots.rootName? kind =
      if s.types.contains kind.defaultRoot then some kind.defaultRoot else s.rootName? kind := by
  have hall : ∀ (kinds : List OperationKind) (t : Schema), t.types = s.types →
      (kinds.foldl (fun s kind => if s.types.contains kind.defaultRoot
        then s.setRoot kind (some kind.defaultRoot) else s) t).rootName? kind =
        if kind ∈ kinds ∧ s.types.contains kind.defaultRoot = true then some kind.defaultRoot
        else t.rootName? kind := by
    intro kinds
    induction kinds with
    | nil => intro t _; simp
    | cons k kinds ih =>
        intro t htypes
        rw [List.foldl_cons, htypes]
        by_cases hk : s.types.contains k.defaultRoot = true
        · rw [if_pos hk, ih _ ((t.types_setRoot k _).trans htypes), rootName?_setRoot]
          by_cases hsame : kind = k
          · subst hsame
            simp [hk]
          · simp [hsame]
        · rw [if_neg hk, ih t htypes]
          by_cases hsame : kind = k
          · subst hsame
            simp [hk]
          · simp [hsame]
  have hmem : kind ∈ OperationKind.all := by cases kind <;> decide
  rw [withDefaultRoots, hall OperationKind.all s rfl]
  simp [hmem]

theorem rootName?_ofEntries {es : List SchemaEntry} {t : Schema}
    (hnone : es.filterMap addition? = []) (hok : ofEntries es = .ok t) (kind : OperationKind) :
    t.rootName? kind = if es.any namesRoots then (es.foldl addEntry builtin).rootName? kind
      else (es.foldl addEntry builtin).withDefaultRoots.rootName? kind := by
  rw [ofEntries_of_no_extension hnone, assemble_eq_ok] at hok
  rw [hok.1, indexPossible_eq]
  split <;> cases kind <;> rfl

theorem roots_all_iff {s : Schema} :
    (s.roots.all fun root => root.2 = root.1.defaultRoot) = true ↔
      ∀ kind n, s.rootName? kind = some n → n = kind.defaultRoot := by
  rw [List.all_eq_true]
  constructor
  · intro h kind n hn
    have hmem : (kind, n) ∈ s.roots := by
      rw [← roots_rootBlock, RootBlock.mem_roots]
      cases kind <;> exact hn
    exact of_decide_eq_true (h _ hmem)
  · rintro h ⟨kind, n⟩ hmem
    rw [← roots_rootBlock, RootBlock.mem_roots] at hmem
    refine decide_eq_true (h kind n ?_)
    cases kind <;> exact hmem

theorem rootName?_of_alike {s t : Schema} (h : s.WellRead) {fs : List SchemaEntry}
    (halike : List.Forall₂ Alike s.entries fs) (hok : ofEntries fs = .ok t)
    (kind : OperationKind) :
    t.rootName? kind =
      if s.roots.all fun root => root.2 = root.1.defaultRoot then
        if s.types.contains kind.defaultRoot then some kind.defaultRoot else none
      else s.rootName? kind := by
  have hkin : (s.entries.foldl addEntry builtin).Akin (fs.foldl addEntry builtin) :=
    (⟨fun _ => rfl, fun _ => rfl⟩ : builtin.Akin builtin).foldl_addEntry halike
  obtain ⟨hnone, hnames⟩ := plain_of_alike halike
  rw [rootName?_ofEntries hnone hok, hnames, any_namesRoots_entries, rootName?_withDefaultRoots,
    hkin.roots, hkin.types, foldl_addEntry_defined h, rootName?_defined]
  by_cases hdefault : s.roots.all (fun root => root.2 = root.1.defaultRoot) = true
  · simp only [hdefault, Bool.not_true, Bool.false_eq_true, if_true, if_false]
    rfl
  · simp [hdefault]

theorem same_roots_iff {s t : Schema} (h : s.WellRead)
    (hresolved : ∀ r ∈ s.references, s.types.contains r.2 = true) {fs : List SchemaEntry}
    (halike : List.Forall₂ Alike s.entries fs) (hok : ofEntries fs = .ok t) :
    (∀ kind, t.rootName? kind = s.rootName? kind) ↔
      (∃ kind n, s.rootName? kind = some n ∧ n ≠ kind.defaultRoot) ∨
        ∀ kind, s.rootName? kind = none → s.types.contains kind.defaultRoot = false := by
  simp only [rootName?_of_alike h halike hok]
  by_cases hdefault : s.roots.all (fun root => root.2 = root.1.defaultRoot) = true
  · have hroots := roots_all_iff.mp hdefault
    simp only [if_pos hdefault]
    constructor
    · intro hsame
      refine .inr fun kind hnone => ?_
      have hkind := hsame kind
      rw [hnone] at hkind
      by_contra hcontains
      rw [if_pos (by simpa using hcontains)] at hkind
      cases hkind
    · rintro (⟨other, n, hn, hne⟩ | hnone) kind
      · exact absurd (hroots other n hn) hne
      · cases hroot : s.rootName? kind with
        | none => rw [if_neg (by simp [hnone kind hroot])]
        | some n =>
            have hcontains := contains_of_rootName? hresolved hroot
            rw [hroots kind n hroot] at hcontains ⊢
            rw [if_pos hcontains]
  · simp only [if_neg hdefault, implies_true, true_iff]
    left
    by_contra hall
    refine hdefault (roots_all_iff.mpr fun kind n hn => ?_)
    by_contra hne
    exact hall ⟨kind, n, hn, hne⟩

/-! ### Printed schemas -/

theorem WellRead.indexPossible {s : Schema} (h : s.WellRead) : s.indexPossible.WellRead := by
  rw [indexPossible_eq]
  refine ⟨h.types, h.directives, fun kind n hn => h.roots kind n ?_, h.scalars⟩
  cases kind <;> exact hn

/-- What is read from the canonical text of a schema is `Alike` the entries of that schema, whatever
its descriptions and values are. -/
theorem exists_alike_of_ofText_print {o options : Options} {indent : String} {s t : Schema}
    (hindent : o.withIndent indent = .ok options) (h : s.WellRead)
    (hok : ofText (s.print options.indent true) = .ok t) :
    ∃ fs, List.Forall₂ Alike s.entries fs ∧ ofEntries fs = .ok t := by
  obtain ⟨fs, hread, hbuild⟩ := ofText_eq_ok.mp hok
  refine ⟨fs, ?_, hbuild⟩
  rw [readAll_eq_ok] at hread
  -- A text that is read holds no unreadable token, so no value spoils it.
  obtain ⟨-, used, hused, hclean⟩ := yields_schemaText _ (Rule.named_of_lex _) fs [] hread
  rw [List.append_nil] at hused
  rw [← hused] at hclean
  have hreadable := not_mem_of_not_mem_upToUnreadable hclean
  rw [upToUnreadable_of_not_mem hreadable] at hread
  rcases Acts.lex_layout (isPad_of_withIndent hindent) (outlines_schema (sound_entries h)) with
    hspoiled | ⟨ts, hts, hall⟩
  · exact absurd hspoiled hreadable
  · rw [List.append_nil] at hall
    exact alike_of_schemaText (entries_ne_nil h) hts (sound_entries h) (hall ▸ hread)

/-- The canonical text of a schema, builtin types included, keeps all root types exactly if it names
them in a block, because one of them has an unusual name, or no type has the default name of a root
type that is not set. -/
theorem print_keeps_roots_iff {o options : Options} {indent source : String} {s t : Schema}
    (hindent : o.withIndent indent = .ok options) (hread : ofText source = .ok s)
    (hreread : ofText (s.print options.indent true) = .ok t) :
    (∀ kind, t.rootName? kind = s.rootName? kind) ↔
      (∃ kind n, s.rootName? kind = some n ∧ n ≠ kind.defaultRoot) ∨
        ∀ kind, s.rootName? kind = none → s.types.contains kind.defaultRoot = false := by
  obtain ⟨base, hbase, -, rfl, hresolved⟩ := wellRead_of_ofText hread
  have hwell := hbase.indexPossible
  obtain ⟨fs, halike, hbuild⟩ := exists_alike_of_ofText_print hindent hwell hreread
  refine same_roots_iff hwell ?_ halike hbuild
  rw [references_indexPossible, indexPossible_eq]
  exact hresolved

/-- An object with one field. -/
def objectNamed (n : String) : Definition :=
  { Definition.bare .object n with fields := [⟨"a", none, [], none, .named "Int" false, []⟩] }

/-- `Root` is the query root, beside two types of default names. -/
def unusualRoot : Schema :=
  { (((builtin.addType (objectNamed "Root")).addType (objectNamed "Query")).addType
      (objectNamed "Mutation")) with
    queryRoot := some "Root"
    possible := Table.ofList
      [("Mutation", ["Mutation"]), ("Query", ["Query"]), ("Root", ["Root"])] }

theorem print_keeps_roots_unusualRoot :
    ofText ("schema \x7b query: Root \x7d type Root \x7b a: Int \x7d " ++
        "type Query \x7b a: Int \x7d type Mutation \x7b a: Int \x7d") = .ok unusualRoot ∧
      ∃ t, ofText (unusualRoot.print "\t" true) = .ok t ∧
        ((∀ kind, t.rootName? kind = unusualRoot.rootName? kind) ↔
          (∃ kind n, unusualRoot.rootName? kind = some n ∧ n ≠ kind.defaultRoot) ∨
            ∀ kind, unusualRoot.rootName? kind = none →
              unusualRoot.types.contains kind.defaultRoot = false) := by
  obtain ⟨options, hindent, htab⟩ : ∃ options, Options.default.withIndent "\t" = .ok options ∧
      options.indent = "\t" := ⟨_, rfl, rfl⟩
  have hread : ofText ("schema \x7b query: Root \x7d type Root \x7b a: Int \x7d " ++
      "type Query \x7b a: Int \x7d type Mutation \x7b a: Int \x7d") = .ok unusualRoot :=
    eq_ok_of_toOption (by decide +kernel)
  have hreread : ofText (unusualRoot.print options.indent true) = .ok unusualRoot := by
    rw [htab]
    exact eq_ok_of_toOption (by decide +kernel)
  have hiff := print_keeps_roots_iff hindent hread hreread
  rw [htab] at hreread
  exact ⟨hread, unusualRoot, hreread, hiff⟩

/-- `Query` is named as a root type, `Mutation` is not. -/
def queryAlone : Schema :=
  { (builtin.addType (objectNamed "Query")).addType (objectNamed "Mutation") with
    queryRoot := some "Query"
    possible := Table.ofList [("Mutation", ["Mutation"]), ("Query", ["Query"])] }

/-- Read again, the canonical text of `queryAlone` has a root type more. -/
theorem print_adds_root_queryAlone :
    ofText ("schema \x7b query: Query \x7d type Query \x7b a: Int \x7d " ++
        "type Mutation \x7b a: Int \x7d") = .ok queryAlone ∧
      ∃ t, ofText (queryAlone.print "  " true) = .ok t ∧
        ¬ ∀ kind, t.rootName? kind = queryAlone.rootName? kind := by
  let both : Schema := { queryAlone with mutationRoot := some "Mutation" }
  refine ⟨eq_ok_of_toOption (by decide +kernel), both, eq_ok_of_toOption (by decide +kernel),
    fun hsame => ?_⟩
  have hmutation : some "Mutation" = none := hsame .mutation
  cases hmutation

end Schema

end QueryBindings

import Mathlib.Logic.Relation
import QueryBindings.Proofs.Declaration.Bundles
import QueryBindings.Proofs.Declaration.Failures
import QueryBindings.Proofs.FieldLookup
import QueryBindings.Proofs.FragmentResolution
import QueryBindings.Proofs.SchemaKeys

/-! # Fields that are not found again

Validation looks a field up in the scope in which it is written.  When declarations are made it is
looked up again, on the type to which its response path leads.  So a document that was accepted can
still have no declarations: if the second type is not the one that the scope was narrowed from, or
if validation did not look, as with reserved fields.

Main statements: `astray_of_unfound` (why a field is not found) and `declarations_of_conditionsFit`
(why a bundle has no declarations). -/

namespace QueryBindings

/-! ### Conditions that fit -/

/-- The condition is the type of the scope, or one that can stand in for it.  Nothing is asked of a
scope that is not known. -/
def Schema.Narrows (s : Schema) (scope : Option String) (condition : String) : Prop :=
  ∀ type, scope = some type → s.StandsFor condition type

/-- Every condition in a set `Narrows` the scope in which it stands. -/
def SelectionSet.ConditionsFit (schema : Schema) (table : FragmentTable) :
    (scope : Option String) → SelectionSet → Prop
  | _, .nil => True
  | scope, .field f inner rest =>
    ConditionsFit schema table ((schema.declared? scope f.name).map (·.type.baseName)) inner ∧
      ConditionsFit schema table scope rest
  | scope, .spread s rest =>
    (∀ fragment, table.get? s.name = some fragment → schema.Narrows scope fragment.condition) ∧
      ConditionsFit schema table scope rest
  | scope, .inline i inner rest =>
    (∀ c, i.condition = some c → schema.Narrows scope c) ∧
      ConditionsFit schema table (i.condition.or scope) inner ∧
        ConditionsFit schema table scope rest

/-- Every condition in the fragments of a table `Narrows` the scope in which it stands. -/
def FragmentTable.ConditionsFit (table : FragmentTable) (schema : Schema) : Prop :=
  ∀ name f, table.get? name = some f →
    f.selections.ConditionsFit schema table (some f.condition)

/-- Every condition in a document `Narrows` the scope in which it stands. -/
structure Document.ConditionsFit (d : Document) (schema : Schema) (table : FragmentTable) :
    Prop where
  operations : ∀ o ∈ d.operations,
    o.selections.ConditionsFit schema table (schema.rootName? o.kind)
  fragments : table.ConditionsFit schema

namespace FragmentTable

variable {table : FragmentTable} {schema : Schema}

theorem Writes.conditionsFit {scope : Option String} {set : SelectionSet} {path : List Field}
    {site : Site} (h : table.Writes schema scope set path site)
    (htable : table.ConditionsFit schema) (hset : set.ConditionsFit schema table scope) :
    site.inner.ConditionsFit schema table
      ((schema.declared? site.scope site.field.name).map (·.type.baseName)) := by
  induction h with
  | here => exact hset.1
  | inside _ ih => exact ih hset.1
  | afterField _ ih => exact ih hset.2
  | spread hget _ ih => exact ih (htable _ _ hget)
  | afterSpread _ ih => exact ih hset.2
  | inline _ ih => exact ih hset.2.1
  | afterInline _ ih => exact ih hset.2.2

/-- A field that is written in a set, under no other field, stands in the scope of the set or in one
to which conditions have narrowed it step by step. -/
theorem Writes.narrows {type : String} {start : Option String} {set : SelectionSet}
    {path : List Field} {site : Site} (h : table.Writes schema start set path site)
    (htable : table.ConditionsFit schema) (hset : set.ConditionsFit schema table start)
    (hpath : path = []) (hstart : start = some type) :
    ∃ inside, site.scope = some inside ∧
      Relation.ReflTransGen (fun a b => schema.StandsFor b a) type inside := by
  induction h generalizing type with
  | here => exact ⟨type, hstart, .refl⟩
  | inside => cases hpath
  | afterField _ ih => exact ih hset.2 hpath hstart
  | spread hget _ ih =>
      obtain ⟨inside, hinside, hlead⟩ := ih (htable _ _ hget) hpath rfl
      exact ⟨inside, hinside, .head (hset.1 _ hget type hstart) hlead⟩
  | afterSpread _ ih => exact ih hset.2 hpath hstart
  | @inline _ i _ _ _ _ _ ih =>
      cases hcondition : i.condition with
      | none =>
          refine ih hset.2.1 hpath ?_
          rw [hcondition]
          exact hstart
      | some c =>
          obtain ⟨inside, hinside, hlead⟩ := ih hset.2.1 hpath (by rw [hcondition]; rfl)
          exact ⟨inside, hinside, .head (hset.1 c hcondition type hstart) hlead⟩
  | afterInline _ ih => exact ih hset.2.2 hpath hstart

/-- A field that is written under others is written in what is selected of the last of them. -/
theorem Writes.split {scope : Option String} {set : SelectionSet} {path above : List Field}
    {f : Field} {site : Site} (h : table.Writes schema scope set path site)
    (hpath : path = above ++ [f]) :
    ∃ outer, table.Writes schema scope set above outer ∧ outer.field = f ∧
      table.Writes schema ((schema.declared? outer.scope f.name).map (·.type.baseName)) outer.inner
        [] site := by
  induction h generalizing above with
  | here => exact absurd hpath.symm (by simp)
  | @inside scope g inner rest path site h ih =>
      cases above with
      | nil =>
          rw [List.nil_append, List.cons.injEq] at hpath
          obtain ⟨rfl, rfl⟩ := hpath
          exact ⟨_, .here, rfl, h⟩
      | cons e above =>
          rw [List.cons_append, List.cons.injEq] at hpath
          obtain ⟨rfl, hpath⟩ := hpath
          obtain ⟨outer, houter, hfield, hinside⟩ := ih hpath
          exact ⟨outer, .inside houter, hfield, hinside⟩
  | afterField _ ih =>
      obtain ⟨outer, houter, hrest⟩ := ih hpath
      exact ⟨outer, .afterField houter, hrest⟩
  | spread hget _ ih =>
      obtain ⟨outer, houter, hrest⟩ := ih hpath
      exact ⟨outer, .spread hget houter, hrest⟩
  | afterSpread _ ih =>
      obtain ⟨outer, houter, hrest⟩ := ih hpath
      exact ⟨outer, .afterSpread houter, hrest⟩
  | inline _ ih =>
      obtain ⟨outer, houter, hrest⟩ := ih hpath
      exact ⟨outer, .inline houter, hrest⟩
  | afterInline _ ih =>
      obtain ⟨outer, houter, hrest⟩ := ih hpath
      exact ⟨outer, .afterInline houter, hrest⟩

end FragmentTable

/-! ### Fields that are not found -/

/-- A field is written in an operation, but not found on the type to which its path leads. -/
structure Unfound (table : FragmentTable) (schema : Schema) (o : Operation) (path : List Field)
    (site : Site) (parent : String) : Prop where
  written : table.Writes schema (schema.rootName? o.kind) o.selections path site
  named : site.field.name ≠ "__typename"
  lead : ((schema.rootName? o.kind).bind fun root => schema.responseParent? root path) =
    some parent
  missing : schema.findField? parent site.field.name = none

/-- Why a field is not found on the type to which its path leads. -/
inductive Astray (table : FragmentTable) (schema : Schema) (o : Operation) (path : List Field)
    (site : Site) (parent : String) : Prop where
  /-- The field is a reserved one, or lies inside one: those are not looked up by validation. -/
  | reserved {f : Field} (hmem : f ∈ path ++ [site.field]) (hreserved : isMetaName f.name = true)
  /-- The field around it was found with another type than its scope declares for it. -/
  | misread {above : List Field} {outer : Site} {type : String}
      (hpath : path = above ++ [outer.field])
      (houter : table.Writes schema (schema.rootName? o.kind) o.selections above outer)
      (hdeclared : (schema.declared? outer.scope outer.field.name).map (·.type.baseName) =
        some type)
      (hinside : table.Writes schema (some type) outer.inner [] site) (hne : type ≠ parent)
  /-- Conditions inside each other lead away from the type, step by step. -/
  | nested {inside : String} (hscope : site.scope = some inside)
      (hlead : Relation.ReflTransGen (fun a b => schema.StandsFor b a) parent inside)
      (hfar : ¬ schema.StandsFor inside parent)

theorem Schema.StandsFor.exists_findField? {schema : Schema} {inside parent name : String}
    {d : FieldDefinition} (h : schema.StandsFor inside parent)
    (hown : schema.ownField? inside name = some d) :
    ∃ found, schema.findField? parent name = some found := by
  obtain ⟨definition, htype, hdeclares⟩ := Schema.exists_ownField?_iff.mp ⟨d, hown⟩
  refine Schema.exists_findField?_iff.mpr ?_
  rcases h with rfl | hpossible
  · exact .inl ⟨definition, htype, hdeclares⟩
  · exact .inr ⟨definition, List.mem_filterMap.mpr ⟨inside, hpossible, htype⟩, hdeclares⟩

theorem FieldFits.exists_ownField? {schema : Schema} {table : FragmentTable} {scope : String}
    {f : Field} {inner : SelectionSet} (h : FieldFits schema table scope f inner)
    (hplain : isMetaName f.name = false) : ∃ d, schema.ownField? scope f.name = some d := by
  cases h with
  | typename hname =>
      rw [hname] at hplain
      exact absurd hplain (by decide)
  | reserved _ hreserved =>
      rw [hplain] at hreserved
      cases hreserved
  | declared _ hown => exact ⟨_, hown⟩

section

variable {schema : Schema} {d : Document} {table : FragmentTable} {o : Operation}
  {path : List Field} {site : Site} {parent : String}

theorem Astray.of_narrows {outer : SelectionSet} {inside : String} {own : FieldDefinition}
    (htable : table.ConditionsFit schema) (houter : outer.ConditionsFit schema table (some parent))
    (hwrites : table.Writes schema (some parent) outer [] site)
    (hscope : site.scope = some inside) (hown : schema.ownField? inside site.field.name = some own)
    (hmissing : schema.findField? parent site.field.name = none) :
    Astray table schema o path site parent := by
  obtain ⟨inside', hscope', hlead⟩ := hwrites.narrows htable houter rfl rfl
  cases hscope.symm.trans hscope'
  refine .nested hscope hlead fun hstands => ?_
  obtain ⟨found, hfound⟩ := hstands.exists_findField? hown
  rw [hmissing] at hfound
  cases hfound

/-- Why a field of a document with `ConditionsFit` is not found. -/
theorem astray_of_unfound (hkeyed : schema.Keyed) (hvalid : d.validate schema = .ok ())
    (htable : d.fragmentTable = .ok table) (hfit : d.ConditionsFit schema table)
    (ho : o ∈ d.operations) (h : Unfound table schema o path site parent) :
    Astray table schema o path site parent := by
  by_cases hplain : ∀ f ∈ path ++ [site.field], isMetaName f.name = false
  · rw [List.forall_mem_append, List.forall_mem_singleton] at hplain
    obtain ⟨table', htable', hfragments⟩ := fragmentsValid_of_validate hvalid
    cases htable.symm.trans htable'
    obtain ⟨root, hroot, -, hselections⟩ :=
      checkOperation_eq_ok.mp (checkOperation_of_validate hvalid htable ho)
    have hstart := hkeyed.rootName?_eq hroot
    have hset := hfit.operations o ho
    obtain ⟨inside, hscope, hfits⟩ :=
      h.written.fits hfragments.checked hstart hselections hplain.1
    obtain ⟨own, hown⟩ := hfits.exists_ownField? hplain.2
    have hlead := h.lead
    rw [hstart, Option.bind_some] at hlead
    -- Only the field around it counts: what its scope declares for it is where narrowing began.
    rcases List.eq_nil_or_concat path with rfl | ⟨above, f, rfl⟩
    · cases hlead
      have hwritten := h.written
      rw [hstart] at hwritten hset
      exact .of_narrows hfit.fragments hset hwritten hscope hown h.missing
    · obtain ⟨outer, houter, rfl, hwrites⟩ := h.written.split List.concat_eq_append
      rw [List.concat_eq_append, List.forall_mem_append, List.forall_mem_singleton] at hplain
      obtain ⟨around, haround, hfits'⟩ :=
        houter.fits hfragments.checked hstart hselections hplain.1.1
      obtain ⟨declared, hdeclared⟩ := hfits'.exists_ownField? hplain.1.2
      have htype : (schema.declared? outer.scope outer.field.name).map (·.type.baseName) =
          some declared.type.baseName := by
        rw [haround]
        show (schema.ownField? around outer.field.name).map _ = _
        rw [hdeclared]
        rfl
      have hinner := houter.conditionsFit hfit.fragments hset
      rw [htype] at hwrites hinner
      by_cases hsame : declared.type.baseName = parent
      · rw [hsame] at hwrites hinner
        exact .of_narrows hfit.fragments hinner hwrites hscope hown h.missing
      · exact .misread List.concat_eq_append houter htype hwrites hsame
  · push Not at hplain
    obtain ⟨f, hf, hreserved⟩ := hplain
    exact .reserved hf (by simpa using hreserved)

end

/-! ### Bundles -/

/-- The clashes that only declarations can have: an item name that is taken, and two fields at the
same response keys that are not the same field with the same arguments. -/
inductive Clash (table : FragmentTable) (schema : Schema) (d : Document) : Error → Prop where
  | item (owner previous item : String) :
      Clash table schema d (.invalid (.sameItem owner previous item))
  | fields {o : Operation} {path path' : List Field} {site site' : Site} (ho : o ∈ d.operations)
      (h : table.Writes schema (schema.rootName? o.kind) o.selections path site)
      (h' : table.Writes schema (schema.rootName? o.kind) o.selections path' site')
      (hkeys : path.map Field.responseKey = path'.map Field.responseKey)
      (hconflict : site.field.Conflicts site'.field) :
      Clash table schema d (.invalid (.conflictingFields site'.field.responseKey))

section

variable {options emitting : Options} {schema : Schema} {d : Document} {g : Generation}
  {table : FragmentTable}

theorem clash_or_unfound_of_fails {c : RecordContext} {o : Operation} {root : String}
    {flat : SelectionSet} {e : Error} (ho : o ∈ d.operations)
    (hroot : c.schema.rootName? o.kind = some root) (hexpansion : table.Expansion o.selections flat)
    (h : Fails c root flat e) :
    Clash table c.schema d e ∨ ∃ path site parent, Unfound table c.schema o path site parent ∧
      e = .invalid (.unknownField site.field.name parent) := by
  cases h with
  | item previous item => exact .inl (.item c.owner previous item)
  | fields hf hg hkeys hconflict =>
      obtain ⟨site, hwrites, rfl, -⟩ := hexpansion.writes (c.schema.rootName? o.kind) hf
      obtain ⟨site', hwrites', rfl, -⟩ := hexpansion.writes (c.schema.rootName? o.kind) hg
      exact .inl (.fields ho hwrites hwrites' hkeys hconflict)
  | field hholds hname hlast hmissing =>
      obtain ⟨site, hwrites, rfl, -⟩ := hexpansion.writes (c.schema.rootName? o.kind) hholds
      exact .inr ⟨_, site, _, ⟨hwrites, hname, by rw [hroot]; exact hlast, hmissing⟩, rfl⟩

/-- The declarations of a bundle with named operations fail for a `Clash`, or for a field that is
not found. -/
theorem clash_or_unfound_of_declarations {e : Error} (hgenerate : generate options schema d = .ok g)
    (htable : d.fragmentTable = .ok table) (hnamed : ∀ o ∈ d.operations, o.name ≠ none)
    (h : g.declarations emitting = .error e) :
    Clash table schema d e ∨ ∃ o ∈ d.operations, ∃ path site parent,
      Unfound table schema o path site parent ∧
        e = .invalid (.unknownField site.field.name parent) := by
  obtain ⟨rfl, -, hall⟩ := rendered_of_generate hgenerate htable
  rcases declarations_eq_error h with ⟨owner, previous, item, rfl⟩ | ⟨r, hr, names, h⟩
  · exact .inl (.item owner previous item)
  · obtain ⟨o, ho, hrendered⟩ := exists_of_forall₂ hall.flip hr
    obtain ⟨_, hvalid, -⟩ := generate_eq_ok hgenerate
    obtain ⟨root, hroot⟩ := exists_rootName_of_validate hvalid htable ho
    have hkind : r.operation.kind = o.kind := by rw [hrendered.same]
    obtain ⟨owner, hfails⟩ := fails_of_declarations (by rw [hrendered.same]; exact hnamed o ho)
      (by rw [hkind]; exact hroot) hrendered.expansion.flat h
    exact (clash_or_unfound_of_fails ho hroot hrendered.expansion hfails).imp_right
      fun hunfound => ⟨o, ho, hunfound⟩

/-- There are no declarations for a bundle if a field is `Unfound`. -/
theorem exists_error_of_unfound {o : Operation} {path : List Field} {site : Site} {parent : String}
    (hgenerate : generate options schema d = .ok g) (htable : d.fragmentTable = .ok table)
    (ho : o ∈ d.operations) (h : Unfound table schema o path site parent) :
    ∃ e, g.declarations emitting = .error e := by
  cases hdeclarations : g.declarations emitting with
  | error e => exact ⟨e, rfl⟩
  | ok declarations =>
      obtain ⟨name, response, owner, flat, records, before, after, -, -, hexpansion, hrecords, hsub,
        hnodup, -⟩ :=
        exists_record_of_writes hgenerate hdeclarations htable ho h.written h.lead
      obtain ⟨inner, -, hholds⟩ := h.written.holds hexpansion
      rw [← List.append_nil path] at hholds
      obtain ⟨found, leaf, member, hfound, -⟩ := exists_type hrecords hsub hnodup
        (SelectionSet.holds_underAll_iff.mpr ⟨path, rfl, hholds⟩) h.named
      rw [h.missing] at hfound
      cases hfound

/-- A document from which a bundle was made, with named operations and `ConditionsFit`, has no
declarations only for a `Clash`, or for a field that is `Unfound` because it went `Astray` on the
way there.  As soon as there is such a field, there are no declarations. -/
theorem declarations_of_conditionsFit (hbuilt : schema.Built)
    (hgenerate : generate options schema d = .ok g) (htable : d.fragmentTable = .ok table)
    (hnamed : ∀ o ∈ d.operations, o.name ≠ none) (hfit : d.ConditionsFit schema table) :
    (∀ e, g.declarations emitting = .error e →
      Clash table schema d e ∨ ∃ o ∈ d.operations, ∃ path site parent,
        Unfound table schema o path site parent ∧ Astray table schema o path site parent ∧
          e = .invalid (.unknownField site.field.name parent)) ∧
      ∀ o ∈ d.operations, ∀ path site parent, Unfound table schema o path site parent →
        ∃ e, g.declarations emitting = .error e := by
  obtain ⟨_, hvalid, -⟩ := generate_eq_ok hgenerate
  refine ⟨fun e he => ?_, fun o ho path site parent h =>
    exists_error_of_unfound hgenerate htable ho h⟩
  rcases clash_or_unfound_of_declarations hgenerate htable hnamed he with hclash |
    ⟨o, ho, path, site, parent, hunfound, rfl⟩
  · exact .inl hclash
  · exact .inr ⟨o, ho, path, site, parent, hunfound,
      astray_of_unfound hbuilt.keyed hvalid htable hfit ho hunfound, rfl⟩

end

/-! ### A field below another member -/

/-- The union of `A` and `B`, each with a field `x` that leads to a type of its own. -/
def branches : Schema :=
  let object (name field type : String) : Definition := { Definition.bare .object name with
    fields := [⟨field, none, [], none, .named type false, []⟩] }
  let types := [
    object "Query" "u" "U", { Definition.bare .union "U" with members := ["A", "B"] },
    object "A" "x" "X", object "B" "x" "Y", object "X" "p" "Int", object "Y" "q" "Int"]
  { types.foldl Schema.addType .builtin with
    queryRoot := some "Query"
    possible := .ofList [("A", ["A"]), ("B", ["B"]), ("Query", ["Query"]), ("U", ["A", "B"]),
      ("X", ["X"]), ("Y", ["Y"])] }

theorem ofText_branches :
    Schema.ofText ("type Query { u: U } union U = A | B type A { x: X } type B { x: Y } " ++
      "type X { p: Int } type Y { q: Int }") = .ok branches :=
  eq_ok_of_toOption (by decide +kernel)

/-- `x` is selected of `B`, and a field below it. -/
def branchOperation : Operation :=
  ⟨.query, some "Q", [], [],
    .field ⟨none, "u", [], []⟩ (.inline ⟨some "B", []⟩
      (.field ⟨none, "x", [], []⟩ (.field ⟨none, "q", [], []⟩ .nil .nil) .nil) .nil) .nil⟩

def branchGeneration : Generation :=
  let flat : SelectionSet := .field ⟨none, "u", [], []⟩
    (.field ⟨none, "x", [], []⟩ (.field ⟨none, "q", [], []⟩ .nil .nil) .nil) .nil
  let o := { branchOperation with selections := flat }
  ⟨branches, branches.print "  " false, [⟨o, branchOperation.requestText .default []⟩],
    branches.referencedTypes [o]⟩

theorem generate_branches :
    generate .default branches ⟨[branchOperation], []⟩ = .ok branchGeneration :=
  generate_of_spreads_eq_nil (eq_ok_of_toOption (by decide +kernel)) rfl rfl

theorem conditionsFit_branches : Document.ConditionsFit ⟨[branchOperation], []⟩ branches ∅ where
  operations := by
    intro o ho
    rw [List.mem_singleton.mp ho]
    refine ⟨⟨fun c hc type htype => ?_, ⟨⟨trivial, trivial⟩, trivial⟩, trivial⟩, trivial⟩
    have hunion : (branches.declared? (some "Query") "u").map (·.type.baseName) = some "U" := by
      decide +kernel
    cases hc
    cases hunion.symm.trans htype
    exact .inr (by decide +kernel)
  fragments := nofun

/-- The last field is looked for on `X`, to which `A` leads. -/
theorem unfound_branches : ∃ path site, Unfound ∅ branches branchOperation path site "X" :=
  ⟨[⟨none, "u", [], []⟩, ⟨none, "x", [], []⟩],
    ⟨(branches.declared? (some "B") "x").map (·.type.baseName), ⟨none, "q", [], []⟩, .nil⟩,
    ⟨.inside (.inline (.inside .here)), by decide, by decide +kernel, by decide +kernel⟩⟩

/-- There are no declarations for the bundle, as a field is not found. -/
theorem exists_error_branches :
    branches.Built ∧ generate .default branches ⟨[branchOperation], []⟩ = .ok branchGeneration ∧
      Document.ConditionsFit ⟨[branchOperation], []⟩ branches ∅ ∧
      (∃ path site, Unfound ∅ branches branchOperation path site "X") ∧
        ∃ e, branchGeneration.declarations .default = .error e := by
  have hbuilt : branches.Built := .ofText ofText_branches
  have hnamed : ∀ o ∈ [branchOperation], o.name ≠ none := by decide
  obtain ⟨path, site, hunfound⟩ := unfound_branches
  refine ⟨hbuilt, generate_branches, conditionsFit_branches, ⟨path, site, hunfound⟩, ?_⟩
  exact (declarations_of_conditionsFit hbuilt generate_branches rfl hnamed
    conditionsFit_branches).2 branchOperation List.mem_cons_self path site "X" hunfound

def reason? {α : Type} : Except Error α → Option Invalid
  | .error (.invalid reason) => some reason
  | _ => none

theorem eq_error_of_reason? {α : Type} {step : Except Error α} {reason : Invalid}
    (h : reason? step = some reason) : step = .error (.invalid reason) := by
  unfold reason? at h
  split at h
  · cases h
    rfl
  · cases h

/-- The document is accepted, its operation is named and its condition fits, but a field is unknown
to declarations. -/
theorem unknownField_branches :
    Schema.ofText ("type Query { u: U } union U = A | B type A { x: X } type B { x: Y } " ++
      "type X { p: Int } type Y { q: Int }") = .ok branches ∧
    Document.ofText "query Q { u { ... on B { x { q } } } }" = .ok ⟨[branchOperation], []⟩ ∧
    generate .default branches ⟨[branchOperation], []⟩ = .ok branchGeneration ∧
    branchOperation.name = some "Q" ∧ Document.ConditionsFit ⟨[branchOperation], []⟩ branches ∅ ∧
    branchGeneration.declarations .default = .error (.invalid (.unknownField "q" "X")) :=
  ⟨ofText_branches, eq_ok_of_toOption (by decide +kernel), generate_branches, rfl,
    conditionsFit_branches, eq_error_of_reason? (by decide +kernel)⟩

end QueryBindings

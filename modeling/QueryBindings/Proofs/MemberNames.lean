import QueryBindings.Proofs.ResponseTrees

/-! # Names of members

Items are claimed, but names of members and variants are not: two names of a type, two variables or
two response keys at one path that are spelled alike are declared twice in one item.  So the names
in every item differ exactly if no two are spelled alike, and no error is about them.

Main statements: `spelledApart_iff` (the records of an answer) and `memberNames_nodup_iff` (a whole
bundle). -/

namespace QueryBindings

/-- The names of the members of a record, or of the variants of an enumeration. -/
def Declaration.memberNames : Declaration → List String
  | record _ _ members => members.map (·.name)
  | enumeration _ _ variants => variants.map (·.name)
  | _ => []

/-! ### Types -/

/-- The names inside a type as they are spelled where it is declared. -/
def Definition.spelledNames (d : Definition) : List String :=
  match d.kind with
  | .enum => d.values.map fun v => variantName v.name
  | .inputObject => d.fields.map fun f => memberName f.name
  | .object => (d.fields.filter fun f => !isMetaName f.name).map fun f => memberName f.name
  | .scalar | .interface | .union => []

theorem memberNames_declaration (schema : Schema) (options : Options) (d : Definition) :
    (d.declaration schema options).memberNames = d.spelledNames := by
  unfold Definition.declaration Definition.spelledNames
  cases d.kind <;> simp [Declaration.memberNames, EnumValue.variant, FieldDefinition.member]

/-! ### Response keys -/

/-- Fields at one path of response keys have the same key if their keys are spelled alike. -/
def SelectionSet.SpelledApart (set : SelectionSet) : Prop :=
  ∀ path path' f g inner inner', set.Holds path f inner → set.Holds path' g inner' →
    path.map Field.responseKey = path'.map Field.responseKey →
    memberName f.responseKey = memberName g.responseKey → f.responseKey = g.responseKey

theorem SelectionSet.opens_of_holds {set : SelectionSet} {path : List Field} {f : Field}
    {inner : SelectionSet} (h : set.Holds path f inner) :
    path = [] ∨ set.Opens (path.map Field.responseKey) := by
  induction path generalizing set with
  | nil => exact .inl rfl
  | cons e path ih =>
      obtain ⟨below, hmem, hbelow⟩ := h
      right
      rcases ih hbelow with rfl | ⟨above, g, inside, hholds, hinside, hkeys⟩
      · refine ⟨[], e, below, hmem, fun hnil => ?_, rfl⟩
        rw [hnil] at hbelow
        exact not_holds_nil [] f inner hbelow
      · refine ⟨e :: above, g, inside, ⟨below, hmem, hholds⟩, hinside, ?_⟩
        rw [List.map_cons, ← hkeys]
        rfl

theorem SelectionSet.mem_responseKeys_underAll {set : SelectionSet} {keys : List String}
    {key : String} : key ∈ (set.underAll keys).responseKeys ↔ ∃ path f inner,
      set.Holds path f inner ∧ path.map Field.responseKey = keys ∧ f.responseKey = key := by
  rw [mem_responseKeys]
  constructor
  · rintro ⟨f, inner, hmem, hkey⟩
    obtain ⟨path, hpath, hholds⟩ :=
      holds_underAll_iff.mp (show (set.underAll keys).Holds [] f inner from hmem)
    rw [List.append_nil] at hholds
    exact ⟨path, f, inner, hholds, hpath, hkey⟩
  · rintro ⟨path, f, inner, hholds, hpath, hkey⟩
    rw [← List.append_nil path] at hholds
    exact ⟨f, inner, holds_underAll_iff.mpr ⟨path, hpath, hholds⟩, hkey⟩

theorem RecordAt.memberNames {name : String} {set : SelectionSet} {keys : List String}
    {r : Declaration} (h : RecordAt name set keys r) :
    r.memberNames = (set.underAll keys).responseKeys.map memberName := by
  obtain ⟨members, rfl, hwire, hnames, -⟩ := h
  rw [← hwire, List.map_map]
  exact List.map_congr_left hnames

/-- The names in every record of a `TreeOf` differ exactly if no two keys at one path are spelled
alike. -/
theorem spelledApart_iff {name : String} {set : SelectionSet} {paths : List (List String)}
    {records : List Declaration} (h : TreeOf name set paths records) :
    (∀ r ∈ records, r.memberNames.Nodup) ↔ set.SpelledApart := by
  constructor
  · intro hnodup path path' f g inner inner' hf hg hkeys hspelled
    have hpath : path.map Field.responseKey ∈ paths := by
      rw [h.mem_iff]
      refine (SelectionSet.opens_of_holds hf).imp_left ?_
      rintro rfl
      rfl
    obtain ⟨r, hr, hrecord⟩ := exists_of_forall₂ h.records hpath
    have hdistinct := hnodup r hr
    rw [hrecord.memberNames] at hdistinct
    exact List.inj_on_of_nodup_map hdistinct
      (SelectionSet.mem_responseKeys_underAll.mpr ⟨path, f, inner, hf, rfl, rfl⟩)
      (SelectionSet.mem_responseKeys_underAll.mpr ⟨path', g, inner', hg, hkeys.symm, rfl⟩) hspelled
  · intro happart r hr
    obtain ⟨keys, -, hrecord⟩ : ∃ keys ∈ paths, RecordAt name set keys r :=
      exists_of_forall₂ h.records.flip hr
    rw [hrecord.memberNames]
    refine List.Nodup.map_on (fun a ha b hb hspelled => ?_) (nodup_eraseDups _)
    obtain ⟨path, f, inner, hf, hpath, rfl⟩ := SelectionSet.mem_responseKeys_underAll.mp ha
    obtain ⟨path', g, inner', hg, hpath', rfl⟩ := SelectionSet.mem_responseKeys_underAll.mp hb
    exact happart path path' f g inner inner' hf hg (hpath.trans hpath'.symm) hspelled

/-! ### Bundles -/

/-- The variables of an operation are spelled apart, and so are the keys of its answer. -/
structure RenderedOperation.SpelledApart (r : RenderedOperation) : Prop where
  parameters : (r.operation.parameters.map fun v => memberName v.name).Nodup
  selections : r.operation.selections.pruned.SpelledApart

/-- No two names that come into one item of a bundle are spelled alike. -/
structure Generation.SpelledApart (g : Generation) (options : Options) : Prop where
  types : ∀ d ∈ g.schema.declaredTypes options g.referenced.keys, d.spelledNames.Nodup
  operations : ∀ r ∈ g.operations, r.SpelledApart

theorem OperationItems.spelledApart_iff {schema : Schema} {options : Options}
    {r : RenderedOperation} {declarations : List Declaration}
    (h : OperationItems schema options r declarations)
    (hflat : r.operation.selections.isFlat = true) :
    (∀ d ∈ declarations, d.memberNames.Nodup) ↔ r.SpelledApart := by
  cases h with
  | intro _ _ _ hrecords =>
      obtain ⟨paths, htree⟩ := exists_treeOf_pruned hflat hrecords
      have hkeys := QueryBindings.spelledApart_iff htree
      rw [List.forall_mem_append, List.forall_mem_cons, List.forall_mem_singleton, hkeys]
      simp only [Declaration.memberNames, List.map_map]
      exact ⟨fun ⟨⟨hparameters, hset⟩, _⟩ => ⟨hparameters, hset⟩,
        fun ⟨hparameters, hset⟩ => ⟨⟨hparameters, hset⟩, List.nodup_nil⟩⟩

variable {options emitting : Options} {schema : Schema} {d : Document} {g : Generation}

theorem exists_rootName_of_generate (h : generate options schema d = .ok g) {r : RenderedOperation}
    (hr : r ∈ g.operations) : ∃ root, g.schema.rootName? r.operation.kind = some root := by
  obtain ⟨table, o, hvalid, htable, ho, hrendered⟩ := exists_operation_of_generate h hr
  obtain ⟨rfl, -⟩ := rendered_of_generate h htable
  have hkind : r.operation.kind = o.kind := by rw [hrendered.same]
  rw [hkind]
  exact exists_rootName_of_validate hvalid htable ho

theorem forall_mem_flatten_iff {α β : Type} {R : α → List β → Prop} {P : β → Prop} {Q : α → Prop}
    {as : List α} {parts : List (List β)} (h : List.Forall₂ R as parts)
    (hiff : ∀ a ∈ as, ∀ part, R a part → ((∀ b ∈ part, P b) ↔ Q a)) :
    (∀ b ∈ parts.flatten, P b) ↔ ∀ a ∈ as, Q a := by
  induction h with
  | nil => exact iff_of_true (List.forall_mem_nil _) (List.forall_mem_nil _)
  | @cons a part as parts hfirst _ ih =>
      rw [List.forall_mem_cons] at hiff
      rw [List.flatten_cons, List.forall_mem_append, List.forall_mem_cons,
        hiff.1 part hfirst, ih hiff.2]

/-- The names in every item differ exactly if no two that come into one item are spelled alike. -/
theorem memberNames_nodup_iff_spelledApart (h : generate options schema d = .ok g)
    {declarations : List Declaration} (hdeclarations : g.declarations emitting = .ok declarations) :
    (∀ item ∈ declarations, item.memberNames.Nodup) ↔ g.SpelledApart emitting := by
  obtain ⟨parts, hparts, rfl, -⟩ := declarations_eq_ok hdeclarations
  have htypes : (∀ item ∈ g.typeDeclarations emitting, item.memberNames.Nodup) ↔
      ∀ d ∈ g.schema.declaredTypes emitting g.referenced.keys, d.spelledNames.Nodup := by
    unfold Generation.typeDeclarations
    simp only [List.forall_mem_map, memberNames_declaration]
  have hoperations : (∀ item ∈ parts.flatten, item.memberNames.Nodup) ↔
      ∀ r ∈ g.operations, r.SpelledApart :=
    forall_mem_flatten_iff hparts fun r hr part hitems =>
      hitems.spelledApart_iff (isFlat_of_generate h hr)
  rw [List.forall_mem_append, htypes, hoperations]
  exact ⟨fun hall => ⟨hall.1, hall.2⟩, fun hall => ⟨hall.types, hall.operations⟩⟩

/-- The errors of `Generation.declarations`.  None of them is about names of members. -/
theorem reason_of_declarations (h : generate options schema d = .ok g) {e : Error}
    (he : g.declarations emitting = .error e) :
    (∃ kind, e = .invalid (.anonymous kind)) ∨
      (∃ owner previous item, e = .invalid (.sameItem owner previous item)) ∨
      (∃ key, e = .invalid (.conflictingFields key)) ∨
      ∃ field type, e = .invalid (.unknownField field type) := by
  rcases declarations_eq_error he with ⟨owner, previous, item, rfl⟩ | ⟨r, hr, names, hfails⟩
  · exact .inr (.inl ⟨owner, previous, item, rfl⟩)
  cases operationFails_of_declarations (isFlat_of_generate h hr) hfails with
  | anonymous => exact .inl ⟨_, rfl⟩
  | noRoot hroot =>
      obtain ⟨root, hsome⟩ := exists_rootName_of_generate h hr
      rw [hsome] at hroot
      cases hroot
  | records _ hinside =>
      cases hinside with
      | item previous item => exact .inr (.inl ⟨_, previous, item, rfl⟩)
      | fields => exact .inr (.inr (.inl ⟨_, rfl⟩))
      | field => exact .inr (.inr (.inr ⟨_, _, rfl⟩))

/-- The names in every item of a bundle differ exactly if it is `SpelledApart`.  If it is not,
nothing fails for it: declarations fail for an operation without a name, for items of one name, for
fields that conflict, or for a field that is not found. -/
theorem memberNames_nodup_iff (h : generate options schema d = .ok g) :
    (∀ declarations, g.declarations emitting = .ok declarations →
      ((∀ item ∈ declarations, item.memberNames.Nodup) ↔ g.SpelledApart emitting)) ∧
    ∀ e, g.declarations emitting = .error e →
      (∃ kind, e = .invalid (.anonymous kind)) ∨
      (∃ owner previous item, e = .invalid (.sameItem owner previous item)) ∨
      (∃ key, e = .invalid (.conflictingFields key)) ∨
      ∃ field type, e = .invalid (.unknownField field type) :=
  ⟨fun _ hdeclarations => memberNames_nodup_iff_spelledApart h hdeclarations,
    fun _ he => reason_of_declarations h he⟩

/-! ### Two fields of one root -/

def twoTexts (first second : String) : Schema :=
  let field (name : String) : FieldDefinition :=
    ⟨name, none, [], none, .named "String" false, []⟩
  { Schema.builtin.addType { Definition.bare .object "Query" with
      fields := [field first, field second] } with
    queryRoot := some "Query"
    possible := .ofList [("Query", ["Query"])] }

def selectTexts (first second : String) : SelectionSet :=
  .field ⟨none, first, [], []⟩ .nil (.field ⟨none, second, [], []⟩ .nil .nil)

theorem exists_memberNames {schema : Schema} {name : String} {set : SelectionSet}
    {names : List (List String)}
    (h : ((bundleOf schema name set).declarations .default).toOption.map
      (·.map Declaration.memberNames) = some names) :
    ∃ declarations, (bundleOf schema name set).declarations .default = .ok declarations ∧
      ((∀ item ∈ declarations, item.memberNames.Nodup) ↔ ∀ ns ∈ names, ns.Nodup) := by
  obtain ⟨declarations, hdeclarations, rfl⟩ := Option.map_eq_some_iff.mp h
  exact ⟨declarations, eq_ok_of_toOption hdeclarations, List.forall_mem_map.symm⟩

/-- `userName` and `name` have members of their own. -/
theorem memberNames_nodup_iff_selectTexts :
    generate .default (twoTexts "userName" "name")
        ⟨[queryOf "Q" (selectTexts "userName" "name")], []⟩ =
      .ok (bundleOf (twoTexts "userName" "name") "Q" (selectTexts "userName" "name")) ∧
    ∃ declarations,
      (bundleOf (twoTexts "userName" "name") "Q" (selectTexts "userName" "name")).declarations
        .default = .ok declarations ∧
      (∀ item ∈ declarations, item.memberNames.Nodup) ∧
      (bundleOf (twoTexts "userName" "name") "Q"
        (selectTexts "userName" "name")).SpelledApart .default := by
  have hgenerate : generate .default (twoTexts "userName" "name")
        ⟨[queryOf "Q" (selectTexts "userName" "name")], []⟩ =
      .ok (bundleOf (twoTexts "userName" "name") "Q" (selectTexts "userName" "name")) :=
    generate_queryOf (by decide +kernel) rfl rfl
  have hnames : ((bundleOf (twoTexts "userName" "name") "Q"
      (selectTexts "userName" "name")).declarations .default).toOption.map
        (·.map Declaration.memberNames) = some [[], ["user_name", "name"], []] := by
    decide +kernel
  obtain ⟨declarations, hdeclarations, hiff⟩ := exists_memberNames hnames
  have hnodup := hiff.mpr (by decide)
  exact ⟨hgenerate, declarations, hdeclarations, hnodup,
    ((memberNames_nodup_iff hgenerate).1 declarations hdeclarations).mp hnodup⟩

/-- `userName` and `user_name` are declared as two members of one name. -/
theorem not_nodup_selectTexts :
    Schema.ofText "type Query { userName: String user_name: String }" =
      .ok (twoTexts "userName" "user_name") ∧
    Document.ofText "query Q { userName user_name }" =
      .ok ⟨[queryOf "Q" (selectTexts "userName" "user_name")], []⟩ ∧
    generate .default (twoTexts "userName" "user_name")
        ⟨[queryOf "Q" (selectTexts "userName" "user_name")], []⟩ =
      .ok (bundleOf (twoTexts "userName" "user_name") "Q"
        (selectTexts "userName" "user_name")) ∧
    ∃ declarations,
      (bundleOf (twoTexts "userName" "user_name") "Q"
        (selectTexts "userName" "user_name")).declarations .default = .ok declarations ∧
      ¬ ∀ item ∈ declarations, item.memberNames.Nodup := by
  have hnames : ((bundleOf (twoTexts "userName" "user_name") "Q"
      (selectTexts "userName" "user_name")).declarations .default).toOption.map
        (·.map Declaration.memberNames) = some [[], ["user_name", "user_name"], []] := by
    decide +kernel
  obtain ⟨declarations, hdeclarations, hiff⟩ := exists_memberNames hnames
  exact ⟨eq_ok_of_toOption (by decide +kernel), eq_ok_of_toOption (by decide +kernel),
    generate_queryOf (by decide +kernel) rfl rfl, declarations, hdeclarations,
    hiff.not.mpr (by decide)⟩

end QueryBindings

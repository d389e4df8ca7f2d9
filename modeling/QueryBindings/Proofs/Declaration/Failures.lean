import QueryBindings.Proofs.Declaration.Paths

/-! # Where declarations fail

What can go wrong while the declarations of an operation are made: an item name is taken, two
different fields stand under one response key, or a field is not found on the type to which its
response path leads.

Main statements: `fails_of_responseRecords` (the records of one set) and `fails_of_declarations` (an
operation). -/

namespace QueryBindings

/-! ### Merging -/

/-- One response key, but not the same field with the same arguments. -/
def Field.Conflicts (f g : Field) : Prop :=
  f.responseKey = g.responseKey ∧ ¬ (f.name = g.name ∧ f.arguments = g.arguments)

/-- `mergeField` fails only for a field that `Conflicts` with one that is there. -/
theorem mergeField_eq_error {f : Field} {inner : SelectionSet} {before : List Selected} {e : Error}
    (h : mergeField f inner before = .error e) :
    e = .invalid (.conflictingFields f.responseKey) ∧ ∃ s ∈ before, s.field.Conflicts f := by
  induction before with
  | nil => cases h
  | cons s rest ih =>
      unfold mergeField at h
      split at h
      · rename_i hkey
        split at h
        · cases h
        · rename_i hdiffer
          cases h
          exact ⟨rfl, s, List.mem_cons_self, hkey, hdiffer⟩
      · split at h
        · rename_i hrest
          cases h
          obtain ⟨he, t, ht, hconflict⟩ := ih hrest
          exact ⟨he, t, List.mem_cons_of_mem s ht, hconflict⟩
        · cases h

/-- `mergeFields` fails for a set without fragments if one of its fields `Conflicts` with another,
or with one that was there before. -/
theorem mergeFields_eq_error {set : SelectionSet} (hflat : set.isFlat = true)
    {before : List Selected} {e : Error} (h : mergeFields before set = .error e) :
    ∃ f g below, f.Conflicts g ∧ e = .invalid (.conflictingFields g.responseKey) ∧
      (g, below) ∈ set.fields ∧
        ((∃ t ∈ before, t.field = f) ∨ ∃ inner, (f, inner) ∈ set.fields) := by
  induction set generalizing before with
  | nil => cases h
  | field g below rest _ ih =>
      unfold SelectionSet.isFlat at hflat
      rw [Bool.and_eq_true] at hflat
      unfold mergeFields at h
      split at h
      · rename_i hfirst
        cases h
        obtain ⟨he, t, ht, hconflict⟩ := mergeField_eq_error hfirst
        exact ⟨t.field, g, below, hconflict, he, List.mem_cons_self, .inl ⟨t, ht, rfl⟩⟩
      · rename_i mid hmid
        obtain ⟨f, k, inner, hconflict, he, hk, hf⟩ := ih hflat.2 h
        refine ⟨f, k, inner, hconflict, he, List.mem_cons_of_mem _ hk, ?_⟩
        rcases hf with ⟨t, ht, rfl⟩ | ⟨inside, hf⟩
        · rcases field_of_mergeField hmid t ht with hnew | hold
          · exact .inr ⟨below, by rw [hnew]; exact List.mem_cons_self⟩
          · exact .inl hold
        · exact .inr ⟨inside, List.mem_cons_of_mem _ hf⟩
  | spread s rest _ => cases hflat
  | inline i inner rest _ _ => cases hflat

/-! ### Records -/

theorem claim_eq_error {names : ItemNames} {item owner : String} {e : Error}
    (h : names.claim item owner = .error e) :
    ∃ previous, e = .invalid (.sameItem owner previous item) := by
  unfold ItemNames.claim at h
  split at h
  · cases h
    exact ⟨_, rfl⟩
  · cases h

/-- What goes wrong with the records for `set`, which is selected on the type `parent`. -/
inductive Fails (c : RecordContext) (parent : String) (set : SelectionSet) : Error → Prop where
  | item (previous item : String) : Fails c parent set (.invalid (.sameItem c.owner previous item))
  | fields {path path' : List Field} {f g : Field} {inner inner' : SelectionSet}
      (hf : set.Holds path f inner) (hg : set.Holds path' g inner')
      (hkeys : path.map Field.responseKey = path'.map Field.responseKey)
      (hconflict : f.Conflicts g) :
      Fails c parent set (.invalid (.conflictingFields g.responseKey))
  | field {path : List Field} {f : Field} {inner : SelectionSet} {last : String}
      (hholds : set.Holds path f inner) (hname : f.name ≠ "__typename")
      (hlast : c.schema.responseParent? parent path = some last)
      (hmissing : c.schema.findField? last f.name = none) :
      Fails c parent set (.invalid (.unknownField f.name last))

theorem Fails.of_under {c : RecordContext} {parent key name : String} {set : SelectionSet}
    {d : FieldDefinition} {e : Error} (h : Fails c d.type.baseName (set.under key) e)
    (hsame : ∀ f below, (f, below) ∈ set.fields → f.responseKey = key → f.name = name)
    (hname : name ≠ "__typename") (hfind : c.schema.findField? parent name = some d) :
    Fails c parent set e := by
  cases h with
  | item previous item => exact .item previous item
  | fields hf hg hkeys hconflict =>
      obtain ⟨a, ha, hf⟩ := SelectionSet.holds_under_iff.mp hf
      obtain ⟨b, hb, hg⟩ := SelectionSet.holds_under_iff.mp hg
      refine .fields hf hg ?_ hconflict
      rw [List.map_cons, List.map_cons, ha, hb, hkeys]
  | field hholds hne hlast hmissing =>
      obtain ⟨a, ha, hholds⟩ := SelectionSet.holds_under_iff.mp hholds
      obtain ⟨below, hmem, -⟩ := id hholds
      refine .field hholds hne ?_ hmissing
      unfold Schema.responseParent?
      rw [hsame a below hmem ha, if_neg hname, hfind]
      exact hlast

/-- What goes wrong with a member: its field is not found, or the records for what it selects fail.
-/
inductive MemberFails (c : RecordContext) (parent : String) (s : Selected) (e : Error) : Prop where
  | missing (hname : s.field.name ≠ "__typename")
      (hmissing : c.schema.findField? parent s.field.name = none)
      (he : e = .invalid (.unknownField s.field.name parent))
  | nested {d : FieldDefinition} {inside : String} {before : ItemNames}
      (hname : s.field.name ≠ "__typename")
      (hfind : c.schema.findField? parent s.field.name = some d)
      (hrecords : responseRecords c inside d.type.baseName s.inner before = .error e)

theorem responseMembers_eq_error {c : RecordContext} {name parent : String} {fields : List Selected}
    {names : ItemNames} {e : Error} (h : responseMembers c name parent fields names = .error e) :
    ∃ s ∈ fields, MemberFails c parent s e := by
  induction fields generalizing names with
  | nil =>
      unfold responseMembers at h
      cases h
  | cons s rest ih =>
      have hlater : ∀ {names e'}, responseMembers c name parent rest names = .error e' →
          (.error e' : Except Error (List Member × List Declaration × ItemNames)) = .error e →
            ∃ t ∈ s :: rest, MemberFails c parent t e := by
        intro names e' hrest he
        cases he
        obtain ⟨t, ht, hfails⟩ := ih hrest
        exact ⟨t, List.mem_cons_of_mem s ht, hfails⟩
      unfold responseMembers at h
      dsimp only at h
      split at h
      · split at h
        · exact hlater ‹_› h
        · cases h
      · rename_i hname
        split at h
        · rename_i hmissing
          cases h
          exact ⟨s, List.mem_cons_self, .missing hname hmissing rfl⟩
        · rename_i d hfind
          split at h
          · split at h
            · exact hlater ‹_› h
            · cases h
          · split at h
            · rename_i hhere
              cases h
              exact ⟨s, List.mem_cons_self, .nested hname hfind hhere⟩
            · split at h
              · exact hlater ‹_› h
              · cases h

/-- `responseRecords` fails at the name of a set, at its fields, or at their members. -/
theorem responseRecords_eq_error {c : RecordContext} {name parent : String} {set : SelectionSet}
    {names : ItemNames} {e : Error} (h : responseRecords c name parent set names = .error e) :
    names.claim name c.owner = .error e ∨ mergeFields [] set = .error e ∨
      ∃ fields start, mergeFields [] set = .ok fields ∧
        responseMembers c name parent fields start = .error e := by
  rw [responseRecords_eq] at h
  rcases bind_eq_error.mp h with h | ⟨start, -, h⟩
  · exact .inl h
  · rcases bind_eq_error.mp h with h | ⟨fields, hfields, h⟩
    · exact .inr (.inl h)
    · rcases bind_eq_error.mp h with h | ⟨_, -, h⟩
      · exact .inr (.inr ⟨fields, start, hfields, h⟩)
      · cases h

/-- Errors of `responseRecords` for a set without fragments.  The induction is on the size of the
set, as for the records that are made. -/
theorem fails_of_responseRecords {c : RecordContext} {name parent : String} {set : SelectionSet}
    {names : ItemNames} {e : Error} (hflat : set.isFlat = true)
    (h : responseRecords c name parent set names = .error e) : Fails c parent set e := by
  induction hsize : set.size using Nat.strongRecOn generalizing name parent set names with
  | _ n ih =>
      rcases responseRecords_eq_error h with h | h | ⟨fields, start, hfields, h⟩
      · obtain ⟨previous, rfl⟩ := claim_eq_error h
        exact .item previous name
      · obtain ⟨f, g, below, hconflict, rfl, hg, ⟨t, ht, -⟩ | ⟨inner, hf⟩⟩ :=
          mergeFields_eq_error hflat h
        · cases ht
        · exact .fields (show set.Holds [] f inner from hf) (show set.Holds [] g below from hg) rfl
            hconflict
      · have hmerged := merged_of_mergeFields hfields
        obtain ⟨s, hs, hfails⟩ := responseMembers_eq_error h
        cases hfails with
        | missing hname hmissing he =>
            subst he
            obtain ⟨t, ht, -⟩ | ⟨below, hmem⟩ := field_of_mergeFields hfields s hs
            · cases ht
            · exact .field (show set.Holds [] s.field below from hmem) hname rfl hmissing
        | nested hname hfind hrecords =>
            have hlt := size_lt_of_mergeFields hfields hs
            rw [hmerged.inner_eq hs] at hrecords hlt
            have hinside := ih _ (hsize ▸ hlt) (SelectionSet.isFlat_under s.key hflat) hrecords rfl
            exact hinside.of_under (fun f below hf hkey => hmerged.name_eq hs hf hkey) hname hfind

/-! ### Operations -/

theorem fails_of_declarations {schema : Schema} {options : Options} {names : ItemNames}
    {r : RenderedOperation} {root : String} {e : Error} (hname : r.operation.name ≠ none)
    (hroot : schema.rootName? r.operation.kind = some root)
    (hflat : r.operation.selections.isFlat = true)
    (h : r.declarations schema options names = .error e) :
    ∃ owner, Fails ⟨schema, options, owner⟩ root r.operation.selections e := by
  obtain ⟨name, hname⟩ := Option.ne_none_iff_exists'.mp hname
  unfold RenderedOperation.declarations at h
  dsimp only at h
  rw [hname, hroot] at h
  dsimp only at h
  refine ⟨r.operation.kind.keyword ++ " " ++ name, ?_⟩
  rcases bind_eq_error.mp h with h | ⟨first, -, h⟩
  · obtain ⟨previous, rfl⟩ := claim_eq_error h
    exact .item previous _
  · rcases bind_eq_error.mp h with h | ⟨second, -, h⟩
    · obtain ⟨previous, rfl⟩ := claim_eq_error h
      exact .item previous _
    · rcases bind_eq_error.mp h with h | ⟨records, -, h⟩
      · exact fails_of_responseRecords hflat h
      · cases h

/-- What goes wrong with the declarations of an operation: it has no name, the schema has no root
for it, or its names or records fail. -/
inductive OperationFails (schema : Schema) (options : Options) (o : Operation) : Error → Prop where
  | anonymous (hname : o.name = none) :
      OperationFails schema options o (.invalid (.anonymous o.kind))
  | noRoot (hroot : schema.rootName? o.kind = none) :
      OperationFails schema options o (.invalid (.noRoot o.kind))
  | records {root owner : String} {e : Error} (hroot : schema.rootName? o.kind = some root)
      (hfails : Fails ⟨schema, options, owner⟩ root o.selections e) :
      OperationFails schema options o e

theorem operationFails_of_declarations {schema : Schema} {options : Options} {names : ItemNames}
    {r : RenderedOperation} {e : Error} (hflat : r.operation.selections.isFlat = true)
    (h : r.declarations schema options names = .error e) :
    OperationFails schema options r.operation e := by
  cases hname : r.operation.name with
  | none =>
      unfold RenderedOperation.declarations at h
      dsimp only at h
      rw [hname] at h
      cases h
      exact .anonymous hname
  | some name =>
      cases hroot : schema.rootName? r.operation.kind with
      | none =>
          unfold RenderedOperation.declarations at h
          dsimp only at h
          rw [hname, hroot] at h
          cases h
          exact .noRoot hroot
      | some root =>
          have hsome : r.operation.name ≠ none := by rw [hname]; exact nofun
          obtain ⟨owner, hfails⟩ := fails_of_declarations hsome hroot hflat h
          exact .records hroot hfails

theorem operationDeclarations_eq_error {schema : Schema} {options : Options} {names : ItemNames}
    {rs : List RenderedOperation} {e : Error}
    (h : operationDeclarations schema options names rs = .error e) :
    ∃ r ∈ rs, ∃ before, r.declarations schema options before = .error e := by
  induction rs generalizing names with
  | nil => cases h
  | cons r rest ih =>
      unfold operationDeclarations at h
      rcases bind_eq_error.mp h with h | ⟨⟨part, mid⟩, -, h⟩
      · exact ⟨r, List.mem_cons_self, names, h⟩
      · rcases bind_eq_error.mp h with h | ⟨others, -, h⟩
        · obtain ⟨s, hs, hlater⟩ := ih h
          exact ⟨s, List.mem_cons_of_mem r hs, hlater⟩
        · cases h

/-- `Generation.declarations` fails at the name of a type, or at an operation by `OperationFails`.
-/
theorem declarations_eq_error {g : Generation} {options : Options} {e : Error}
    (h : g.declarations options = .error e) :
    (∃ owner previous item, e = .invalid (.sameItem owner previous item)) ∨
      ∃ r ∈ g.operations, ∃ names, r.declarations g.schema options names = .error e := by
  unfold Generation.declarations at h
  dsimp only at h
  rcases bind_eq_error.mp h with h | ⟨names, -, h⟩
  · obtain ⟨before, d, -, hclaim⟩ := foldlM_eq_error h
    obtain ⟨previous, rfl⟩ := claim_eq_error hclaim
    exact .inl ⟨_, previous, _, rfl⟩
  · rcases bind_eq_error.mp h with h | ⟨operations, -, h⟩
    · exact .inr (operationDeclarations_eq_error h)
    · cases h

end QueryBindings

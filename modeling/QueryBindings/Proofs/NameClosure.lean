import QueryBindings.Proofs.Declaration.Bundles
import QueryBindings.Proofs.Declaration.Failures
import QueryBindings.Proofs.FieldLookup
import QueryBindings.Proofs.ResponseTrees
import QueryBindings.Proofs.TypesInUse

/-! # Names that members refer to

Members refer to items by name.  Which types are declared is found by one walk over the schema, and
what members refer to by others: over the fields of input objects and objects, over variables, and
over the fields at which answers end.  The walks agree on which types come up, but items are made
for some of them only: root types never get one, output types only if every type is wanted, and
reserved types not unless they are scalars (`Undeclared`).

Main statements: `answerLeaf_of_responseRecords` (the members of answers), `contains_referenced`
(all types that come up are in use) and `closed_iff` (all that members refer to is declared exactly
if no type without an item comes up). -/

namespace QueryBindings

/-! ### Types without items -/

/-- A type that has no item, though it is no builtin scalar. -/
inductive Definition.Undeclared (schema : Schema) (options : Options) (d : Definition) : Prop where
  | reserved (hbuiltin : d.builtin = true) (hkind : d.kind ≠ .scalar)
  | output (hkind : d.kind.isComposite = true) (hfull : options.full = false)
  | root (hkind : d.kind = .object) (hroot : schema.isRoot d.name = true)

namespace Schema

variable {schema : Schema} {options : Options} {d : Definition} {n : String}

theorem mem_declaredTypes_iff {names : List String} :
    d ∈ schema.declaredTypes options names ↔ (∃ n ∈ names, schema.type? n = some d) ∧
      (d.kind = .scalar ∨ d.kind = .enum ∨ d.kind = .inputObject ∨
        (options.full = true ∧ d.isOutputOnly schema = true)) := by
  unfold declaredTypes
  rw [← List.mem_filterMap]
  cases options.full <;> simp [and_or_left]

theorem scalar_or_declared_or_undeclared (options : Options) (htype : schema.type? n = some d) :
    (d.kind = .scalar ∧ d.builtin = true) ∨
      (d.builtin = false ∧ ∀ names, n ∈ names → d ∈ schema.declaredTypes options names) ∨
      d.Undeclared schema options := by
  cases hbuiltin : d.builtin with
  | true =>
      by_cases hkind : d.kind = .scalar
      · exact .inl ⟨hkind, rfl⟩
      · exact .inr (.inr (.reserved hbuiltin hkind))
  | false =>
      have hdeclared : (d.kind = .scalar ∨ d.kind = .enum ∨ d.kind = .inputObject ∨
          (options.full = true ∧ d.isOutputOnly schema = true)) →
          ∀ names, n ∈ names → d ∈ schema.declaredTypes options names :=
        fun hkind names hn => mem_declaredTypes_iff.mpr ⟨⟨n, hn, htype⟩, hkind⟩
      refine .inr ?_
      cases hfull : options.full with
      | false =>
          cases hkind : d.kind with
          | scalar => exact .inl ⟨rfl, hdeclared (by simp [hkind])⟩
          | enum => exact .inl ⟨rfl, hdeclared (by simp [hkind])⟩
          | inputObject => exact .inl ⟨rfl, hdeclared (by simp [hkind])⟩
          | object => exact .inr (.output (by simp [hkind, TypeKind.isComposite]) hfull)
          | interface => exact .inr (.output (by simp [hkind, TypeKind.isComposite]) hfull)
          | union => exact .inr (.output (by simp [hkind, TypeKind.isComposite]) hfull)
      | true =>
          by_cases hroot : d.kind = .object ∧ schema.isRoot d.name = true
          · exact .inr (.root hroot.1 hroot.2)
          · refine .inl ⟨rfl, hdeclared ?_⟩
            cases hkind : d.kind <;> simp [hkind, hfull, Definition.isOutputOnly] at hroot ⊢
            exact hroot

theorem targetName_of_builtin (htype : schema.type? n = some d) (hkind : d.kind = .scalar)
    (hbuiltin : d.builtin = true) : schema.targetName options n = options.scalars.target n := by
  unfold targetName
  rw [htype]
  simp [hkind, hbuiltin]

/-- What is written for a type that is no builtin scalar is the name of its item. -/
theorem targetName_of_item (options : Options) (hkeyed : schema.Keyed) (htype : schema.type? n = some d)
    (hitem : ¬ (d.kind = .scalar ∧ d.builtin = true)) :
    schema.targetName options n = itemName n := by
  unfold targetName
  rw [htype, ← hkeyed n d htype]
  simp [hitem]

end Schema

theorem Definition.Undeclared.no_builtin_scalar {schema : Schema} {options : Options}
    {d : Definition} (h : d.Undeclared schema options) :
    ¬ (d.kind = .scalar ∧ d.builtin = true) := by
  rintro ⟨hscalar, -⟩
  cases h with
  | reserved _ hkind => exact hkind hscalar
  | output hkind => simp [hscalar, TypeKind.isComposite] at hkind
  | root hkind => simp [hscalar] at hkind

/-! ### Members of answers -/

/-- An answer ends at the field `d`: the answer leads there and nothing is selected of it. -/
inductive SelectionSet.EndsAt (schema : Schema) (parent : String) (set : SelectionSet)
    (d : FieldDefinition) : Prop where
  | intro {path : List Field} {f : Field} {inner : SelectionSet} {last : String}
      (hholds : set.Holds path f inner) (hname : f.name ≠ "__typename")
      (hlast : schema.responseParent? parent path = some last)
      (hfind : schema.findField? last f.name = some d)
      (hbare : (set.underAll (path.map Field.responseKey)).under f.responseKey = .nil) :
      EndsAt schema parent set d

/-- What a member of an answer refers to. -/
inductive AnswerLeaf (c : RecordContext) (parent : String) (set : SelectionSet)
    (records : List Declaration) (m : Member) : Prop where
  | typename {path : List Field} {f : Field} {inner : SelectionSet}
      (hholds : set.Holds path f inner) (hname : f.name = "__typename")
      (hwire : m.wireName = f.responseKey) (htype : m.type = .name "String")
  | record {r : Declaration} (hr : r ∈ records) (hleaf : m.type.leaf = r.name)
  | field {d : FieldDefinition} (hends : set.EndsAt c.schema parent d)
      (hleaf : m.type.leaf = c.schema.targetName c.options d.type.baseName)

theorem responseParent?_cons {schema : Schema} {parent name : String} {d : FieldDefinition}
    (hname : name ≠ "__typename") (hfind : schema.findField? parent name = some d) {e : Field}
    (he : e.name = name) (path : List Field) :
    schema.responseParent? parent (e :: path) = schema.responseParent? d.type.baseName path := by
  show (if e.name = "__typename" then none else _) = _
  rw [he, if_neg hname, hfind]
  rfl

section

variable {c : RecordContext} {parent key name : String} {set : SelectionSet} {d : FieldDefinition}
  {m : Member} {here records : List Declaration}

theorem AnswerLeaf.of_under (h : AnswerLeaf c d.type.baseName (set.under key) here m)
    (hsame : ∀ f below, (f, below) ∈ set.fields → f.responseKey = key → f.name = name)
    (hname : name ≠ "__typename") (hfind : c.schema.findField? parent name = some d)
    (hsub : ∀ r ∈ here, r ∈ records) : AnswerLeaf c parent set records m := by
  cases h with
  | typename hholds htypename hwire htype =>
      obtain ⟨e, -, hholds⟩ := SelectionSet.holds_under_iff.mp hholds
      exact .typename hholds htypename hwire htype
  | record hr hleaf => exact .record (hsub _ hr) hleaf
  | field hends hleaf =>
      obtain ⟨hholds, hne, hlast, hfound, hbare⟩ := hends
      obtain ⟨e, hkey, hholds⟩ := SelectionSet.holds_under_iff.mp hholds
      obtain ⟨below, hmem, -⟩ := id hholds
      have hstep := responseParent?_cons hname hfind (hsame e below hmem hkey)
      refine .field (.intro hholds hne ((hstep _).trans hlast) hfound ?_) hleaf
      rw [List.map_cons, hkey]
      exact hbare

theorem answerLeaf_of_memberFor {s : Selected} {fields : List Selected} {before mid : ItemNames}
    (hfields : mergeFields [] set = .ok fields) (hs : s ∈ fields)
    (h : MemberFor c name parent s before m here mid) (hsub : ∀ r ∈ here, r ∈ records) :
    AnswerLeaf c parent set records m := by
  have hmerged := merged_of_mergeFields hfields
  obtain ⟨below, hbelow⟩ : ∃ below, (s.field, below) ∈ set.fields :=
    (field_of_mergeFields hfields s hs).resolve_left (by simp)
  have hholds : set.Holds [] s.field below := hbelow
  cases h with
  | typename hname => exact .typename hholds hname rfl rfl
  | leaf hname hfind hinner =>
      refine .field (.intro hholds hname rfl hfind ?_) (leaf_ofTypeExpr _ _)
      exact (hmerged.inner_eq hs).symm.trans hinner
  | nested _ _ _ hrecords =>
      obtain ⟨_, _, _, _, -, -, -, rfl⟩ := responseRecords_eq_ok hrecords
      exact .record (hsub _ List.mem_cons_self) (leaf_ofTypeExpr _ _)

end

/-- What the members refer to that `responseRecords` makes for a set.  The induction is on the size
of the set, as the set under a key is smaller but need not be a part of it. -/
theorem answerLeaf_of_responseRecords {c : RecordContext} {name parent : String}
    {set : SelectionSet} {names after : ItemNames} {records : List Declaration}
    (h : responseRecords c name parent set names = .ok (records, after))
    {about : Option String} {record : String} {members : List Member}
    (hr : .record about record members ∈ records) {m : Member} (hm : m ∈ members) :
    AnswerLeaf c parent set records m := by
  induction hsize : set.size using Nat.strongRecOn generalizing name parent set names after
    records with
  | _ n ih =>
      obtain ⟨start, fields, own, nested, -, hfields, hmembers, rfl⟩ := responseRecords_eq_ok h
      have hmerged := merged_of_mergeFields hfields
      rcases List.mem_cons.mp hr with heq | hr
      · rw [Declaration.record.injEq] at heq
        obtain ⟨-, -, rfl⟩ := heq
        obtain ⟨s, hs, here, before, mid, hfor, hsub⟩ := exists_field hmembers hm
        exact answerLeaf_of_memberFor hfields hs hfor fun q hq => List.mem_cons_of_mem _ (hsub q hq)
      · obtain ⟨s, hs, other, here, before, mid, hfor, hmem, hsub⟩ :=
          exists_field_of_record hmembers hr
        cases hfor with
        | typename => cases hmem
        | leaf => cases hmem
        | @nested d _ _ hname hfind _ hrecords =>
            have hlt : s.inner.size < n := hsize ▸ size_lt_of_mergeFields hfields hs
            have hinside := ih _ hlt hrecords hmem rfl
            rw [hmerged.inner_eq hs] at hinside
            exact hinside.of_under (fun f below hf hkey => hmerged.name_eq hs hf hkey) hname hfind
              fun q hq => List.mem_cons_of_mem _ (hsub q hq)

theorem exists_member_of_endsAt {c : RecordContext} {name parent : String} {set : SelectionSet}
    {names after : ItemNames} {records : List Declaration}
    (h : responseRecords c name parent set names = .ok (records, after)) {d : FieldDefinition}
    (hends : set.EndsAt c.schema parent d) :
    ∃ about record members m, .record about record members ∈ records ∧ m ∈ members ∧
      m.type.leaf = c.schema.targetName c.options d.type.baseName := by
  obtain ⟨hholds, hname, hlast, hfind, hbare⟩ := hends
  obtain ⟨last, found, leaf, hlast', hfind', hleaf, htype⟩ :=
    typeAt?_of_holds h (fun r hr => hr) (claims_responseRecords h).distinct hholds hname
      (ne_typename_of_responseParent? hlast)
  cases hlast.symm.trans hlast'
  cases hfind.symm.trans hfind'
  obtain ⟨about, record, members, m, hrecord, hm, hbuilt⟩ := exists_record_of_typeAt? htype
  refine ⟨about, record, members, m, hrecord, hm, ?_⟩
  have htarget := (hleaf.resolve_right fun hnested => hnested.1 hbare).2
  rw [hbuilt, leaf_ofTypeExpr, htarget]

/-! ### Types that come up -/

namespace Schema

variable {s : Schema}

theorem selectedTypes_of_mem_fields {scope : String} {set below : SelectionSet} {f : Field}
    {d : FieldDefinition} (hf : (f, below) ∈ set.fields) (hfind : s.findField? scope f.name = some d) :
    d.type.baseName ∈ s.selectedTypes scope set ∧
      s.selectedTypes d.type.baseName below ⊆ s.selectedTypes scope set := by
  induction set with
  | nil => cases hf
  | field g inner rest _ ih =>
      rw [selectedTypes]
      rcases List.mem_cons.mp hf with heq | hf
      · cases heq
        rw [hfind]
        exact ⟨List.mem_append_left _ List.mem_cons_self,
          fun n hn => List.mem_append_left _ (List.mem_cons_of_mem _ hn)⟩
      · obtain ⟨hmem, hsub⟩ := ih hf
        exact ⟨List.mem_append_right _ hmem, fun n hn => List.mem_append_right _ (hsub hn)⟩
  | spread sp rest ih => exact ih hf
  | inline i inner rest _ ih =>
      obtain ⟨hmem, hsub⟩ := ih hf
      exact ⟨List.mem_append_right _ hmem, fun n hn => List.mem_append_right _ (hsub hn)⟩

theorem mem_selectedTypes_of_endsAt {parent : String} {set : SelectionSet} {d : FieldDefinition}
    (h : set.EndsAt s parent d) : d.type.baseName ∈ s.selectedTypes parent set := by
  obtain ⟨hholds, -, hlast, hfind, -⟩ := h
  rename_i path f inner last
  induction path generalizing parent set with
  | nil =>
      cases hlast
      exact (selectedTypes_of_mem_fields hholds hfind).1
  | cons e path ih =>
      obtain ⟨below, hmem, hbelow⟩ := hholds
      unfold responseParent? at hlast
      split at hlast
      · cases hlast
      · obtain ⟨found, hfound, hlast⟩ := Option.bind_eq_some_iff.mp hlast
        exact (selectedTypes_of_mem_fields hmem hfound).2 (ih hbelow hlast)

end Schema

/-- A type comes up in what is declared for a bundle: in an input object, in an object, as that of a
variable, or where an answer ends. -/
inductive Generation.Mentions (g : Generation) (options : Options) : String → Prop where
  | input {d : Definition} {f : FieldDefinition}
      (hd : d ∈ g.schema.declaredTypes options g.referenced.keys) (hkind : d.kind = .inputObject)
      (hf : f ∈ d.fields) : Mentions g options f.type.baseName
  | object {d : Definition} {f : FieldDefinition}
      (hd : d ∈ g.schema.declaredTypes options g.referenced.keys) (hkind : d.kind = .object)
      (hf : f ∈ d.fields) (hplain : isMetaName f.name = false) : Mentions g options f.type.baseName
  | parameter {r : RenderedOperation} {v : VariableDefinition} (hr : r ∈ g.operations)
      (hv : v ∈ r.operation.parameters) : Mentions g options v.type.baseName
  | answer {r : RenderedOperation} {root : String} {d : FieldDefinition} (hr : r ∈ g.operations)
      (hroot : g.schema.rootName? r.operation.kind = some root)
      (hends : r.operation.selections.EndsAt g.schema root d) : Mentions g options d.type.baseName

section

variable {options : Options} {schema : Schema} {document : Document} {g : Generation} {n : String}

/-- All types that come up are defined. -/
theorem exists_type_of_mentions (hbuilt : schema.Built)
    (h : generate options schema document = .ok g) (hn : g.Mentions options n) :
    ∃ d, schema.type? n = some d := by
  obtain ⟨table, hvalid, htable, rfl, -⟩ := generate_eq_ok h
  cases hn with
  | input hd _ hf =>
      obtain ⟨⟨m, -, htype⟩, -⟩ := Schema.mem_declaredTypes_iff.mp hd
      exact hbuilt.exists_type htype hf
  | object hd _ hf =>
      obtain ⟨⟨m, -, htype⟩, -⟩ := Schema.mem_declaredTypes_iff.mp hd
      exact hbuilt.exists_type htype hf
  | @parameter r v hr hv =>
      obtain ⟨table, o, hvalid, htable, ho, hrendered⟩ := exists_operation_of_generate h hr
      obtain ⟨root, -, hvariables, -⟩ :=
        checkOperation_eq_ok.mp (checkOperation_of_validate hvalid htable ho)
      rw [hrendered.same] at hv
      have hknown := hvariables v hv
      unfold checkVariable at hknown
      split at hknown
      · rename_i hcontains
        exact (Table.contains_iff _ _).mp hcontains
      · cases hknown
  | answer _ _ hends =>
      obtain ⟨-, -, -, hfind, -⟩ := hends
      obtain ⟨m, e, htype, hf⟩ := Schema.exists_definition_of_findField? hfind
      exact hbuilt.exists_type htype (List.mem_of_find?_eq_some hf)

/-- All types that come up are among the referenced ones, if they are not builtin. -/
theorem contains_referenced (hbuilt : schema.Built)
    (h : generate options schema document = .ok g) (hn : g.Mentions options n)
    (hown : schema.isOwnType n = true) : g.referenced.contains n = true := by
  obtain ⟨-, hreferenced⟩ := referenced_of_generate h
  obtain ⟨-, -, -, rfl, -⟩ := generate_eq_ok h
  cases hfull : options.full with
  | true =>
      rw [hreferenced, hfull, if_pos rfl, Schema.contains_ownTypes_iff hbuilt.keyed]
      exact hown
  | false =>
      rw [hfull] at hreferenced
      have hall : ∀ m, g.referenced.contains m = true ↔ g.schema.isOwnType m = true ∧
          ∃ o ∈ g.operations.map (·.operation), ∃ k ∈ g.schema.namedTypes o,
            Relation.ReflTransGen g.schema.Pulls k m := by
        intro m
        rw [hreferenced]
        exact Schema.contains_referencedTypes_iff
      have hnamed : ∀ r ∈ g.operations, n ∈ g.schema.namedTypes r.operation →
          g.referenced.contains n = true := fun r hr hmem =>
        (hall n).mpr ⟨hown, r.operation, List.mem_map_of_mem hr, n, hmem, .refl⟩
      cases hn with
      | @input d f hd hkind hf =>
          obtain ⟨⟨m, hm, htype⟩, -⟩ := Schema.mem_declaredTypes_iff.mp hd
          obtain ⟨-, o, ho, k, hk, hlead⟩ :=
            (hall m).mp ((Table.contains_iff_mem_keys _ m).mpr hm)
          have hpulls : g.schema.Pulls m f.type.baseName := by
            unfold Schema.Pulls Schema.pulled
            rw [htype]
            simp only [hkind, if_true]
            exact List.mem_map_of_mem hf
          exact (hall _).mpr ⟨hown, o, ho, k, hk, hlead.tail hpulls⟩
      | object hd hkind =>
          obtain ⟨-, hdeclared⟩ := Schema.mem_declaredTypes_iff.mp hd
          simp [hkind, hfull] at hdeclared
      | parameter hr hv =>
          exact hnamed _ hr (List.mem_append_left _ (List.mem_map_of_mem hv))
      | answer hr hroot hends =>
          refine hnamed _ hr (List.mem_append_right _ ?_)
          rw [hroot]
          exact Schema.mem_selectedTypes_of_endsAt hends

end

/-! ### What is declared -/

section

variable {options : Options} {schema : Schema} {g : Generation} {declarations : List Declaration}

theorem exists_field_of_declaration {d : Definition} {about : Option String} {record : String}
    {members : List Member} (h : d.declaration schema options = .record about record members)
    {m : Member} (hm : m ∈ members) :
    ∃ f ∈ d.fields, m.type.leaf = schema.targetName options f.type.baseName ∧
      (d.kind = .inputObject ∨ (d.kind = .object ∧ isMetaName f.name = false)) := by
  unfold Definition.declaration at h
  cases hkind : d.kind with
  | inputObject =>
      simp only [hkind, Declaration.record.injEq] at h
      obtain ⟨-, -, rfl⟩ := h
      obtain ⟨f, hf, rfl⟩ := List.mem_map.mp hm
      exact ⟨f, hf, leaf_ofTypeExpr_boxed _ _ _, .inl rfl⟩
  | object =>
      simp only [hkind, Declaration.record.injEq] at h
      obtain ⟨-, -, rfl⟩ := h
      obtain ⟨f, hf, rfl⟩ := List.mem_map.mp hm
      obtain ⟨hf, hplain⟩ := List.mem_filter.mp hf
      exact ⟨f, hf, leaf_ofTypeExpr_boxed _ _ _, .inr ⟨rfl, by simpa using hplain⟩⟩
  | scalar | enum | interface | union => simp [hkind] at h

theorem exists_member_of_field {d : Definition} {f : FieldDefinition} (hf : f ∈ d.fields)
    (hkind : d.kind = .inputObject ∨ (d.kind = .object ∧ isMetaName f.name = false)) :
    ∃ about record members m, d.declaration schema options = .record about record members ∧
      m ∈ members ∧ m.type.leaf = schema.targetName options f.type.baseName := by
  unfold Definition.declaration
  rcases hkind with hkind | ⟨hkind, hplain⟩
  · simp only [hkind]
    exact ⟨_, _, _, _, rfl, List.mem_map_of_mem hf, leaf_ofTypeExpr_boxed _ _ _⟩
  · simp only [hkind]
    have hkept : f ∈ d.fields.filter fun f => !isMetaName f.name :=
      List.mem_filter.mpr ⟨hf, by simp [hplain]⟩
    exact ⟨_, _, _, _, rfl, List.mem_map_of_mem hkept, leaf_ofTypeExpr_boxed _ _ _⟩

/-- What a member of a bundle refers to: an item, the text of a `__typename`, or what is written for
a type that comes up. -/
inductive Generation.MemberLeaf (g : Generation) (options : Options)
    (declarations : List Declaration) (m : Member) : Prop where
  | item {item : Declaration} (hitem : item ∈ declarations) (hleaf : m.type.leaf = item.name)
  | typename {r : RenderedOperation} {path : List Field} {f : Field} {inner : SelectionSet}
      (hr : r ∈ g.operations) (hholds : r.operation.selections.Holds path f inner)
      (hname : f.name = "__typename") (hwire : m.wireName = f.responseKey)
      (htype : m.type = .name "String")
  | type {n : String} (hn : g.Mentions options n)
      (hleaf : m.type.leaf = g.schema.targetName options n)

theorem memberLeaf_of_declarations (hdeclarations : g.declarations options = .ok declarations)
    {about : Option String} {record : String} {members : List Member}
    (hrecord : .record about record members ∈ declarations) {m : Member} (hm : m ∈ members) :
    g.MemberLeaf options declarations m := by
  obtain ⟨parts, hparts, rfl, -⟩ := declarations_eq_ok hdeclarations
  rcases List.mem_append.mp hrecord with hrecord | hrecord
  · obtain ⟨d, hd, heq⟩ := List.mem_map.mp hrecord
    obtain ⟨f, hf, hleaf, hkind⟩ := exists_field_of_declaration heq hm
    refine .type ?_ hleaf
    rcases hkind with hkind | ⟨hkind, hplain⟩
    · exact .input hd hkind hf
    · exact .object hd hkind hf hplain
  · obtain ⟨part, hpart, hmem⟩ := List.mem_flatten.mp hrecord
    obtain ⟨r, hr, hitems⟩ := exists_of_forall₂ hparts.flip hpart
    cases hitems with
    | intro hname hroot hitem hrecords =>
        rw [List.cons_append, List.mem_cons, List.mem_append, List.mem_singleton] at hmem
        rcases hmem with heq | hmem | heq
        · rw [Declaration.record.injEq] at heq
          obtain ⟨-, -, rfl⟩ := heq
          obtain ⟨v, hv, rfl⟩ := List.mem_map.mp hm
          exact .type (.parameter hr hv) (leaf_ofTypeExpr _ _)
        · cases answerLeaf_of_responseRecords hrecords hmem hm with
          | typename hholds htypename hwire htype => exact .typename hr hholds htypename hwire htype
          | record hinside hleaf =>
              refine .item (List.mem_append_right _ (List.mem_flatten.mpr ⟨_, hpart, ?_⟩)) hleaf
              exact List.mem_cons_of_mem _ (List.mem_append_left _ hinside)
          | field hends hleaf => exact .type (.answer hr hroot hends) hleaf
        · cases heq

theorem exists_member_of_mentions (hdeclarations : g.declarations options = .ok declarations)
    {n : String} (hn : g.Mentions options n) :
    ∃ about record members m, .record about record members ∈ declarations ∧ m ∈ members ∧
      m.type.leaf = g.schema.targetName options n := by
  obtain ⟨parts, hparts, rfl, -⟩ := declarations_eq_ok hdeclarations
  have htype : ∀ {d : Definition} {f : FieldDefinition},
      d ∈ g.schema.declaredTypes options g.referenced.keys → f ∈ d.fields →
      (d.kind = .inputObject ∨ (d.kind = .object ∧ isMetaName f.name = false)) →
      ∃ about record members m, .record about record members ∈
        g.typeDeclarations options ++ parts.flatten ∧ m ∈ members ∧
          m.type.leaf = g.schema.targetName options f.type.baseName := by
    intro d f hd hf hkind
    obtain ⟨about, record, members, m, heq, hm, hleaf⟩ := exists_member_of_field hf hkind
    refine ⟨about, record, members, m, List.mem_append_left _ ?_, hm, hleaf⟩
    exact heq ▸ List.mem_map_of_mem hd
  cases hn with
  | input hd hkind hf => exact htype hd hf (.inl hkind)
  | object hd hkind hf hplain => exact htype hd hf (.inr ⟨hkind, hplain⟩)
  | @parameter r v hr hv =>
      obtain ⟨part, hpart, hitems⟩ := exists_of_forall₂ hparts hr
      cases hitems with
      | intro =>
          refine ⟨_, _, _, v.member g.schema options,
            List.mem_append_right _ (List.mem_flatten.mpr ⟨_, hpart, List.mem_cons_self⟩),
            List.mem_map_of_mem hv, leaf_ofTypeExpr _ _⟩
  | answer hr hroot hends =>
      obtain ⟨part, hpart, hitems⟩ := exists_of_forall₂ hparts hr
      cases hitems with
      | intro hname hroot' hitem hrecords =>
          cases hroot.symm.trans hroot'
          obtain ⟨about, record, members, m, hmem, hm, hleaf⟩ :=
            exists_member_of_endsAt hrecords hends
          refine ⟨about, record, members, m,
            List.mem_append_right _ (List.mem_flatten.mpr ⟨_, hpart, ?_⟩), hm, hleaf⟩
          exact List.mem_cons_of_mem _ (List.mem_append_left _ hmem)

end

/-! ### Closure -/

/-- A member refers to a declared item, to what a builtin scalar is mapped to, or is the text of a
`__typename`. -/
inductive Generation.Refers (g : Generation) (options : Options) (declarations : List Declaration)
    (m : Member) : Prop where
  | item {item : Declaration} (hitem : item ∈ declarations) (hleaf : m.type.leaf = item.name)
  | builtin {n : String} {d : Definition} (htype : g.schema.type? n = some d)
      (hkind : d.kind = .scalar) (hbuiltin : d.builtin = true)
      (hleaf : m.type.leaf = options.scalars.target n)
  | typename {r : RenderedOperation} {path : List Field} {f : Field} {inner : SelectionSet}
      (hr : r ∈ g.operations) (hholds : r.operation.selections.Holds path f inner)
      (hname : f.name = "__typename") (hwire : m.wireName = f.responseKey)
      (htype : m.type = .name "String")

/-- Every member `Refers` to something. -/
def Generation.Closed (g : Generation) (options : Options) (declarations : List Declaration) :
    Prop :=
  ∀ about record members, .record about record members ∈ declarations →
    ∀ m ∈ members, g.Refers options declarations m

/-- `item` is also the name of another item, or what a builtin scalar is mapped to. -/
def Generation.NamesAnother (g : Generation) (options : Options) (declarations : List Declaration)
    (item : String) : Prop :=
  (∃ other ∈ declarations, other.name = item) ∨
    ∃ n d, g.schema.type? n = some d ∧ d.kind = .scalar ∧ d.builtin = true ∧
      options.scalars.target n = item

/-- What is declared for a bundle is `Closed` exactly if it `Mentions` no type that is `Undeclared`,
but for one whose item would have the name of something else, as `NamesAnother` says. -/
theorem closed_iff {options : Options} {schema : Schema} {document : Document} {g : Generation}
    {declarations : List Declaration} (hbuilt : schema.Built)
    (h : generate options schema document = .ok g)
    (hdeclarations : g.declarations options = .ok declarations) :
    g.Closed options declarations ↔ ∀ n d, g.Mentions options n → schema.type? n = some d →
      d.Undeclared schema options → g.NamesAnother options declarations (itemName n) := by
  obtain ⟨-, -, -, hschema, -⟩ := generate_eq_ok h
  have hkeyed := hbuilt.keyed
  constructor
  · intro hclosed n d hn htype hundeclared
    obtain ⟨about, record, members, m, hrecord, hm, hleaf⟩ :=
      exists_member_of_mentions hdeclarations hn
    have hitem : m.type.leaf = itemName n := by
      rw [hleaf, hschema]
      exact Schema.targetName_of_item options hkeyed htype hundeclared.no_builtin_scalar
    cases hclosed about record members hrecord m hm with
    | item hmem hname => exact .inl ⟨_, hmem, hname.symm.trans hitem⟩
    | builtin htype' hkind hbuiltin hscalar =>
        exact .inr ⟨_, _, htype', hkind, hbuiltin, hscalar.symm.trans hitem⟩
    | typename _ _ _ _ htext =>
        rw [htext] at hitem
        exact absurd hitem.symm (itemName_ne_string n)
  · intro hall about record members hrecord m hm
    cases memberLeaf_of_declarations hdeclarations hrecord hm with
    | item hitem hleaf => exact .item hitem hleaf
    | typename hr hholds hname hwire htype => exact .typename hr hholds hname hwire htype
    | @type n hn hleaf =>
        obtain ⟨d, htype⟩ := exists_type_of_mentions hbuilt h hn
        rw [hschema] at hleaf
        rcases Schema.scalar_or_declared_or_undeclared options htype with
          ⟨hkind, hbuiltin⟩ | ⟨hown, hdeclared⟩ | hundeclared
        · rw [Schema.targetName_of_builtin htype hkind hbuiltin] at hleaf
          exact .builtin (hschema.symm ▸ htype) hkind hbuiltin hleaf
        · -- the item of the type is declared, as the type is in use
          have hisOwn : schema.isOwnType n = true := by
            unfold Schema.isOwnType
            rw [htype]
            simp [hown]
          have hused := contains_referenced hbuilt h hn hisOwn
          have hmem := hdeclared _ ((Table.contains_iff_mem_keys _ n).mp hused)
          rw [Schema.targetName_of_item options hkeyed htype (by simp [hown])] at hleaf
          obtain ⟨parts, -, rfl, -⟩ := declarations_eq_ok hdeclarations
          refine .item (List.mem_append_left _ (List.mem_map_of_mem (hschema.symm ▸ hmem))) ?_
          rw [hleaf, name_declaration, hkeyed n d htype]
        · have hitem := Schema.targetName_of_item options hkeyed htype
            hundeclared.no_builtin_scalar
          rw [hitem] at hleaf
          rcases hall n d hn htype hundeclared with ⟨other, hother, hname⟩ |
            ⟨b, e, hscalar, hkind, hbuiltin, htarget⟩
          · exact .item hother (hleaf.trans hname.symm)
          · exact .builtin hscalar hkind hbuiltin (hleaf.trans htarget.symm)

/-- `Paint` has values in both spellings. -/
def paint : Definition :=
  { Definition.bare .enum "Paint" with values := [⟨"DARK_RED", none, []⟩, ⟨"darkBlue", none, []⟩] }

/-- `Brush` has a keyword for a name, a list and a field of its own type. -/
def brush : Definition :=
  { Definition.bare .inputObject "Brush" with
    fields := [⟨"type", some "What is painted with.", [], none, .named "Paint" true, []⟩,
      ⟨"_widths", none, [], none, .list (.named "Int" true) false, []⟩,
      ⟨"under", none, [], none, .named "Brush" false, []⟩] }

/-- The only query takes a `Brush` and answers with a `Paint`. -/
def brushes : Schema :=
  let query : Definition := { Definition.bare .object "Query" with
    fields := [⟨"paint", none, [⟨"brush", none, none, .named "Brush" false, []⟩], none,
      .named "Paint" false, []⟩] }
  { [paint, brush, query].foldl Schema.addType .builtin with
    queryRoot := some "Query"
    possible := .ofList [("Query", ["Query"])] }

/-- The query, with a variable of the type `Brush`. -/
def stroke : Operation :=
  ⟨.query, some "Stroke", [⟨"brush", .named "Brush" false, none⟩], [],
    .field ⟨none, "paint", [⟨"brush", "$brush"⟩], []⟩ .nil .nil⟩

def brushBundle : Generation :=
  ⟨brushes, brushes.print "  " false, [⟨stroke, stroke.requestText .default []⟩],
    brushes.referencedTypes [stroke]⟩

/-- `Paint` and `Brush` are declared, and nothing else is referred to but a number. -/
theorem closed_brushBundle :
    Schema.ofText ("enum Paint \x7b DARK_RED darkBlue \x7d " ++
      "input Brush \x7b \"What is painted with.\" type: Paint! _widths: [Int!] under: Brush \x7d " ++
      "type Query \x7b paint(brush: Brush): Paint \x7d") = .ok brushes ∧
    Document.ofText "query Stroke($brush: Brush) \x7b paint(brush: $brush) \x7d" =
      .ok ⟨[stroke], []⟩ ∧
    generate .default brushes ⟨[stroke], []⟩ = .ok brushBundle ∧
    ∃ declarations, brushBundle.declarations .default = .ok declarations ∧
      declarations.map Declaration.name =
        ["Paint", "Brush", "StrokeVariables", "StrokeResponse", "Stroke"] ∧
      brushBundle.Closed .default declarations := by
  have htext : Schema.ofText ("enum Paint \x7b DARK_RED darkBlue \x7d " ++
      "input Brush \x7b \"What is painted with.\" type: Paint! _widths: [Int!] under: Brush \x7d " ++
      "type Query \x7b paint(brush: Brush): Paint \x7d") = .ok brushes :=
    eq_ok_of_toOption (by decide +kernel)
  have hgenerate : generate .default brushes ⟨[stroke], []⟩ = .ok brushBundle :=
    generate_of_spreads_eq_nil (eq_ok_of_toOption (by decide +kernel)) rfl rfl
  have hnames : (brushBundle.declarations .default).toOption.map (·.map Declaration.name) =
      some ["Paint", "Brush", "StrokeVariables", "StrokeResponse", "Stroke"] := by decide +kernel
  obtain ⟨declarations, hdeclarations, hdeclared⟩ := Option.map_eq_some_iff.mp hnames
  have hok := eq_ok_of_toOption hdeclarations
  refine ⟨htext, eq_ok_of_toOption (by decide +kernel), hgenerate, declarations, hok, hdeclared,
    (closed_iff (.ofText htext) hgenerate hok).mpr fun n d hn htype hundeclared => ?_⟩
  -- What comes up is one of the two types in use, or else a builtin scalar.
  cases hown : brushes.isOwnType n with
  | true =>
      have hused := contains_referenced (.ofText htext) hgenerate hn hown
      have hkeys : brushBundle.referenced.keys = ["Brush", "Paint"] := by decide +kernel
      rw [Table.contains_iff_mem_keys, hkeys] at hused
      have heither : d = brush ∨ d = paint := by
        simp only [List.mem_cons, List.not_mem_nil, or_false] at hused
        rcases hused with rfl | rfl
        · exact .inl (Option.some.inj (htype.symm.trans (by decide +kernel)))
        · exact .inr (Option.some.inj (htype.symm.trans (by decide +kernel)))
      rcases heither with rfl | rfl <;> cases hundeclared <;> contradiction
  | false =>
      have hscalars : ∀ e ∈ brushes.types.values, e.builtin = true → e.kind = .scalar := by
        decide +kernel
      have hbuiltin : d.builtin = true := by
        unfold Schema.isOwnType at hown
        rw [htype] at hown
        simpa using hown
      have hvalue := Table.mem_values_iff.mpr ⟨n, htype⟩
      exact absurd ⟨hscalars d hvalue hbuiltin, hbuiltin⟩ hundeclared.no_builtin_scalar

/-! ### A field that leads back to the root -/

/-- `A` has a field of the type `Query`. -/
def backToRoot : Schema :=
  let field (name type : String) : FieldDefinition :=
    ⟨name, none, [], none, .named type false, []⟩
  let types := [
    { Definition.bare .object "Query" with fields := [field "a" "A"] },
    { Definition.bare .object "A" with fields := [field "q" "Query"] }]
  { types.foldl Schema.addType .builtin with
    queryRoot := some "Query"
    possible := .ofList [("A", ["A"]), ("Query", ["Query"])] }

/-- Every type is declared. -/
def declareAll : Options := { Options.default with full := true }

def nameOfObject : SelectionSet :=
  .field ⟨none, "a", [], []⟩ (.field ⟨none, "__typename", [], []⟩ .nil .nil) .nil

/-- The bundle of `nameOfObject` with every type. -/
def backToRootBundle : Generation :=
  { bundleOf backToRoot "Q" nameOfObject with referenced := backToRoot.ownTypes }

/-- `A` is declared with a member of the type `Query`, which is not declared. -/
theorem not_closed_backToRoot :
    Schema.ofText "type Query { a: A } type A { q: Query }" = .ok backToRoot ∧
    Document.ofText "query Q { a { __typename } }" = .ok ⟨[queryOf "Q" nameOfObject], []⟩ ∧
    generate declareAll backToRoot ⟨[queryOf "Q" nameOfObject], []⟩ = .ok backToRootBundle ∧
    ∃ declarations, backToRootBundle.declarations declareAll = .ok declarations ∧
      ¬ backToRootBundle.Closed declareAll declarations := by
  have hgenerate : generate declareAll backToRoot ⟨[queryOf "Q" nameOfObject], []⟩ =
      .ok backToRootBundle :=
    generate_of_spreads_eq_nil (eq_ok_of_toOption (by decide +kernel)) rfl rfl
  have hnames : (backToRootBundle.declarations declareAll).toOption.map (fun ds =>
      (ds.map Declaration.name, typeAt? ds "A" [] "q")) =
        some (["A", "QVariables", "QResponse", "QResponseA", "Q"],
          some (.optional (.boxed (.name "Query")))) := by decide +kernel
  obtain ⟨declarations, hdeclarations, hsome⟩ := Option.map_eq_some_iff.mp hnames
  rw [Prod.mk.injEq] at hsome
  refine ⟨eq_ok_of_toOption (by decide +kernel), eq_ok_of_toOption (by decide +kernel), hgenerate,
    declarations, eq_ok_of_toOption hdeclarations, fun hclosed => ?_⟩
  obtain ⟨about, record, members, m, hrecord, hm, htype⟩ := exists_record_of_typeAt? hsome.2
  have hleaf : m.type.leaf = "Query" := by
    rw [htype]
    rfl
  cases hclosed about record members hrecord m hm with
  | item hitem hname =>
      have hmem := List.mem_map_of_mem (f := Declaration.name) hitem
      rw [hsome.1, ← hname, hleaf] at hmem
      exact absurd hmem (by decide)
  | @builtin n d _ _ _ hscalar =>
      rw [hleaf] at hscalar
      have hnot : ∀ e ∈ ScalarMap.builtin.table.entries, e.2 ≠ "Query" := by decide
      unfold ScalarMap.target ScalarMap.lookup? at hscalar
      cases hfound : declareAll.scalars.table.get? n with
      | none =>
          rw [hfound] at hscalar
          exact absurd hscalar (by decide)
      | some target =>
          rw [hfound] at hscalar
          exact hnot _ (Table.mem_entries_of_get? hfound) hscalar.symm
  | typename _ _ _ _ htext =>
      rw [htype] at htext
      cases htext

end QueryBindings

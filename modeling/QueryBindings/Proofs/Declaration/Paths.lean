import QueryBindings.Proofs.Declaration.Records

/-! # Types at response paths

The type of a member is found by following the keys of an answer from record to record.  At the
path of a selected field stands the type of the field that is found from the type to which the
path leads.

Main statements: `ofTypeExpr_eq_iff` (a type is written for one shape and one leaf),
`exists_records_at` (the record to which a path leads), `typeAt?_of_holds` (the type at the path of
a field) and `typeAt?_of_typename` (there is none below a `__typename`). -/

namespace QueryBindings

/-! ### Shapes of types -/

/-- Two types with the same lists and the same marks. -/
def TypeExpr.SameShape : TypeExpr → TypeExpr → Prop
  | .named _ mark, .named _ mark' => mark = mark'
  | .list element mark, .list element' mark' => mark = mark' ∧ element.SameShape element'
  | _, _ => False

/-- The innermost name of a written type. -/
def TargetType.leaf : TargetType → String
  | .name text => text
  | .optional inner | .list inner | .boxed inner => inner.leaf

theorem leaf_ofTypeExpr (leaf : String) (t : TypeExpr) :
    (TargetType.ofTypeExpr leaf false t).leaf = leaf := by
  induction t with
  | named n mark => cases mark <;> rfl
  | list element mark ih => cases mark <;> exact ih

theorem leaf_ofTypeExpr_boxed (leaf : String) (isBoxed : Bool) (t : TypeExpr) :
    (TargetType.ofTypeExpr leaf isBoxed t).leaf = leaf := by
  cases t with
  | named n mark => cases isBoxed <;> cases mark <;> rfl
  | list element mark =>
      have helement := leaf_ofTypeExpr leaf element
      cases mark <;> exact helement

/-- A written type tells its `leaf` and the shape of the type that it is written for. -/
theorem ofTypeExpr_eq_iff {leaf leaf' : String} {t t' : TypeExpr} :
    TargetType.ofTypeExpr leaf false t = .ofTypeExpr leaf' false t' ↔
      leaf = leaf' ∧ t.SameShape t' := by
  induction t generalizing t' with
  | named n mark =>
      cases t' with
      | named n' mark' =>
          cases mark <;> cases mark' <;> simp [TargetType.ofTypeExpr, TypeExpr.SameShape]
      | list element' mark' =>
          cases mark <;> cases mark' <;> simp [TargetType.ofTypeExpr, TypeExpr.SameShape]
  | list element mark ih =>
      cases t' with
      | named n' mark' =>
          cases mark <;> cases mark' <;> simp [TargetType.ofTypeExpr, TypeExpr.SameShape]
      | list element' mark' =>
          cases mark <;> cases mark' <;> simp [TargetType.ofTypeExpr, TypeExpr.SameShape, ih]

/-! ### Following keys -/

def membersOf? (declarations : List Declaration) (record : String) : Option (List Member) :=
  declarations.findSome? fun
    | .record _ name members => if name = record then some members else none
    | _ => none

def memberAt? (declarations : List Declaration) (record key : String) : Option Member :=
  (membersOf? declarations record).bind fun members => members.find? (·.wireName = key)

/-- The type of the member for `key` in the record to which the keys in front of it lead. -/
def typeAt? (declarations : List Declaration) :
    (record : String) → List String → (key : String) → Option TargetType
  | record, [], key => (memberAt? declarations record key).map (·.type)
  | record, k :: keys, key =>
    (memberAt? declarations record k).bind fun m => typeAt? declarations m.type.leaf keys key

/-- The type to which the fields of a response path lead, each by `findField?` from the type before
it.  No record is made for what is selected of `__typename`. -/
def Schema.responseParent? (s : Schema) : (parent : String) → List Field → Option String
  | parent, [] => some parent
  | parent, f :: path =>
    if f.name = "__typename" then none
    else (s.findField? parent f.name).bind fun d => s.responseParent? d.type.baseName path

theorem ne_typename_of_responseParent? {schema : Schema} {parent last : String} {path : List Field}
    (h : schema.responseParent? parent path = some last) : ∀ e ∈ path, e.name ≠ "__typename" := by
  induction path generalizing parent with
  | nil => exact List.forall_mem_nil _
  | cons f path ih =>
      unfold Schema.responseParent? at h
      split at h
      · cases h
      · rename_i hname
        obtain ⟨d, -, h⟩ := Option.bind_eq_some_iff.mp h
        exact List.forall_mem_cons.mpr ⟨hname, ih h⟩

/-- The name of the record for what is selected under `keys`. -/
def structName (record : String) (keys : List String) : String :=
  keys.foldl (fun name key => name ++ itemName key) record

theorem membersOf?_of_mem {declarations : List Declaration}
    (hnodup : (declarations.map Declaration.name).Nodup) {about : Option String} {record : String}
    {members : List Member} (h : .record about record members ∈ declarations) :
    membersOf? declarations record = some members := by
  unfold membersOf?
  induction declarations with
  | nil => cases h
  | cons d rest ih =>
      rw [List.map_cons, List.nodup_cons] at hnodup
      rcases List.mem_cons.mp h with rfl | h
      · rw [List.findSome?_cons]
        simp
      · have hne : d.name ≠ record := by
          intro heq
          exact hnodup.1 (heq ▸ List.mem_map_of_mem h)
        rw [List.findSome?_cons, ih hnodup.2 h]
        cases d with
        | record about' name members' =>
            have hname : name ≠ record := hne
            simp [hname]
        | _ => rfl

theorem membersOf?_of_forall_not_mem {declarations : List Declaration} {record : String}
    (h : ∀ about members, .record about record members ∉ declarations) :
    membersOf? declarations record = none := by
  unfold membersOf?
  rw [List.findSome?_eq_none_iff]
  intro d hd
  cases d with
  | record about name members =>
      refine if_neg fun heq => ?_
      rw [heq] at hd
      exact h about members hd
  | _ => rfl

theorem typeAt?_of_membersOf? {declarations : List Declaration} {record : String}
    (h : membersOf? declarations record = none) (keys : List String) (key : String) :
    typeAt? declarations record keys key = none := by
  cases keys <;> simp [typeAt?, memberAt?, h]

theorem exists_record_of_typeAt? {declarations : List Declaration} {record key : String}
    {keys : List String} {t : TargetType} (h : typeAt? declarations record keys key = some t) :
    ∃ about name members m, .record about name members ∈ declarations ∧ m ∈ members ∧
      m.type = t := by
  induction keys generalizing record with
  | nil =>
      obtain ⟨m, hm, htype⟩ := Option.map_eq_some_iff.mp h
      obtain ⟨members, hmembers, hfind⟩ := Option.bind_eq_some_iff.mp hm
      obtain ⟨d, hd, hsome⟩ := List.exists_of_findSome?_eq_some hmembers
      split at hsome
      · rename_i about name found
        split at hsome
        · cases hsome
          exact ⟨about, name, _, m, hd, List.mem_of_find?_eq_some hfind, htype⟩
        · cases hsome
      · cases hsome
  | cons k keys ih =>
      obtain ⟨m, -, hrest⟩ := Option.bind_eq_some_iff.mp h
      exact ih hrest

theorem find?_of_mem {members : List Member} (hnodup : (members.map Member.wireName).Nodup)
    {m : Member} (h : m ∈ members) : members.find? (·.wireName = m.wireName) = some m := by
  induction members with
  | nil => cases h
  | cons n rest ih =>
      rw [List.map_cons, List.nodup_cons] at hnodup
      rcases List.mem_cons.mp h with rfl | h
      · exact List.find?_cons_of_pos (by simp)
      · have hne : n.wireName ≠ m.wireName := by
          intro heq
          exact hnodup.1 (heq ▸ List.mem_map_of_mem h)
        rw [List.find?_cons_of_neg (by simpa using hne)]
        exact ih hnodup.2 h

/-! ### The member for a field -/

section

variable {c : RecordContext} {name parent : String} {set : SelectionSet} {names after : ItemNames}
  {records declarations : List Declaration}

/-- The record for a set has for each of its fields the `MemberFor` of the one merged field under the
same key. -/
theorem exists_memberAt (h : responseRecords c name parent set names = .ok (records, after))
    (hsub : ∀ r ∈ records, r ∈ declarations)
    (hnodup : (declarations.map Declaration.name).Nodup) {f : Field} {below : SelectionSet}
    (hf : (f, below) ∈ set.fields) :
    ∃ s member here before mid, MemberFor c name parent s before member here mid ∧
      memberAt? declarations name f.responseKey = some member ∧ s.key = f.responseKey ∧
      s.field.name = f.name ∧ s.inner = set.under f.responseKey ∧ ∀ r ∈ here, r ∈ declarations := by
  obtain ⟨start, fields, members, nested, -, hfields, hmembers, rfl⟩ := responseRecords_eq_ok h
  have hmerged := merged_of_mergeFields hfields
  obtain ⟨s, hs, hkey, hname, -⟩ := hmerged.covered f below hf
  obtain ⟨member, here, before, mid, hmember, hmem, hhere⟩ := exists_member hmembers hs
  have hwire : (members.map Member.wireName).Nodup := by
    rw [wireName_members hmembers]
    exact hmerged.distinct
  have hrecord : membersOf? declarations name = some members :=
    membersOf?_of_mem hnodup (hsub _ List.mem_cons_self)
  refine ⟨s, member, here, before, mid, hmember, ?_, hkey, hname, ?_, fun r hr => ?_⟩
  · unfold memberAt?
    rw [hrecord, Option.bind_some, ← hkey, ← hmember.wireName]
    exact find?_of_mem hwire hmem
  · rw [hmerged.inner_eq hs, hkey]
  · exact hsub r (List.mem_cons_of_mem _ (hhere r hr))

/-- The type of the member for a field under which others are selected: `String` if it is
`__typename`, and else built around the name of a record that holds all that is selected under its
key. -/
theorem exists_record (h : responseRecords c name parent set names = .ok (records, after))
    (hsub : ∀ r ∈ records, r ∈ declarations)
    (hnodup : (declarations.map Declaration.name).Nodup) {e : Field} {path : List Field} {f : Field}
    {inner : SelectionSet} (hholds : set.Holds (e :: path) f inner) :
    ∃ member, memberAt? declarations name e.responseKey = some member ∧
      ((e.name = "__typename" ∧ member.type.leaf = "String") ∨
        (e.name ≠ "__typename" ∧ member.type.leaf = name ++ itemName e.responseKey ∧
          ∃ d here before mid, c.schema.findField? parent e.name = some d ∧
            responseRecords c (name ++ itemName e.responseKey) d.type.baseName
              (set.under e.responseKey) before = .ok (here, mid) ∧
            (∀ r ∈ here, r ∈ declarations) ∧ (set.under e.responseKey).Holds path f inner)) := by
  obtain ⟨below, hmem, hbelow⟩ := hholds
  obtain ⟨s, member, here, before, mid, hmember, hat, hkey, hsame, hinner, hhere⟩ :=
    exists_memberAt h hsub hnodup hmem
  have hunder : (set.under e.responseKey).Holds path f inner :=
    SelectionSet.holds_under_iff.mpr ⟨e, rfl, below, hmem, hbelow⟩
  refine ⟨member, hat, ?_⟩
  rw [← hsame]
  cases hmember with
  | typename htypename => exact .inl ⟨htypename, rfl⟩
  | leaf _ _ hnil =>
      -- something is selected under the key, so the merged field is no leaf
      rw [← hinner, hnil] at hunder
      exact absurd hunder (SelectionSet.not_holds_nil path f inner)
  | @nested d _ _ hne hfind _ hrecords =>
      rw [hkey, hinner] at hrecords
      refine .inr ⟨hne, ?_, d, here, before, mid, hfind, hrecords, hhere, hunder⟩
      rw [← hkey]
      exact leaf_ofTypeExpr _ _

/-- The leaf of the type at a path: the record `nested`, or `target` if nothing is selected. -/
def IsLeaf (bare : Prop) (nested target leaf : String) : Prop :=
  (bare ∧ leaf = target) ∨ (¬ bare ∧ leaf = nested)

theorem exists_type (h : responseRecords c name parent set names = .ok (records, after))
    (hsub : ∀ r ∈ records, r ∈ declarations)
    (hnodup : (declarations.map Declaration.name).Nodup) {f : Field} {below : SelectionSet}
    (hf : (f, below) ∈ set.fields) (hname : f.name ≠ "__typename") :
    ∃ d leaf member, c.schema.findField? parent f.name = some d ∧
      IsLeaf (set.under f.responseKey = .nil) (name ++ itemName f.responseKey)
        (c.schema.targetName c.options d.type.baseName) leaf ∧
      memberAt? declarations name f.responseKey = some member ∧
      member.type = .ofTypeExpr leaf false (selectedType c.schema parent d) := by
  obtain ⟨s, member, here, before, mid, hmember, hat, hkey, hsame, hinner, -⟩ :=
    exists_memberAt h hsub hnodup hf
  rw [← hsame] at hname ⊢
  cases hmember with
  | typename htypename => exact absurd htypename hname
  | @leaf d _ hfind hnil => exact ⟨d, _, _, hfind, .inl ⟨hinner ▸ hnil, rfl⟩, hat, rfl⟩
  | @nested d _ _ _ hfind hsome hrecords =>
      rw [hkey] at hat
      exact ⟨d, _, _, hfind, .inr ⟨hinner ▸ hsome, rfl⟩, hat, rfl⟩

/-- A path leads to the record for all that is selected under its keys. -/
theorem exists_records_at {path : List Field} {f : Field} {inner : SelectionSet}
    (h : responseRecords c name parent set names = .ok (records, after))
    (hsub : ∀ r ∈ records, r ∈ declarations)
    (hnodup : (declarations.map Declaration.name).Nodup) (hholds : set.Holds path f inner)
    (hpath : ∀ e ∈ path, e.name ≠ "__typename") :
    ∃ last here before mid, c.schema.responseParent? parent path = some last ∧
      responseRecords c (structName name (path.map Field.responseKey)) last
        (set.underAll (path.map Field.responseKey)) before = .ok (here, mid) ∧
      (∀ r ∈ here, r ∈ declarations) ∧
      ∀ key, typeAt? declarations name (path.map Field.responseKey) key =
        (memberAt? declarations (structName name (path.map Field.responseKey)) key).map (·.type) := by
  induction path generalizing name parent set names after records with
  | nil => exact ⟨parent, records, names, after, rfl, h, hsub, fun key => rfl⟩
  | cons e path ih =>
      obtain ⟨member, hat, ⟨htypename, -⟩ | ⟨hne, hrecord, d, here, before, mid, hfind, hrecords,
        hhere, hunder⟩⟩ := exists_record h hsub hnodup hholds
      · exact absurd htypename (hpath e List.mem_cons_self)
      · obtain ⟨last, inside, start, stop, hlast, hinside, hmem, htype⟩ :=
          ih hrecords hhere hunder fun x hx => hpath x (List.mem_cons_of_mem e hx)
        refine ⟨last, inside, start, stop, ?_, hinside, hmem, fun key => ?_⟩
        · unfold Schema.responseParent?
          rw [if_neg hne, hfind]
          exact hlast
        · rw [List.map_cons, typeAt?, hat, Option.bind_some, hrecord]
          exact htype key

/-- At the path of a field stands the type of the field that is found from the type to which the
path leads. -/
theorem typeAt?_of_holds {path : List Field} {f : Field} {inner : SelectionSet}
    (h : responseRecords c name parent set names = .ok (records, after))
    (hsub : ∀ r ∈ records, r ∈ declarations)
    (hnodup : (declarations.map Declaration.name).Nodup) (hholds : set.Holds path f inner)
    (hname : f.name ≠ "__typename") (hpath : ∀ e ∈ path, e.name ≠ "__typename") :
    ∃ last d leaf, c.schema.responseParent? parent path = some last ∧
      c.schema.findField? last f.name = some d ∧
      IsLeaf ((set.underAll (path.map Field.responseKey)).under f.responseKey = .nil)
        (structName name (path.map Field.responseKey ++ [f.responseKey]))
        (c.schema.targetName c.options d.type.baseName) leaf ∧
      typeAt? declarations name (path.map Field.responseKey) f.responseKey =
        some (.ofTypeExpr leaf false (selectedType c.schema last d)) := by
  obtain ⟨last, here, before, mid, hlast, hrecords, hhere, htype⟩ :=
    exists_records_at h hsub hnodup hholds hpath
  have hmem : (set.underAll (path.map Field.responseKey)).Holds [] f inner :=
    SelectionSet.holds_underAll_iff.mpr ⟨path, rfl, by rwa [List.append_nil]⟩
  obtain ⟨d, leaf, member, hfind, hleaf, hat, hbuilt⟩ :=
    exists_type hrecords hhere hnodup hmem hname
  refine ⟨last, d, leaf, hlast, hfind, ?_, ?_⟩
  · unfold structName at hleaf ⊢
    rw [List.foldl_append]
    exact hleaf
  · rw [htype, hat, Option.map_some, hbuilt]

/-- Nothing stands at a path through `__typename`, as there is no record of the name `String`. -/
theorem typeAt?_of_typename {path : List Field} {f : Field} {inner : SelectionSet}
    (h : responseRecords c name parent set names = .ok (records, after))
    (hsub : ∀ r ∈ records, r ∈ declarations)
    (hnodup : (declarations.map Declaration.name).Nodup)
    (hstring : ∀ about members, .record about "String" members ∉ declarations)
    (hholds : set.Holds path f inner) (hpath : ∃ e ∈ path, e.name = "__typename") :
    c.schema.responseParent? parent path = none ∧
      typeAt? declarations name (path.map Field.responseKey) f.responseKey = none := by
  induction path generalizing name parent set names after records with
  | nil =>
      obtain ⟨e, he, -⟩ := hpath
      cases he
  | cons e path ih =>
      unfold Schema.responseParent?
      obtain ⟨member, hat, ⟨htypename, htext⟩ | ⟨hne, hrecord, d, here, before, mid, hfind,
        hrecords, hhere, hunder⟩⟩ := exists_record h hsub hnodup hholds
      · rw [if_pos htypename, List.map_cons, typeAt?, hat, Option.bind_some, htext]
        exact ⟨rfl, typeAt?_of_membersOf? (membersOf?_of_forall_not_mem hstring) _ _⟩
      · have hrest : ∃ x ∈ path, x.name = "__typename" := by
          obtain ⟨x, hx, htypename⟩ := hpath
          rcases List.mem_cons.mp hx with rfl | hx
          · exact absurd htypename hne
          · exact ⟨x, hx, htypename⟩
        rw [if_neg hne, hfind, List.map_cons, typeAt?, hat, Option.bind_some, Option.bind_some,
          hrecord]
        exact ih hrecords hhere hunder hrest

end

end QueryBindings

import QueryBindings.Proofs.Declaration.Merging

/-! # Records of answers

What `responseRecords` does, one selection set at a time: a record with a member for every merged
field, then the records for the sets inside.  Each name is claimed once, so the names of the
records differ.

Main statements: `responseRecords_eq_ok` and `responseMembers_cons` (one step),
`responseRecords_induction` (all records of a set) and `claims_responseRecords` (their names). -/

namespace QueryBindings

/-! ### Steps -/

/-- The member for a merged field, with the records for what is selected inside it. -/
inductive MemberFor (c : RecordContext) (name parent : String) (s : Selected)
    (names : ItemNames) : Member → List Declaration → ItemNames → Prop where
  | typename (hname : s.field.name = "__typename") :
      MemberFor c name parent s names (responseMember s.key (.name "String")) [] names
  | leaf {d : FieldDefinition} (hname : s.field.name ≠ "__typename")
      (hfind : c.schema.findField? parent s.field.name = some d) (hinner : s.inner = .nil) :
      MemberFor c name parent s names
        (responseMember s.key (.ofTypeExpr (c.schema.targetName c.options d.type.baseName) false
          (selectedType c.schema parent d))) [] names
  | nested {d : FieldDefinition} {records : List Declaration} {after : ItemNames}
      (hname : s.field.name ≠ "__typename")
      (hfind : c.schema.findField? parent s.field.name = some d) (hinner : s.inner ≠ .nil)
      (hrecords : responseRecords c (name ++ itemName s.key) d.type.baseName s.inner names =
        .ok (records, after)) :
      MemberFor c name parent s names
        (responseMember s.key (.ofTypeExpr (name ++ itemName s.key) false
          (selectedType c.schema parent d))) records after

theorem responseMembers_nil {c : RecordContext} {name parent : String} {names after : ItemNames}
    {members : List Member} {records : List Declaration}
    (h : responseMembers c name parent [] names = .ok (members, records, after)) :
    members = [] ∧ records = [] ∧ after = names := by
  unfold responseMembers at h
  cases h
  exact ⟨rfl, rfl, rfl⟩

theorem responseMembers_cons {c : RecordContext} {name parent : String} {s : Selected}
    {rest : List Selected} {names after : ItemNames} {members : List Member}
    {records : List Declaration}
    (h : responseMembers c name parent (s :: rest) names = .ok (members, records, after)) :
    ∃ member here mid others there, MemberFor c name parent s names member here mid ∧
      responseMembers c name parent rest mid = .ok (others, there, after) ∧
      members = member :: others ∧ records = here ++ there := by
  unfold responseMembers at h
  dsimp only at h
  split at h
  · rename_i hname
    split at h
    · cases h
    · rename_i others there last hrest
      cases h
      exact ⟨_, _, _, others, _, .typename hname, hrest, rfl, rfl⟩
  · rename_i hname
    split at h
    · cases h
    · rename_i d hfind
      split at h
      · rename_i hempty
        split at h
        · cases h
        · rename_i others there last hrest
          cases h
          exact ⟨_, _, _, others, _,
            .leaf hname hfind ((SelectionSet.isEmpty_iff s.inner).mp hempty), hrest, rfl, rfl⟩
      · rename_i hempty
        split at h
        · cases h
        · rename_i here mid hhere
          split at h
          · cases h
          · rename_i others there last hrest
            cases h
            have hinner : s.inner ≠ .nil := fun hnil =>
              hempty ((SelectionSet.isEmpty_iff s.inner).mpr hnil)
            exact ⟨_, here, mid, others, there, .nested hname hfind hinner hhere, hrest, rfl, rfl⟩

/-- The equation of `responseRecords`: the name is claimed, then the fields are merged, then their
members are made. -/
theorem responseRecords_eq (c : RecordContext) (name parent : String) (set : SelectionSet)
    (names : ItemNames) :
    responseRecords c name parent set names =
      (do let start ← names.claim name c.owner
          let fields ← mergeFields [] set
          let (members, nested, after) ← responseMembers c name parent fields start
          return (.record none name members :: nested, after)) := by
  unfold responseRecords
  split
  · rename_i hclaim
    rw [hclaim]
    rfl
  · rename_i start hclaim
    rw [hclaim]
    show _ = (mergeFields [] set >>= _)
    split
    · rename_i hfields
      rw [hfields]
      rfl
    · rename_i fields hfields
      rw [hfields]
      show _ = (responseMembers c name parent fields start >>= _)
      cases responseMembers c name parent fields start <;> rfl

/-- A set gives a record of its own, and by `MemberFor` those for the sets inside it. -/
theorem responseRecords_eq_ok {c : RecordContext} {name parent : String} {set : SelectionSet}
    {names after : ItemNames} {records : List Declaration}
    (h : responseRecords c name parent set names = .ok (records, after)) :
    ∃ start fields members nested, names.claim name c.owner = .ok start ∧
      mergeFields [] set = .ok fields ∧
      responseMembers c name parent fields start = .ok (members, nested, after) ∧
      records = .record none name members :: nested := by
  rw [responseRecords_eq] at h
  obtain ⟨start, hstart, h⟩ := bind_eq_ok.mp h
  obtain ⟨fields, hfields, h⟩ := bind_eq_ok.mp h
  obtain ⟨⟨members, nested, last⟩, hmembers, h⟩ := bind_eq_ok.mp h
  cases h
  exact ⟨start, fields, members, nested, hstart, hfields, hmembers, rfl⟩

/-! ### Members -/

theorem exists_member {c : RecordContext} {name parent : String} {fields : List Selected}
    {names after : ItemNames} {members : List Member} {records : List Declaration}
    (h : responseMembers c name parent fields names = .ok (members, records, after))
    {s : Selected} (hs : s ∈ fields) :
    ∃ member here before mid, MemberFor c name parent s before member here mid ∧
      member ∈ members ∧ ∀ r ∈ here, r ∈ records := by
  induction fields generalizing names members records with
  | nil => cases hs
  | cons t rest ih =>
      obtain ⟨member, here, mid, others, there, hmember, hrest, rfl, rfl⟩ :=
        responseMembers_cons h
      rcases List.mem_cons.mp hs with rfl | hs
      · exact ⟨member, here, names, mid, hmember, List.mem_cons_self,
          fun r hr => List.mem_append_left _ hr⟩
      · obtain ⟨found, inside, before, last, hfound, hmem, hsub⟩ := ih hrest hs
        exact ⟨found, inside, before, last, hfound, List.mem_cons_of_mem _ hmem,
          fun r hr => List.mem_append_right _ (hsub r hr)⟩

theorem exists_field {c : RecordContext} {name parent : String} {fields : List Selected}
    {names after : ItemNames} {members : List Member} {records : List Declaration}
    (h : responseMembers c name parent fields names = .ok (members, records, after))
    {m : Member} (hm : m ∈ members) :
    ∃ s ∈ fields, ∃ here before mid, MemberFor c name parent s before m here mid ∧
      ∀ r ∈ here, r ∈ records := by
  induction fields generalizing names members records with
  | nil =>
      obtain ⟨rfl, -, -⟩ := responseMembers_nil h
      cases hm
  | cons s rest ih =>
      obtain ⟨member, here, mid, others, there, hmember, hrest, rfl, rfl⟩ :=
        responseMembers_cons h
      rcases List.mem_cons.mp hm with rfl | hm
      · exact ⟨s, List.mem_cons_self, here, names, mid, hmember,
          fun r hr => List.mem_append_left _ hr⟩
      · obtain ⟨t, ht, inside, before, last, hfor, hsub⟩ := ih hrest hm
        exact ⟨t, List.mem_cons_of_mem s ht, inside, before, last, hfor,
          fun r hr => List.mem_append_right _ (hsub r hr)⟩

theorem exists_field_of_record {c : RecordContext} {name parent : String} {fields : List Selected}
    {names after : ItemNames} {members : List Member} {records : List Declaration}
    (h : responseMembers c name parent fields names = .ok (members, records, after))
    {r : Declaration} (hr : r ∈ records) :
    ∃ s ∈ fields, ∃ m here before mid, MemberFor c name parent s before m here mid ∧ r ∈ here ∧
      ∀ q ∈ here, q ∈ records := by
  induction fields generalizing names members records with
  | nil =>
      obtain ⟨-, rfl, -⟩ := responseMembers_nil h
      cases hr
  | cons s rest ih =>
      obtain ⟨m, here, mid, others, there, hmember, hrest, rfl, rfl⟩ := responseMembers_cons h
      rcases List.mem_append.mp hr with hr | hr
      · exact ⟨s, List.mem_cons_self, m, here, names, mid, hmember, hr,
          fun q hq => List.mem_append_left _ hq⟩
      · obtain ⟨t, ht, n, inside, before, last, hfor, hmem, hsub⟩ := ih hrest hr
        exact ⟨t, List.mem_cons_of_mem s ht, n, inside, before, last, hfor, hmem,
          fun q hq => List.mem_append_right _ (hsub q hq)⟩

theorem MemberFor.wireName {c : RecordContext} {name parent : String} {s : Selected}
    {names after : ItemNames} {member : Member} {records : List Declaration}
    (h : MemberFor c name parent s names member records after) : member.wireName = s.key := by
  cases h <;> rfl

theorem MemberFor.name {c : RecordContext} {name parent : String} {s : Selected}
    {names after : ItemNames} {member : Member} {records : List Declaration}
    (h : MemberFor c name parent s names member records after) : member.name = memberName s.key := by
  cases h <;> rfl

/-- The wire names of the members are the keys of the fields, in order. -/
theorem wireName_members {c : RecordContext} {name parent : String} {fields : List Selected}
    {names after : ItemNames} {members : List Member} {records : List Declaration}
    (h : responseMembers c name parent fields names = .ok (members, records, after)) :
    members.map Member.wireName = fields.map Selected.key := by
  induction fields generalizing names members records with
  | nil =>
      obtain ⟨rfl, -, -⟩ := responseMembers_nil h
      rfl
  | cons s rest ih =>
      obtain ⟨member, here, mid, others, there, hmember, hrest, rfl, rfl⟩ :=
        responseMembers_cons h
      rw [List.map_cons, List.map_cons, hmember.wireName, ih hrest]

/-! ### Names -/

/-- From the table `before` to the table `after` these items were claimed, none of them twice. -/
structure Claims (before : ItemNames) (items : List String) (after : ItemNames) : Prop where
  distinct : items.Nodup
  fresh : ∀ i ∈ items, before.contains i = false
  contains : ∀ i, after.contains i = true ↔ before.contains i = true ∨ i ∈ items

theorem Claims.nil (names : ItemNames) : Claims names [] names :=
  ⟨List.nodup_nil, nofun, by simp⟩

theorem Claims.append {before mid after : ItemNames} {a b : List String}
    (h : Claims before a mid) (h' : Claims mid b after) : Claims before (a ++ b) after := by
  have hold : ∀ i ∈ b, before.contains i = false ∧ i ∉ a := by
    intro i hi
    have hmid := h'.fresh i hi
    refine ⟨?_, fun ha => ?_⟩
    · rw [← Bool.not_eq_true]
      intro hbefore
      rw [(h.contains i).mpr (.inl hbefore)] at hmid
      cases hmid
    · rw [(h.contains i).mpr (.inr ha)] at hmid
      cases hmid
  refine ⟨?_, ?_, fun i => ?_⟩
  · rw [List.nodup_append]
    refine ⟨h.distinct, h'.distinct, fun i hi j hj heq => ?_⟩
    exact (hold j hj).2 (heq ▸ hi)
  · rw [List.forall_mem_append]
    exact ⟨h.fresh, fun i hi => (hold i hi).1⟩
  · rw [h'.contains, h.contains, List.mem_append, or_assoc]

theorem Claims.perm {before after : ItemNames} {a b : List String} (h : Claims before a after)
    (hperm : a.Perm b) : Claims before b after :=
  ⟨hperm.nodup_iff.mp h.distinct, fun i hi => h.fresh i (hperm.mem_iff.mpr hi),
    fun i => by rw [h.contains, hperm.mem_iff]⟩

theorem Claims.of_claim {names after : ItemNames} {item owner : String}
    (h : names.claim item owner = .ok after) : Claims names [item] after := by
  unfold ItemNames.claim at h
  split at h
  · cases h
  · rename_i hnone
    cases h
    refine ⟨List.nodup_cons.mpr ⟨List.not_mem_nil, List.nodup_nil⟩, fun i hi => ?_, fun i => ?_⟩
    · rw [List.mem_singleton.mp hi]
      unfold Table.contains
      rw [hnone]
      rfl
    · unfold Table.contains
      rw [Table.get?_insert, List.mem_singleton]
      split <;> rename_i hi <;> simp [hi]

/-! ### All records of a set -/

/-- Records for some of the keys of a set, where `P` is known of those for each key. -/
inductive RecordsInside (P : String → ItemNames → List Declaration → ItemNames → Prop)
    (name : String) : ItemNames → List Declaration → ItemNames → Prop where
  | nil (names : ItemNames) : RecordsInside P name names [] names
  | append {key : String} {before mid after : ItemNames} {here there : List Declaration}
      (hhere : P (name ++ itemName key) before here mid)
      (hthere : RecordsInside P name mid there after) :
      RecordsInside P name before (here ++ there) after

theorem size_lt_weight {fields : List Selected} {s : Selected} (hs : s ∈ fields) :
    s.inner.size < weight fields := by
  induction fields with
  | nil => cases hs
  | cons t rest ih =>
      unfold weight
      rcases List.mem_cons.mp hs with rfl | hs
      · omega
      · have hrest := ih hs
        omega

/-- What is under a key is smaller than the set, though it need not be a part of it. -/
theorem size_lt_of_mergeFields {set : SelectionSet} {fields : List Selected}
    (h : mergeFields [] set = .ok fields) {s : Selected} (hs : s ∈ fields) :
    s.inner.size < set.size := by
  have hweight := weight_mergeFields_le h
  have hsmall := size_lt_weight hs
  have hnone : weight [] = 0 := rfl
  omega

section

variable {c : RecordContext} {P : String → ItemNames → List Declaration → ItemNames → Prop}

theorem recordsInside_responseMembers {name parent : String} {fields : List Selected}
    {names after : ItemNames} {members : List Member} {records : List Declaration}
    (hrecords : ∀ s ∈ fields, ∀ (inside base : String) (before : ItemNames)
      (here : List Declaration) (mid : ItemNames),
      responseRecords c inside base s.inner before = .ok (here, mid) → P inside before here mid)
    (h : responseMembers c name parent fields names = .ok (members, records, after)) :
    RecordsInside P name names records after := by
  induction fields generalizing names members records with
  | nil =>
      obtain ⟨-, rfl, rfl⟩ := responseMembers_nil h
      exact .nil _
  | cons s rest ih =>
      obtain ⟨member, here, mid, others, there, hmember, hrest, rfl, rfl⟩ :=
        responseMembers_cons h
      have hthere := ih (fun t ht => hrecords t (List.mem_cons_of_mem s ht)) hrest
      cases hmember with
      | typename => exact hthere
      | leaf => exact hthere
      | nested _ _ _ hinside =>
          exact .append (hrecords s List.mem_cons_self _ _ _ _ _ hinside) hthere

/-- What holds of a record and those inside it, if it holds of those inside, holds of all that
`responseRecords` makes.  The induction is on the size of the set. -/
theorem responseRecords_induction
    (hstep : ∀ (name : String) (members : List Member) (before start : ItemNames)
      (nested : List Declaration) (after : ItemNames), before.claim name c.owner = .ok start →
        RecordsInside P name start nested after →
          P name before (.record none name members :: nested) after)
    {name parent : String} {set : SelectionSet} {names after : ItemNames}
    {records : List Declaration}
    (h : responseRecords c name parent set names = .ok (records, after)) :
    P name names records after := by
  induction hsize : set.size using Nat.strongRecOn generalizing name parent set names after
    records with
  | _ n ih =>
      obtain ⟨start, fields, members, nested, hstart, hfields, hmembers, rfl⟩ :=
        responseRecords_eq_ok h
      apply hstep name members names start nested after hstart
      refine recordsInside_responseMembers
        (fun s hs inside base before here mid hhere => ?_) hmembers
      exact ih _ (hsize ▸ size_lt_of_mergeFields hfields hs) hhere rfl

/-- The names of the records for a set are claimed, none of them twice. -/
theorem claims_responseRecords {name parent : String} {set : SelectionSet}
    {names after : ItemNames} {records : List Declaration}
    (h : responseRecords c name parent set names = .ok (records, after)) :
    Claims names (records.map Declaration.name) after := by
  refine responseRecords_induction
    (P := fun _ before records after => Claims before (records.map Declaration.name) after)
    (fun name members before start nested after hstart hinside => ?_) h
  have hnested : Claims start (nested.map Declaration.name) after := by
    clear hstart
    induction hinside with
    | nil => exact .nil _
    | append hhere _ ih =>
        rw [List.map_append]
        exact hhere.append ih
  exact (Claims.of_claim hstart).append hnested

/-- All that `responseRecords` makes are records, with names that begin with that of the first. -/
theorem record_of_mem_responseRecords {name parent : String} {set : SelectionSet}
    {names after : ItemNames} {records : List Declaration}
    (h : responseRecords c name parent set names = .ok (records, after)) :
    ∀ r ∈ records, ∃ suffix held, r = .record none (name ++ suffix) held := by
  refine responseRecords_induction
    (P := fun name _ records _ => ∀ r ∈ records, ∃ suffix held,
      r = .record none (name ++ suffix) held)
    (fun name members before start nested after hstart hinside => ?_) h
  rw [List.forall_mem_cons]
  refine ⟨⟨"", members, by rw [String.append_empty]⟩, ?_⟩
  clear hstart
  induction hinside with
  | nil => exact List.forall_mem_nil _
  | append hhere _ ih =>
      rw [List.forall_mem_append]
      refine ⟨fun r hr => ?_, ih⟩
      obtain ⟨suffix, held, hname⟩ := hhere r hr
      exact ⟨itemName _ ++ suffix, held, by rw [hname, String.append_assoc]⟩

end

end QueryBindings

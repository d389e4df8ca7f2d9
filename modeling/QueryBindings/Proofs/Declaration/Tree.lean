import QueryBindings.Proofs.Declaration.Failures
import QueryBindings.Proofs.Declaration.Items
import QueryBindings.Proofs.Declaration.Pruning

/-! # Trees of records

The records for an answer are the tree of its response keys: one for every path of keys at which
something is selected, with a member for every key that is selected there.  Keys are merged level
by level, but which records there are and what is in each of them is said here of the whole set.

Main statements: `exists_treeOf` (the records for a set are a tree), from `exists_forestOf` (those
under some of its keys), and `same_of_holds` (fields at one path are the same field with the same
arguments). -/

namespace QueryBindings

/-! ### Keys in order -/

theorem eraseDups_of_nodup {α : Type} [BEq α] [LawfulBEq α] {as : List α} (h : as.Nodup) :
    as.eraseDups = as := by
  induction as with
  | nil => rfl
  | cons a as ih =>
      rw [List.nodup_cons] at h
      have hfilter : as.filter (fun b => !b == a) = as := by
        rw [List.filter_eq_self]
        intro b hb
        have hne : b ≠ a := fun heq => h.1 (heq ▸ hb)
        simpa using hne
      rw [List.eraseDups_cons, hfilter, ih h.2]

theorem nodup_eraseDups {α : Type} [BEq α] [LawfulBEq α] (as : List α) : as.eraseDups.Nodup := by
  induction hlength : as.length using Nat.strongRecOn generalizing as with
  | _ n ih =>
      cases as with
      | nil => exact List.nodup_nil
      | cons a as =>
          rw [List.eraseDups_cons, List.nodup_cons, List.mem_eraseDups, List.mem_filter]
          refine ⟨fun h => by simpa using h.2, ih _ ?_ _ rfl⟩
          rw [← hlength, List.length_cons]
          exact Nat.lt_succ_of_le (List.length_filter_le _ as)

theorem eraseDups_append_cons {α : Type} [BEq α] [LawfulBEq α] {a : α} {as : List α}
    (h : a ∈ as) (bs : List α) : (as ++ a :: bs).eraseDups = (as ++ bs).eraseDups := by
  rw [List.eraseDups_append, List.eraseDups_append]
  unfold List.removeAll
  rw [List.filter_cons_of_neg (by simpa using h)]

/-- The response keys of a set, each where it comes first. -/
def SelectionSet.responseKeys (set : SelectionSet) : List String :=
  (set.fields.map fun e => e.1.responseKey).eraseDups

theorem SelectionSet.mem_responseKeys {set : SelectionSet} {key : String} :
    key ∈ set.responseKeys ↔ ∃ f inner, (f, inner) ∈ set.fields ∧ f.responseKey = key := by
  unfold responseKeys
  rw [List.mem_eraseDups, List.mem_map]
  exact ⟨fun ⟨e, he, hkey⟩ => ⟨e.1, e.2, he, hkey⟩, fun ⟨f, inner, hmem, hkey⟩ =>
    ⟨(f, inner), hmem, hkey⟩⟩

theorem keys_of_mergeField {f : Field} {inner : SelectionSet} {before after : List Selected}
    (h : mergeField f inner before = .ok after) (keys : List String) :
    (after.map Selected.key ++ keys).eraseDups =
      (before.map Selected.key ++ f.responseKey :: keys).eraseDups := by
  rcases mergeField_eq_ok h with ⟨left, s, right, rfl, -, hkey, -, -, rfl⟩ | ⟨-, rfl⟩
  · have hmem : f.responseKey ∈ (left ++ s :: right).map Selected.key := by
      rw [← hkey]
      exact List.mem_map_of_mem (List.mem_append_right _ List.mem_cons_self)
    rw [eraseDups_append_cons hmem]
    simp only [List.map_append, List.map_cons]
    rfl
  · rw [List.map_append, List.append_assoc]
    rfl

/-- `mergeFields` keeps response keys in the order in which they come first. -/
theorem keys_of_mergeFields {set : SelectionSet} {before after : List Selected}
    (hnodup : (before.map Selected.key).Nodup) (h : mergeFields before set = .ok after) :
    after.map Selected.key =
      (before.map Selected.key ++ set.fields.map fun e => e.1.responseKey).eraseDups := by
  induction set generalizing before with
  | nil =>
      obtain rfl : before = after := Except.ok.inj h
      show _ = (before.map Selected.key ++ []).eraseDups
      rw [List.append_nil, eraseDups_of_nodup hnodup]
  | field f inner rest _ ih =>
      unfold mergeFields at h
      split at h
      · cases h
      · rename_i mid hmid
        rw [ih (Merged.of_mergeField hnodup hmid).distinct h, keys_of_mergeField hmid]
        rfl
  | spread s rest _ => cases h
  | inline i inner rest _ _ => cases h

/-! ### Open paths -/

namespace SelectionSet

/-- Something is selected of a field at this path of response keys. -/
def Opens (set : SelectionSet) (keys : List String) : Prop :=
  ∃ path f inner, set.Holds path f inner ∧ inner ≠ nil ∧
    (path ++ [f]).map Field.responseKey = keys

theorem not_opens_nil (set : SelectionSet) : ¬ set.Opens [] := by
  rintro ⟨path, f, inner, -, -, hkeys⟩
  rw [List.map_append] at hkeys
  exact List.append_ne_nil_of_right_ne_nil _ (List.cons_ne_nil _ _) hkeys

/-- A path `Opens` if something is selected under its first key, and what follows opens there. -/
theorem opens_cons_iff {set : SelectionSet} (hflat : set.isFlat = true) {key : String}
    {keys : List String} :
    set.Opens (key :: keys) ↔ set.under key ≠ nil ∧ (keys = [] ∨ (set.under key).Opens keys) := by
  constructor
  · rintro ⟨path, f, inner, hholds, hinner, hkeys⟩
    cases path with
    | nil =>
        rw [List.nil_append, List.map_cons, List.cons.injEq] at hkeys
        refine ⟨fun hnil => hinner ?_, .inl hkeys.2.symm⟩
        exact (under_eq_nil_iff hflat).mp hnil f inner hholds hkeys.1
    | cons e path =>
        rw [List.cons_append, List.map_cons, List.cons.injEq] at hkeys
        have hunder : (set.under key).Holds path f inner :=
          holds_under_iff.mpr ⟨e, hkeys.1, hholds⟩
        refine ⟨fun hnil => ?_, .inr ⟨path, f, inner, hunder, hinner, hkeys.2⟩⟩
        rw [hnil] at hunder
        exact not_holds_nil path f inner hunder
  · rintro ⟨hsome, rfl | ⟨path, f, inner, hholds, hinner, hkeys⟩⟩
    · rw [Ne, under_eq_nil_iff hflat] at hsome
      push Not at hsome
      obtain ⟨f, inner, hmem, hkey, hinner⟩ := hsome
      exact ⟨[], f, inner, hmem, hinner, by rw [← hkey]; rfl⟩
    · obtain ⟨e, hkey, hholds⟩ := holds_under_iff.mp hholds
      exact ⟨e :: path, f, inner, hholds, hinner, by rw [← hkey, ← hkeys]; rfl⟩

theorem mem_responseKeys_of_under {set : SelectionSet} (hflat : set.isFlat = true) {key : String}
    (h : set.under key ≠ nil) : key ∈ set.responseKeys := by
  rw [Ne, under_eq_nil_iff hflat] at h
  push Not at h
  obtain ⟨f, inner, hmem, hkey, -⟩ := h
  exact mem_responseKeys.mpr ⟨f, inner, hmem, hkey⟩

theorem under_eq_nil_of_typename {set : SelectionSet} (hflat : set.isFlat = true)
    (hbare : set.TypenamesBare) {key : String}
    (h : ∀ f below, (f, below) ∈ set.fields → f.responseKey = key → f.name = "__typename") :
    set.under key = nil := by
  rw [under_eq_nil_iff hflat]
  intro f inner hmem hkey
  exact hbare [] f inner hmem (h f inner hmem hkey)

end SelectionSet

/-! ### Trees -/

/-- `r` has a member for every key that is selected at the path `keys`, in order, with the name that
the key is spelled as.  The member for a key that `Opens` holds the record there. -/
def RecordAt (name : String) (set : SelectionSet) (keys : List String) (r : Declaration) : Prop :=
  ∃ members, r = .record none (structName name keys) members ∧
    members.map Member.wireName = (set.underAll keys).responseKeys ∧
    (∀ m ∈ members, m.name = memberName m.wireName) ∧
    ∀ m ∈ members, set.Opens (keys ++ [m.wireName]) →
      m.type.leaf = structName name (keys ++ [m.wireName])

/-- The records at some paths, none of which comes after one that it leads to. -/
structure RecordsAt (name : String) (set : SelectionSet) (paths : List (List String))
    (records : List Declaration) : Prop where
  order : paths.Pairwise fun a b => ¬ b <+: a
  records : List.Forall₂ (RecordAt name set) paths records

/-- The records for a set: one at the root, and one at every path that `Opens`. -/
structure TreeOf (name : String) (set : SelectionSet) (paths : List (List String))
    (records : List Declaration) : Prop extends RecordsAt name set paths records where
  mem_iff : ∀ keys, keys ∈ paths ↔ keys = [] ∨ set.Opens keys

theorem RecordAt.cons {name key : String} {set : SelectionSet} (hflat : set.isFlat = true)
    {keys : List String} {r : Declaration}
    (h : RecordAt (name ++ itemName key) (set.under key) keys r) :
    RecordAt name set (key :: keys) r := by
  obtain ⟨members, hr, hwire, hnames, htypes⟩ := h
  refine ⟨members, hr, hwire, hnames, fun m hm hopens => htypes m hm ?_⟩
  rw [List.cons_append, SelectionSet.opens_cons_iff hflat] at hopens
  exact hopens.2.resolve_left (List.append_ne_nil_of_right_ne_nil _ (List.cons_ne_nil _ _))

theorem RecordsAt.cons {name key : String} {set : SelectionSet} (hflat : set.isFlat = true)
    {paths : List (List String)} {records : List Declaration}
    (h : RecordsAt (name ++ itemName key) (set.under key) paths records) :
    RecordsAt name set (paths.map (key :: ·)) records where
  order := by
    rw [List.pairwise_map]
    exact h.order.imp fun hab hprefix => hab (List.cons_prefix_cons.mp hprefix).2
  records := by
    rw [List.forall₂_map_left_iff]
    exact h.records.imp fun _ _ hrecord => hrecord.cons hflat

theorem RecordsAt.append {name key : String} {set : SelectionSet}
    {paths others : List (List String)} {records there : List Declaration}
    (h : RecordsAt name set (paths.map (key :: ·)) records) (h' : RecordsAt name set others there)
    (hne : ∀ keys, key :: keys ∉ others) (hnil : [] ∉ others) :
    RecordsAt name set (paths.map (key :: ·) ++ others) (records ++ there) where
  order := by
    rw [List.pairwise_append]
    refine ⟨h.order, h'.order, fun a ha b hb hprefix => ?_⟩
    obtain ⟨keys, -, rfl⟩ := List.mem_map.mp ha
    rcases List.prefix_cons_iff.mp hprefix with rfl | ⟨rest, rfl, -⟩
    · exact hnil hb
    · exact hne rest hb
  records := List.rel_append h.records h'.records

/-- The records at the open paths that begin with one of the keys `first`. -/
structure ForestOf (name : String) (set : SelectionSet) (first : List String)
    (paths : List (List String)) (records : List Declaration) : Prop
    extends RecordsAt name set paths records where
  mem_iff : ∀ keys, keys ∈ paths ↔ ∃ key rest, keys = key :: rest ∧ key ∈ first ∧ set.Opens keys

theorem ForestOf.nil (name : String) (set : SelectionSet) : ForestOf name set [] [] [] :=
  ⟨⟨.nil, .nil⟩, by simp⟩

theorem ForestOf.skip {name key : String} {set : SelectionSet} {first : List String}
    {paths : List (List String)} {records : List Declaration}
    (h : ForestOf name set first paths records) (hflat : set.isFlat = true)
    (hnil : set.under key = .nil) : ForestOf name set (key :: first) paths records where
  toRecordsAt := h.toRecordsAt
  mem_iff keys := by
    rw [h.mem_iff]
    refine exists_congr fun k => exists_congr fun rest => and_congr_right ?_
    rintro rfl
    rw [List.mem_cons]
    refine ⟨fun hk => ⟨.inr hk.1, hk.2⟩, fun hk => ⟨hk.1.resolve_left ?_, hk.2⟩⟩
    rintro rfl
    exact ((SelectionSet.opens_cons_iff hflat).mp hk.2).1 hnil

theorem ForestOf.cons {name key : String} {set : SelectionSet} {first : List String}
    {inside paths : List (List String)} {here there : List Declaration}
    (h : ForestOf name set first paths there) (hflat : set.isFlat = true) (hkey : key ∉ first)
    (hsome : set.under key ≠ .nil)
    (htree : TreeOf (name ++ itemName key) (set.under key) inside here) :
    ForestOf name set (key :: first) (inside.map (key :: ·) ++ paths) (here ++ there) where
  toRecordsAt := by
    refine (htree.toRecordsAt.cons hflat).append h.toRecordsAt (fun keys hk => ?_) fun hk => ?_
    · obtain ⟨k, rest, heq, hk, -⟩ := (h.mem_iff _).mp hk
      cases heq
      exact hkey hk
    · obtain ⟨k, rest, heq, -⟩ := (h.mem_iff _).mp hk
      cases heq
  mem_iff keys := by
    rw [List.mem_append, h.mem_iff, List.mem_map]
    constructor
    · rintro (⟨rest, hrest, rfl⟩ | ⟨k, rest, rfl, hk, hopens⟩)
      · refine ⟨key, rest, rfl, List.mem_cons_self, ?_⟩
        exact (SelectionSet.opens_cons_iff hflat).mpr ⟨hsome, (htree.mem_iff rest).mp hrest⟩
      · exact ⟨k, rest, rfl, List.mem_cons_of_mem _ hk, hopens⟩
    · rintro ⟨k, rest, rfl, hk, hopens⟩
      rcases List.mem_cons.mp hk with rfl | hk
      · have hrest := ((SelectionSet.opens_cons_iff hflat).mp hopens).2
        exact .inl ⟨rest, (htree.mem_iff rest).mpr hrest, rfl⟩
      · exact .inr ⟨k, rest, rfl, hk, hopens⟩

/-- A record at the root makes a tree of the records under all keys of a set. -/
theorem ForestOf.treeOf {name : String} {set : SelectionSet} {paths : List (List String)}
    {r : Declaration} {records : List Declaration}
    (h : ForestOf name set set.responseKeys paths records) (hflat : set.isFlat = true)
    (hroot : RecordAt name set [] r) : TreeOf name set ([] :: paths) (r :: records) where
  order := by
    rw [List.pairwise_cons]
    refine ⟨fun keys hk hprefix => ?_, h.order⟩
    obtain ⟨key, rest, rfl, -⟩ := (h.mem_iff keys).mp hk
    cases List.prefix_nil.mp hprefix
  records := .cons hroot h.records
  mem_iff keys := by
    rw [List.mem_cons, h.mem_iff]
    refine or_congr_right ⟨fun ⟨_, _, _, _, hopens⟩ => hopens, fun hopens => ?_⟩
    cases keys with
    | nil => exact absurd hopens (SelectionSet.not_opens_nil set)
    | cons key rest =>
        have hsome := ((SelectionSet.opens_cons_iff hflat).mp hopens).1
        exact ⟨key, rest, rfl, SelectionSet.mem_responseKeys_of_under hflat hsome, hopens⟩

/-! ### Records for a set -/

theorem leaf_of_opens {c : RecordContext} {name parent : String} {set : SelectionSet}
    (hflat : set.isFlat = true) {s : Selected} (hinner : s.inner = set.under s.key)
    (htypename : s.field.name = "__typename" → s.inner = .nil) {names after : ItemNames}
    {m : Member} {records : List Declaration} (h : MemberFor c name parent s names m records after)
    (hopens : set.Opens [m.wireName]) : m.type.leaf = structName name [m.wireName] := by
  rw [h.wireName, SelectionSet.opens_cons_iff hflat, ← hinner] at hopens
  rw [h.wireName]
  cases h with
  | typename hname => exact absurd (htypename hname) hopens.1
  | leaf _ _ hnil => exact absurd hnil hopens.1
  | nested => exact leaf_ofTypeExpr _ _

/-- The records inside those of merged fields are the `ForestOf` their keys. -/
theorem exists_forestOf {c : RecordContext} {name parent : String} {set : SelectionSet}
    (hflat : set.isFlat = true) {fields : List Selected}
    (hdistinct : (fields.map Selected.key).Nodup)
    (hinner : ∀ s ∈ fields, s.inner = set.under s.key)
    (htypename : ∀ s ∈ fields, s.field.name = "__typename" → s.inner = .nil)
    (htree : ∀ s ∈ fields, ∀ inside base before here mid,
      responseRecords c inside base s.inner before = .ok (here, mid) →
        ∃ paths, TreeOf inside s.inner paths here)
    {names after : ItemNames} {members : List Member} {records : List Declaration}
    (h : responseMembers c name parent fields names = .ok (members, records, after)) :
    ∃ paths, ForestOf name set (fields.map Selected.key) paths records := by
  induction fields generalizing names members records with
  | nil =>
      obtain ⟨-, rfl, -⟩ := responseMembers_nil h
      exact ⟨[], .nil name set⟩
  | cons s fields ih =>
      obtain ⟨member, here, mid, others, there, hmember, hrest, rfl, rfl⟩ :=
        responseMembers_cons h
      rw [List.map_cons, List.nodup_cons] at hdistinct
      rw [List.forall_mem_cons] at hinner htypename htree
      obtain ⟨paths, hpaths⟩ := ih hdistinct.2 hinner.2 htypename.2 htree.2 hrest
      cases hmember with
      | typename hname => exact ⟨paths, hpaths.skip hflat (hinner.1.symm.trans (htypename.1 hname))⟩
      | leaf _ _ hnil => exact ⟨paths, hpaths.skip hflat (hinner.1.symm.trans hnil)⟩
      | nested _ _ hsome hrecords =>
          obtain ⟨inside, hinside⟩ := htree.1 _ _ _ _ _ hrecords
          rw [hinner.1] at hsome hinside
          exact ⟨_, hpaths.cons hflat hdistinct.1 hsome hinside⟩

theorem inner_eq_nil_of_typename {set : SelectionSet} (hflat : set.isFlat = true)
    (hbare : set.TypenamesBare) {fields : List Selected} (hmerged : Merged [] set fields)
    {s : Selected} (hs : s ∈ fields) (hname : s.field.name = "__typename") : s.inner = .nil := by
  rw [hmerged.inner_eq hs]
  apply SelectionSet.under_eq_nil_of_typename hflat hbare
  intro f below hmem hkey
  rw [hmerged.name_eq hs hmem hkey, hname]

/-- `responseRecords` makes the `TreeOf` a set whose `__typename`s are bare.  The induction is on
the size of the set. -/
theorem exists_treeOf {c : RecordContext} {name parent : String} {set : SelectionSet}
    (hflat : set.isFlat = true) (hbare : set.TypenamesBare) {names after : ItemNames}
    {records : List Declaration}
    (h : responseRecords c name parent set names = .ok (records, after)) :
    ∃ paths, TreeOf name set paths records := by
  induction hsize : set.size using Nat.strongRecOn generalizing name parent set names after
    records with
  | _ n ih =>
      obtain ⟨start, fields, members, nested, -, hfields, hmembers, rfl⟩ :=
        responseRecords_eq_ok h
      have hmerged := merged_of_mergeFields hfields
      have htypename := fun s (hs : s ∈ fields) =>
        inner_eq_nil_of_typename hflat hbare hmerged hs
      have htree : ∀ s ∈ fields, ∀ inside base before here mid,
          responseRecords c inside base s.inner before = .ok (here, mid) →
            ∃ paths, TreeOf inside s.inner paths here := by
        intro s hs inside base before here mid hhere
        have hlt : s.inner.size < n := hsize ▸ size_lt_of_mergeFields hfields hs
        rw [hmerged.inner_eq hs] at hhere hlt ⊢
        exact ih _ hlt (SelectionSet.isFlat_under s.key hflat) (hbare.under s.key) hhere rfl
      obtain ⟨paths, hforest⟩ := exists_forestOf hflat hmerged.distinct
        (fun s hs => hmerged.inner_eq hs) htypename htree hmembers
      have hkeys : fields.map Selected.key = set.responseKeys :=
        keys_of_mergeFields (show (([] : List Selected).map Selected.key).Nodup from List.nodup_nil)
          hfields
      rw [hkeys] at hforest
      refine ⟨[] :: paths, hforest.treeOf hflat ⟨members, rfl,
        (wireName_members hmembers).trans hkeys, fun m hm => ?_, fun m hm hopens => ?_⟩⟩
      · obtain ⟨s, -, here, before, mid, hfor, -⟩ := exists_field hmembers hm
        rw [hfor.name, hfor.wireName]
      · obtain ⟨s, hs, here, before, mid, hfor, -⟩ := exists_field hmembers hm
        exact leaf_of_opens hflat (hmerged.inner_eq hs) (htypename s hs) hfor hopens

/-- `responseRecords` makes the `TreeOf` the pruned set, whatever is selected of `__typename`. -/
theorem exists_treeOf_pruned {c : RecordContext} {name parent : String} {set : SelectionSet}
    (hflat : set.isFlat = true) {names after : ItemNames} {records : List Declaration}
    (h : responseRecords c name parent set names = .ok (records, after)) :
    ∃ paths, TreeOf name set.pruned paths records := by
  rw [← responseRecords_pruned] at h
  exact exists_treeOf (SelectionSet.isFlat_pruned hflat) (SelectionSet.typenamesBare_pruned set) h

/-! ### Conflicts -/

/-- Two fields with the response key `key`, at one path of keys, conflict. -/
def SelectionSet.ConflictsAt (set : SelectionSet) (key : String) : Prop :=
  ∃ path path' f g inner inner', set.Holds path f inner ∧ set.Holds path' g inner' ∧
    path.map Field.responseKey = path'.map Field.responseKey ∧ f.Conflicts g ∧ g.responseKey = key

theorem exists_records_under {c : RecordContext} {name parent : String} {set : SelectionSet}
    (hflat : set.isFlat = true) (hbare : set.TypenamesBare) {names after : ItemNames}
    {records : List Declaration}
    (h : responseRecords c name parent set names = .ok (records, after)) {key : String}
    (hsome : set.under key ≠ .nil) :
    ∃ base before here mid, responseRecords c (name ++ itemName key) base (set.under key) before =
      .ok (here, mid) := by
  obtain ⟨start, fields, members, nested, -, hfields, hmembers, rfl⟩ := responseRecords_eq_ok h
  have hmerged := merged_of_mergeFields hfields
  obtain ⟨s, hs, rfl⟩ := hmerged.exists_of_under hsome
  obtain ⟨member, here, before, mid, hmember, -⟩ := exists_member hmembers hs
  rw [← hmerged.inner_eq hs] at hsome ⊢
  cases hmember with
  | typename hname => exact absurd (inner_eq_nil_of_typename hflat hbare hmerged hs hname) hsome
  | leaf _ _ hnil => exact absurd hnil hsome
  | nested _ _ _ hrecords => exact ⟨_, before, here, mid, hrecords⟩

/-- If there are records for a set, fields at one path are the same field with the same arguments.
The induction is on the path: under its first key are the records for the rest. -/
theorem same_of_holds {c : RecordContext} {name parent : String} {set : SelectionSet}
    (hflat : set.isFlat = true) (hbare : set.TypenamesBare) {names after : ItemNames}
    {records : List Declaration}
    (h : responseRecords c name parent set names = .ok (records, after)) {path path' : List Field}
    {f g : Field} {inner inner' : SelectionSet} (hf : set.Holds path f inner)
    (hg : set.Holds path' g inner')
    (hkeys : path.map Field.responseKey = path'.map Field.responseKey)
    (hkey : f.responseKey = g.responseKey) : f.name = g.name ∧ f.arguments = g.arguments := by
  induction path generalizing name parent set names after records path' with
  | nil =>
      obtain rfl : path' = [] := List.map_eq_nil_iff.mp hkeys.symm
      obtain ⟨start, fields, members, nested, -, hfields, -⟩ := responseRecords_eq_ok h
      have hmerged := merged_of_mergeFields hfields
      obtain ⟨s, hs, hskey, hsname, hsarguments⟩ := hmerged.covered f inner hf
      obtain ⟨t, ht, htkey, htname, htarguments⟩ := hmerged.covered g inner' hg
      obtain rfl : s = t :=
        List.inj_on_of_nodup_map hmerged.distinct hs ht (by rw [hskey, htkey, hkey])
      exact ⟨hsname.symm.trans htname, hsarguments.symm.trans htarguments⟩
  | cons e path ih =>
      cases path' with
      | nil => cases hkeys
      | cons e' path' =>
          rw [List.map_cons, List.map_cons, List.cons.injEq] at hkeys
          have hf' := SelectionSet.holds_under_iff.mpr ⟨e, rfl, hf⟩
          have hg' := SelectionSet.holds_under_iff.mpr ⟨e', hkeys.1.symm, hg⟩
          have hsome : set.under e.responseKey ≠ .nil := by
            intro hnil
            rw [hnil] at hf'
            exact SelectionSet.not_holds_nil path f inner hf'
          obtain ⟨base, before, here, mid, hrecords⟩ := exists_records_under hflat hbare h hsome
          exact ih (SelectionSet.isFlat_under _ hflat) (hbare.under _) hrecords hf' hg' hkeys.2

theorem not_conflictsAt_of_responseRecords {c : RecordContext} {name parent : String} {set : SelectionSet}
    (hflat : set.isFlat = true) (hbare : set.TypenamesBare) {names after : ItemNames}
    {records : List Declaration}
    (h : responseRecords c name parent set names = .ok (records, after)) (key : String) :
    ¬ set.ConflictsAt key := by
  rintro ⟨path, path', f, g, inner, inner', hf, hg, hkeys, ⟨hkey, hdiffer⟩, -⟩
  exact hdiffer (same_of_holds hflat hbare h hf hg hkeys hkey)

end QueryBindings

import Mathlib.Logic.Relation
import QueryBindings.Generation
import QueryBindings.Proofs.SchemaKeys

/-! # Types in use

The types that operations use are those that their variables and selected fields name, and with an
input object all that its fields lead to.  They are collected depth first into a set that also
stops the search: `Collects` tells of it without a bound on its depth.  Whatever the order, the set
ends up as what the named types lead to (`Pulls`).

Main statements: `collects_addTypesInUse` (the search comes to an end by itself, and `addTypeInUse`
is that search), `contains_addTypesInUse_iff` (what a search from an empty set holds) and
`contains_referencedTypes_iff` (the types that operations use). -/

namespace QueryBindings

/-! ### Sets of names -/

namespace Table

variable {α : Type}

theorem contains_iff_mem_keys (t : Table α) (key : String) :
    t.contains key = true ↔ key ∈ t.keys := by
  rw [contains_iff]
  constructor
  · rintro ⟨value, h⟩
    exact mem_keys_of_get? h
  · intro h
    obtain ⟨e, he, rfl⟩ := List.mem_map.mp h
    exact ⟨e.2, get?_of_mem_entries he⟩

theorem contains_ofList_iff {pairs : List (String × α)} (key : String) :
    (ofList pairs).contains key = true ↔ key ∈ pairs.map Prod.fst := by
  have hfold : ∀ (pairs : List (String × α)) (t : Table α),
      (pairs.foldl (fun t e => t.insert e.1 e.2) t).contains key = true ↔
        t.contains key = true ∨ key ∈ pairs.map Prod.fst := by
    intro pairs
    induction pairs with
    | nil => simp
    | cons head rest ih =>
        intro t
        rw [List.foldl_cons, ih, Schema.contains_insert, Bool.or_eq_true, decide_eq_true_iff,
          List.map_cons, List.mem_cons, or_comm (a := key = head.1), or_assoc]
  exact (hfold pairs empty).trans (or_iff_right nofun)

end Table

theorem NameSet.ext {a b : NameSet} (h : ∀ n, a.contains n = true ↔ b.contains n = true) :
    a = b := by
  refine Table.ext fun n => ?_
  have hn := h n
  rw [Table.contains_iff, Table.contains_iff] at hn
  cases ha : a.get? n with
  | some here =>
      obtain ⟨there, hthere⟩ := hn.mp ⟨here, ha⟩
      exact hthere.symm
  | none =>
      cases hb : b.get? n with
      | some there =>
          obtain ⟨here, hhere⟩ := hn.mpr ⟨there, hb⟩
          rw [ha] at hhere
          cases hhere
      | none => rfl

namespace Schema

variable {s : Schema}

/-! ### The search -/

/-- The types that come with a type: those of its fields, if it is an input object. -/
def pulled (s : Schema) (name : String) : List String :=
  match s.type? name with
  | some d => if d.kind = .inputObject then d.fields.map (·.type.baseName) else []
  | none => []

/-- `b` comes with `a`. -/
def Pulls (s : Schema) (a b : String) : Prop := b ∈ s.pulled a

def unseen (s : Schema) (seen : NameSet) : List String :=
  s.types.keys.filter fun n => !seen.contains n

theorem length_unseen_le {before after : NameSet}
    (h : ∀ n, before.contains n = true → after.contains n = true) :
    (s.unseen after).length ≤ (s.unseen before).length := by
  refine (List.monotone_filter_right _ fun n hn => ?_).length_le
  cases hbefore : before.contains n with
  | false => rfl
  | true =>
      rw [h n hbefore] at hn
      cases hn

theorem length_unseen_insert_lt {seen : NameSet} {name : String} (hnew : seen.contains name = false)
    {d : Definition} (htype : s.type? name = some d) :
    (s.unseen (seen.insert name ())).length < (s.unseen seen).length := by
  refine Table.length_filter_keys_lt htype (by rw [hnew]; rfl) fun n => ?_
  rw [contains_insert, Bool.not_or, ← decide_not]

/-- A search over `names`, one after another, that starts from the set `seen` and ends with the set
`after`.  A name that is in the set is passed over; any other one is put there first, and then all
that it pulls is searched.  Nothing bounds how deep the search goes. -/
inductive Collects (s : Schema) : (seen : NameSet) → (names : List String) → (after : NameSet) → Prop
  | nil {seen : NameSet} : Collects s seen [] seen
  | again {seen after : NameSet} {name : String} {rest : List String}
      (hseen : seen.contains name = true) (hrest : Collects s seen rest after) :
      Collects s seen (name :: rest) after
  | enter {seen mid after : NameSet} {name : String} {rest : List String}
      (hnew : seen.contains name = false)
      (hinside : Collects s (seen.insert name ()) (s.pulled name) mid)
      (hrest : Collects s mid rest after) : Collects s seen (name :: rest) after

/-- From the set `before` a search over `names` came to the set `after`. -/
structure Added (s : Schema) (before : NameSet) (names : List String) (after : NameSet) :
    Prop where
  kept : ∀ n, before.contains n = true → after.contains n = true
  /-- The names are there now. -/
  covered : ∀ n ∈ names, after.contains n = true
  /-- With what is new all that comes with it is there. -/
  closed : ∀ n, after.contains n = true →
    before.contains n = true ∨ ∀ m, s.Pulls n m → after.contains m = true
  /-- There is nothing new but what the names lead to. -/
  least : ∀ n, after.contains n = true →
    before.contains n = true ∨ ∃ m ∈ names, Relation.ReflTransGen s.Pulls m n

theorem Added.nil (s : Schema) (before : NameSet) : Added s before [] before :=
  ⟨fun _ h => h, nofun, fun _ h => .inl h, fun _ h => .inl h⟩

theorem Added.skip {before : NameSet} {name : String} (h : before.contains name = true) :
    Added s before [name] before :=
  ⟨fun _ h => h, List.forall_mem_singleton.mpr h, fun _ h => .inl h, fun _ h => .inl h⟩

theorem Added.append {before mid after : NameSet} {names others : List String}
    (h : Added s before names mid) (h' : Added s mid others after) :
    Added s before (names ++ others) after := by
  refine ⟨fun n hn => h'.kept n (h.kept n hn), ?_, fun n hn => ?_, fun n hn => ?_⟩
  · rw [List.forall_mem_append]
    exact ⟨fun n hn => h'.kept n (h.covered n hn), h'.covered⟩
  · rcases h'.closed n hn with hmid | hpulled
    · exact (h.closed n hmid).imp_right fun hpulled m hm => h'.kept m (hpulled m hm)
    · exact .inr hpulled
  · rcases h'.least n hn with hmid | ⟨m, hm, hlead⟩
    · refine (h.least n hmid).imp_right fun ⟨m, hm, hlead⟩ => ?_
      exact ⟨m, List.mem_append_left _ hm, hlead⟩
    · exact .inr ⟨m, List.mem_append_right _ hm, hlead⟩

theorem Added.name {before after : NameSet} {name : String}
    (h : Added s (before.insert name ()) (s.pulled name) after) :
    Added s before [name] after := by
  have hinsert : ∀ n, (before.insert name ()).contains n = true ↔
      n = name ∨ before.contains n = true := by
    intro n
    rw [contains_insert, Bool.or_eq_true, decide_eq_true_iff]
  refine ⟨fun n hn => h.kept n ((hinsert n).mpr (.inr hn)),
    List.forall_mem_singleton.mpr (h.kept name ((hinsert name).mpr (.inl rfl))),
    fun n hn => ?_, fun n hn => ?_⟩
  · rcases h.closed n hn with hn | hpulled
    · rcases (hinsert n).mp hn with rfl | hn
      · exact .inr fun m hm => h.covered m hm
      · exact .inl hn
    · exact .inr hpulled
  · rcases h.least n hn with hn | ⟨m, hm, hlead⟩
    · rcases (hinsert n).mp hn with rfl | hn
      · exact .inr ⟨n, List.mem_singleton_self n, .refl⟩
      · exact .inl hn
    · exact .inr ⟨name, List.mem_singleton_self name, .head hm hlead⟩

namespace Collects

variable {seen mid after after' : NameSet} {names others : List String}

/-- A search ends with one set only. -/
theorem unique (h : s.Collects seen names after) (h' : s.Collects seen names after') :
    after = after' := by
  induction h generalizing after' with
  | nil =>
      cases h'
      rfl
  | again hseen _ ih =>
      cases h' with
      | again _ hrest => exact ih hrest
      | enter hnew => cases hseen.symm.trans hnew
  | enter hnew _ _ ihinside ihrest =>
      cases h' with
      | again hseen => cases hseen.symm.trans hnew
      | enter _ hinside hrest =>
          cases ihinside hinside
          exact ihrest hrest

theorem append (h : s.Collects seen names mid) (h' : s.Collects mid others after) :
    s.Collects seen (names ++ others) after := by
  induction h with
  | nil => exact h'
  | again hseen _ ih => exact .again hseen (ih h')
  | enter hnew hinside _ _ ih => exact .enter hnew hinside (ih h')

theorem added (h : s.Collects seen names after) : Added s seen names after := by
  induction h with
  | nil => exact .nil s _
  | again hseen _ ih => exact (Added.skip hseen).append ih
  | enter _ _ _ ihinside ihrest => exact (Added.name ihinside).append ihrest

end Collects

/-- Several names are searched by `add` for each of them.  What `add` needs of the set at one name
it needs of every larger set too. -/
theorem collects_foldl {add : NameSet → String → NameSet} (needs : NameSet → Prop)
    (hneeds : ∀ before after : NameSet,
      (∀ n, before.contains n = true → after.contains n = true) → needs before → needs after)
    (hadd : ∀ seen name, needs seen → s.Collects seen [name] (add seen name))
    (names : List String) {seen : NameSet} (h : needs seen) :
    s.Collects seen names (names.foldl add seen) := by
  induction names generalizing seen with
  | nil => exact .nil
  | cons name rest ih =>
      have hhere := hadd seen name h
      exact hhere.append (ih (hneeds seen _ hhere.added.kept h))

/-- `addUsed` is the search, as there are never more types to be seen than it may go deep. -/
theorem collects_addUsed {depth : Nat} {seen : NameSet} (name : String)
    (hdepth : (s.unseen seen).length ≤ depth) :
    s.Collects seen [name] (s.addUsed depth seen name) := by
  induction depth generalizing seen name with
  | zero =>
      unfold addUsed
      split
      · rename_i hseen
        exact .again hseen .nil
      · rename_i hnew
        rw [Bool.not_eq_true] at hnew
        refine .enter hnew ?_ .nil
        cases htype : s.type? name with
        | some d => exact absurd (length_unseen_insert_lt hnew htype) (by omega)
        | none =>
            unfold pulled
            rw [htype]
            exact .nil
  | succ depth ih =>
      unfold addUsed
      split
      · rename_i hseen
        exact .again hseen .nil
      · rename_i hnew
        rw [Bool.not_eq_true] at hnew
        refine .enter hnew ?_ .nil
        unfold pulled
        cases htype : s.type? name with
        | none => exact .nil
        | some d =>
            dsimp only
            split
            · have hless := length_unseen_insert_lt hnew htype
              rw [← List.foldl_map]
              refine collects_foldl (fun seen => (s.unseen seen).length ≤ depth)
                (fun before after hkept hle => Nat.le_trans (length_unseen_le hkept) hle)
                (fun seen n hle => ih n hle) _ ?_
              omega
            · exact .nil

theorem collects_addTypeInUse (seen : NameSet) (name : String) :
    s.Collects seen [name] (s.addTypeInUse seen name) := by
  refine collects_addUsed name ?_
  have hle : (s.unseen seen).length ≤ s.types.keys.length := List.length_filter_le _ _
  have hsize : s.types.keys.length = s.types.size := List.length_map _
  omega

/-- From every set and over all names the search comes to an end, which is what `addTypeInUse` makes
of the names in order. -/
theorem collects_addTypesInUse (seen : NameSet) (names : List String) :
    s.Collects seen names (names.foldl s.addTypeInUse seen) :=
  collects_foldl (fun _ => True) (fun _ _ _ h => h)
    (fun seen name _ => collects_addTypeInUse seen name) names trivial

theorem collects_iff {seen after : NameSet} {names : List String} :
    s.Collects seen names after ↔ after = names.foldl s.addTypeInUse seen := by
  constructor
  · intro h
    exact h.unique (collects_addTypesInUse seen names)
  · rintro rfl
    exact collects_addTypesInUse seen names

/-- From an empty set the search comes to what the names lead to by `Pulls`. -/
theorem contains_addTypesInUse_iff {names : List String} {n : String} :
    (names.foldl s.addTypeInUse ∅).contains n = true ↔
      ∃ m ∈ names, Relation.ReflTransGen s.Pulls m n := by
  have hadded := (collects_addTypesInUse (s := s) ∅ names).added
  constructor
  · intro hn
    exact (hadded.least n hn).resolve_left nofun
  · rintro ⟨m, hm, hlead⟩
    induction hlead with
    | refl => exact hadded.covered m hm
    | tail _ hstep ih => exact (hadded.closed _ ih).resolve_left nofun _ hstep

/-! ### What operations name -/

/-- The types of the fields that are selected in the scope of the type `scope`. -/
def selectedTypes (s : Schema) : (scope : String) → SelectionSet → List String
  | _, .nil => []
  | scope, .field f inner rest =>
    (match s.findField? scope f.name with
    | none => []
    | some d => d.type.baseName :: selectedTypes s d.type.baseName inner) ++
      selectedTypes s scope rest
  | scope, .spread _ rest => selectedTypes s scope rest
  | scope, .inline i inner rest =>
    selectedTypes s (i.condition.getD scope) inner ++ selectedTypes s scope rest

/-- The types of the variables and of the selected fields of an operation. -/
def namedTypes (s : Schema) (o : Operation) : List String :=
  o.parameters.map (·.type.baseName) ++
    match s.rootName? o.kind with
    | some root => s.selectedTypes root o.selections
    | none => []

theorem addSelected_eq (set : SelectionSet) (scope : String) (seen : NameSet) :
    s.addSelected scope set seen = (s.selectedTypes scope set).foldl s.addTypeInUse seen := by
  induction set generalizing scope seen with
  | nil => rfl
  | field f inner rest ihinner ihrest =>
      unfold addSelected selectedTypes
      rw [List.foldl_append]
      cases s.findField? scope f.name with
      | none => exact ihrest scope seen
      | some d =>
          dsimp only
          rw [List.foldl_cons, ← ihinner, ← ihrest]
  | spread sp rest ih => exact ih scope seen
  | inline i inner rest ihinner ihrest =>
      unfold addSelected selectedTypes
      rw [List.foldl_append, ← ihinner, ← ihrest]

theorem addOperation_eq (seen : NameSet) (o : Operation) :
    s.addOperation seen o = (s.namedTypes o).foldl s.addTypeInUse seen := by
  unfold addOperation namedTypes
  dsimp only
  rw [List.foldl_append, List.foldl_map]
  cases s.rootName? o.kind with
  | some root => exact addSelected_eq _ _ _
  | none => rfl

/-- `addOperation` for each of the operations is one search over their `namedTypes`. -/
theorem foldl_addOperation (seen : NameSet) (os : List Operation) :
    os.foldl s.addOperation seen = (os.flatMap s.namedTypes).foldl s.addTypeInUse seen := by
  rw [List.foldl_flatMap]
  congr 1
  funext seen o
  exact addOperation_eq seen o

/-- `referencedTypes` is what the search ends with, as far as it is a type that is not builtin. -/
theorem contains_referencedTypes_of_collects {os : List Operation} {seen : NameSet}
    (h : s.Collects ∅ (os.flatMap s.namedTypes) seen) {n : String} :
    (s.referencedTypes os).contains n = true ↔ seen.contains n = true ∧ s.isOwnType n = true := by
  rw [collects_iff] at h
  subst h
  unfold referencedTypes
  dsimp only
  rw [Table.contains_ofList_iff, foldl_addOperation, Table.contains_iff_mem_keys]
  constructor
  · intro h
    obtain ⟨e, he, rfl⟩ := List.mem_map.mp h
    obtain ⟨hmem, hown⟩ := List.mem_filter.mp he
    exact ⟨List.mem_map_of_mem hmem, hown⟩
  · rintro ⟨hmem, hown⟩
    obtain ⟨e, he, rfl⟩ := List.mem_map.mp hmem
    exact List.mem_map_of_mem (List.mem_filter.mpr ⟨he, hown⟩)

/-- A type is among the `referencedTypes` exactly if it is not builtin and what an operation names
leads to it. -/
theorem contains_referencedTypes_iff {os : List Operation} {n : String} :
    (s.referencedTypes os).contains n = true ↔
      s.isOwnType n = true ∧ ∃ o ∈ os, ∃ m ∈ s.namedTypes o, Relation.ReflTransGen s.Pulls m n := by
  rw [contains_referencedTypes_of_collects (collects_addTypesInUse ∅ _), contains_addTypesInUse_iff,
    and_comm]
  simp only [List.mem_flatMap]
  exact and_congr_right fun _ =>
    ⟨fun ⟨m, ⟨o, ho, hm⟩, hlead⟩ => ⟨o, ho, m, hm, hlead⟩,
      fun ⟨o, ho, m, hm, hlead⟩ => ⟨m, ⟨o, ho, hm⟩, hlead⟩⟩

/-- `ownTypes` are all types but builtin ones. -/
theorem contains_ownTypes_iff (h : s.Keyed) {n : String} :
    s.ownTypes.contains n = true ↔ s.isOwnType n = true := by
  unfold ownTypes isOwnType
  rw [Table.contains_ofList_iff, List.map_map, List.mem_map]
  constructor
  · rintro ⟨d, hd, rfl⟩
    obtain ⟨hvalue, hown⟩ := List.mem_filter.mp hd
    obtain ⟨key, hkey⟩ := Table.mem_values_iff.mp hvalue
    have hname : d.name = key := h key d hkey
    have htype : s.type? d.name = some d := hname ▸ hkey
    show (match s.type? d.name with | some d => !d.builtin | none => false) = true
    rw [htype]
    exact hown
  · intro hown
    split at hown
    · rename_i d htype
      refine ⟨d, List.mem_filter.mpr ⟨Table.mem_values_iff.mpr ⟨n, htype⟩, hown⟩, h n d htype⟩
    · cases hown

/-- `referencedTypes` does not depend on the order of the operations. -/
theorem referencedTypes_of_perm {os ps : List Operation} (h : os.Perm ps) :
    s.referencedTypes os = s.referencedTypes ps := by
  refine NameSet.ext fun n => ?_
  rw [contains_referencedTypes_iff, contains_referencedTypes_iff]
  exact and_congr_right fun _ => exists_congr fun o => and_congr_left fun _ => h.mem_iff

end Schema

end QueryBindings

import QueryBindings.Proofs.Places

/-! # Dangling references

When a schema cannot be assembled, the reference that is reported is the one at the first place
where the name is not that of a type.  When it can, the index of possible types names types only,
as all that it names is referred to somewhere.

Main statement: `assembled_iff_defined`. -/

namespace QueryBindings

namespace Collected

/-- The name at the place `p` is not that of a type, but all names at places `Before` it are. -/
structure FirstDangling (c : Collected) (p : Place) (name : String) : Prop where
  named : p.name? c = some name
  dangling : ¬ c.Defines name
  first : ∀ (q : Place) m, q.Before p → q.name? c = some m → c.Defines m

/-- `outcome` is a schema exactly if the name at every `Place` is that of a type, and the schema
`Shows` what was collected; else it is the error `unknownType` of the `FirstDangling` name. -/
structure Decides (c : Collected) (outcome : Except Error Schema) : Prop where
  ok : (∃ s, outcome = .ok s) ↔ ∀ (p : Place) name, p.name? c = some name → c.Defines name
  shows : ∀ s, outcome = .ok s → s.Shows c
  error : ∀ e, outcome = .error e ↔
    ∃ p name, c.FirstDangling p name ∧ e = .unknownType p.holder name

end Collected

/-! ### The first dangling reference -/

namespace Schema

/-- `references` are the names at the places of `placed`, each with what holds the place. -/
theorem Shows.references_eq {s : Schema} {c : Collected} (h : s.Shows c) :
    s.references = s.placed.map fun r => (r.1.holder, r.2) := by
  have htypes : ∀ e ∈ s.types.entries,
      e.2.references.map (e.2.name, ·) = (e.2.placed e.1).map fun r => (r.1.holder, r.2) := by
    intro e he
    have hname := Collected.name_of_type? ((h.types e.1).symm.trans (Table.get?_of_mem_entries he))
    rw [Definition.map_placed, hname]
  have hdirectives : ∀ e ∈ s.directives.entries,
      (e.2.arguments.map fun a => ("@" ++ e.2.name, a.type.baseName)) =
        (e.2.placed e.1).map fun r => (r.1.holder, r.2) := by
    intro e he
    have hname := Collected.name_of_directive?
      ((h.directives e.1).symm.trans (Table.get?_of_mem_entries he))
    rw [DirectiveDefinition.map_placed, hname]
  unfold references placed Table.values
  rw [List.map_append, List.map_append, List.map_filterMap, List.map_flatMap, List.map_flatMap,
    List.flatMap_map, List.flatMap_map]
  refine congrArg₂ (· ++ ·) (congrArg₂ (· ++ ·) ?_ ?_) ?_
  · refine List.filterMap_congr fun kind _ => ?_
    rw [Option.map_map]
    rfl
  · exact List.flatMap_congr fun e he => htypes e he
  · exact List.flatMap_congr fun e he => hdirectives e he

theorem Shows.contains_iff {s : Schema} {c : Collected} (h : s.Shows c) {n : String} :
    s.types.contains n = true ↔ c.Defines n := by
  rw [Table.contains_iff, Collected.defines_iff, ← h.types]
  rfl

theorem assemble_eq_error {s : Schema} {e : Error} :
    s.assemble = .error e ↔
      ∃ r, s.references.find? (fun r => !s.types.contains r.2) = some r ∧
        e = .unknownType r.1 r.2 := by
  have htypes : s.indexPossible.types = s.types := by
    rw [s.indexPossible_eq]
  unfold assemble danglingReference?
  dsimp only
  rw [references_indexPossible, htypes]
  cases s.references.find? fun r => !s.types.contains r.2 with
  | none => exact iff_of_false nofun nofun
  | some r =>
      constructor
      · intro h
        cases h
        exact ⟨r, rfl, rfl⟩
      · rintro ⟨_, heq, rfl⟩
        cases heq
        rfl

theorem Shows.find?_placed {s : Schema} {c : Collected} (h : s.Shows c) {p : Place} {n : String} :
    s.placed.find? (fun r => !s.types.contains r.2) = some (p, n) ↔ c.FirstDangling p n := by
  have hdangling : ∀ m, (!s.types.contains m) = true ↔ ¬ c.Defines m := fun m => by
    rw [← h.contains_iff, Bool.not_eq_true', Bool.not_eq_true]
  have hdefined : ∀ m, (!s.types.contains m) = false ↔ c.Defines m := fun m => by
    rw [← h.contains_iff, Bool.not_eq_false']
  rw [find?_eq_some_iff_of_pairwise (fun _ _ hab => hab.asymm) s.pairwise_placed, h.mem_placed,
    hdangling]
  constructor
  · rintro ⟨hnamed, hnone, hfirst⟩
    exact ⟨hnamed, hnone, fun q m hq hm => (hdefined m).mp (hfirst (q, m) (h.mem_placed.mpr hm) hq)⟩
  · rintro ⟨hnamed, hnone, hfirst⟩
    exact ⟨hnamed, hnone, fun r hr hq =>
      (hdefined r.2).mpr (hfirst r.1 r.2 hq (h.mem_placed.mp hr))⟩

/-- What was collected `Decides` what becomes of a schema that shows it. -/
theorem Shows.decides {s : Schema} {c : Collected} (h : s.Shows c) : c.Decides s.assemble := by
  refine ⟨?_, fun t ht => ?_, fun e => ?_⟩
  · have hreferences : (∀ r ∈ s.references, s.types.contains r.2 = true) ↔
        ∀ (p : Place) name, p.name? c = some name → c.Defines name := by
      rw [h.references_eq, List.forall_mem_map]
      exact ⟨fun hall p n hn => h.contains_iff.mp (hall (p, n) (h.mem_placed.mpr hn)),
        fun hall r hr => h.contains_iff.mpr (hall r.1 r.2 (h.mem_placed.mp hr))⟩
    rw [← hreferences]
    exact ⟨fun ⟨t, ht⟩ => (assemble_eq_ok.mp ht).2, fun hall => ⟨_, assemble_eq_ok.mpr ⟨rfl, hall⟩⟩⟩
  · obtain ⟨rfl, -⟩ := assemble_eq_ok.mp ht
    exact h.indexPossible
  · rw [assemble_eq_error, h.references_eq, List.find?_map]
    constructor
    · rintro ⟨r, hr, rfl⟩
      obtain ⟨⟨p, n⟩, hfind, rfl⟩ := Option.map_eq_some_iff.mp hr
      exact ⟨p, n, h.find?_placed.mp hfind, rfl⟩
    · rintro ⟨p, n, hfirst, rfl⟩
      have hfind := h.find?_placed.mpr hfirst
      exact ⟨(p.holder, n), Option.map_eq_some_iff.mpr ⟨(p, n), hfind, rfl⟩, rfl⟩

/-! ### Recorded names -/

/-- `types` and `directives` are keyed by names, and the index of possible types names types only,
of which every one is found. -/
structure Whole (s : Schema) : Prop where
  types : ∀ key d, s.types.get? key = some d → d.name = key
  directives : ∀ key d, s.directives.get? key = some d → d.name = key
  keys : ∀ n, s.possible.contains n = true → s.types.contains n = true
  recorded : ∀ n, ∀ m ∈ s.possibleNames n, ∃ d, s.type? m = some d
  found : ∀ n, (s.possibleTypes n).map (·.name) = s.possibleNames n

/-- The index of possible types names types only. -/
structure Indexed (s : Schema) : Prop where
  keys : ∀ n, s.possible.contains n = true → s.types.contains n = true
  names : ∀ n, ∀ m ∈ s.possibleNames n, s.types.contains m = true

theorem contains_possible_foldl {s : Schema} {pairs : List (String × String)} {n : String}
    (h : (pairs.foldl (fun s p => s.addPossible p.1 p.2) s).possible.contains n = true) :
    s.possible.contains n = true ∨ ∃ m, (n, m) ∈ pairs := by
  induction pairs generalizing s with
  | nil => exact .inl h
  | cons p rest ih =>
      rcases ih h with hstep | ⟨m, hm⟩
      · unfold addPossible at hstep
        dsimp only at hstep
        rw [contains_insert, Bool.or_eq_true, decide_eq_true_eq] at hstep
        rcases hstep with rfl | hold
        · exact .inr ⟨p.2, List.mem_cons_self⟩
        · exact .inl hold
      · exact .inr ⟨m, List.mem_cons_of_mem _ hm⟩

/-- What `standIns` gives: an object for itself and its interfaces, the members of a union for it.
-/
theorem mem_standIns_iff {d : Definition} {n m : String} :
    (n, m) ∈ d.standIns ↔
      (d.kind = .object ∧ m = d.name ∧ (n = d.name ∨ n ∈ d.interfaces)) ∨
        (d.kind = .union ∧ n = d.name ∧ m ∈ d.members) := by
  unfold Definition.standIns
  cases d.kind with
  | object =>
      simp only [List.mem_cons, List.mem_map, Prod.ext_iff]
      grind
  | union =>
      simp only [List.mem_map, Prod.ext_iff]
      grind
  | scalar | interface | enum | inputObject => simp

theorem indexed_indexPossible {s : Schema} (hkeyed : s.Keyed) (hpossible : s.possible = ∅)
    (hreferences : ∀ r ∈ s.references, s.types.contains r.2 = true) : s.indexPossible.Indexed := by
  have htypes : s.indexPossible.types = s.types := by
    rw [s.indexPossible_eq]
  have hpairs : ∀ n m, (n, m) ∈ s.types.values.flatMap (·.standIns) →
      s.types.contains n = true ∧ s.types.contains m = true := by
    intro n m hp
    obtain ⟨d, hd, hp⟩ := List.mem_flatMap.mp hp
    have hself : s.types.contains d.name = true := by
      obtain ⟨key, hkey⟩ := Table.mem_values_iff.mp hd
      rw [hkeyed key d hkey]
      exact (s.types.contains_iff key).mpr ⟨d, hkey⟩
    have hnamed : ∀ k ∈ d.interfaces ++ d.members, s.types.contains k = true := by
      intro k hk
      refine hreferences (d.name, k) (List.mem_append_left _ (List.mem_append_right _ ?_))
      exact List.mem_flatMap.mpr ⟨d, hd, List.mem_map_of_mem (List.mem_append_left _ hk)⟩
    rcases mem_standIns_iff.mp hp with ⟨-, rfl, rfl | hn⟩ | ⟨-, rfl, hm⟩
    · exact ⟨hself, hself⟩
    · exact ⟨hnamed n (List.mem_append_left _ hn), hself⟩
    · exact ⟨hself, hnamed m (List.mem_append_right _ hm)⟩
  refine ⟨fun n hn => ?_, fun n m hm => ?_⟩
  · rw [htypes]
    rcases contains_possible_foldl hn with hn | ⟨m, hp⟩
    · rw [hpossible] at hn
      cases hn
    · exact (hpairs n m hp).1
  · rw [htypes]
    rcases mem_possibleNames_foldl.mp hm with hm | hp
    · unfold possibleNames at hm
      rw [hpossible] at hm
      exact absurd hm List.not_mem_nil
    · exact (hpairs n m hp).2

theorem Keyed.map_name_filterMap {s : Schema} (h : s.Keyed) {names : List String}
    (hnames : ∀ m ∈ names, ∃ d, s.type? m = some d) :
    (names.filterMap s.type?).map (·.name) = names := by
  induction names with
  | nil => rfl
  | cons m rest ih =>
      obtain ⟨⟨d, hd⟩, hrest⟩ := List.forall_mem_cons.mp hnames
      rw [List.filterMap_cons, hd]
      dsimp only
      rw [List.map_cons, ih hrest, h m d hd]

theorem whole_indexPossible {s : Schema} (hkeyed : s.Keyed)
    (hdirectives : ∀ key d, s.directives.get? key = some d → d.name = key)
    (hpossible : s.possible = ∅)
    (hreferences : ∀ r ∈ s.references, s.types.contains r.2 = true) : s.indexPossible.Whole := by
  have hindexed := indexed_indexPossible hkeyed hpossible hreferences
  have hsame := s.indexPossible_eq
  have hkeyed' : s.indexPossible.Keyed := fun n d hd => by
    rw [type?_indexPossible] at hd
    exact hkeyed n d hd
  have hrecorded : ∀ n, ∀ m ∈ s.indexPossible.possibleNames n,
      ∃ d, s.indexPossible.type? m = some d := fun n m hm =>
    (Table.contains_iff _ m).mp (hindexed.names n m hm)
  refine ⟨hkeyed', fun key d hd => ?_, hindexed.keys, hrecorded, fun n => ?_⟩
  · rw [hsame] at hd
    exact hdirectives key d hd
  · exact hkeyed'.map_name_filterMap (hrecorded n)

theorem whole_of_ofPayload {options : Options} {payload : Introspection.Payload} {s : Schema}
    (h : ofPayload options payload = .ok s) : s.Whole := by
  obtain ⟨base, hshows, hpossible, hbase⟩ := ofPayload_eq_assemble options payload
  rw [hbase] at h
  obtain ⟨rfl, hreferences⟩ := assemble_eq_ok.mp h
  refine whole_indexPossible (fun n d hd => ?_) (fun n d hd => ?_) hpossible hreferences
  · exact Collected.name_of_type? ((hshows.types n).symm.trans hd)
  · exact Collected.name_of_directive? ((hshows.directives n).symm.trans hd)

/-- Every schema that was built is `Whole`. -/
theorem Built.whole {s : Schema} (h : s.Built) : s.Whole := by
  cases h with
  | ofText h =>
      obtain ⟨base, hread, hpossible, rfl, hreferences⟩ := wellRead_of_ofText h
      exact whole_indexPossible (fun n d hd => (hread.types n d hd).1)
        (fun n d hd => (hread.directives n d hd).1) hpossible hreferences
  | ofPayload h => exact whole_of_ofPayload h
  | ofAnswer h =>
      obtain ⟨payload, h⟩ := exists_ofPayload_of_ofAnswer h
      exact whole_of_ofPayload h

/-- **References of built schemas.**  `Collected.Decides` is what becomes of the definitions of an
answer (`ofPayload`), and of a text whose extensions name types that are defined (`ofText`): a
schema, exactly if every root type, interface, member and type of a field or argument is the name of
a collected type, else the error for the first `Place` that dangles.  Every schema that is `Built`
is `Whole`: its keys are names, and no recorded possible type is lost when it is looked up. -/
theorem assembled_iff_defined :
    (∀ options payload, (Collected.ofPayload options payload).Decides (ofPayload options payload)) ∧
    (∀ text entries, Grammar.readSchema text = .ok entries →
      (∀ a ∈ entries.filterMap addition?, (Collected.ofEntries entries).Defines a.name) →
      (Collected.ofEntries entries).Decides (ofText text)) ∧
    ∀ s : Schema, s.Built → s.Whole := by
  refine ⟨fun options payload => ?_, fun text entries hread hextensions => ?_, fun s h => h.whole⟩
  · obtain ⟨base, hshows, -, hbase⟩ := ofPayload_eq_assemble options payload
    rw [hbase]
    exact hshows.decides
  · obtain ⟨base, hshows, -, hbase⟩ := ofEntries_eq_assemble hextensions
    unfold ofText
    rw [hread]
    show (Collected.ofEntries entries).Decides (ofEntries entries)
    rw [hbase]
    exact hshows.decides

/-- An object with one field of the type named `type`. -/
def objectWith (name field type : String) : Definition :=
  { Definition.bare .object name with
    fields := [⟨field, none, [], none, .named type false, []⟩] }

def plainQuery : Schema :=
  { builtin.addType (objectNamed "Query") with
    queryRoot := some "Query"
    possible := Table.ofList [("Query", ["Query"])] }

/-- `Query` is extended by a field whose type is not defined. -/
def extendedQuery : String :=
  "type Query \x7b a: A \x7d scalar A extend type Query \x7b b: B \x7d"

theorem assembled_iff_defined_extendedQuery :
    (∃ entries, Grammar.readSchema extendedQuery = .ok entries ∧
      (Collected.ofEntries entries).Decides (ofText extendedQuery) ∧
      (Place.field "Query" 0).name? (.ofEntries entries) = some "A" ∧
      (Place.field "Query" 1).name? (.ofEntries entries) = some "B" ∧
      ofText extendedQuery = .error (.unknownType "Query" "B")) ∧
    ∃ s, ofText "type Query \x7b a: Int \x7d" = .ok s ∧ s.Whole ∧
      s.possibleNames "Query" = ["Query"] := by
  obtain ⟨-, htext, hwhole⟩ := assembled_iff_defined
  have hread : Grammar.readSchema extendedQuery = .ok [.type (objectWith "Query" "a" "A"),
      .type (.bare .scalar "A"), .extension (objectWith "Query" "b" "B")] :=
    eq_ok_of_toOption (by decide +kernel)
  have hextensions : ∀ a ∈ [objectWith "Query" "b" "B"],
      (Collected.ofEntries [.type (objectWith "Query" "a" "A"), .type (.bare .scalar "A"),
        .extension (objectWith "Query" "b" "B")]).Defines a.name :=
    List.forall_mem_singleton.mpr ⟨objectWith "Query" "a" "A", by decide, rfl⟩
  have herror : ofText extendedQuery = .error (.unknownType "Query" "B") := by
    unfold ofText
    rw [hread]
    rfl
  have hplain : ofText "type Query \x7b a: Int \x7d" = .ok plainQuery :=
    eq_ok_of_toOption (by decide +kernel)
  exact ⟨⟨_, hread, htext _ _ hread hextensions, by decide +kernel, by decide +kernel, herror⟩,
    _, hplain, hwhole _ (.ofText hplain), by decide +kernel⟩

end Schema

end QueryBindings

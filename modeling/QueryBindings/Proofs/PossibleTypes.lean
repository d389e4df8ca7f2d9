import QueryBindings.Proofs.DanglingReferences
import QueryBindings.Proofs.FieldLookup

/-! # Possible types

Which definitions can stand in for a type is said here by the definitions alone (`StandsIn`): an
object for itself and for its interfaces, a member for its union.  A schema records the names of
these when it is assembled, and looks for a field on a type first and then on those that stand in
for it.

Main statement: `possibleExact_of_built` (in every schema that was built the record is exact). -/

namespace QueryBindings

namespace Schema

variable {s : Schema}

/-- The definition `d` can stand in for the type `n`. -/
inductive StandsIn (s : Schema) (n : String) (d : Definition) : Prop
  | self (hkind : d.kind = .object) (hname : n = d.name)
  | interface (hkind : d.kind = .object) (hinterface : n ∈ d.interfaces)
  | member {u : Definition} (hunion : s.type? n = some u) (hkind : u.kind = .union)
      (hmember : d.name ∈ u.members)

/-- What is recorded for `n`: each type that `StandsIn`, once.  A field is found on the type itself,
or else on one of these. -/
structure PossibleExact (s : Schema) (n : String) : Prop where
  distinct : ((s.possibleTypes n).map (·.name)).Nodup
  exact : ∀ d, d ∈ s.possibleTypes n ↔ s.type? d.name = some d ∧ s.StandsIn n d
  found : ∀ field, (∃ f, s.findField? n field = some f) ↔
    (∃ d, s.type? n = some d ∧ d.Declares field) ∨ ∃ d ∈ s.possibleTypes n, d.Declares field
  own : ∀ d field, s.type? n = some d → d.Declares field →
    s.findField? n field = d.field? field
  other : ∀ field f, s.findField? n field = some f →
    (∃ d, s.type? n = some d ∧ d.Declares field) ∨ ∃ d ∈ s.possibleTypes n, d.field? field = some f

/-! ### The record -/

theorem exists_unindexed_of_ofPayload {options : Options} {payload : Introspection.Payload}
    (h : ofPayload options payload = .ok s) :
    ∃ base : Schema, base.possible = ∅ ∧ s = base.indexPossible := by
  obtain ⟨base, -, hpossible, hbase⟩ := ofPayload_eq_assemble options payload
  rw [hbase] at h
  exact ⟨base, hpossible, (assemble_eq_ok.mp h).1⟩

theorem Built.exists_unindexed (h : s.Built) :
    ∃ base : Schema, base.possible = ∅ ∧ s = base.indexPossible := by
  cases h with
  | ofText h =>
      obtain ⟨base, -, hpossible, hindex, -⟩ := wellRead_of_ofText h
      exact ⟨base, hpossible, hindex⟩
  | ofPayload h => exact exists_unindexed_of_ofPayload h
  | ofAnswer h =>
      obtain ⟨payload, h⟩ := exists_ofPayload_of_ofAnswer h
      exact exists_unindexed_of_ofPayload h

theorem Built.possibleNames_spec (h : s.Built) (n : String) :
    (s.possibleNames n).Nodup ∧
      ∀ m, m ∈ s.possibleNames n ↔ ∃ key d, s.type? key = some d ∧ (n, m) ∈ d.standIns := by
  obtain ⟨base, hpossible, rfl⟩ := h.exists_unindexed
  have hnone : ∀ k, base.possibleNames k = [] := by
    intro k
    unfold possibleNames
    rw [hpossible]
    rfl
  refine ⟨nodup_possibleNames_foldl (fun k => hnone k ▸ List.nodup_nil) _ n, fun m => ?_⟩
  unfold indexPossible
  rw [mem_possibleNames_foldl, hnone]
  simp only [List.not_mem_nil, false_or, List.mem_flatMap, Table.mem_values_iff]
  constructor
  · rintro ⟨d, ⟨key, hkey⟩, hp⟩
    exact ⟨key, d, (type?_indexPossible base key).trans hkey, hp⟩
  · rintro ⟨key, d, hkey, hp⟩
    exact ⟨d, ⟨key, (type?_indexPossible base key).symm.trans hkey⟩, hp⟩

theorem Built.mem_possibleNames_iff (h : s.Built) {n : String} {d : Definition}
    (htype : s.type? d.name = some d) : d.name ∈ s.possibleNames n ↔ s.StandsIn n d := by
  rw [(h.possibleNames_spec n).2]
  constructor
  · rintro ⟨key, e, he, hp⟩
    have hkey := h.keyed key e he
    rcases mem_standIns_iff.mp hp with ⟨hkind, hname, hn⟩ | ⟨hkind, hn, hmember⟩
    · rw [hname, hkey, he] at htype
      cases htype
      exact hn.elim (.self hkind) (.interface hkind)
    · exact .member (hn.trans hkey ▸ he) hkind hmember
  · intro hstands
    cases hstands with
    | self hkind hname =>
        exact ⟨d.name, d, htype, mem_standIns_iff.mpr (.inl ⟨hkind, rfl, .inl hname⟩)⟩
    | interface hkind hinterface =>
        exact ⟨d.name, d, htype, mem_standIns_iff.mpr (.inl ⟨hkind, rfl, .inr hinterface⟩)⟩
    | @member u hunion hkind hmember =>
        have hname := h.keyed n u hunion
        exact ⟨n, u, hunion, mem_standIns_iff.mpr (.inr ⟨hkind, hname.symm, hmember⟩)⟩

/-- **Possible types.**  In every schema that is `Built`, from a text or from an answer,
`possibleTypes` holds each type that can stand in for a name once: the object of that name, the
objects that implement it, the members of the union of that name, and nothing else.  `findField?`
finds a field exactly if the type or one of these declares it, and the type's own field comes first.
-/
theorem possibleExact_of_built (h : s.Built) (n : String) : s.PossibleExact n where
  distinct := by
    rw [h.whole.found n]
    exact (h.possibleNames_spec n).1
  exact d := by
    unfold possibleTypes
    rw [List.mem_filterMap]
    constructor
    · rintro ⟨m, hm, hd⟩
      have hname := h.keyed m d hd
      rw [← hname] at hm hd
      exact ⟨hd, (h.mem_possibleNames_iff hd).mp hm⟩
    · rintro ⟨hd, hstands⟩
      exact ⟨d.name, (h.mem_possibleNames_iff hd).mpr hstands, hd⟩
  found _ := exists_findField?_iff
  own _ _ htype hdeclares := findField?_of_declares htype hdeclares
  other _ f hfind := (findField?_cases hfind).imp_left fun hown =>
    exists_ownField?_iff.mp ⟨f, hown⟩

/-- Circles and squares with repeated entries, and an interface that lists another type. -/
def listedShapes : Introspection.Payload :=
  let refs (names : List String) : Option (List (Option Introspection.TypeRef)) :=
    some (names.map fun name => some (.last .unknown (some name)))
  let type (kind : TypeKind) (name : String) (interfaces possible : List String) :
      Introspection.TypeRecord :=
    ⟨.named kind, name, none, some [⟨"area", none, [], some (.last (.named .object) (some name)),
      false, none⟩], none, refs interfaces, none, refs possible⟩
  { queryRoot := none
    mutationRoot := none
    subscriptionRoot := none
    types := [some (type .object "Square" ["Shape"] []), some (type .interface "Shape" [] ["Line"]),
      some (type .object "Line" [] []), some (type .object "Circle" ["Shape", "Shape"] []),
      some (type .union "Round" [] ["Circle", "Circle"])]
    directives := [] }

theorem possibleExact_listedShapes :
    ∃ s, ofPayload .default listedShapes = .ok s ∧ s.PossibleExact "Shape" ∧
      s.PossibleExact "Round" ∧ s.possibleNames "Shape" = ["Circle", "Square"] ∧
      s.possibleNames "Round" = ["Circle"] ∧ ∃ f, s.findField? "Round" "area" = some f := by
  have hnames : (ofPayload .default listedShapes).toOption.map (fun s =>
      (s.possibleNames "Shape", s.possibleNames "Round", (s.findField? "Round" "area").isSome)) =
      some (["Circle", "Square"], ["Circle"], true) := by decide +kernel
  obtain ⟨s, hs, heq⟩ := Option.map_eq_some_iff.mp hnames
  have hok := eq_ok_of_toOption hs
  rw [Prod.mk.injEq, Prod.mk.injEq] at heq
  obtain ⟨hshape, hround, hfound⟩ := heq
  exact ⟨s, hok, possibleExact_of_built (.ofPayload hok) "Shape",
    possibleExact_of_built (.ofPayload hok) "Round", hshape, hround,
    Option.isSome_iff_exists.mp hfound⟩

end Schema

end QueryBindings

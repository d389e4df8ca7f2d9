import QueryBindings.Proofs.Collected
import QueryBindings.Proofs.PayloadOrder

/-! # The slots of definitions

A definition has a slot for everything that some kind of type may hold, and each kind has its own
slots (`Definition.FillsOwnSlots`).  What is read fills the slots of its keyword, and what a server
tells fills the slots of its kind and the interfaces.  Two things reach other slots: an extension of
a type of another kind, and interfaces in a record of a type that has none.  Nothing else does.

Main statement: `fillsOwnSlots_iff`. -/

namespace QueryBindings

open Grammar (SchemaEntry)

open Introspection

namespace Definition

/-- What `addition` adds has its slots in types of the kind `kind`. -/
def Fits (addition : Definition) (kind : TypeKind) : Prop :=
  { addition with kind := kind }.FillsOwnSlots

/-- An extended definition has `FillsOwnSlots` exactly if it did before and the addition `Fits`. -/
theorem fillsOwnSlots_extend_iff {d addition : Definition} :
    (d.extend addition).FillsOwnSlots ↔ d.FillsOwnSlots ∧ addition.Fits d.kind := by
  constructor
  · intro h
    constructor
    · exact ⟨fun ho hi => (List.append_eq_nil_iff.mp (h.interfaces ho hi)).1,
        fun hu => (List.append_eq_nil_iff.mp (h.members hu)).1,
        fun ho hi hn => (List.append_eq_nil_iff.mp (h.fields ho hi hn)).1,
        fun he => (List.append_eq_nil_iff.mp (h.values he)).1⟩
    · exact ⟨fun ho hi => (List.append_eq_nil_iff.mp (h.interfaces ho hi)).2,
        fun hu => (List.append_eq_nil_iff.mp (h.members hu)).2,
        fun ho hi hn => (List.append_eq_nil_iff.mp (h.fields ho hi hn)).2,
        fun he => (List.append_eq_nil_iff.mp (h.values he)).2⟩
  · rintro ⟨h, hadd⟩
    exact ⟨fun ho hi => List.append_eq_nil_iff.mpr ⟨h.interfaces ho hi, hadd.interfaces ho hi⟩,
      fun hu => List.append_eq_nil_iff.mpr ⟨h.members hu, hadd.members hu⟩,
      fun ho hi hn => List.append_eq_nil_iff.mpr ⟨h.fields ho hi hn, hadd.fields ho hi hn⟩,
      fun he => List.append_eq_nil_iff.mpr ⟨h.values he, hadd.values he⟩⟩

theorem kind_foldl_extend (additions : List Definition) (d : Definition) :
    (additions.foldl extend d).kind = d.kind := by
  induction additions generalizing d with
  | nil => rfl
  | cons a rest ih => exact ih (d.extend a)

theorem fillsOwnSlots_foldl_extend_iff {additions : List Definition} {d : Definition} :
    (additions.foldl extend d).FillsOwnSlots ↔
      d.FillsOwnSlots ∧ ∀ a ∈ additions, a.Fits d.kind := by
  induction additions generalizing d with
  | nil => simp
  | cons a rest ih =>
      rw [List.foldl_cons, ih, fillsOwnSlots_extend_iff, List.forall_mem_cons, and_assoc]
      rfl

end Definition

/-! ### Texts -/

theorem Collected.fillsOwnSlots_definitionsOf {es : List SchemaEntry}
    (h : ∀ e ∈ es, e.FillsOwnSlots) : ∀ d ∈ definitionsOf es, d.FillsOwnSlots := by
  refine List.forall_mem_append.mpr ⟨List.forall_mem_map.mpr fun n _ => ?_, fun d hd => ?_⟩
  · exact Definition.fillsOwnSlots_bare .scalar n
  · obtain ⟨e, he, hentry⟩ := List.mem_filterMap.mp hd
    cases e <;> cases hentry
    exact h _ he

theorem Schema.fillsOwnSlots_additions {es : List SchemaEntry} (h : ∀ e ∈ es, e.FillsOwnSlots) :
    ∀ a ∈ es.filterMap addition?, a.FillsOwnSlots := by
  intro a ha
  obtain ⟨e, he, hentry⟩ := List.mem_filterMap.mp ha
  cases e <;> cases hentry
  exact h _ he

/-- All types of a text have `FillsOwnSlots` exactly if every extension `Fits` the type that it
names. -/
theorem Schema.fillsOwnSlots_iff_of_ofEntries {es : List SchemaEntry} {s : Schema}
    (hslots : ∀ e ∈ es, e.FillsOwnSlots) (h : ofEntries es = .ok s) :
    (∀ n d, s.type? n = some d → d.FillsOwnSlots) ↔
      ∀ a ∈ es.filterMap addition?, ∀ d, s.type? a.name = some d → a.Fits d.kind := by
  have hshows := shows_of_ofEntries h
  constructor
  · intro hall a ha d hd
    have hfills := hall a.name d hd
    rw [hshows.types] at hd
    obtain ⟨e, -, rfl⟩ := Option.map_eq_some_iff.mp hd
    rw [Definition.kind_foldl_extend]
    refine (Definition.fillsOwnSlots_foldl_extend_iff.mp hfills).2 a ?_
    exact List.mem_filter.mpr ⟨ha, decide_eq_true rfl⟩
  · intro hfits n d hd
    have hread := (hshows.types n).symm.trans hd
    obtain ⟨e, he, rfl⟩ := Option.map_eq_some_iff.mp hread
    rw [List.findRev?_eq_find?_reverse] at he
    have hmem := List.mem_reverse.mp (List.mem_of_find?_eq_some he)
    refine Definition.fillsOwnSlots_foldl_extend_iff.mpr
      ⟨Collected.fillsOwnSlots_definitionsOf hslots e hmem, fun a ha => ?_⟩
    obtain ⟨ha, hname⟩ := List.mem_filter.mp ha
    have hkind := hfits a ha _ ((of_decide_eq_true hname) ▸ hd)
    rwa [Definition.kind_foldl_extend] at hkind

/-! ### Payloads -/

theorem Introspection.TypeRecord.slots_of_definition? {scalars : ScalarNullability}
    {r : TypeRecord} {d : Definition} (h : r.definition? scalars = some d) :
    d.interfaces = referenceNames r.interfaces ∧ { d with interfaces := [] }.FillsOwnSlots := by
  unfold TypeRecord.definition? at h
  split at h
  · rename_i kind _
    have hbare := Definition.fillsOwnSlots_bare kind r.name
    cases kind with
    | scalar =>
        cases h
        exact ⟨rfl, { hbare with }⟩
    | object =>
        cases h
        exact ⟨rfl, { hbare with fields := fun hobject => absurd rfl hobject }⟩
    | interface =>
        cases h
        exact ⟨rfl, { hbare with fields := fun _ hinterface => absurd rfl hinterface }⟩
    | union =>
        cases h
        exact ⟨rfl, { hbare with members := fun hunion => absurd rfl hunion }⟩
    | enum =>
        cases h
        exact ⟨rfl, { hbare with values := fun henum => absurd rfl henum }⟩
    | inputObject =>
        cases h
        exact ⟨rfl, { hbare with fields := fun _ _ hinput => absurd rfl hinput }⟩
  · cases h
  · cases h
  · cases h

namespace Schema

theorem exists_record {options : Options} {payload : Payload} {s : Schema}
    (h : ofPayload options payload = .ok s) {n : String} {d : Definition}
    (hd : s.type? n = some d) :
    ∃ r ∈ takenTypes options.keepBuiltins payload,
      r.definition? options.scalarNullability = some d ∧ r.name = n := by
  have hread := ((shows_of_ofPayload h).types n).symm.trans hd
  have hname := Collected.name_of_type? hread
  obtain ⟨e, he, rfl⟩ := Option.map_eq_some_iff.mp hread
  rw [List.findRev?_eq_find?_reverse] at he
  obtain ⟨r, hr, hdefinition⟩ := List.mem_filterMap.mp
    (List.mem_reverse.mp (List.mem_of_find?_eq_some he))
  exact ⟨r, hr, hdefinition, (TypeRecord.name_of_definition? hdefinition).symm.trans hname⟩

/-- Types of a payload can fill no slot of another kind but that of the interfaces. -/
theorem fillsOwnSlots_iff_of_ofPayload {options : Options} {payload : Payload} {s : Schema}
    (h : ofPayload options payload = .ok s) :
    (∀ n d, s.type? n = some d → { d with interfaces := [] }.FillsOwnSlots) ∧
    ((∀ n d, s.type? n = some d → d.FillsOwnSlots) ↔
      ∀ r ∈ takenTypes options.keepBuiltins payload, ∀ d,
        r.definition? options.scalarNullability = some d → s.type? r.name = some d →
        d.kind ≠ .object → d.kind ≠ .interface → referenceNames r.interfaces = []) := by
  refine ⟨fun n d hd => ?_, fun hall r _ d hdefinition hd hobject hinterface => ?_,
    fun hnone n d hd => ?_⟩
  · obtain ⟨r, -, hdefinition, -⟩ := exists_record h hd
    exact (TypeRecord.slots_of_definition? hdefinition).2
  · rw [← (TypeRecord.slots_of_definition? hdefinition).1]
    exact (hall r.name d hd).interfaces hobject hinterface
  · obtain ⟨r, hr, hdefinition, rfl⟩ := exists_record h hd
    obtain ⟨hinterfaces, hothers⟩ := TypeRecord.slots_of_definition? hdefinition
    refine { hothers with interfaces := fun hobject hinterface => ?_ }
    rw [hinterfaces]
    exact hnone r hr d hdefinition hd hobject hinterface

/-- **Slots of built schemas.**  In a text every addition has `FillsOwnSlots` for its own keyword,
and all types of the schema have it exactly if every addition `Fits` the kind of the type that it
names.  Types of a payload fill the slots of their kinds and the interfaces; all have
`FillsOwnSlots` exactly if of the records that count none of a scalar, a union, an enum or an input
object lists interfaces. -/
theorem fillsOwnSlots_iff (text : String) (options : Options) (payload : Payload) (s : Schema) :
    (∀ entries, Grammar.readSchema text = .ok entries → ofText text = .ok s →
      (∀ a ∈ entries.filterMap addition?, a.FillsOwnSlots) ∧
      ((∀ n d, s.type? n = some d → d.FillsOwnSlots) ↔
        ∀ a ∈ entries.filterMap addition?, ∀ d, s.type? a.name = some d → a.Fits d.kind)) ∧
    (ofPayload options payload = .ok s →
      (∀ n d, s.type? n = some d → { d with interfaces := [] }.FillsOwnSlots) ∧
      ((∀ n d, s.type? n = some d → d.FillsOwnSlots) ↔
        ∀ r ∈ takenTypes options.keepBuiltins payload, ∀ d,
          r.definition? options.scalarNullability = some d → s.type? r.name = some d →
          d.kind ≠ .object → d.kind ≠ .interface → referenceNames r.interfaces = [])) := by
  refine ⟨fun entries hread h => ?_, fillsOwnSlots_iff_of_ofPayload⟩
  have hentries : ofEntries entries = .ok s := by
    unfold ofText at h
    rwa [hread] at h
  have hslots : ∀ e ∈ entries, e.FillsOwnSlots :=
    (Grammar.fillsOwnSlots_schemaText _ (Grammar.Rule.named_of_lex _) entries []
      (Grammar.readAll_eq_ok.mp hread)).1
  exact ⟨fillsOwnSlots_additions hslots, fillsOwnSlots_iff_of_ofEntries hslots hentries⟩

def extendedObject : Definition :=
  { Definition.bare .object "Query" with
    fields := [⟨"a", none, [], none, .named "Int" false, []⟩,
      ⟨"b", none, [], none, .named "Int" false, []⟩] }

def plainScalar : Payload where
  queryRoot := none
  mutationRoot := none
  subscriptionRoot := none
  types := [some ⟨.named .scalar, "S", none, none, none, none, none, none⟩]
  directives := []

theorem fillsOwnSlots_extendedObject :
    (∃ s, ofText "type Query \x7b a: Int \x7d extend type Query \x7b b: Int \x7d" = .ok s ∧
      s.type? "Query" = some extendedObject ∧ ∀ n d, s.type? n = some d → d.FillsOwnSlots) ∧
    ∃ s, ofPayload .default plainScalar = .ok s ∧
      ∀ n d, s.type? n = some d → d.FillsOwnSlots := by
  constructor
  · have hread : Grammar.readSchema
        "type Query \x7b a: Int \x7d extend type Query \x7b b: Int \x7d" =
        .ok [.type (objectNamed "Query"), .extension { objectNamed "Query" with
          fields := [⟨"b", none, [], none, .named "Int" false, []⟩] }] :=
      eq_ok_of_toOption (by decide +kernel)
    have hok : ofText "type Query \x7b a: Int \x7d extend type Query \x7b b: Int \x7d" =
        .ok { builtin.addType extendedObject with
          queryRoot := some "Query"
          possible := Table.ofList [("Query", ["Query"])] } :=
      eq_ok_of_toOption (by decide +kernel)
    obtain ⟨hadditions, hiff⟩ := (fillsOwnSlots_iff _ .default plainScalar _).1 _ hread hok
    refine ⟨_, hok, rfl, hiff.mpr (List.forall_mem_singleton.mpr fun d hd => ?_)⟩
    cases hd
    exact hadditions _ List.mem_cons_self
  · have hok : ofPayload .default plainScalar = .ok (empty.addType (.bare .scalar "S")) :=
      eq_ok_of_toOption (by decide +kernel)
    have hiff := ((fillsOwnSlots_iff "" .default plainScalar _).2 hok).2
    refine ⟨_, hok, hiff.mpr fun r hr _ _ _ _ _ => ?_⟩
    have hplain : ∀ r ∈ takenTypes Options.default.keepBuiltins plainScalar,
      r.interfaces = none := by decide
    rw [hplain r hr]
    rfl

/-- A scalar that is extended like an object. -/
def extendedScalar : Schema :=
  builtin.addType { Definition.bare .scalar "S" with
    fields := [⟨"a", none, [], none, .named "Int" false, []⟩] }

def scalarWithInterface : Payload where
  queryRoot := none
  mutationRoot := none
  subscriptionRoot := none
  types := [
    some ⟨.named .interface, "I", none, some [], none, none, none, none⟩,
    some ⟨.named .scalar, "S", none, none, none,
      some [some (.last (.named .interface) (some "I"))], none, none⟩]
  directives := []

def implementingScalar : Schema :=
  (empty.addType (.bare .interface "I")).addType
    { Definition.bare .scalar "S" with interfaces := ["I"] }

/-- A scalar may have fields or interfaces; its canonical text is not that of a schema then. -/
theorem not_fillsOwnSlots_scalars :
    (ofText "scalar S extend type S \x7b a: Int \x7d" = .ok extendedScalar ∧
      (¬ ∀ n d, extendedScalar.type? n = some d → d.FillsOwnSlots) ∧
      ∀ t, ofText (extendedScalar.print "  " true) ≠ .ok t) ∧
    ofPayload .default scalarWithInterface = .ok implementingScalar ∧
      (¬ ∀ n d, implementingScalar.type? n = some d → d.FillsOwnSlots) ∧
      ∀ t, ofText (implementingScalar.print "  " true) ≠ .ok t := by
  have hfields : ∀ d, extendedScalar.type? "S" = some d → ¬ d.FillsOwnSlots := by
    intro d hd hfills
    cases hd
    cases hfills.fields nofun nofun nofun
  have hinterfaces : ∀ d, implementingScalar.type? "S" = some d → ¬ d.FillsOwnSlots := by
    intro d hd hfills
    cases hd
    cases hfills.interfaces nofun nofun
  refine ⟨⟨eq_ok_of_toOption (by decide +kernel), fun hall => ?_,
    ne_ok_of_toOption (by decide +kernel)⟩, eq_ok_of_toOption (by decide +kernel), fun hall => ?_,
    ne_ok_of_toOption (by decide +kernel)⟩
  · exact hfields _ rfl (hall "S" _ rfl)
  · exact hinterfaces _ rfl (hall "S" _ rfl)

end Schema

end QueryBindings

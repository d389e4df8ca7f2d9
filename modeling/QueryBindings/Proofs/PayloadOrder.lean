import Mathlib.Data.List.Nodup
import QueryBindings.Proofs.SchemaAssembly
import QueryBindings.Schema.Assembly

/-! # The order of what a server tells

A payload lists types and directives in an order of the server's own.  They go into tables by
name, so while the names differ it does not matter which comes first; and all that follows, the
possible types and the search for a dangling reference, reads the tables.

Main statement: `ofPayload_of_perm` (payloads that differ in order alone give the same schema, or
the same error). -/

namespace QueryBindings

open Introspection

namespace Table

theorem insert_comm {α : Type} (t : Table α) {key other : String} (h : key ≠ other) (a b : α) :
    (t.insert key a).insert other b = (t.insert other b).insert key a := by
  refine ext fun k => ?_
  rw [get?_insert, get?_insert, get?_insert, get?_insert]
  by_cases hkey : k = key
  · have hother : k ≠ other := hkey ▸ h
    rw [if_pos hkey, if_neg hother, if_pos hkey]
  · rw [if_neg hkey, if_neg hkey]

end Table

/-- A fold of `add` meets the items in any order, if items of different names may change places and
no name comes twice. -/
theorem foldl_eq_of_perm_of_names {α β : Type} {add : β → α → β} {name : α → String}
    (hcomm : ∀ b x y, name x ≠ name y → add (add b x) y = add (add b y) x) {items others : List α}
    (h : items.Perm others) (hnames : (items.map name).Nodup) (start : β) :
    items.foldl add start = others.foldl add start := by
  refine h.foldl_eq' (fun x hx y hy b => ?_) start
  by_cases hname : name x = name y
  · have hsame : x = y := List.inj_on_of_nodup_map hnames hx hy hname
    rw [hsame]
  · exact hcomm b x y hname

namespace Schema

theorem foldl_addType_of_perm {ds es : List Definition} (h : ds.Perm es)
    (hnames : (ds.map (·.name)).Nodup) (s : Schema) :
    ds.foldl addType s = es.foldl addType s := by
  refine foldl_eq_of_perm_of_names (fun b x y hname => ?_) h hnames s
  unfold addType
  dsimp only
  rw [b.types.insert_comm hname]

theorem foldl_addDirective_of_perm {ds es : List DirectiveDefinition} (h : ds.Perm es)
    (hnames : (ds.map (·.name)).Nodup) (s : Schema) :
    ds.foldl addDirective s = es.foldl addDirective s := by
  refine foldl_eq_of_perm_of_names (fun b x y hname => ?_) h hnames s
  unfold addDirective
  dsimp only
  rw [b.directives.insert_comm hname]

end Schema

/-! ### Records -/

namespace Introspection

theorem TypeRecord.name_of_definition? {scalars : ScalarNullability} {r : TypeRecord}
    {d : Definition} (h : r.definition? scalars = some d) : d.name = r.name := by
  unfold TypeRecord.definition? at h
  split at h
  · rename_i kind _
    cases kind <;> cases h <;> rfl
  · cases h
  · cases h
  · cases h

/-- The names of all types that `payload` lists. -/
def Payload.typeNames (payload : Payload) : List String :=
  (payload.types.filterMap id).map (·.name)

/-- The names of all directives that `payload` lists. -/
def Payload.directiveNames (payload : Payload) : List String := payload.directives.map (·.name)

end Introspection

namespace Schema

theorem nodup_names_of_records {keep : TypeRecord → Bool} {scalars : ScalarNullability}
    {records : List TypeRecord} (h : (records.map (·.name)).Nodup) :
    (((records.filter keep).filterMap (·.definition? scalars)).map (·.name)).Nodup := by
  have hrecords : records.Pairwise (fun r q => r.name ≠ q.name) := List.pairwise_map.mp h
  have htaken := hrecords.filter keep
  refine List.pairwise_map.mpr ?_
  refine htaken.filterMap _ fun r q hne d hd e he => ?_
  rw [TypeRecord.name_of_definition? hd, TypeRecord.name_of_definition? he]
  exact hne

theorem nodup_names_of_directives {scalars : ScalarNullability} {records : List DirectiveRecord}
    (h : (records.map (·.name)).Nodup) :
    ((records.map (·.definition scalars)).map (·.name)).Nodup := by
  rw [List.map_map]
  exact h

/-- `assemble` gives a schema, or the error for a dangling reference. -/
theorem assemble_cases (s : Schema) :
    (∃ t, s.assemble = .ok t) ∨ ∃ holder name, s.assemble = .error (.unknownType holder name) := by
  unfold assemble
  dsimp only
  split
  · exact .inr ⟨_, _, rfl⟩
  · exact .inl ⟨_, rfl⟩

theorem ofPayload_eq_of_perm {options : Options} {payload : Payload}
    {types : List (Option TypeRecord)} {directives : List DirectiveRecord}
    (htypes : payload.types.Perm types) (hdirectives : payload.directives.Perm directives)
    (htypeNames : payload.typeNames.Nodup) (hdirectiveNames : payload.directiveNames.Nodup) :
    ofPayload options { payload with types := types, directives := directives } =
      ofPayload options payload := by
  have hrecords : (takenTypes options.keepBuiltins payload).Perm
      (takenTypes options.keepBuiltins
        { payload with types := types, directives := directives }) :=
    (htypes.filterMap id).filter _
  have hdefinitions := foldl_addType_of_perm
    (hrecords.filterMap (·.definition? options.scalarNullability))
    (nodup_names_of_records htypeNames)
  have hadded := foldl_addDirective_of_perm
    (hdirectives.map (·.definition options.scalarNullability))
    (nodup_names_of_directives hdirectiveNames)
  unfold ofPayload
  dsimp only
  rw [← hdefinitions, ← hadded]

/-- The order in which a payload lists its types and its directives changes nothing in what
`ofPayload` makes of it: it is one schema, with the same possible types in the same order, or one
dangling reference.  Entries that are null may stand anywhere. -/
theorem ofPayload_of_perm {options : Options} {payload : Payload}
    {types : List (Option TypeRecord)} {directives : List DirectiveRecord}
    (htypes : payload.types.Perm types) (hdirectives : payload.directives.Perm directives)
    (htypeNames : payload.typeNames.Nodup) (hdirectiveNames : payload.directiveNames.Nodup) :
    let reordered := { payload with types := types, directives := directives }
    (∃ s, ofPayload options payload = .ok s ∧ ofPayload options reordered = .ok s) ∨
      ∃ holder name, ofPayload options payload = .error (.unknownType holder name) ∧
        ofPayload options reordered = .error (.unknownType holder name) := by
  intro reordered
  have heq : ofPayload options reordered = ofPayload options payload :=
    ofPayload_eq_of_perm htypes hdirectives htypeNames hdirectiveNames
  rw [heq]
  rcases assemble_cases _ with ⟨s, hok⟩ | ⟨holder, name, herror⟩
  · exact .inl ⟨s, hok, hok⟩
  · exact .inr ⟨holder, name, herror, herror⟩

/-- Two objects of one interface, in an order that is not that of their names. -/
def shapes : Payload :=
  let object (name : String) (interfaces : List (Option TypeRef)) : TypeRecord :=
    ⟨.named .object, name, none, some [], none, some interfaces, none, none⟩
  let shape : TypeRecord := ⟨.named .interface, "Shape", none, some [], none, none, none, none⟩
  let shapeRef : Option TypeRef := some (.last (.named .interface) (some "Shape"))
  { queryRoot := some "Query"
    mutationRoot := none
    subscriptionRoot := none
    types := [object "Square" [shapeRef], none, object "Query" [], shape,
      object "Circle" [shapeRef]]
    directives := [⟨"b", none, false, [], []⟩, ⟨"a", none, false, [], []⟩] }

theorem ofPayload_reverse_shapes :
    ∃ s, ofPayload .default shapes = .ok s ∧
      ofPayload .default { shapes with
        types := shapes.types.reverse, directives := shapes.directives.reverse } = .ok s ∧
      s.possibleNames "Shape" = ["Circle", "Square"] := by
  have hnames : (ofPayload .default shapes).toOption.map (·.possibleNames "Shape") =
      some ["Circle", "Square"] := by decide +kernel
  have htypes : shapes.types.Perm shapes.types.reverse := (List.reverse_perm _).symm
  have hdirectives : shapes.directives.Perm shapes.directives.reverse := (List.reverse_perm _).symm
  rcases @ofPayload_of_perm .default shapes _ _ htypes hdirectives (by decide) (by decide) with
    ⟨s, hs, hreversed⟩ | ⟨holder, name, herror, -⟩
  · rw [hs] at hnames
    exact ⟨s, hs, hreversed, Option.some.inj hnames⟩
  · rw [herror] at hnames
    cases hnames

end Schema

end QueryBindings

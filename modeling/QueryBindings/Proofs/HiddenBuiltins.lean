import QueryBindings.Proofs.Collected
import QueryBindings.Proofs.Layout.Blocks
import QueryBindings.Proofs.PayloadOrder

/-! # Hidden builtins

By default a schema prints without what every schema has: builtin directives, builtin and reserved
types, and reserved fields.  The text is that of the schema from which all of these were taken
(`visible`), down to the last line break; so it does not matter either whether a schema that a
server tells of was built with its reserved types.

Main statement: `print_without_builtins`. -/

namespace QueryBindings

namespace Table

variable {α β : Type}

/-- Replaces every value by `f`, or takes away its entry. -/
def filterMap (f : α → Option β) (t : Table α) : Table β :=
  ⟨t.entries.filterMap fun e => (f e.2).map (e.1, ·), by
    refine t.ascending.filterMap _ fun a b hab x hx y hy => ?_
    obtain ⟨_, _, rfl⟩ := Option.map_eq_some_iff.mp hx
    obtain ⟨_, _, rfl⟩ := Option.map_eq_some_iff.mp hy
    exact hab⟩

theorem values_filterMap (f : α → Option β) (t : Table α) :
    (t.filterMap f).values = t.values.filterMap f := by
  unfold values filterMap
  rw [List.map_filterMap, List.filterMap_map]
  refine List.filterMap_congr fun e _ => ?_
  show ((f e.2).map _).map _ = f e.2
  rw [Option.map_map]
  exact Option.map_id'

theorem get?_eq_some_iff {t : Table α} {key : String} {value : α} :
    t.get? key = some value ↔ (key, value) ∈ t.entries :=
  ⟨mem_entries_of_get?, fun h => get?_of_mem_entries h⟩

theorem get?_filterMap (f : α → Option β) (t : Table α) (key : String) :
    (t.filterMap f).get? key = (t.get? key).bind f := by
  refine Option.ext fun b => ?_
  rw [get?_eq_some_iff, Option.bind_eq_some_iff]
  show _ ∈ t.entries.filterMap _ ↔ _
  rw [List.mem_filterMap]
  constructor
  · rintro ⟨e, he, hvalue⟩
    obtain ⟨_, hf, hpair⟩ := Option.map_eq_some_iff.mp hvalue
    cases hpair
    exact ⟨e.2, get?_of_mem_entries he, hf⟩
  · rintro ⟨a, ha, hf⟩
    exact ⟨(key, a), mem_entries_of_get? ha, by rw [hf]; rfl⟩

end Table

/-! ### What is left without builtins -/

/-- The directive, unless it is builtin. -/
def DirectiveDefinition.visible? (d : DirectiveDefinition) : Option DirectiveDefinition :=
  if d.builtin then none else some d

/-- The type without reserved fields, unless it is builtin or reserved itself. -/
def Definition.visible? (d : Definition) : Option Definition :=
  if d.builtin || isMetaName d.name then none
  else some { d with fields := d.fields.filter fun f => !isMetaName f.name }

/-- The schema without builtin directives, builtin or reserved types, and reserved fields, by
`visible?`. -/
def Schema.visible (s : Schema) : Schema :=
  { s with
    types := s.types.filterMap Definition.visible?
    directives := s.directives.filterMap DirectiveDefinition.visible? }

theorem DirectiveDefinition.pieces_false (d : DirectiveDefinition) :
    d.pieces false = d.visible?.toList.flatMap (·.pieces true) := by
  unfold visible?
  cases hbuiltin : d.builtin with
  | true => simp [DirectiveDefinition.pieces, hbuiltin]
  | false => simp [DirectiveDefinition.pieces, hbuiltin]

theorem Definition.pieces_false (d : Definition) :
    d.pieces false = d.visible?.toList.flatMap (·.pieces true) := by
  unfold visible?
  cases hhidden : d.builtin || isMetaName d.name with
  | true => simp [Definition.pieces, hhidden]
  | false => simp [Definition.pieces, Definition.bodyPieces, Definition.visibleFields, hhidden]

namespace Schema

/-- What is laid out by default is the `visible` part of a schema. -/
theorem pieces_false (s : Schema) : s.pieces false = s.visible.pieces true := by
  have hroots : s.visible.rootPieces = s.rootPieces := rfl
  have hdirectives : s.visible.directives.values.flatMap (·.pieces true) =
      s.directives.values.flatMap (·.pieces false) := by
    show (s.directives.filterMap _).values.flatMap _ = _
    rw [Table.values_filterMap, List.filterMap_eq_flatMap_toList, List.flatMap_assoc]
    exact List.flatMap_congr fun d _ => d.pieces_false.symm
  have htypes : s.visible.types.values.flatMap (·.pieces true) =
      s.types.values.flatMap (·.pieces false) := by
    show (s.types.filterMap _).values.flatMap _ = _
    rw [Table.values_filterMap, List.filterMap_eq_flatMap_toList, List.flatMap_assoc]
    exact List.flatMap_congr fun d _ => d.pieces_false.symm
  unfold pieces
  rw [hroots, hdirectives, htypes]

/-- A layout depends on types, directives and root types alone. -/
theorem pieces_eq {s t : Schema} (htypes : s.types = t.types)
    (hdirectives : s.directives = t.directives)
    (hroots : ∀ kind, s.rootName? kind = t.rootName? kind) (builtins : Bool) :
    s.pieces builtins = t.pieces builtins := by
  have hnamed : s.roots = t.roots := by
    unfold roots
    exact List.filterMap_congr fun kind _ => by rw [hroots]
  unfold pieces rootPieces
  rw [htypes, hdirectives, hnamed]

end Schema

/-! ### Schemas with and without reserved types -/

namespace Collected

open Introspection (Payload TypeRecord)

theorem definitions_ofPayload_false (options : Options) (payload : Payload) :
    (ofPayload { options with keepBuiltins := false } payload).definitions =
      (ofPayload { options with keepBuiltins := true } payload).definitions.filter
        fun d => !isMetaName d.name := by
  have hrecord : ∀ r : TypeRecord,
      (r.definition? options.scalarNullability).filter (fun d => !isMetaName d.name) =
        if !isMetaName r.name then r.definition? options.scalarNullability else none := by
    intro r
    cases hdecoded : r.definition? options.scalarNullability with
    | none => simp
    | some d => simp [Option.filter, TypeRecord.name_of_definition? hdecoded]
  have hall : Schema.takenTypes true payload = payload.types.filterMap id :=
    List.filter_eq_self.mpr fun _ _ => rfl
  show (Schema.takenTypes false payload).filterMap _ =
    ((Schema.takenTypes true payload).filterMap _).filter _
  rw [hall, List.filter_filterMap]
  refine List.filterMap_filter.trans (List.filterMap_congr fun r _ => ?_)
  exact (hrecord r).symm

theorem type?_ofPayload_false (options : Options) (payload : Payload) (name : String) :
    (ofPayload { options with keepBuiltins := false } payload).type? name =
      if isMetaName name then none
      else (ofPayload { options with keepBuiltins := true } payload).type? name := by
  have hfind : (ofPayload { options with keepBuiltins := false } payload).definitions.findRev?
        (·.name = name) =
      if isMetaName name then none
      else (ofPayload { options with keepBuiltins := true } payload).definitions.findRev?
        (·.name = name) := by
    rw [definitions_ofPayload_false, List.findRev?_eq_find?_reverse,
      List.findRev?_eq_find?_reverse, ← List.filter_reverse, List.find?_filter]
    split
    · rename_i hmeta
      refine List.find?_eq_none.mpr fun d _ hd => ?_
      simp only [decide_eq_true_eq] at hd
      rw [hd.2, hmeta] at hd
      exact absurd hd.1 (by decide)
    · rename_i hmeta
      refine congrArg (List.find? · _) (funext fun d => ?_)
      by_cases hname : d.name = name
      · simp [hname, hmeta]
      · simp [hname]
  unfold type?
  rw [hfind]
  split
  · rfl
  · rfl

end Collected

namespace Schema

open Introspection (Payload)

/-- Schemas of one payload, with and without reserved types, have the same `visible` part. -/
theorem pieces_visible_eq_of_ofPayload {options : Options} {payload : Payload} {s t : Schema}
    (hs : ofPayload { options with keepBuiltins := true } payload = .ok s)
    (ht : ofPayload { options with keepBuiltins := false } payload = .ok t) :
    s.visible.pieces true = t.visible.pieces true := by
  have hkept := shows_of_ofPayload hs
  have hdropped := shows_of_ofPayload ht
  refine pieces_eq (Table.ext fun n => ?_) ?_ (fun kind => ?_) true
  · show (s.types.filterMap _).get? n = (t.types.filterMap _).get? n
    rw [Table.get?_filterMap, Table.get?_filterMap]
    show (s.type? n).bind _ = (t.type? n).bind _
    rw [hkept.types, hdropped.types, Collected.type?_ofPayload_false]
    split
    · rename_i hmeta
      refine Option.bind_eq_none_iff.mpr fun d hd => ?_
      unfold Definition.visible?
      rw [Collected.name_of_type? hd, hmeta, Bool.or_true, if_pos rfl]
    · rfl
  · have hdirectives : s.directives = t.directives := Table.ext fun n => by
      rw [hkept.directives, hdropped.directives]
      rfl
    exact congrArg (·.filterMap DirectiveDefinition.visible?) hdirectives
  · have hroot : s.rootName? kind = t.rootName? kind := by
      rw [hkept.roots, hdropped.roots]
      rfl
    cases kind <;> exact hroot

/-- **Builtins in print.**  By default a schema prints as its `visible` part does in full: as the
texts of the `blocks` of that, one blank line between two of them, and without braces where all
fields are hidden.  A payload prints alike from the schemas with and without reserved types, if both
can be built. -/
theorem print_without_builtins :
    (∀ (s : Schema) (indent : String),
      s.print indent false = s.visible.print indent true ∧
      s.print indent false = "\n".intercalate
        (((s.visible.blocks true).filter (· ≠ [])).map (layout indent))) ∧
    (∀ d : Definition, d.kind ≠ .enum → (∀ f ∈ d.fields, isMetaName f.name = true) →
      d.bodyPieces false = []) ∧
    ∀ (options : Options) (payload : Payload) (s t : Schema),
      ofPayload { options with keepBuiltins := true } payload = .ok s →
      ofPayload { options with keepBuiltins := false } payload = .ok t →
      ∀ indent, s.print indent false = t.print indent false := by
  have hvisible : ∀ (s : Schema) (indent : String),
      s.print indent false = s.visible.print indent true := fun s indent =>
    congrArg (layout indent) s.pieces_false
  refine ⟨fun s indent => ⟨hvisible s indent, ?_⟩, fun d hkind hhidden => ?_,
    fun options payload s t hs ht indent => ?_⟩
  · rw [hvisible, print_eq_intercalate]
  · have hfields : d.visibleFields false = [] :=
      List.filter_eq_nil_iff.mpr fun f hf => by simp [hhidden f hf]
    unfold Definition.bodyPieces
    split
    · contradiction
    · rw [hfields]
      rfl
  · rw [hvisible, hvisible]
    exact congrArg (layout indent) (pieces_visible_eq_of_ofPayload hs ht)

/-- A type with a reserved field and one with no other, beside a reserved type and builtin ones. -/
def introspective : Payload :=
  let text : Option Introspection.TypeRef := some (.last (.named .scalar) (some "String"))
  let object (name : String) (fields : List String) : Introspection.TypeRecord :=
    ⟨.named .object, name, none,
      some (fields.map fun f => ⟨f, none, [], text, false, none⟩), none, none, none, none⟩
  let string : Introspection.TypeRecord :=
    ⟨.named .scalar, "String", none, none, none, none, none, none⟩
  { queryRoot := some "Query"
    mutationRoot := none
    subscriptionRoot := none
    types := [object "__Type" ["name"], object "Query" ["__schema", "title"],
      object "Bare" ["__id"], string]
    directives := [⟨"include", none, false, ["FIELD"], []⟩, ⟨"live", none, false, ["QUERY"], []⟩] }

def introspectiveText : String :=
  "directive @live on QUERY\n\ntype Bare\n\ntype Query \x7b\n  title: String\n\x7d\n"

theorem print_without_builtins_introspective :
    ∃ s t, ofPayload { Options.default with keepBuiltins := true } introspective = .ok s ∧
      ofPayload { Options.default with keepBuiltins := false } introspective = .ok t ∧
      s.types.contains "__Type" = true ∧ t.types.contains "__Type" = false ∧
      s.print "  " false = t.print "  " false ∧ t.print "  " false = introspectiveText ∧
      ∃ bare, s.type? "Bare" = some bare ∧ bare.bodyPieces false = [] := by
  have hkept : (ofPayload { Options.default with keepBuiltins := true }
      introspective).toOption.map (fun s => (s.types.contains "__Type", s.type? "Bare")) =
      some (true, some { Definition.bare .object "Bare" with
        fields := [⟨"__id", none, [], none, .named "String" false, []⟩] }) := by decide +kernel
  have hdropped : (ofPayload { Options.default with keepBuiltins := false }
      introspective).toOption.map (fun t => (t.types.contains "__Type", t.print "  " false)) =
      some (false, introspectiveText) := by decide +kernel
  obtain ⟨s, hs, hkept⟩ := Option.map_eq_some_iff.mp hkept
  obtain ⟨t, ht, hdropped⟩ := Option.map_eq_some_iff.mp hdropped
  obtain ⟨htype, hbare⟩ := Prod.mk.inj hkept
  obtain ⟨hnone, htext⟩ := Prod.mk.inj hdropped
  have hs := eq_ok_of_toOption hs
  have ht := eq_ok_of_toOption ht
  obtain ⟨-, hbraces, hsame⟩ := print_without_builtins
  exact ⟨s, t, hs, ht, htype, hnone, hsame .default introspective s t hs ht "  ", htext, _, hbare,
    hbraces _ (by decide) (by decide)⟩

end Schema

end QueryBindings

import QueryBindings.Proofs.RootTypes
import QueryBindings.Proofs.SchemaKeys

/-! # What is collected for a schema

A payload and a text both come down to lists: definitions, additions to them, directives, and the
names of root types.  Of these a name gets its type: the last definition of that name, with all
additions to it in order.  It is said here apart from the tables that hold it while a schema is put
together.

Main statements: `ofPayload_eq_assemble` and `ofEntries_eq_assemble` (what is assembled in the end
shows what was collected). -/

namespace QueryBindings

open Grammar (SchemaEntry RootBlock)

open Introspection (Payload)

/-- What is collected for a schema, in the order in which it was met: `definitions` of types,
`additions` to them, `directives` and the root types. -/
structure Collected where
  definitions : List Definition
  additions : List Definition
  directives : List DirectiveDefinition
  root? : OperationKind → Option String

namespace Collected

/-- The type of a name: its last definition, with all `additions` to it. -/
def type? (c : Collected) (name : String) : Option Definition :=
  (c.definitions.findRev? (·.name = name)).map fun d =>
    (c.additions.filter (·.name = name)).foldl Definition.extend d

def Defines (c : Collected) (name : String) : Prop := ∃ d ∈ c.definitions, d.name = name

/-- The directive of a name: its last definition. -/
def directive? (c : Collected) (name : String) : Option DirectiveDefinition :=
  c.directives.findRev? (·.name = name)

theorem defines_iff {c : Collected} {name : String} :
    c.Defines name ↔ ∃ d, c.type? name = some d := by
  unfold type?
  rw [← Option.isSome_iff_exists, Option.isSome_map, List.findRev?_eq_find?_reverse,
    List.find?_isSome]
  simp [Defines]

theorem name_of_type? {c : Collected} {name : String} {d : Definition}
    (h : c.type? name = some d) : d.name = name := by
  have hextend : ∀ (additions : List Definition) (e : Definition),
      (additions.foldl Definition.extend e).name = e.name := by
    intro additions
    induction additions with
    | nil => exact fun _ => rfl
    | cons a rest ih => exact fun e => ih (e.extend a)
  obtain ⟨e, he, rfl⟩ := Option.map_eq_some_iff.mp h
  rw [List.findRev?_eq_find?_reverse] at he
  have hname := List.find?_some he
  rw [hextend]
  exact of_decide_eq_true hname

theorem name_of_directive? {c : Collected} {name : String} {d : DirectiveDefinition}
    (h : c.directive? name = some d) : d.name = name := by
  unfold directive? at h
  rw [List.findRev?_eq_find?_reverse] at h
  have hname := List.find?_some h
  exact of_decide_eq_true hname

/-- What an answer tells: the `takenTypes` and directives that can be decoded. -/
def ofPayload (options : Options) (payload : Payload) : Collected where
  definitions := (Schema.takenTypes options.keepBuiltins payload).filterMap
    (·.definition? options.scalarNullability)
  additions := []
  directives := payload.directives.map (·.definition options.scalarNullability)
  root?
    | .query => payload.queryRoot
    | .mutation => payload.mutationRoot
    | .subscription => payload.subscriptionRoot

end Collected

namespace Grammar

def RootBlock.root? (block : RootBlock) : OperationKind → Option String
  | .query => block.query
  | .mutation => block.mutation
  | .subscription => block.subscription

namespace SchemaEntry

def type? : SchemaEntry → Option Definition
  | .type d => some d
  | _ => none

def directive? : SchemaEntry → Option DirectiveDefinition
  | .directive d => some d
  | _ => none

def roots? : SchemaEntry → Option RootBlock
  | .roots block => some block
  | _ => none

end SchemaEntry

end Grammar

namespace Collected

/-- The types that the entries define, after the builtin scalars. -/
def definitionsOf (entries : List SchemaEntry) : List Definition :=
  builtinScalars.map (.bare .scalar) ++ entries.filterMap (·.type?)

/-- The last block that names the root types. -/
def rootsOf (entries : List SchemaEntry) : Option RootBlock :=
  (entries.filterMap (·.roots?)).getLast?

/-- What the entries of a text say.  Without a block of `rootsOf` the root types are the types of
the default names. -/
def ofEntries (entries : List SchemaEntry) : Collected where
  definitions := definitionsOf entries
  additions := entries.filterMap Schema.addition?
  directives := entries.filterMap (·.directive?)
  root? kind :=
    match rootsOf entries with
    | some block => block.root? kind
    | none =>
      if (definitionsOf entries).any (·.name = kind.defaultRoot) then some kind.defaultRoot
      else none

end Collected

/-! ### Schemas of what is collected -/

namespace Schema

/-- A schema holds under each name what was collected for it: `Collected.type?`,
`Collected.directive?` and the root types. -/
structure Shows (s : Schema) (c : Collected) : Prop where
  types : ∀ n, s.type? n = c.type? n
  directives : ∀ n, s.directives.get? n = c.directive? n
  roots : ∀ kind, s.rootName? kind = c.root? kind

theorem Shows.indexPossible {s : Schema} {c : Collected} (h : s.Shows c) :
    s.indexPossible.Shows c := by
  rw [indexPossible_eq]
  exact ⟨h.types, h.directives, fun kind => (by cases kind <;> rfl : _ = _).trans (h.roots kind)⟩

/-! ### Payloads -/

/-- `Schema.ofPayload` is `assemble` on a schema that `Shows` what is collected. -/
theorem ofPayload_eq_assemble (options : Options) (payload : Payload) :
    ∃ base : Schema, base.Shows (.ofPayload options payload) ∧ base.possible = ∅ ∧
      ofPayload options payload = base.assemble := by
  refine ⟨_, ⟨fun n => ?_, fun n => ?_, fun kind => ?_⟩, ?_, rfl⟩
  · rw [foldl_addDirective_eq, foldl_addType_eq]
    refine (Table.get?_foldl_insert_name _ _ _ n).trans ?_
    exact Option.or_none.trans Option.map_id'.symm
  · rw [foldl_addDirective_eq, foldl_addType_eq]
    exact (Table.get?_foldl_insert_name _ _ _ n).trans Option.or_none
  · rw [foldl_addDirective_eq, foldl_addType_eq]
    cases kind <;> rfl
  · rw [foldl_addDirective_eq, foldl_addType_eq]
    rfl

theorem shows_of_ofPayload {options : Options} {payload : Payload} {s : Schema}
    (h : ofPayload options payload = .ok s) : s.Shows (.ofPayload options payload) := by
  obtain ⟨base, hshows, -, hbase⟩ := ofPayload_eq_assemble options payload
  rw [hbase] at h
  obtain ⟨rfl, -⟩ := assemble_eq_ok.mp h
  exact hshows.indexPossible

/-! ### Entries of a text -/

theorem foldl_addEntry_eq (s : Schema) (es : List SchemaEntry) :
    (es.foldl addEntry s).types =
        (es.filterMap (·.type?)).foldl (fun t d => t.insert d.name d) s.types ∧
      (es.foldl addEntry s).directives =
        (es.filterMap (·.directive?)).foldl (fun t d => t.insert d.name d) s.directives := by
  induction es generalizing s with
  | nil => exact ⟨rfl, rfl⟩
  | cons e rest ih => cases e <;> exact ih _

theorem rootName?_addEntry (s : Schema) (e : SchemaEntry) (kind : OperationKind) :
    (s.addEntry e).rootName? kind = match e.roots? with
      | some block => block.root? kind
      | none => s.rootName? kind := by
  cases e <;> cases kind <;> rfl

theorem rootName?_foldl_addEntry (s : Schema) (es : List SchemaEntry) (kind : OperationKind) :
    (es.foldl addEntry s).rootName? kind = match Collected.rootsOf es with
      | some block => block.root? kind
      | none => s.rootName? kind := by
  unfold Collected.rootsOf
  induction es generalizing s with
  | nil => rfl
  | cons e rest ih =>
      rw [List.foldl_cons, ih, rootName?_addEntry, List.filterMap_cons]
      cases e.roots? with
      | none => rfl
      | some block =>
          dsimp only
          rw [List.getLast?_cons]
          cases (rest.filterMap (·.roots?)).getLast? <;> rfl

/-- `addEntry` for all entries puts `definitionsOf` on top of the builtin scalars. -/
theorem get?_types_defined (es : List SchemaEntry) (n : String) :
    (es.foldl addEntry builtin).types.get? n =
      (Collected.definitionsOf es).findRev? (·.name = n) := by
  have hall : (es.foldl addEntry builtin).types =
      (Collected.definitionsOf es).foldl (fun t d => t.insert d.name d) ∅ := by
    unfold Collected.definitionsOf
    rw [(foldl_addEntry_eq builtin es).1, List.foldl_append]
    rfl
  rw [hall, Table.get?_foldl_insert_name]
  exact Option.or_none

/-- `extendType` puts additions at the ends of the types that they name, if there are such types. -/
theorem foldlM_extendType_eq {s : Schema} {additions : List Definition}
    (h : ∀ a ∈ additions, s.types.contains a.name = true) :
    ∃ types : Table Definition, additions.foldlM extendType s = .ok { s with types := types } ∧
      ∀ n, types.get? n = (s.types.get? n).map fun d =>
        (additions.filter (·.name = n)).foldl Definition.extend d := by
  induction additions generalizing s with
  | nil => exact ⟨s.types, rfl, fun n => Option.map_id'.symm⟩
  | cons a rest ih =>
      rw [List.forall_mem_cons] at h
      obtain ⟨d, hd⟩ := (s.types.contains_iff a.name).mp h.1
      have hstep : s.extendType a =
          .ok { s with types := s.types.insert a.name (d.extend a) } := by
        unfold extendType type?
        rw [hd]
      obtain ⟨types, hrest, hget⟩ :=
        @ih { s with types := s.types.insert a.name (d.extend a) } fun b hb => by
          rw [contains_insert, h.2 b hb, Bool.or_true]
      refine ⟨types, ?_, fun n => ?_⟩
      · rw [List.foldlM_cons, hstep]
        exact hrest
      · rw [hget, Table.get?_insert]
        by_cases hn : n = a.name
        · subst hn
          rw [if_pos rfl, hd, List.filter_cons_of_pos (by simp)]
          rfl
        · rw [if_neg hn, List.filter_cons_of_neg (by simpa using Ne.symm hn)]

theorem contains_of_foldlM_extendType {s t : Schema} {additions : List Definition}
    (h : additions.foldlM extendType s = .ok t) :
    ∀ a ∈ additions, s.types.contains a.name = true := by
  induction additions generalizing s with
  | nil => exact List.forall_mem_nil _
  | cons a rest ih =>
      rw [List.foldlM_cons] at h
      obtain ⟨mid, hfirst, hrest⟩ := bind_eq_ok.mp h
      unfold extendType at hfirst
      split at hfirst
      · rename_i d hd
        cases hfirst
        have hthere : s.types.contains a.name = true := (s.types.contains_iff a.name).mpr ⟨d, hd⟩
        refine List.forall_mem_cons.mpr ⟨hthere, fun b hb => ?_⟩
        have hafter := ih hrest b hb
        rw [contains_insert, Bool.or_eq_true, decide_eq_true_eq] at hafter
        rcases hafter with hname | hbefore
        · rw [hname]
          exact hthere
        · exact hbefore
      · cases hfirst

theorem contains_defined_iff {es : List SchemaEntry} {n : String} :
    (es.foldl addEntry builtin).types.contains n = true ↔ (Collected.ofEntries es).Defines n := by
  rw [Table.contains_iff, get?_types_defined, Collected.defines_iff]
  unfold Collected.type?
  constructor
  · rintro ⟨d, hd⟩
    exact ⟨_, Option.map_eq_some_iff.mpr ⟨d, hd, rfl⟩⟩
  · rintro ⟨d, hd⟩
    obtain ⟨e, he, -⟩ := Option.map_eq_some_iff.mp hd
    exact ⟨e, he⟩

theorem any_namesRoots_eq (es : List SchemaEntry) :
    es.any namesRoots = (Collected.rootsOf es).isSome := by
  unfold Collected.rootsOf
  induction es with
  | nil => rfl
  | cons e rest ih =>
      rw [List.any_cons, List.filterMap_cons, ih]
      cases e with
      | roots block =>
          show true = ((block :: rest.filterMap (·.roots?)).getLast?).isSome
          rw [List.getLast?_cons]
          rfl
      | type d => rfl
      | directive d => rfl
      | extension d => rfl

theorem exists_extended {es : List SchemaEntry}
    (h : ∀ a ∈ es.filterMap addition?, (Collected.ofEntries es).Defines a.name) :
    ∃ extended : Schema,
      (es.filterMap addition?).foldlM extendType (es.foldl addEntry builtin) = .ok extended ∧
      (∀ n, extended.type? n = (Collected.ofEntries es).type? n) ∧
      (∀ n, extended.directives.get? n = (Collected.ofEntries es).directive? n) ∧
      (∀ kind, extended.rootName? kind = (Collected.rootsOf es).bind (·.root? kind)) ∧
      extended.possible = ∅ := by
  have hcontains : ∀ a ∈ es.filterMap addition?,
      (es.foldl addEntry builtin).types.contains a.name = true :=
    fun a ha => contains_defined_iff.mpr (h a ha)
  obtain ⟨types, hextended, hget⟩ := foldlM_extendType_eq hcontains
  refine ⟨_, hextended, fun n => ?_, fun n => ?_, fun kind => ?_,
    foldl_addEntry_possible builtin es⟩
  · show types.get? n = _
    rw [hget, get?_types_defined]
    rfl
  · show (es.foldl addEntry builtin).directives.get? n = _
    rw [(foldl_addEntry_eq builtin es).2, Table.get?_foldl_insert_name]
    exact Option.or_none
  · have hkind := rootName?_foldl_addEntry builtin es kind
    refine Eq.trans (by cases kind <;> rfl) (hkind.trans ?_)
    cases Collected.rootsOf es with
    | some block => rfl
    | none => cases kind <;> rfl

/-- `Schema.ofEntries` is `assemble` on a schema that `Shows` what is collected, if the extensions
name types that are defined. -/
theorem ofEntries_eq_assemble {es : List SchemaEntry}
    (h : ∀ a ∈ es.filterMap addition?, (Collected.ofEntries es).Defines a.name) :
    ∃ base : Schema, base.Shows (.ofEntries es) ∧ base.possible = ∅ ∧
      ofEntries es = base.assemble := by
  obtain ⟨extended, hextended, htypes, hdirectives, hroots, hpossible⟩ := exists_extended h
  have hassemble : ofEntries es =
      (if es.any namesRoots then extended else extended.withDefaultRoots).assemble := by
    show ((es.filterMap addition?).foldlM extendType (es.foldl addEntry builtin) >>= _) = _
    rw [hextended]
    rfl
  rw [any_namesRoots_eq] at hassemble
  have hroot : ∀ kind, (Collected.ofEntries es).root? kind = match Collected.rootsOf es with
      | some block => block.root? kind
      | none => if (Collected.definitionsOf es).any (·.name = kind.defaultRoot)
          then some kind.defaultRoot else none := fun _ => rfl
  cases hblock : Collected.rootsOf es with
  | some block =>
      rw [hblock] at hassemble
      refine ⟨extended, ⟨htypes, hdirectives, fun kind => ?_⟩, hpossible, hassemble⟩
      rw [hroots, hroot, hblock]
      rfl
  | none =>
      rw [hblock] at hassemble
      have hrooted := rooted_withDefaultRoots extended
      refine ⟨extended.withDefaultRoots, ⟨fun n => ?_, fun n => ?_, fun kind => ?_⟩,
        hrooted.possible.trans hpossible, hassemble⟩
      · rw [← htypes]
        exact congrArg (Table.get? · n) hrooted.types
      · rw [← hdirectives]
        exact congrArg (Table.get? · n) hrooted.directives
      · have hdefined : extended.types.contains kind.defaultRoot =
            (Collected.definitionsOf es).any (·.name = kind.defaultRoot) := by
          rw [Bool.eq_iff_iff, Table.contains_iff, List.any_eq_true]
          show (∃ d, extended.type? kind.defaultRoot = some d) ↔ _
          rw [htypes, ← Collected.defines_iff]
          simp [Collected.Defines, Collected.ofEntries]
        rw [rootName?_withDefaultRoots, hdefined, hroots, hroot, hblock]
        rfl

theorem defines_of_ofEntries {es : List SchemaEntry} {s : Schema} (h : ofEntries es = .ok s) :
    ∀ a ∈ es.filterMap addition?, (Collected.ofEntries es).Defines a.name := by
  unfold ofEntries at h
  obtain ⟨extended, hextended, -⟩ := bind_eq_ok.mp h
  exact fun a ha => contains_defined_iff.mp (contains_of_foldlM_extendType hextended a ha)

theorem shows_of_ofEntries {es : List SchemaEntry} {s : Schema} (h : ofEntries es = .ok s) :
    s.Shows (.ofEntries es) := by
  obtain ⟨base, hshows, -, hbase⟩ := ofEntries_eq_assemble (defines_of_ofEntries h)
  rw [hbase] at h
  obtain ⟨rfl, -⟩ := assemble_eq_ok.mp h
  exact hshows.indexPossible

end Schema

end QueryBindings

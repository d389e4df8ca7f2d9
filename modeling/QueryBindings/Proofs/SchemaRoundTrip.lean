import QueryBindings.Generation
import QueryBindings.Proofs.Layout.Definitions
import QueryBindings.Proofs.SchemaAssembly

/-! # Printed schemas are read back

The canonical text of a schema, builtin types included, has the tokens of its entries.  A schema
that was read is rebuilt from its entries: each of its types and directives stands at its own
name, and the builtin scalars are among them.

Main statement: `exists_ofText_print`. -/

namespace QueryBindings

open Grammar

namespace Schema

/-- All descriptions have `NormalDescription`, and all values read back. -/
structure Normal (s : Schema) : Prop where
  types : ∀ d ∈ s.types.values, d.Normal
  directives : ∀ d ∈ s.directives.values, d.Normal

/-! ### Entries of a schema -/

theorem forall_mem_entries {P : SchemaEntry → Prop} {s : Schema} (hroots : P (.roots s.rootBlock))
    (hdirectives : ∀ d ∈ s.directives.values, P (.directive d))
    (htypes : ∀ d ∈ s.types.values, P (.type d)) : ∀ e ∈ s.entries, P e := by
  intro e he
  unfold entries at he
  rw [List.mem_append, List.mem_append] at he
  rcases he with he | he | he
  · split at he
    · cases he
    · rw [List.mem_singleton.mp he]
      exact hroots
  · obtain ⟨d, hd, rfl⟩ := List.mem_map.mp he
    exact hdirectives d hd
  · obtain ⟨d, hd, rfl⟩ := List.mem_map.mp he
    exact htypes d hd

theorem WellRead.sound_roots {s : Schema} (h : s.WellRead) :
    (SchemaEntry.roots s.rootBlock).Sound := by
  rintro ⟨kind, n⟩ hr
  rw [RootBlock.mem_roots] at hr
  apply h.roots kind n
  cases kind <;> exact hr

theorem WellRead.sound_directives {s : Schema} (h : s.WellRead) :
    ∀ d ∈ s.directives.values, d.Sound := by
  intro d hd
  obtain ⟨key, hkey⟩ := Table.mem_values_iff.mp hd
  exact (h.directives key d hkey).2

theorem WellRead.sound_types {s : Schema} (h : s.WellRead) : ∀ d ∈ s.types.values, d.Sound := by
  intro d hd
  obtain ⟨key, hkey⟩ := Table.mem_values_iff.mp hd
  exact (h.types key d hkey).2

theorem sound_entries {s : Schema} (h : s.WellRead) : ∀ e ∈ s.entries, e.Sound :=
  forall_mem_entries h.sound_roots h.sound_directives h.sound_types

theorem legible_entries {s : Schema} (h : s.WellRead) (hnormal : s.Normal)
    (hslots : ∀ d ∈ s.types.values, d.FillsOwnSlots) (hfit : ∀ d ∈ s.types.values, d.FieldsFit)
    (hlocated : ∀ d ∈ s.directives.values, d.locations ≠ []) :
    ∀ e ∈ s.entries, e.Legible := by
  refine forall_mem_entries h.sound_roots (fun d hd => ?_) fun d hd => ?_
  · exact (h.sound_directives d hd).legible (hnormal.directives d hd) (hlocated d hd)
  · exact ⟨(h.sound_types d hd).legible (hnormal.types d hd), hslots d hd, hfit d hd⟩

theorem entries_ne_nil {s : Schema} (h : s.WellRead) : s.entries ≠ [] := by
  have hint := h.scalars "Int" (by decide)
  obtain ⟨d, hd⟩ := (s.types.contains_iff "Int").mp hint
  have hmem : SchemaEntry.type d ∈ s.entries := by
    unfold entries
    rw [List.mem_append, List.mem_append]
    exact .inr (.inr (List.mem_map.mpr ⟨d, Table.mem_values_iff.mpr ⟨"Int", hd⟩, rfl⟩))
  exact List.ne_nil_of_mem hmem

/-! ### Schemas from their entries -/

theorem foldl_addEntry_directives (s : Schema) (ds : List DirectiveDefinition) :
    (ds.map SchemaEntry.directive).foldl addEntry s =
      { s with directives := ds.foldl (fun t d => t.insert d.name d) s.directives } := by
  induction ds generalizing s with
  | nil => rfl
  | cons d ds ih =>
      rw [List.map_cons, List.foldl_cons, ih]
      rfl

theorem foldl_addEntry_types (s : Schema) (ds : List Definition) :
    (ds.map SchemaEntry.type).foldl addEntry s =
      { s with types := ds.foldl (fun t d => t.insert d.name d) s.types } := by
  induction ds generalizing s with
  | nil => rfl
  | cons d ds ih =>
      rw [List.map_cons, List.foldl_cons, ih]
      rfl

theorem foldl_addEntry_entries {s : Schema} (h : s.WellRead) {start : Schema}
    (htypes : start.types = builtin.types) (hdirectives : start.directives = ∅) :
    (s.directives.values.map SchemaEntry.directive ++ s.types.values.map SchemaEntry.type).foldl
      addEntry start = { start with types := s.types, directives := s.directives } := by
  have hscalars : ∀ key, start.types.contains key = true → s.types.contains key = true := by
    intro key hkey
    rw [htypes] at hkey
    obtain ⟨d, hd⟩ := (builtin.types.contains_iff key).mp hkey
    have hkeys : ∀ k ∈ builtin.types.keys, k ∈ builtinScalars := by decide
    exact h.scalars key (hkeys key (Table.mem_keys_of_get? hd))
  have hnone : ∀ key, start.directives.contains key = true → s.directives.contains key = true := by
    intro key hkey
    rw [hdirectives] at hkey
    cases hkey
  rw [List.foldl_append, foldl_addEntry_directives, foldl_addEntry_types]
  dsimp only
  rw [Table.foldl_insert_values (fun key d hd => (h.types key d hd).1) hscalars,
    Table.foldl_insert_values (fun key d hd => (h.directives key d hd).1) hnone]

theorem contains_of_rootName? {s : Schema}
    (hresolved : ∀ r ∈ s.references, s.types.contains r.2 = true) {kind : OperationKind}
    {n : String} (h : s.rootName? kind = some n) : s.types.contains n = true := by
  apply hresolved ("schema." ++ kind.keyword, n)
  unfold references
  rw [List.append_assoc]
  refine List.mem_append_left _ (List.mem_filterMap.mpr ⟨kind, ?_, ?_⟩)
  · cases kind <;> decide
  · rw [h]
    rfl

theorem resolved_of_rooted {s t : Schema} (h : ∀ r ∈ s.references, s.types.contains r.2 = true)
    {base : Schema} (hrooted : Rooted base t) (htypes : base.types = s.types)
    (hdirectives : base.directives = s.directives)
    (hroots : ∀ kind n, base.rootName? kind = some n → s.rootName? kind = some n) :
    ∀ r ∈ t.references, t.types.contains r.2 = true := by
  intro r hr
  unfold references at hr
  rw [hrooted.types, htypes]
  rw [hrooted.types, hrooted.directives, htypes, hdirectives, List.append_assoc,
    List.mem_append] at hr
  rcases hr with hr | hr
  · obtain ⟨kind, -, hkind⟩ := List.mem_filterMap.mp hr
    obtain ⟨n, hn, rfl⟩ := Option.map_eq_some_iff.mp hkind
    rcases hrooted.roots kind n hn with hn | ⟨-, hcontains⟩
    · exact contains_of_rootName? h (hroots kind n hn)
    · exact htypes ▸ hcontains
  · apply h r
    unfold references
    rw [List.append_assoc]
    exact List.mem_append_right _ hr

theorem ofEntries_of_no_extension {es : List SchemaEntry} (h : es.filterMap addition? = []) :
    ofEntries es = (if es.any namesRoots then es.foldl addEntry builtin
      else (es.foldl addEntry builtin).withDefaultRoots).assemble := by
  unfold ofEntries
  rw [h]
  rfl

theorem filterMap_addition?_entries (s : Schema) : s.entries.filterMap addition? = [] := by
  rw [List.filterMap_eq_nil_iff]
  exact forall_mem_entries rfl (fun _ _ => rfl) fun _ _ => rfl

/-- The entries name root types exactly if one of them has an unusual name. -/
theorem any_namesRoots_entries (s : Schema) :
    s.entries.any namesRoots = !s.roots.all fun root => root.2 = root.1.defaultRoot := by
  unfold entries
  by_cases hdefault : s.roots.all (fun root => root.2 = root.1.defaultRoot) = true
  · rw [if_pos hdefault, hdefault]
    simp [namesRoots]
  · rw [if_neg hdefault]
    simp [namesRoots, hdefault]

/-- The schema of the entries, before any root type is set by its default name. -/
def defined (s : Schema) : Schema :=
  { (if s.roots.all fun root => root.2 = root.1.defaultRoot then builtin
      else builtin.addEntry (.roots s.rootBlock)) with
    types := s.types
    directives := s.directives }

theorem foldl_addEntry_defined {s : Schema} (h : s.WellRead) :
    s.entries.foldl addEntry builtin = s.defined := by
  unfold entries defined
  split
  · exact foldl_addEntry_entries h rfl rfl
  · exact foldl_addEntry_entries h rfl rfl

theorem rootName?_defined (s : Schema) (kind : OperationKind) :
    s.defined.rootName? kind =
      if s.roots.all fun root => root.2 = root.1.defaultRoot then none else s.rootName? kind := by
  unfold defined
  split <;> cases kind <;> rfl

/-- A schema that is `WellRead`, without dangling references, is rebuilt from its `entries`, but for
root types that have their default names. -/
theorem ofEntries_entries {s : Schema} (h : s.WellRead)
    (hresolved : ∀ r ∈ s.references, s.types.contains r.2 = true) (hpossible : s.possible = ∅) :
    ∃ t, ofEntries s.entries = .ok t ∧ t.types = s.types ∧ t.directives = s.directives ∧
      t.possible = s.indexPossible.possible := by
  have hroots : ∀ kind n, s.defined.rootName? kind = some n → s.rootName? kind = some n := by
    intro kind n hn
    rw [rootName?_defined] at hn
    split at hn
    · cases hn
    · exact hn
  have hnone : s.defined.possible = ∅ := by
    unfold defined
    split <;> rfl
  rw [ofEntries_of_no_extension s.filterMap_addition?_entries, foldl_addEntry_defined h]
  -- Whether or not root types are set by default, assembling gives the same tables.
  have hrooted : Rooted s.defined
      (if s.entries.any namesRoots then s.defined else s.defined.withDefaultRoots) := by
    split
    · exact Rooted.refl _
    · exact rooted_withDefaultRoots _
  have hall := resolved_of_rooted hresolved hrooted rfl rfl hroots
  refine ⟨_, assemble_eq_ok.mpr ⟨rfl, hall⟩, ?_, ?_, ?_⟩
  · rw [indexPossible_eq]
    exact hrooted.types
  · rw [indexPossible_eq]
    exact hrooted.directives
  · refine possible_indexPossible hrooted.types ?_
    rw [hrooted.possible, hnone, hpossible]

/-! ### Round trips -/

theorem ofText_eq_ok {text : String} {s : Schema} :
    ofText text = .ok s ↔ ∃ es, readAll schemaText text = .ok es ∧ ofEntries es = .ok s := by
  unfold ofText readSchema
  split <;> rename_i h <;> simp [h]

/-- The canonical text of a schema that was read, builtin types included, is read as a schema with
the same types, directives and possible types, if every definition has `FillsOwnSlots` and
`FieldsFit`, and the schema is `Normal`. -/
theorem exists_ofText_print {o options : Options} {indent source : String} {s : Schema}
    (hindent : o.withIndent indent = .ok options) (hread : ofText source = .ok s)
    (hslots : ∀ d ∈ s.types.values, d.FillsOwnSlots) (hfit : ∀ d ∈ s.types.values, d.FieldsFit)
    (hlocated : ∀ d ∈ s.directives.values, d.locations ≠ []) (hnormal : s.Normal) :
    ∃ t, ofText (s.print options.indent true) = .ok t ∧ t.types = s.types ∧
      t.directives = s.directives ∧ t.possible = s.possible := by
  obtain ⟨base, hwell, hpossible, rfl, hresolved⟩ := wellRead_of_ofText hread
  have heq := base.indexPossible_eq
  have hentries : base.indexPossible.entries = base.entries := by
    rw [heq]
    rfl
  have htypes : base.indexPossible.types = base.types := by rw [heq]
  have hdirectives : base.indexPossible.directives = base.directives := by rw [heq]
  rw [htypes] at hslots hfit ⊢
  rw [hdirectives] at hlocated ⊢
  have hnormal' : base.Normal := ⟨htypes ▸ hnormal.types, hdirectives ▸ hnormal.directives⟩
  have hlegible := legible_entries hwell hnormal' hslots hfit hlocated
  rw [← hentries] at hlegible
  have htokens : lex (base.indexPossible.print options.indent true).toList =
      base.indexPossible.entries.flatMap SchemaEntry.tokens :=
    lex_layout (isPad_of_withIndent hindent) (emits_schema hlegible)
  obtain ⟨t, hbuild, hsame⟩ := ofEntries_entries hwell hresolved hpossible
  refine ⟨t, ofText_eq_ok.mpr ⟨base.entries, ?_, hbuild⟩, hsame⟩
  apply Rule.readAll_of_lex yields_schemaText
  rw [htokens, hentries]
  rw [hentries] at hlegible
  exact reads_schemaText (entries_ne_nil hwell) hlegible

/-! ### Schemas with few types -/

theorem forall_addType {P : Definition → Prop} {s : Schema} (h : ∀ d ∈ s.types.values, P d)
    {e : Definition} (he : P e) : ∀ d ∈ (s.addType e).types.values, P d := by
  intro d hd
  obtain ⟨key, hkey⟩ := Table.mem_values_iff.mp hd
  unfold addType at hkey
  rw [Table.get?_insert] at hkey
  split at hkey
  · cases hkey
    exact he
  · exact h d (Table.mem_values_iff.mpr ⟨key, hkey⟩)

theorem forall_builtin {P : Definition → Prop} (h : ∀ n, P (.bare .scalar n)) :
    ∀ d ∈ builtin.types.values, P d := by
  have hall : ∀ (names : List String) (s : Schema), (∀ d ∈ s.types.values, P d) →
      ∀ d ∈ (names.foldl (fun s n => s.addType (.bare .scalar n)) s).types.values, P d := by
    intro names
    induction names with
    | nil => exact fun s hs => hs
    | cons n names ih => exact fun s hs => ih _ (forall_addType hs (h n))
  exact hall builtinScalars empty nofun

theorem fieldsFit_bare (kind : TypeKind) (n : String) : (Definition.bare kind n).FieldsFit :=
  ⟨nofun, nofun⟩

theorem normal_bare (kind : TypeKind) (n : String) : (Definition.bare kind n).Normal :=
  ⟨nofun, nofun, nofun, nofun⟩

/-- A text with descriptions, an applied directive and a union. -/
def guildText : String :=
  "directive @tag(n: Int = 0) on OBJECT type Query @tag(n: 1) " ++
    "\x7b \"All.\" heroes(\"One.\" id: [ID]): U! \x7d union U = Query"

/-- The field of the root type. -/
def heroes : FieldDefinition where
  name := "heroes"
  description := some "All."
  arguments := [⟨"id", some "One.", none, .list (.named "ID" false) false, []⟩]
  defaultValue := none
  type := .named "U" true
  directives := []

/-- The root type of `guild`. -/
def guildQuery : Definition :=
  { Definition.bare .object "Query" with
    fields := [heroes]
    directives := [⟨"tag", [⟨"n", "1"⟩]⟩] }

/-- What the text defines. -/
def guild : Schema :=
  { (builtin.addType guildQuery).addType
      { Definition.bare .union "U" with members := ["Query"] } with
    directives := Table.ofList
      [("tag", ⟨"tag", none, [⟨"n", none, some "0", .named "Int" false, []⟩], false, ["OBJECT"],
        false⟩)]
    queryRoot := some "Query"
    possible := Table.ofList [("Query", ["Query"]), ("U", ["Query"])] }

theorem readsBack_one : Grammar.ReadsBack "1" := ⟨.int 1, by with_unfolding_all rfl, by decide⟩

theorem normal_guild : guild.Normal := by
  have hzero : Grammar.ReadsBack "0" := ⟨.int 0, by with_unfolding_all rfl, by decide⟩
  have hall : BlockNormal "All.".toList :=
    ⟨by decide, fun _ h => by cases h; decide, fun _ h => by cases h; decide,
      'A', _, List.mem_singleton.mpr rfl, by decide⟩
  have hsome : BlockNormal "One.".toList :=
    ⟨by decide, fun _ h => by cases h; decide, fun _ h => by cases h; decide,
      'O', _, List.mem_singleton.mpr rfl, by decide⟩
  have hheroes : heroes.Normal := by
    refine ⟨fun _ h => by cases h; exact hall, fun a ha => ?_, nofun, nofun⟩
    rw [List.mem_singleton.mp ha]
    exact ⟨fun _ h => by cases h; exact hsome, nofun, nofun⟩
  have hquery : guildQuery.Normal := by
    refine ⟨nofun, fun f hf => ?_, nofun, fun d hd => ?_⟩
    · rw [List.mem_singleton.mp hf]
      exact hheroes
    · rw [List.mem_singleton.mp hd]
      intro a ha
      rw [List.mem_singleton.mp ha]
      exact readsBack_one
  refine ⟨forall_addType (forall_addType (forall_builtin (normal_bare .scalar)) hquery)
    ⟨nofun, nofun, nofun, nofun⟩, fun d hd => ?_⟩
  rw [List.mem_singleton.mp hd]
  refine ⟨nofun, fun a ha => ?_⟩
  rw [List.mem_singleton.mp ha]
  exact ⟨nofun, fun _ h => by cases h; exact hzero, nofun⟩

theorem exists_ofText_print_guild :
    ofText guildText = .ok guild ∧ guild.Normal ∧
      ∃ t, ofText (guild.print "\t" true) = .ok t ∧ t.types = guild.types ∧
        t.directives = guild.directives ∧ t.possible = guild.possible := by
  obtain ⟨options, hindent, htab⟩ : ∃ options, Options.default.withIndent "\t" = .ok options ∧
      options.indent = "\t" := ⟨_, rfl, rfl⟩
  have hread : ofText guildText = .ok guild := eq_ok_of_toOption (by decide +kernel)
  have hquery : guildQuery.FillsOwnSlots :=
    ⟨fun h => absurd rfl h, fun _ => rfl, fun h => absurd rfl h, fun _ => rfl⟩
  have hfields : guildQuery.FieldsFit := by
    refine ⟨fun _ f hf => ?_, nofun⟩
    rw [List.mem_singleton.mp hf]
    rfl
  have hslots := forall_addType
    (forall_addType (forall_builtin (Definition.fillsOwnSlots_bare .scalar)) hquery)
    (e := { Definition.bare .union "U" with members := ["Query"] })
    ⟨fun _ _ => rfl, fun h => absurd rfl h, fun _ _ _ => rfl, fun _ => rfl⟩
  have hfit := forall_addType (forall_addType (forall_builtin (fieldsFit_bare .scalar)) hfields)
    (e := { Definition.bare .union "U" with members := ["Query"] }) ⟨nofun, nofun⟩
  have hlocated : ∀ d ∈ guild.directives.values, d.locations ≠ [] := by
    intro d hd
    rw [List.mem_singleton.mp hd]
    exact List.cons_ne_nil _ _
  have hround := exists_ofText_print hindent hread hslots hfit hlocated normal_guild
  rw [htab] at hround
  exact ⟨hread, normal_guild, hround⟩

/-! ### What print does not keep -/

/-- A text that defines a schema in the slots of its kinds and in normal form, but the canonical
text of that schema is not one. -/
def Misprinted (text : String) : Prop :=
  ∃ s, ofText text = .ok s ∧ (∀ d ∈ s.types.values, d.FillsOwnSlots) ∧ s.Normal ∧
    ∀ t, ofText (s.print "  " true) ≠ .ok t

/-- `I` was extended as an object. -/
def inputWithArguments : Definition :=
  { Definition.bare .inputObject "I" with
    fields := [⟨"a", none, [], none, .named "Int" false, []⟩,
      ⟨"b", none, [⟨"x", none, none, .named "Int" false, []⟩], none, .named "Int" false, []⟩] }

/-- `T` was extended as an input object. -/
def objectWithDefault : Definition :=
  { Definition.bare .object "T" with
    fields := [⟨"a", none, [], none, .named "Int" false, []⟩,
      ⟨"b", none, [], some "1", .named "Int" false, []⟩] }

theorem misprinted_input :
    Misprinted "input I { a: Int } extend type I { b(x: Int): Int }" := by
  have hslots : inputWithArguments.FillsOwnSlots :=
    ⟨fun _ _ => rfl, fun _ => rfl, fun _ _ h => absurd rfl h, fun _ => rfl⟩
  have hnormal : inputWithArguments.Normal := by
    refine ⟨nofun, fun f hf => ?_, nofun, nofun⟩
    simp only [inputWithArguments, List.mem_cons, List.not_mem_nil, or_false] at hf
    rcases hf with rfl | rfl
    · exact ⟨nofun, nofun, nofun, nofun⟩
    · refine ⟨nofun, fun a ha => ?_, nofun, nofun⟩
      rw [List.mem_singleton.mp ha]
      exact ⟨nofun, nofun, nofun⟩
  exact ⟨builtin.addType inputWithArguments, eq_ok_of_toOption (by decide +kernel),
    forall_addType (forall_builtin (Definition.fillsOwnSlots_bare .scalar)) hslots,
    ⟨forall_addType (forall_builtin (normal_bare .scalar)) hnormal, nofun⟩,
    ne_ok_of_toOption (by decide +kernel)⟩

theorem misprinted_object :
    Misprinted "type T { a: Int } extend input T { b: Int = 1 }" := by
  have hslots : objectWithDefault.FillsOwnSlots :=
    ⟨fun h => absurd rfl h, fun _ => rfl, fun h => absurd rfl h, fun _ => rfl⟩
  have hnormal : objectWithDefault.Normal := by
    refine ⟨nofun, fun f hf => ?_, nofun, nofun⟩
    simp only [objectWithDefault, List.mem_cons, List.not_mem_nil, or_false] at hf
    rcases hf with rfl | rfl
    · exact ⟨nofun, nofun, nofun, nofun⟩
    · exact ⟨nofun, nofun, fun _ h => by cases h; exact readsBack_one, nofun⟩
  exact ⟨{ builtin.addType objectWithDefault with possible := Table.ofList [("T", ["T"])] },
    eq_ok_of_toOption (by decide +kernel),
    forall_addType (forall_builtin (Definition.fillsOwnSlots_bare .scalar)) hslots,
    ⟨forall_addType (forall_builtin (normal_bare .scalar)) hnormal, nofun⟩,
    ne_ok_of_toOption (by decide +kernel)⟩

/-- `extendType` applies an extension to the type that it names whatever its kind, and a field with
arguments on an input object, or with a default value on an object, is printed but cannot be read
again. -/
theorem misprinted_extendedFields :
    Misprinted "input I { a: Int } extend type I { b(x: Int): Int }" ∧
      Misprinted "type T { a: Int } extend input T { b: Int = 1 }" :=
  ⟨misprinted_input, misprinted_object⟩

end Schema

end QueryBindings

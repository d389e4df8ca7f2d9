import QueryBindings.Proofs.DanglingReferences
import QueryBindings.Proofs.DefinitionSlots

/-! # Extensions

An extension says what could as well stand in the definition that it names.  A text without
extensions that says the same (`merged`) has at the end of each definition what the extensions add
to it, in the order of the text; a builtin scalar that is extended but not defined becomes a
definition.  What is collected for a schema is the same of both texts.

Main statement: `ofText_eq_merged`. -/

namespace QueryBindings

open Grammar (SchemaEntry)

/-- `d` with what stands in the slots of the additions at the ends of its own slots. -/
def Definition.withAdditions (d : Definition) (additions : List Definition) : Definition :=
  { d with
    interfaces := d.interfaces ++ additions.flatMap (·.interfaces)
    members := d.members ++ additions.flatMap (·.members)
    fields := d.fields ++ additions.flatMap (·.fields)
    values := d.values ++ additions.flatMap (·.values)
    directives := d.directives ++ additions.flatMap (·.directives) }

theorem Definition.foldl_extend (d : Definition) (additions : List Definition) :
    additions.foldl extend d = d.withAdditions additions := by
  induction additions generalizing d with
  | nil => simp [withAdditions]
  | cons a rest ih => simp [ih, withAdditions, extend]

namespace Schema

/-! ### Texts without extensions -/

/-- What `entries` add to the type `name`, in document order. -/
def additionsTo (entries : List SchemaEntry) (name : String) : List Definition :=
  (entries.filterMap addition?).filter (·.name = name)

/-- `entries` extend the type `name` but do not define it. -/
def extendsOnly (entries : List SchemaEntry) (name : String) : Bool :=
  additionsTo entries name ≠ [] ∧ ∀ d ∈ entries.filterMap (·.type?), d.name ≠ name

/-- The builtin scalars that `entries` extend but do not define. -/
def impliedScalars (entries : List SchemaEntry) : List Definition :=
  (builtinScalars.filter (extendsOnly entries)).map (.bare .scalar)

/-- The entry with its `additionsTo`; no extension is left. -/
def mergedOf? (entries : List SchemaEntry) : SchemaEntry → Option SchemaEntry
  | .type d => some (.type (d.withAdditions (additionsTo entries d.name)))
  | .extension _ => none
  | .roots block => some (.roots block)
  | .directive d => some (.directive d)

/-- The entries of a text without extensions that says the same: the `impliedScalars`, then each
entry by `mergedOf?`. -/
def merged (entries : List SchemaEntry) : List SchemaEntry :=
  ((impliedScalars entries).map SchemaEntry.type ++ entries).filterMap (mergedOf? entries)

/-- Nothing is defined twice, and extensions are of types of their own kind, defined in the text or
builtin. -/
structure Mergeable (entries : List SchemaEntry) : Prop where
  types : ((entries.filterMap (·.type?)).map (·.name)).Nodup
  directives : ((entries.filterMap (·.directive?)).map (·.name)).Nodup
  roots : (entries.filterMap (·.roots?)).length ≤ 1
  targets : ∀ a ∈ entries.filterMap addition?,
    (∃ d ∈ entries.filterMap (·.type?), d.name = a.name ∧ d.kind = a.kind) ∨
      (a.kind = .scalar ∧ a.name ∈ builtinScalars ∧
        ∀ d ∈ entries.filterMap (·.type?), d.name ≠ a.name)

variable {es fs : List SchemaEntry}

theorem filterMap_type?_merged (es : List SchemaEntry) :
    (merged es).filterMap (·.type?) =
      (impliedScalars es ++ es.filterMap (·.type?)).map fun d =>
        d.withAdditions (additionsTo es d.name) := by
  have hentry : ∀ e : SchemaEntry, (mergedOf? es e).bind (·.type?) =
      e.type?.map fun d => d.withAdditions (additionsTo es d.name) := by
    intro e
    cases e <;> rfl
  have himplied : ((impliedScalars es).map SchemaEntry.type ++ es).filterMap (·.type?) =
      impliedScalars es ++ es.filterMap (·.type?) := by
    rw [List.filterMap_append, List.filterMap_map]
    exact congrArg (· ++ _) List.filterMap_some
  unfold merged
  rw [← himplied, List.filterMap_filterMap, List.map_filterMap]
  exact List.filterMap_congr fun e _ => hentry e

theorem filterMap_merged {β : Type} {part : SchemaEntry → Option β}
    (htype : ∀ d, part (.type d) = none) (hextension : ∀ d, part (.extension d) = none) :
    (merged es).filterMap part = es.filterMap part := by
  have hentry : ∀ e : SchemaEntry, (mergedOf? es e).bind part = part e := by
    intro e
    cases e with
    | type d => exact (htype _).trans (htype d).symm
    | extension d => exact (hextension d).symm
    | roots block => rfl
    | directive d => rfl
  have himplied : ((impliedScalars es).map SchemaEntry.type).filterMap part = [] := by
    rw [List.filterMap_map]
    exact List.filterMap_eq_nil_iff.mpr fun d _ => htype d
  unfold merged
  rw [List.filterMap_filterMap, List.filterMap_congr fun e _ => hentry e, List.filterMap_append,
    himplied, List.nil_append]

theorem filterMap_addition?_merged (es : List SchemaEntry) :
    (merged es).filterMap addition? = [] := by
  refine List.filterMap_eq_nil_iff.mpr fun e he => ?_
  obtain ⟨start, -, hstart⟩ := List.mem_filterMap.mp he
  cases start <;> cases hstart <;> rfl

theorem Mergeable.fillsOwnSlots_merged (h : Mergeable es) (hslots : ∀ e ∈ es, e.FillsOwnSlots) :
    ∀ e ∈ merged es, e.FillsOwnSlots := by
  have hadditions := fillsOwnSlots_additions hslots
  have hdefinition : ∀ d : Definition, d.FillsOwnSlots →
      (∀ a ∈ es.filterMap addition?, a.name = d.name → a.kind = d.kind) →
      (d.withAdditions (additionsTo es d.name)).FillsOwnSlots := by
    intro d hd hkinds
    rw [← Definition.foldl_extend]
    refine Definition.fillsOwnSlots_foldl_extend_iff.mpr ⟨hd, fun a ha => ?_⟩
    obtain ⟨ha, hname⟩ := List.mem_filter.mp ha
    have hkind := hkinds a ha (of_decide_eq_true hname)
    unfold Definition.Fits
    rw [← hkind]
    exact hadditions a ha
  intro e he
  obtain ⟨start, hstart, hmerged⟩ := List.mem_filterMap.mp he
  rcases List.mem_append.mp hstart with hstart | hstart
  · obtain ⟨d, hd, rfl⟩ := List.mem_map.mp hstart
    obtain ⟨n, hn, rfl⟩ := List.mem_map.mp hd
    cases hmerged
    refine hdefinition _ (Definition.fillsOwnSlots_bare .scalar n) fun a ha hname => ?_
    have hundefined := (of_decide_eq_true (List.mem_filter.mp hn).2).2
    rcases h.targets a ha with ⟨d, hd, hdname, -⟩ | ⟨hkind, -⟩
    · exact absurd (hdname.trans hname) (hundefined d hd)
    · exact hkind
  · have hfills := hslots start hstart
    cases start with
    | type d =>
        cases hmerged
        have hd : d ∈ es.filterMap (·.type?) := List.mem_filterMap.mpr ⟨_, hstart, rfl⟩
        refine hdefinition d hfills fun a ha hname => ?_
        rcases h.targets a ha with ⟨c, hc, hcname, hkind⟩ | ⟨-, -, hundefined⟩
        · rw [← hkind, List.inj_on_of_nodup_map h.types hc hd (hcname.trans hname)]
        · exact absurd hname.symm (hundefined d hd)
    | roots block => cases hmerged; trivial
    | directive d => cases hmerged; trivial
    | extension d => cases hmerged

/-! ### What is collected -/

/-- A schema is what it shows, and its record of possible types. -/
theorem Shows.eq {s t : Schema} {c e : Collected} (hs : s.Shows c) (ht : t.Shows e)
    (htypes : ∀ n, c.type? n = e.type? n) (hdirectives : ∀ n, c.directive? n = e.directive? n)
    (hroots : ∀ kind, c.root? kind = e.root? kind) (hpossible : s.possible = t.possible) :
    s = t := by
  have hroot : ∀ kind, s.rootName? kind = t.rootName? kind := fun kind =>
    ((hs.roots kind).trans (hroots kind)).trans (ht.roots kind).symm
  have htypes' : s.types = t.types := Table.ext fun n =>
    ((hs.types n).trans (htypes n)).trans (ht.types n).symm
  have hdirectives' : s.directives = t.directives := Table.ext fun n =>
    ((hs.directives n).trans (hdirectives n)).trans (ht.directives n).symm
  have hquery := hroot .query
  have hmutation := hroot .mutation
  have hsubscription := hroot .subscription
  cases s
  cases t
  cases htypes'
  cases hdirectives'
  cases hpossible
  cases hquery
  cases hmutation
  cases hsubscription
  rfl

/-- Two texts with one `Collected.ofEntries` define the same schema, or fail alike. -/
theorem ofEntries_eq_of_collected
    (hes : ∀ a ∈ es.filterMap addition?, (Collected.ofEntries es).Defines a.name)
    (hfs : ∀ a ∈ fs.filterMap addition?, (Collected.ofEntries fs).Defines a.name)
    (htypes : ∀ n, (Collected.ofEntries es).type? n = (Collected.ofEntries fs).type? n)
    (hdirectives : ∀ n,
      (Collected.ofEntries es).directive? n = (Collected.ofEntries fs).directive? n)
    (hroots : Collected.rootsOf es = Collected.rootsOf fs) : ofEntries es = ofEntries fs := by
  have hdefined : ∀ n, (Collected.definitionsOf es).any (·.name = n) =
      (Collected.definitionsOf fs).any (·.name = n) := by
    intro n
    have hdefines : (Collected.ofEntries es).Defines n ↔ (Collected.ofEntries fs).Defines n := by
      rw [Collected.defines_iff, Collected.defines_iff, htypes]
    rw [Bool.eq_iff_iff, List.any_eq_true, List.any_eq_true]
    simp only [decide_eq_true_eq]
    exact hdefines
  obtain ⟨s, hs, hsnone, hsassemble⟩ := ofEntries_eq_assemble hes
  obtain ⟨t, ht, htnone, htassemble⟩ := ofEntries_eq_assemble hfs
  rw [hsassemble, htassemble,
    hs.eq ht htypes hdirectives (fun kind => ?_) (hsnone.trans htnone.symm)]
  unfold Collected.ofEntries
  dsimp only
  rw [hroots, hdefined]

theorem findRev?_eq_of_perm {α : Type} (name : α → String) {items others : List α}
    (h : items.Perm others) (hnames : (items.map name).Nodup) (n : String) :
    items.findRev? (fun a => name a = n) = others.findRev? fun a => name a = n := by
  have hall : ∀ l : List α, l.findRev? (fun a => name a = n) =
      (l.foldl (fun t a => t.insert (name a) a) (∅ : Table α)).get? n := fun l =>
    ((Table.get?_foldl_insert_name name l ∅ n).trans Option.or_none).symm
  rw [hall, hall, foldl_eq_of_perm_of_names (fun t x y hne => t.insert_comm hne x y) h hnames]

theorem findRev?_append {α : Type} {p : α → Bool} (items others : List α) :
    (items ++ others).findRev? p = (others.findRev? p).or (items.findRev? p) := by
  simp only [List.findRev?_eq_find?_reverse, List.reverse_append, List.find?_append]

theorem findRev?_bare (kind : TypeKind) (names : List String) (n : String) :
    (names.map (Definition.bare kind)).findRev? (·.name = n) =
      if n ∈ names then some (.bare kind n) else none := by
  rw [List.findRev?_eq_find?_reverse]
  cases hfind : (names.map (Definition.bare kind)).reverse.find? (·.name = n) with
  | none =>
      refine (if_neg fun hn => ?_).symm
      have hmem := List.mem_reverse.mpr (List.mem_map_of_mem (f := Definition.bare kind) hn)
      exact List.find?_eq_none.mp hfind _ hmem (decide_eq_true rfl)
  | some d =>
      have hname := List.find?_some hfind
      have hmem := List.mem_reverse.mp (List.mem_of_find?_eq_some hfind)
      obtain ⟨m, hm, rfl⟩ := List.mem_map.mp hmem
      cases of_decide_eq_true hname
      exact (if_pos hm).symm

theorem findRev?_withAdditions (es : List SchemaEntry) (ds : List Definition) (n : String) :
    (ds.map fun d => d.withAdditions (additionsTo es d.name)).findRev? (·.name = n) =
      (ds.findRev? (·.name = n)).map fun d => d.withAdditions (additionsTo es n) := by
  rw [List.findRev?_eq_find?_reverse, List.findRev?_eq_find?_reverse, ← List.map_reverse,
    List.find?_map]
  refine Option.map_congr fun d hd => ?_
  have hname := List.find?_some hd
  exact congrArg (fun m => d.withAdditions (additionsTo es m)) (of_decide_eq_true hname)

/-- `merged` gives each name the type that the text gives it. -/
theorem type?_merged (es : List SchemaEntry) (n : String) :
    (Collected.ofEntries (merged es)).type? n = (Collected.ofEntries es).type? n := by
  have hmerged : (Collected.ofEntries (merged es)).type? n =
      (Collected.definitionsOf (merged es)).findRev? (·.name = n) := by
    unfold Collected.type? Collected.ofEntries
    dsimp only
    rw [filterMap_addition?_merged]
    exact Option.map_id'
  have htext : (Collected.ofEntries es).type? n =
      ((Collected.definitionsOf es).findRev? (·.name = n)).map fun d =>
        d.withAdditions (additionsTo es n) := by
    unfold Collected.type?
    exact Option.map_congr fun d _ => d.foldl_extend _
  rw [hmerged, htext]
  unfold Collected.definitionsOf
  rw [filterMap_type?_merged, findRev?_append, findRev?_append, findRev?_withAdditions,
    findRev?_append, impliedScalars, findRev?_bare, findRev?_bare]
  cases hfind : (es.filterMap (·.type?)).findRev? (·.name = n) with
  | some d => rfl
  | none =>
      have hundefined : ∀ d ∈ es.filterMap (·.type?), d.name ≠ n := by
        rw [List.findRev?_eq_find?_reverse, List.find?_eq_none] at hfind
        exact fun d hd hname => hfind d (List.mem_reverse.mpr hd) (decide_eq_true hname)
      by_cases himplied : n ∈ builtinScalars.filter (extendsOnly es)
      · rw [if_pos himplied, if_pos (List.mem_filter.mp himplied).1]
        rfl
      · rw [if_neg himplied]
        by_cases hscalar : n ∈ builtinScalars
        · have hnone : additionsTo es n = [] := by
            by_contra hsome
            exact himplied (List.mem_filter.mpr ⟨hscalar, decide_eq_true ⟨hsome, hundefined⟩⟩)
          rw [if_pos hscalar, hnone]
          simp [Definition.withAdditions]
        · rw [if_neg hscalar]
          rfl

theorem Mergeable.defines (h : Mergeable es) :
    ∀ a ∈ es.filterMap addition?, (Collected.ofEntries es).Defines a.name := by
  intro a ha
  rcases h.targets a ha with ⟨d, hd, hname, -⟩ | ⟨-, hscalar, -⟩
  · exact ⟨d, List.mem_append_right _ hd, hname⟩
  · exact ⟨.bare .scalar a.name, List.mem_append_left _ (List.mem_map_of_mem hscalar), rfl⟩

/-- A text and the `merged` text define the same schema, or fail alike. -/
theorem Mergeable.ofEntries_merged (h : Mergeable es) : ofEntries (merged es) = ofEntries es := by
  refine ofEntries_eq_of_collected (fun a ha => ?_) h.defines (type?_merged es) (fun n => ?_) ?_
  · rw [filterMap_addition?_merged] at ha
    cases ha
  · unfold Collected.directive? Collected.ofEntries
    dsimp only
    rw [filterMap_merged (fun _ => rfl) fun _ => rfl]
  · unfold Collected.rootsOf
    rw [filterMap_merged (fun _ => rfl) fun _ => rfl]

theorem Mergeable.ofEntries_of_perm (h : Mergeable es) (hperm : fs.Perm es)
    (hadditions : ∀ n, additionsTo fs n = additionsTo es n) : ofEntries fs = ofEntries es := by
  have htypes := hperm.filterMap (·.type?)
  have hdirectives := hperm.filterMap (·.directive?)
  have hroots := hperm.filterMap (·.roots?)
  refine ofEntries_eq_of_collected (fun a ha => ?_) h.defines (fun n => ?_) (fun n => ?_) ?_
  · obtain ⟨d, hd, hname⟩ := h.defines a ((hperm.filterMap addition?).mem_iff.mp ha)
    exact ⟨d, (htypes.append_left _).mem_iff.mpr hd, hname⟩
  · have hlast := findRev?_eq_of_perm (·.name) htypes ((htypes.map _).nodup_iff.mpr h.types) n
    unfold Collected.type? Collected.ofEntries Collected.definitionsOf
    dsimp only
    rw [findRev?_append, findRev?_append, hlast]
    exact congrArg (fun as => Option.map (as.foldl Definition.extend) _) (hadditions n)
  · exact findRev?_eq_of_perm (·.name) hdirectives
      ((hdirectives.map _).nodup_iff.mpr h.directives) n
  · have hsame : fs.filterMap (·.roots?) = es.filterMap (·.roots?) := by
      have hone := h.roots
      cases hblocks : es.filterMap (·.roots?) with
      | nil => exact (hblocks ▸ hroots).eq_nil
      | cons block rest =>
          rw [hblocks] at hone hroots
          cases rest with
          | nil => exact List.perm_singleton.mp hroots
          | cons => simp at hone
    unfold Collected.rootsOf
    rw [hsame]

theorem ofText_of_read {text : String} (h : Grammar.readSchema text = .ok es) :
    ofText text = ofEntries es := by
  unfold ofText
  rw [h]

/-- **Extensions.**  If the entries of a text are `Mergeable`, the schema that it defines, or the
error, is that of the text of `merged`, without extensions, in which each definition has at its end
what the extensions add to it, in the order of the text.  It is also that of every text with the
same entries in any order, as long as the extensions of each type stay in theirs; they may stand
before the definition or after it. -/
theorem ofText_eq_merged {text : String} (hread : Grammar.readSchema text = .ok es)
    (h : Mergeable es) :
    ((merged es).filterMap addition? = [] ∧ ∀ e ∈ merged es, e.FillsOwnSlots) ∧
    ofText text = ofEntries (merged es) ∧
    (∀ other, Grammar.readSchema other = .ok (merged es) → ofText other = ofText text) ∧
    ∀ other fs, Grammar.readSchema other = .ok fs → fs.Perm es →
      (∀ n, additionsTo fs n = additionsTo es n) → ofText other = ofText text := by
  have hslots : ∀ e ∈ es, e.FillsOwnSlots :=
    (Grammar.fillsOwnSlots_schemaText _ (Grammar.Rule.named_of_lex _) es []
      (Grammar.readAll_eq_ok.mp hread)).1
  rw [ofText_of_read hread]
  refine ⟨⟨filterMap_addition?_merged es, h.fillsOwnSlots_merged hslots⟩, h.ofEntries_merged.symm,
    fun other hother => ?_, fun other fs hother hperm hadditions => ?_⟩
  · rw [ofText_of_read hother, h.ofEntries_merged]
  · rw [ofText_of_read hother, h.ofEntries_of_perm hperm hadditions]

/-- The first extension stands before `Query`, the last behind it, and one is of the builtin `ID`.
-/
def scatteredQuery : String :=
  "extend type Query \x7b b: ID \x7d extend scalar ID @key type Query \x7b a: Int \x7d " ++
    "extend type Query @late"

def scatteredEntries : List SchemaEntry :=
  [.extension (objectWith "Query" "b" "ID"),
    .extension { Definition.bare .scalar "ID" with directives := [⟨"key", []⟩] },
    .type (objectWith "Query" "a" "Int"),
    .extension { Definition.bare .object "Query" with directives := [⟨"late", []⟩] }]

theorem mergeable_scatteredEntries : Mergeable scatteredEntries where
  types := by decide
  directives := by decide
  roots := by decide
  targets := by decide

theorem ofText_eq_merged_scatteredQuery :
    Grammar.readSchema scatteredQuery = .ok scatteredEntries ∧
      ofText "scalar ID @key type Query @late \x7b a: Int b: ID \x7d" = ofText scatteredQuery ∧
      ofText ("type Query \x7b a: Int \x7d extend type Query \x7b b: ID \x7d " ++
        "extend type Query @late extend scalar ID @key") = ofText scatteredQuery ∧
      ∃ s, ofText scatteredQuery = .ok s := by
  have hread : Grammar.readSchema scatteredQuery = .ok scatteredEntries :=
    eq_ok_of_toOption (by decide +kernel)
  obtain ⟨-, -, hmerged, hreordered⟩ := ofText_eq_merged hread mergeable_scatteredEntries
  refine ⟨hread, hmerged _ (eq_ok_of_toOption (by decide +kernel)),
    hreordered _ [.type (objectWith "Query" "a" "Int"),
      .extension (objectWith "Query" "b" "ID"),
      .extension { Definition.bare .object "Query" with directives := [⟨"late", []⟩] },
      .extension { Definition.bare .scalar "ID" with directives := [⟨"key", []⟩] }]
      (eq_ok_of_toOption (by decide +kernel)) (by decide) (fun n => ?_), ?_⟩
  · by_cases hname : n = "Query" ∨ n = "ID"
    · rcases hname with rfl | rfl <;> decide
    · have hnone : ∀ entries, (entries.filterMap addition?).map (·.name) ⊆ ["Query", "ID"] →
          additionsTo entries n = [] := by
        intro entries hnames
        refine List.filter_eq_nil_iff.mpr fun a ha hn => hname ?_
        simpa [of_decide_eq_true hn] using hnames (List.mem_map_of_mem ha)
      rw [hnone _ (by decide), hnone scatteredEntries (by decide)]
  · exact Option.isSome_iff_exists.mp (by decide +kernel : (ofText scatteredQuery).toOption.isSome)
      |>.imp fun _ => eq_ok_of_toOption

end Schema

end QueryBindings

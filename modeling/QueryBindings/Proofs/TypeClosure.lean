import Mathlib.Order.Bounds.Basic
import QueryBindings.Proofs.TypesInUse

/-! # Types in use as a closure

What operations use is said here without a search: a field is read in the scope in which it is
written (`Selects`), an operation names the types of its variables and of the fields that are found
in their scopes (`Operation.Names`), and a set of names is closed if with an input object the types
of its fields are in it (`UsesAll`).

Main statement: `referencedTypes_isLeast` (the search of `Collects` ends, and the types that
operations use are the least closed set, as far as a type is defined and not builtin). -/

namespace QueryBindings

namespace Schema

variable {s : Schema}

/-! ### Selected fields -/

/-- Read in the scope of the type `start`, the set selects the field `f` in the scope of the type
`scope`.  A field hands on the type with which it is found, a fragment its condition. -/
inductive Selects (s : Schema) (scope : String) (f : Field) : (start : String) → SelectionSet → Prop
  | here {inner rest : SelectionSet} : Selects s scope f scope (.field f inner rest)
  | under {start : String} {g : Field} {inner rest : SelectionSet} {d : FieldDefinition}
      (hfind : s.findField? start g.name = some d) (h : Selects s scope f d.type.baseName inner) :
      Selects s scope f start (.field g inner rest)
  | afterField {start : String} {g : Field} {inner rest : SelectionSet}
      (h : Selects s scope f start rest) : Selects s scope f start (.field g inner rest)
  | afterSpread {start : String} {sp : Spread} {rest : SelectionSet}
      (h : Selects s scope f start rest) : Selects s scope f start (.spread sp rest)
  | inside {start : String} {i : InlineFragment} {inner rest : SelectionSet}
      (h : Selects s scope f (i.condition.getD start) inner) :
      Selects s scope f start (.inline i inner rest)
  | afterInline {start : String} {i : InlineFragment} {inner rest : SelectionSet}
      (h : Selects s scope f start rest) : Selects s scope f start (.inline i inner rest)

/-- `selectedTypes` are the types of the selected fields that are found. -/
theorem mem_selectedTypes_iff {set : SelectionSet} {start n : String} :
    n ∈ s.selectedTypes start set ↔
      ∃ scope f d, s.Selects scope f start set ∧ s.findField? scope f.name = some d ∧
        d.type.baseName = n := by
  induction set generalizing start with
  | nil => exact iff_of_false List.not_mem_nil nofun
  | field g inner rest ihinner ihrest =>
      rw [selectedTypes, List.mem_append, ihrest]
      constructor
      · rintro (hn | ⟨scope, f, d, h, hfind, rfl⟩)
        · split at hn
          · cases hn
          · rename_i here hhere
            rcases List.mem_cons.mp hn with rfl | hn
            · exact ⟨start, g, here, .here, hhere, rfl⟩
            · obtain ⟨scope, f, d, h, hfind, rfl⟩ := ihinner.mp hn
              exact ⟨scope, f, d, .under hhere h, hfind, rfl⟩
        · exact ⟨scope, f, d, .afterField h, hfind, rfl⟩
      · rintro ⟨scope, f, d, h, hfind, rfl⟩
        cases h with
        | here =>
            rw [hfind]
            exact .inl List.mem_cons_self
        | under hhere h =>
            rw [hhere]
            exact .inl (List.mem_cons_of_mem _ (ihinner.mpr ⟨scope, f, d, h, hfind, rfl⟩))
        | afterField h => exact .inr ⟨scope, f, d, h, hfind, rfl⟩
  | spread sp rest ih =>
      rw [selectedTypes, ih]
      constructor
      · rintro ⟨scope, f, d, h, hfound⟩
        exact ⟨scope, f, d, .afterSpread h, hfound⟩
      · rintro ⟨scope, f, d, h, hfound⟩
        cases h with
        | afterSpread h => exact ⟨scope, f, d, h, hfound⟩
  | inline i inner rest ihinner ihrest =>
      rw [selectedTypes, List.mem_append, ihinner, ihrest]
      constructor
      · rintro (⟨scope, f, d, h, hfound⟩ | ⟨scope, f, d, h, hfound⟩)
        · exact ⟨scope, f, d, .inside h, hfound⟩
        · exact ⟨scope, f, d, .afterInline h, hfound⟩
      · rintro ⟨scope, f, d, h, hfound⟩
        cases h with
        | inside h => exact .inl ⟨scope, f, d, h, hfound⟩
        | afterInline h => exact .inr ⟨scope, f, d, h, hfound⟩

end Schema

/-- An operation names a type: as that of a variable, or as that of a selected field that is found
in its scope. -/
inductive Operation.Names (s : Schema) (o : Operation) : String → Prop
  | parameter {v : VariableDefinition} (hv : v ∈ o.parameters) : Names s o v.type.baseName
  | field {root scope : String} {f : Field} {d : FieldDefinition}
      (hroot : s.rootName? o.kind = some root) (h : s.Selects scope f root o.selections)
      (hfind : s.findField? scope f.name = some d) : Names s o d.type.baseName

namespace Schema

variable {s : Schema}

theorem mem_namedTypes_iff {o : Operation} {n : String} : n ∈ s.namedTypes o ↔ o.Names s n := by
  unfold namedTypes
  rw [List.mem_append]
  constructor
  · rintro (hn | hn)
    · obtain ⟨v, hv, rfl⟩ := List.mem_map.mp hn
      exact .parameter hv
    · split at hn
      · rename_i root hroot
        obtain ⟨scope, f, d, h, hfind, rfl⟩ := mem_selectedTypes_iff.mp hn
        exact .field hroot h hfind
      · cases hn
  · intro h
    cases h with
    | parameter hv => exact .inl (List.mem_map_of_mem hv)
    | field hroot h hfind =>
        rw [hroot]
        exact .inr (mem_selectedTypes_iff.mpr ⟨_, _, _, h, hfind, rfl⟩)

/-! ### Closed sets -/

/-- `used` holds all types that the operations name, and with every input object the types of its
fields. -/
structure UsesAll (s : Schema) (os : List Operation) (used : Set String) : Prop where
  named : ∀ o ∈ os, ∀ n, o.Names s n → n ∈ used
  fields : ∀ n ∈ used, ∀ d, s.type? n = some d → d.kind = .inputObject →
    ∀ f ∈ d.fields, f.type.baseName ∈ used

theorem pulls_iff {a b : String} :
    s.Pulls a b ↔
      ∃ d, s.type? a = some d ∧ d.kind = .inputObject ∧ ∃ f ∈ d.fields, f.type.baseName = b := by
  unfold Pulls pulled
  cases s.type? a with
  | none => exact iff_of_false List.not_mem_nil nofun
  | some d => by_cases hkind : d.kind = .inputObject <;> simp [hkind]

/-- What `namedTypes` lead to by `Pulls` is the least set that `UsesAll`. -/
theorem isLeast_usesAll (s : Schema) (os : List Operation) :
    IsLeast {used | s.UsesAll os used}
      {n | ∃ o ∈ os, ∃ m ∈ s.namedTypes o, Relation.ReflTransGen s.Pulls m n} := by
  refine ⟨⟨fun o ho n hn => ⟨o, ho, n, mem_namedTypes_iff.mpr hn, .refl⟩, ?_⟩, fun used hused => ?_⟩
  · rintro n ⟨o, ho, m, hm, hlead⟩ d htype hkind f hf
    exact ⟨o, ho, m, hm, hlead.tail (pulls_iff.mpr ⟨d, htype, hkind, f, hf, rfl⟩)⟩
  · rintro n ⟨o, ho, m, hm, hlead⟩
    induction hlead with
    | refl => exact hused.named o ho m (mem_namedTypes_iff.mp hm)
    | tail _ hstep ih =>
        obtain ⟨d, htype, hkind, f, hf, rfl⟩ := pulls_iff.mp hstep
        exact hused.fields _ ih d htype hkind f hf

theorem isOwnType_iff {n : String} :
    s.isOwnType n = true ↔ ∃ d, s.type? n = some d ∧ d.builtin = false := by
  unfold isOwnType
  cases s.type? n <;> simp

/-- A type is among the `referencedTypes` of operations exactly if it is among those of one of them.
-/
theorem contains_referencedTypes_iff_exists (os : List Operation) (n : String) :
    (s.referencedTypes os).contains n = true ↔
      ∃ o ∈ os, (s.referencedTypes [o]).contains n = true := by
  simp only [contains_referencedTypes_iff, List.mem_singleton, exists_eq_left]
  constructor
  · rintro ⟨hown, o, ho, hlead⟩
    exact ⟨o, ho, hown, hlead⟩
  · rintro ⟨o, ho, hown, hlead⟩
    exact ⟨hown, o, ho, hlead⟩

/-- **Types in use.**  The search over what the operations name comes to an end by itself
(`Collects` has no bound), with one set only, and `referencedTypes` is what that set holds of types
that are not builtin.  Among these it is the least set that holds the type of every variable and of
every selected field that is found in its scope, and with an input object the types of its fields;
input objects may lead to each other.  So what several lists of operations use is what each of them
uses, and neither order nor repetition of operations counts. -/
theorem referencedTypes_isLeast (s : Schema) (os : List Operation) :
    (∃ seen, (∀ after, s.Collects ∅ (os.flatMap s.namedTypes) after ↔ after = seen) ∧
      ∀ n, (s.referencedTypes os).contains n = true ↔
        seen.contains n = true ∧ ∃ d, s.type? n = some d ∧ d.builtin = false) ∧
    (∃ used, IsLeast {used | s.UsesAll os used} used ∧
      ∀ n, (s.referencedTypes os).contains n = true ↔
        n ∈ used ∧ ∃ d, s.type? n = some d ∧ d.builtin = false) ∧
    (∀ (ps : List Operation) n, (s.referencedTypes (os ++ ps)).contains n = true ↔
      (s.referencedTypes os).contains n = true ∨ (s.referencedTypes ps).contains n = true) ∧
    ∀ ps : List Operation, (∀ o, o ∈ ps ↔ o ∈ os) → s.referencedTypes ps = s.referencedTypes os := by
  refine ⟨⟨_, fun after => collects_iff, fun n => ?_⟩, ⟨_, isLeast_usesAll s os, fun n => ?_⟩,
    fun ps n => ?_, fun ps hsame => ?_⟩
  · rw [contains_referencedTypes_of_collects (collects_addTypesInUse ∅ _), isOwnType_iff]
  · rw [contains_referencedTypes_iff, isOwnType_iff]
    exact and_comm
  · rw [contains_referencedTypes_iff_exists (os ++ ps), contains_referencedTypes_iff_exists os,
      contains_referencedTypes_iff_exists ps]
    simp only [List.mem_append, or_and_right, exists_or]
  · refine NameSet.ext fun n => ?_
    rw [contains_referencedTypes_iff_exists ps, contains_referencedTypes_iff_exists os]
    exact exists_congr fun o => and_congr_left fun _ => hsame o

/-- A type with one field. -/
def typeWith (kind : TypeKind) (name field type : String) : Definition :=
  { Definition.bare kind name with
    fields := [⟨field, none, [], none, .named type false, []⟩] }

/-- `Both` and `Either` lead to each other, beside the object `Hit` that a query answers with. -/
def mutualInputs : Schema :=
  { [typeWith .inputObject "Both" "either" "Either", typeWith .inputObject "Either" "both" "Both",
      typeWith .object "Hit" "kind" "Kind", .bare .enum "Kind", .bare .scalar "Unused",
      typeWith .object "Query" "search" "Hit"].foldl addType builtin with
    queryRoot := some "Query" }

def searchQuery : Operation :=
  ⟨.query, some "Search", [⟨"both", .named "Both" true, none⟩], [],
    .field ⟨none, "search", [], []⟩
      (.inline ⟨some "Hit", []⟩ (.field ⟨none, "kind", [], []⟩ .nil .nil) .nil) .nil⟩

theorem referencedTypes_mutualInputs :
    (mutualInputs.referencedTypes [searchQuery, searchQuery]).keys =
        ["Both", "Either", "Hit", "Kind"] ∧
      (∃ seen, mutualInputs.Collects ∅ ["Both", "Hit", "Kind"] seen ∧
        seen.contains "Either" = true) ∧
      ∃ used, IsLeast {used | mutualInputs.UsesAll [searchQuery] used} used ∧ "Either" ∈ used := by
  have hkeys : (mutualInputs.referencedTypes [searchQuery]).keys =
      ["Both", "Either", "Hit", "Kind"] := by decide +kernel
  have heither : (mutualInputs.referencedTypes [searchQuery]).contains "Either" = true := by
    rw [Table.contains_iff_mem_keys, hkeys]
    decide
  have hnamed : [searchQuery].flatMap mutualInputs.namedTypes = ["Both", "Hit", "Kind"] := by
    decide +kernel
  obtain ⟨⟨seen, hseen, hkept⟩, ⟨used, hleast, hused⟩, -, hsame⟩ :=
    referencedTypes_isLeast mutualInputs [searchQuery]
  have htwice : mutualInputs.referencedTypes [searchQuery, searchQuery] =
      mutualInputs.referencedTypes [searchQuery] := hsame _ fun o => by simp
  rw [hnamed] at hseen
  exact ⟨htwice ▸ hkeys, ⟨seen, (hseen seen).mpr rfl, ((hkept "Either").mp heither).1⟩, used, hleast,
    ((hused "Either").mp heither).1⟩

end Schema

end QueryBindings

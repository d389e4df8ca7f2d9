import QueryBindings.Proofs.Inlining
import QueryBindings.Schema

/-! # Occurrences of fields

Where a field is written in a set: the fields above it, and the type in whose scope it stands.
Spreads are followed.  An expansion holds the same fields under the same fields, but has lost
their scopes.

Main statements: `Writes.holds` and `Expansion.writes` (the fields of an expansion are those that
were written). -/

namespace QueryBindings

/-! ### In a set without fragments -/

namespace SelectionSet

/-- The fields of a set, not counting what lies inside them. -/
def fields : SelectionSet → List (Field × SelectionSet)
  | nil => []
  | field f inner rest => (f, inner) :: rest.fields
  | spread _ rest | inline _ _ rest => rest.fields

/-- The set holds this field with these selections, under the fields of `path`. -/
def Holds (set : SelectionSet) : List Field → Field → SelectionSet → Prop
  | [], g, inner => (g, inner) ∈ set.fields
  | f :: path, g, inner => ∃ below, (f, below) ∈ set.fields ∧ below.Holds path g inner

/-- All that is selected under the response key `key`. -/
def under (key : String) : SelectionSet → SelectionSet
  | nil => nil
  | field f inner rest => if f.responseKey = key then inner ++ rest.under key else rest.under key
  | spread _ rest | inline _ _ rest => rest.under key

def underAll (keys : List String) (set : SelectionSet) : SelectionSet :=
  keys.foldl (fun set key => set.under key) set

theorem isEmpty_iff (s : SelectionSet) : s.isEmpty = true ↔ s = nil := by
  cases s <;> simp [isEmpty]

theorem not_holds_nil (path : List Field) (g : Field) (inner : SelectionSet) :
    ¬ nil.Holds path g inner := by
  cases path with
  | nil => exact nofun
  | cons f path =>
      rintro ⟨below, hmem, -⟩
      cases hmem

theorem fields_append (s t : SelectionSet) : (s ++ t).fields = s.fields ++ t.fields := by
  induction s with
  | nil => rfl
  | field f inner rest _ ih => exact congrArg ((f, inner) :: ·) ih
  | spread s rest ih => exact ih
  | inline i inner rest _ ih => exact ih

theorem fields_eq_nil_iff {s : SelectionSet} (h : s.isFlat = true) : s.fields = [] ↔ s = nil := by
  cases s with
  | nil => simp [fields]
  | field f inner rest => simp [fields]
  | spread s rest => cases h
  | inline i inner rest => cases h

theorem isFlat_of_mem_fields {s inner : SelectionSet} {f : Field} (h : s.isFlat = true)
    (hmem : (f, inner) ∈ s.fields) : inner.isFlat = true := by
  induction s with
  | nil => cases hmem
  | field g below rest _ ih =>
      unfold isFlat at h
      rw [Bool.and_eq_true] at h
      rcases List.mem_cons.mp hmem with heq | hmem
      · cases heq
        exact h.1
      · exact ih h.2 hmem
  | spread s rest _ => cases h
  | inline i below rest _ _ => cases h

theorem Holds.append_left {s : SelectionSet} (t : SelectionSet) {path : List Field} {g : Field}
    {inner : SelectionSet} (h : s.Holds path g inner) : (s ++ t).Holds path g inner := by
  cases path with
  | nil =>
      unfold Holds at h ⊢
      rw [fields_append]
      exact List.mem_append_left _ h
  | cons f path =>
      obtain ⟨below, hmem, hbelow⟩ := h
      refine ⟨below, ?_, hbelow⟩
      rw [fields_append]
      exact List.mem_append_left _ hmem

theorem Holds.append_right (s : SelectionSet) {t : SelectionSet} {path : List Field} {g : Field}
    {inner : SelectionSet} (h : t.Holds path g inner) : (s ++ t).Holds path g inner := by
  cases path with
  | nil =>
      unfold Holds at h ⊢
      rw [fields_append]
      exact List.mem_append_right _ h
  | cons f path =>
      obtain ⟨below, hmem, hbelow⟩ := h
      refine ⟨below, ?_, hbelow⟩
      rw [fields_append]
      exact List.mem_append_right _ hmem

theorem Holds.of_append {s t : SelectionSet} {path : List Field} {g : Field}
    {inner : SelectionSet} (h : (s ++ t).Holds path g inner) :
    s.Holds path g inner ∨ t.Holds path g inner := by
  cases path with
  | nil =>
      unfold Holds at h
      rw [fields_append] at h
      exact List.mem_append.mp h
  | cons f path =>
      obtain ⟨below, hmem, hbelow⟩ := h
      rw [fields_append] at hmem
      exact (List.mem_append.mp hmem).imp (fun hmem => ⟨below, hmem, hbelow⟩)
        fun hmem => ⟨below, hmem, hbelow⟩

/-! ### Under response keys -/

theorem holds_under_iff {key : String} {s : SelectionSet} {path : List Field} {g : Field}
    {inner : SelectionSet} :
    (s.under key).Holds path g inner ↔ ∃ f, f.responseKey = key ∧ s.Holds (f :: path) g inner := by
  induction s with
  | nil =>
      constructor
      · exact fun h => absurd h (not_holds_nil path g inner)
      · rintro ⟨f, -, h⟩
        exact absurd h (not_holds_nil (f :: path) g inner)
  | field f below rest _ ih =>
      have hrest : (∃ e, e.responseKey = key ∧ rest.Holds (e :: path) g inner) →
          ∃ e, e.responseKey = key ∧ (field f below rest).Holds (e :: path) g inner := by
        rintro ⟨e, hkey, inside, hmem, hinside⟩
        exact ⟨e, hkey, inside, List.mem_cons_of_mem _ hmem, hinside⟩
      unfold under
      constructor
      · intro h
        split at h
        · rename_i hkey
          rcases h.of_append with h | h
          · exact ⟨f, hkey, below, List.mem_cons_self, h⟩
          · exact hrest (ih.mp h)
        · exact hrest (ih.mp h)
      · rintro ⟨e, hkey, inside, hmem, hinside⟩
        rcases List.mem_cons.mp hmem with heq | hmem
        · cases heq
          rw [if_pos hkey]
          exact hinside.append_left _
        · have hlater := ih.mpr ⟨e, hkey, inside, hmem, hinside⟩
          split
          · exact hlater.append_right _
          · exact hlater
  | spread s rest ih => exact ih
  | inline i below rest _ ih => exact ih

theorem holds_underAll_iff {keys : List String} {s : SelectionSet} {path : List Field} {g : Field}
    {inner : SelectionSet} :
    (s.underAll keys).Holds path g inner ↔
      ∃ above, above.map Field.responseKey = keys ∧ s.Holds (above ++ path) g inner := by
  induction keys generalizing s with
  | nil =>
      constructor
      · exact fun h => ⟨[], rfl, h⟩
      · rintro ⟨above, habove, h⟩
        cases List.map_eq_nil_iff.mp habove
        exact h
  | cons key keys ih =>
      show ((s.under key).underAll keys).Holds path g inner ↔ _
      rw [ih]
      constructor
      · rintro ⟨above, habove, h⟩
        obtain ⟨f, hkey, h⟩ := holds_under_iff.mp h
        exact ⟨f :: above, by rw [List.map_cons, hkey, habove], h⟩
      · rintro ⟨above, habove, h⟩
        cases above with
        | nil => cases habove
        | cons f above =>
            rw [List.map_cons, List.cons.injEq] at habove
            exact ⟨above, habove.2, holds_under_iff.mpr ⟨f, habove.1, h⟩⟩

theorem under_single (f : Field) (below : SelectionSet) :
    (field f below nil).under f.responseKey = below := by
  unfold under
  rw [if_pos rfl]
  exact append_nil below

theorem under_single_of_ne {f : Field} {key : String} (below : SelectionSet)
    (h : f.responseKey ≠ key) : (field f below nil).under key = nil := by
  unfold under
  rw [if_neg h]
  rfl

theorem under_append (s t : SelectionSet) (key : String) :
    (s ++ t).under key = s.under key ++ t.under key := by
  induction s with
  | nil => rfl
  | field f inner rest _ ih =>
      rw [field_append, under, under]
      split
      · rw [ih, append_assoc]
      · exact ih
  | spread s rest ih => exact ih
  | inline i inner rest _ ih => exact ih

theorem under_of_forall_ne {s : SelectionSet} {key : String}
    (h : ∀ f inner, (f, inner) ∈ s.fields → f.responseKey ≠ key) : s.under key = nil := by
  induction s with
  | nil => rfl
  | field f inner rest _ ih =>
      unfold under
      rw [if_neg (h f inner List.mem_cons_self)]
      exact ih fun g below hg => h g below (List.mem_cons_of_mem _ hg)
  | spread s rest ih => exact ih h
  | inline i inner rest _ ih => exact ih h

theorem isFlat_under {s : SelectionSet} (key : String) (h : s.isFlat = true) :
    (s.under key).isFlat = true := by
  induction s with
  | nil => rfl
  | field f inner rest _ ih =>
      unfold isFlat at h
      rw [Bool.and_eq_true] at h
      unfold under
      split
      · rw [isFlat_append, h.1, ih h.2]
        rfl
      · exact ih h.2
  | spread s rest _ => cases h
  | inline i inner rest _ _ => cases h

theorem isFlat_underAll {s : SelectionSet} (keys : List String) (h : s.isFlat = true) :
    (s.underAll keys).isFlat = true := by
  induction keys generalizing s with
  | nil => exact h
  | cons key keys ih => exact ih (isFlat_under key h)

theorem under_eq_nil_iff {s : SelectionSet} {key : String} (h : s.isFlat = true) :
    s.under key = nil ↔ ∀ f inner, (f, inner) ∈ s.fields → f.responseKey = key → inner = nil := by
  constructor
  · intro hnil f inner hmem hkey
    rw [← fields_eq_nil_iff (isFlat_of_mem_fields h hmem)]
    rw [List.eq_nil_iff_forall_not_mem]
    rintro ⟨g, below⟩ hg
    have hholds : (s.under key).Holds [] g below :=
      holds_under_iff.mpr ⟨f, hkey, inner, hmem, hg⟩
    rw [hnil] at hholds
    cases hholds
  · intro hall
    rw [← fields_eq_nil_iff (isFlat_under key h), List.eq_nil_iff_forall_not_mem]
    rintro ⟨g, below⟩ hg
    obtain ⟨f, hkey, inner, hmem, hinner⟩ :=
      holds_under_iff.mp (show (s.under key).Holds [] g below from hg)
    rw [hall f inner hmem hkey] at hinner
    cases hinner

end SelectionSet

/-! ### In a document -/

/-- A place where a field is written: the type in whose `scope` it stands, if there is one, and what
is selected of its value. -/
structure Site where
  scope : Option String
  field : Field
  inner : SelectionSet

/-- The field that the type of a scope declares. -/
def Schema.declared? (s : Schema) (scope : Option String) (field : String) :
    Option FieldDefinition :=
  scope.bind fun type => s.ownField? type field

/-- `type` is `other`, or can stand in for it. -/
def Schema.StandsFor (s : Schema) (type other : String) : Prop :=
  type = other ∨ type ∈ s.possibleNames other

namespace FragmentTable

/-- A set in some scope has a field written at the site, under the fields of `path`.  Inside a field
the scope is the type that its own scope declares for it, inside a fragment the type on which the
fragment is. -/
inductive Writes (table : FragmentTable) (schema : Schema) :
    Option String → SelectionSet → List Field → Site → Prop where
  | here {scope : Option String} {f : Field} {inner rest : SelectionSet} :
      Writes table schema scope (.field f inner rest) [] ⟨scope, f, inner⟩
  | inside {scope : Option String} {f : Field} {inner rest : SelectionSet} {path : List Field}
      {site : Site}
      (h : Writes table schema ((schema.declared? scope f.name).map (·.type.baseName)) inner path
        site) :
      Writes table schema scope (.field f inner rest) (f :: path) site
  | afterField {scope : Option String} {f : Field} {inner rest : SelectionSet} {path : List Field}
      {site : Site} (h : Writes table schema scope rest path site) :
      Writes table schema scope (.field f inner rest) path site
  | spread {scope : Option String} {s : Spread} {fragment : Fragment} {rest : SelectionSet}
      {path : List Field} {site : Site} (hget : table.get? s.name = some fragment)
      (h : Writes table schema (some fragment.condition) fragment.selections path site) :
      Writes table schema scope (.spread s rest) path site
  | afterSpread {scope : Option String} {s : Spread} {rest : SelectionSet} {path : List Field}
      {site : Site} (h : Writes table schema scope rest path site) :
      Writes table schema scope (.spread s rest) path site
  | inline {scope : Option String} {i : InlineFragment} {inner rest : SelectionSet}
      {path : List Field} {site : Site}
      (h : Writes table schema (i.condition.or scope) inner path site) :
      Writes table schema scope (.inline i inner rest) path site
  | afterInline {scope : Option String} {i : InlineFragment} {inner rest : SelectionSet}
      {path : List Field} {site : Site} (h : Writes table schema scope rest path site) :
      Writes table schema scope (.inline i inner rest) path site

variable {table : FragmentTable} {schema : Schema}

/-- A written field is in the expansion, with the expansion of what it selects. -/
theorem Writes.holds {scope : Option String} {set flat : SelectionSet} {path : List Field}
    {site : Site} (h : table.Writes schema scope set path site)
    (he : table.Expansion set flat) :
    ∃ inner, table.Expansion site.inner inner ∧ flat.Holds path site.field inner := by
  induction h generalizing flat with
  | here =>
      cases he with
      | field hinner hrest => exact ⟨_, hinner, List.mem_cons_self⟩
  | inside _ ih =>
      cases he with
      | field hinner hrest =>
          obtain ⟨inner, hexpansion, hholds⟩ := ih hinner
          exact ⟨inner, hexpansion, _, List.mem_cons_self, hholds⟩
  | afterField _ ih =>
      cases he with
      | field hinner hrest =>
          obtain ⟨inner, hexpansion, hholds⟩ := ih hrest
          exact ⟨inner, hexpansion, hholds.append_right (.field _ _ .nil)⟩
  | spread hget _ ih =>
      cases he with
      | spread hget' hbody hrest =>
          rw [hget] at hget'
          cases hget'
          obtain ⟨inner, hexpansion, hholds⟩ := ih hbody
          exact ⟨inner, hexpansion, hholds.append_left _⟩
  | afterSpread _ ih =>
      cases he with
      | spread _ hbody hrest =>
          obtain ⟨inner, hexpansion, hholds⟩ := ih hrest
          exact ⟨inner, hexpansion, hholds.append_right _⟩
  | inline _ ih =>
      cases he with
      | inline hbody hrest =>
          obtain ⟨inner, hexpansion, hholds⟩ := ih hbody
          exact ⟨inner, hexpansion, hholds.append_left _⟩
  | afterInline _ ih =>
      cases he with
      | inline hbody hrest =>
          obtain ⟨inner, hexpansion, hholds⟩ := ih hrest
          exact ⟨inner, hexpansion, hholds.append_right _⟩

/-- A field of the expansion was written somewhere. -/
theorem Expansion.writes {set flat : SelectionSet} (he : table.Expansion set flat)
    (scope : Option String) {path : List Field} {g : Field} {inner : SelectionSet}
    (h : flat.Holds path g inner) :
    ∃ site, table.Writes schema scope set path site ∧ site.field = g ∧
      table.Expansion site.inner inner := by
  induction he generalizing scope path with
  | nil => exact absurd h (SelectionSet.not_holds_nil path g inner)
  | @field f below below' rest rest' hinner hrest ihinner ihrest =>
      rcases SelectionSet.Holds.of_append (s := .field f below' .nil) h with h | h
      · cases path with
        | nil =>
            cases List.mem_singleton.mp h
            exact ⟨_, .here, rfl, hinner⟩
        | cons e path =>
            obtain ⟨inside, hmem, hinside⟩ := h
            cases List.mem_singleton.mp hmem
            obtain ⟨site, hwrites, hsite⟩ := ihinner _ hinside
            exact ⟨site, .inside hwrites, hsite⟩
      · obtain ⟨site, hwrites, hsite⟩ := ihrest scope h
        exact ⟨site, .afterField hwrites, hsite⟩
  | @spread s fragment body rest rest' hget hbody hrest ihbody ihrest =>
      rcases h.of_append with h | h
      · obtain ⟨site, hwrites, hsite⟩ := ihbody (some fragment.condition) h
        exact ⟨site, .spread hget hwrites, hsite⟩
      · obtain ⟨site, hwrites, hsite⟩ := ihrest scope h
        exact ⟨site, .afterSpread hwrites, hsite⟩
  | @inline i below body rest rest' hbody hrest ihbody ihrest =>
      rcases h.of_append with h | h
      · obtain ⟨site, hwrites, hsite⟩ := ihbody (i.condition.or scope) h
        exact ⟨site, .inline hwrites, hsite⟩
      · obtain ⟨site, hwrites, hsite⟩ := ihrest scope h
        exact ⟨site, .afterInline hwrites, hsite⟩

end FragmentTable

end QueryBindings

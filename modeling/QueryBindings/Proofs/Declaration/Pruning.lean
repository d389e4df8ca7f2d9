import QueryBindings.Proofs.Declaration.Records

/-! # What is selected of `__typename`

A member for `__typename` is text, whatever is selected of it.  So the records of an answer are
those of the pruned set, in which nothing is selected of `__typename`.

Main statements: `responseRecords_pruned` and `declarations_pruned`. -/

namespace QueryBindings

namespace SelectionSet

/-- Nothing is selected of `__typename`, at any depth. -/
def TypenamesBare (set : SelectionSet) : Prop :=
  ∀ path f inner, set.Holds path f inner → f.name = "__typename" → inner = nil

/-- The set without all that is selected of `__typename`. -/
def pruned : SelectionSet → SelectionSet
  | nil => nil
  | field f inner rest =>
    field f (if f.name = "__typename" then nil else inner.pruned) rest.pruned
  | spread s rest => spread s rest.pruned
  | inline i inner rest => inline i inner.pruned rest.pruned

def prunedOf (f : Field) (inner : SelectionSet) : SelectionSet :=
  if f.name = "__typename" then nil else inner.pruned

theorem pruned_eq_field (f : Field) (inner rest : SelectionSet) :
    (field f inner rest).pruned = field f (prunedOf f inner) rest.pruned := rfl

theorem prunedOf_of_ne {f : Field} (inner : SelectionSet) (h : f.name ≠ "__typename") :
    prunedOf f inner = inner.pruned := if_neg h

@[simp] theorem pruned_append (s t : SelectionSet) :
    (s ++ t).pruned = s.pruned ++ t.pruned := by
  induction s with
  | nil => rfl
  | field f inner rest _ ih => simp [pruned, ih]
  | spread s rest ih => simp [pruned, ih]
  | inline i inner rest _ ih => simp [pruned, ih]

theorem isEmpty_pruned (s : SelectionSet) : s.pruned.isEmpty = s.isEmpty := by
  cases s <;> rfl

theorem isFlat_pruned {s : SelectionSet} (h : s.isFlat = true) : s.pruned.isFlat = true := by
  induction s with
  | nil => rfl
  | field f inner rest ihinner ihrest =>
      simp only [isFlat, pruned, Bool.and_eq_true] at h ⊢
      refine ⟨?_, ihrest h.2⟩
      split
      · rfl
      · exact ihinner h.1
  | spread s rest _ => cases h
  | inline i inner rest _ _ => cases h

theorem fields_pruned (s : SelectionSet) :
    s.pruned.fields = s.fields.map fun e => (e.1, prunedOf e.1 e.2) := by
  induction s with
  | nil => rfl
  | field f inner rest _ ih => simp [pruned, fields, prunedOf, ih]
  | spread s rest ih => exact ih
  | inline i inner rest _ ih => exact ih

theorem mem_fields_pruned {s inner : SelectionSet} {f : Field} :
    (f, inner) ∈ s.pruned.fields ↔ ∃ below, (f, below) ∈ s.fields ∧ inner = prunedOf f below := by
  rw [fields_pruned, List.mem_map]
  constructor
  · rintro ⟨⟨g, below⟩, hmem, heq⟩
    cases heq
    exact ⟨below, hmem, rfl⟩
  · rintro ⟨below, hmem, rfl⟩
    exact ⟨(f, below), hmem, rfl⟩

/-- `pruned` holds what the set holds under fields that are not `__typename`. -/
theorem holds_pruned_iff {s inner : SelectionSet} {path : List Field} {f : Field} :
    s.pruned.Holds path f inner ↔ (∀ e ∈ path, e.name ≠ "__typename") ∧
      ∃ below, s.Holds path f below ∧ inner = prunedOf f below := by
  induction path generalizing s with
  | nil =>
      constructor
      · intro h
        obtain ⟨below, hmem, hinner⟩ := mem_fields_pruned.mp h
        exact ⟨List.forall_mem_nil _, below, hmem, hinner⟩
      · rintro ⟨-, below, hmem, hinner⟩
        exact mem_fields_pruned.mpr ⟨below, hmem, hinner⟩
  | cons e path ih =>
      rw [List.forall_mem_cons]
      constructor
      · rintro ⟨left, hmem, hleft⟩
        obtain ⟨inside, hinside, rfl⟩ := mem_fields_pruned.mp hmem
        have hname : e.name ≠ "__typename" := by
          intro hname
          unfold prunedOf at hleft
          rw [if_pos hname] at hleft
          exact not_holds_nil path f inner hleft
        rw [prunedOf_of_ne inside hname] at hleft
        obtain ⟨hpath, below, hbelow, hinner⟩ := ih.mp hleft
        exact ⟨⟨hname, hpath⟩, below, ⟨inside, hinside, hbelow⟩, hinner⟩
      · rintro ⟨⟨hname, hpath⟩, below, ⟨inside, hinside, hbelow⟩, hinner⟩
        refine ⟨_, mem_fields_pruned.mpr ⟨inside, hinside, rfl⟩, ?_⟩
        rw [prunedOf_of_ne inside hname]
        exact ih.mpr ⟨hpath, below, hbelow, hinner⟩

theorem typenamesBare_pruned (s : SelectionSet) : s.pruned.TypenamesBare := by
  intro path f inner h hname
  obtain ⟨-, below, -, rfl⟩ := holds_pruned_iff.mp h
  exact if_pos hname

theorem TypenamesBare.under {s : SelectionSet} (h : s.TypenamesBare) (key : String) :
    (s.under key).TypenamesBare := by
  intro path f inner hholds hname
  obtain ⟨e, -, hholds⟩ := holds_under_iff.mp hholds
  exact h (e :: path) f inner hholds hname

theorem TypenamesBare.pruned_eq {s : SelectionSet} (hflat : s.isFlat = true)
    (h : s.TypenamesBare) : s.pruned = s := by
  induction s with
  | nil => rfl
  | field f inner rest ihinner ihrest =>
      unfold isFlat at hflat
      rw [Bool.and_eq_true] at hflat
      have hrest : rest.pruned = rest :=
        ihrest hflat.2 fun path g below hg => h path g below (hg.append_right (.field f inner .nil))
      have hinner : inner.pruned = inner :=
        ihinner hflat.1 fun path g below hg => h (f :: path) g below ⟨inner, List.mem_cons_self, hg⟩
      unfold pruned
      rw [hrest]
      split
      · rename_i hname
        rw [h [] f inner List.mem_cons_self hname]
      · rw [hinner]
  | spread s rest _ => cases hflat
  | inline i inner rest _ _ => cases hflat

end SelectionSet

/-! ### Merging -/

def Selected.pruned (s : Selected) : Selected := ⟨s.field, SelectionSet.prunedOf s.field s.inner⟩

theorem prunedOf_append {f g : Field} (h : f.name = g.name) (s t : SelectionSet) :
    SelectionSet.prunedOf f (s ++ t) = .prunedOf f s ++ .prunedOf g t := by
  unfold SelectionSet.prunedOf
  rw [h]
  split
  · rfl
  · exact SelectionSet.pruned_append s t

@[simp] theorem Selected.pruned_field (s : Selected) : s.pruned.field = s.field := rfl

theorem mergeField_pruned (f : Field) (inner : SelectionSet) (before : List Selected) :
    mergeField f (.prunedOf f inner) (before.map Selected.pruned) =
      (mergeField f inner before).map (·.map Selected.pruned) := by
  induction before with
  | nil => rfl
  | cons s rest ih =>
      simp only [List.map_cons, mergeField, Selected.pruned_field]
      by_cases hkey : s.field.responseKey = f.responseKey
      · by_cases hsame : s.field.name = f.name ∧ s.field.arguments = f.arguments
        · simp only [hkey, hsame, and_self, ↓reduceIte]
          have hinner := prunedOf_append hsame.1 s.inner inner
          show Except.ok (Selected.mk s.field (_ ++ _) :: _) = .ok (Selected.mk s.field _ :: _)
          rw [hinner]
          rfl
        · simp only [hkey, hsame, ↓reduceIte]
          rfl
      · simp only [hkey, ↓reduceIte, ih]
        cases mergeField f inner rest <;> rfl

theorem mergeFields_pruned (set : SelectionSet) (before : List Selected) :
    mergeFields (before.map Selected.pruned) set.pruned =
      (mergeFields before set).map (·.map Selected.pruned) := by
  induction set generalizing before with
  | nil => rfl
  | field f inner rest _ ih =>
      rw [SelectionSet.pruned_eq_field, mergeFields, mergeFields, mergeField_pruned]
      cases mergeField f inner before with
      | error e => rfl
      | ok merged => exact ih merged
  | spread s rest _ => rfl
  | inline i inner rest _ _ => rfl

/-! ### Records -/

/-- `responseMembers` does not tell pruned fields from the fields, if `responseRecords` does not for
what is inside them. -/
theorem responseMembers_pruned {c : RecordContext} {name parent : String} {fields : List Selected}
    (hinner : ∀ s ∈ fields, ∀ inside base names,
      responseRecords c inside base s.inner.pruned names =
        responseRecords c inside base s.inner names) (names : ItemNames) :
    responseMembers c name parent (fields.map Selected.pruned) names =
      responseMembers c name parent fields names := by
  induction fields generalizing names with
  | nil => rfl
  | cons s rest ih =>
      have hrest := ih fun t ht => hinner t (List.mem_cons_of_mem s ht)
      rw [List.map_cons, responseMembers, responseMembers]
      simp only [Selected.pruned_field, hrest]
      by_cases hname : s.field.name = "__typename"
      · simp only [if_pos hname]
      · have hpruned : s.pruned.inner = s.inner.pruned := SelectionSet.prunedOf_of_ne s.inner hname
        simp only [if_neg hname, hpruned, SelectionSet.isEmpty_pruned,
          hinner s List.mem_cons_self]

/-- The records for a set are those for `pruned`.  The induction is on the size of the set, as for
the records themselves. -/
theorem responseRecords_pruned (c : RecordContext) (name parent : String) (set : SelectionSet)
    (names : ItemNames) :
    responseRecords c name parent set.pruned names = responseRecords c name parent set names := by
  induction hsize : set.size using Nat.strongRecOn generalizing name parent set names with
  | _ n ih =>
      have hmerge : mergeFields [] set.pruned = (mergeFields [] set).map (·.map Selected.pruned) :=
        mergeFields_pruned set []
      rw [responseRecords_eq, responseRecords_eq, hmerge]
      cases hfields : mergeFields [] set with
      | error e => rfl
      | ok fields =>
          have hmembers : ∀ start, responseMembers c name parent (fields.map Selected.pruned) start =
              responseMembers c name parent fields start := by
            refine responseMembers_pruned fun s hs inside base before => ?_
            have hlt : s.inner.size < n := hsize ▸ size_lt_of_mergeFields hfields hs
            exact ih _ hlt inside base s.inner before rfl
          show (names.claim name c.owner >>= fun start =>
            responseMembers c name parent (fields.map Selected.pruned) start >>= _) = _
          simp only [hmembers]
          rfl

def RenderedOperation.pruned (r : RenderedOperation) : RenderedOperation :=
  { r with operation := { r.operation with selections := r.operation.selections.pruned } }

/-- An operation declares what it declares with the `pruned` set. -/
theorem declarations_pruned (schema : Schema) (options : Options) (names : ItemNames)
    (r : RenderedOperation) :
    r.pruned.declarations schema options names = r.declarations schema options names := by
  unfold RenderedOperation.declarations RenderedOperation.pruned
  simp only [responseRecords_pruned]

end QueryBindings

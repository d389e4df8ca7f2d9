import QueryBindings.Schema

/-! # Finding fields

A field is looked for on a type itself and then on the types that stand in for it; the first one
counts.  So what is found is always a field of some definition, under the name that was looked for.

Main statements: `exists_findField?_iff` and `exists_definition_of_findField?`. -/

namespace QueryBindings

namespace Definition

def Declares (d : Definition) (name : String) : Prop := ∃ f ∈ d.fields, f.name = name

theorem exists_field?_iff {d : Definition} {name : String} :
    (∃ f, d.field? name = some f) ↔ d.Declares name := by
  unfold field? Declares
  rw [← Option.isSome_iff_exists, List.find?_isSome]
  simp

theorem name_of_field? {d : Definition} {name : String} {f : FieldDefinition}
    (h : d.field? name = some f) : f.name = name := by
  simpa using List.find?_some h

end Definition

namespace Schema

variable {s : Schema} {n field : String} {f : FieldDefinition}

theorem exists_ownField?_iff :
    (∃ f, s.ownField? n field = some f) ↔ ∃ d, s.type? n = some d ∧ d.Declares field := by
  unfold ownField?
  cases s.type? n with
  | none => exact iff_of_false nofun nofun
  | some d =>
      refine Definition.exists_field?_iff.trans ⟨fun h => ⟨d, rfl, h⟩, ?_⟩
      rintro ⟨e, he, h⟩
      cases he
      exact h

/-- `findField?` finds a field exactly if the type or one that stands in for it `Declares` it. -/
theorem exists_findField?_iff :
    (∃ f, s.findField? n field = some f) ↔
      (∃ d, s.type? n = some d ∧ d.Declares field) ∨
        ∃ d ∈ s.possibleTypes n, d.Declares field := by
  have hothers : (∃ f, (s.possibleTypes n).findSome? (·.field? field) = some f) ↔
      ∃ d ∈ s.possibleTypes n, d.Declares field := by
    rw [← Option.isSome_iff_exists, List.findSome?_isSome_iff]
    simp only [Option.isSome_iff_exists, Definition.exists_field?_iff]
  rw [← exists_ownField?_iff, ← hothers]
  unfold findField?
  cases s.ownField? n field <;> simp

theorem findField?_of_declares {d : Definition} (htype : s.type? n = some d)
    (h : d.Declares field) : s.findField? n field = d.field? field := by
  obtain ⟨f, hf⟩ := Definition.exists_field?_iff.mpr h
  have hown : s.ownField? n field = some f := by
    unfold ownField?
    rw [htype]
    exact hf
  unfold findField?
  rw [hown, hf]
  rfl

theorem findField?_cases (h : s.findField? n field = some f) :
    s.ownField? n field = some f ∨ ∃ d ∈ s.possibleTypes n, d.field? field = some f := by
  unfold findField? at h
  cases hown : s.ownField? n field with
  | some own =>
      rw [hown] at h
      exact .inl h
  | none =>
      rw [hown] at h
      exact .inr (List.exists_of_findSome?_eq_some h)

theorem exists_definition_of_findField? (h : s.findField? n field = some f) :
    ∃ key d, s.type? key = some d ∧ d.field? field = some f := by
  rcases findField?_cases h with hown | ⟨d, hd, hfield⟩
  · obtain ⟨d, hd, hfield⟩ := Option.bind_eq_some_iff.mp hown
    exact ⟨n, d, hd, hfield⟩
  · obtain ⟨key, -, hkey⟩ := List.mem_filterMap.mp hd
    exact ⟨key, d, hkey, hfield⟩

theorem name_of_findField? (h : s.findField? n field = some f) : f.name = field := by
  obtain ⟨_, _, -, hfield⟩ := exists_definition_of_findField? h
  exact Definition.name_of_field? hfield

end Schema

end QueryBindings

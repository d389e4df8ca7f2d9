import Mathlib.Data.List.Nodup
import QueryBindings.Declaration.OfOperation
import QueryBindings.Proofs.Occurrences

/-! # Merged fields

Merging leaves one field for every response key, with all that is selected under that key.

Main statements: `mergeField_eq_ok` (what one step of merging does), `merged_of_mergeFields` (what
a whole set is merged to) and `field_of_mergeFields` (where the merged fields come from). -/

namespace QueryBindings

namespace Selected

def key (s : Selected) : String := s.field.responseKey

end Selected

/-- A step of `mergeField` adds to the one field under the same key, which is the same field with
the same arguments, or puts a new one at the end. -/
theorem mergeField_eq_ok {f : Field} {inner : SelectionSet} {before after : List Selected}
    (h : mergeField f inner before = .ok after) :
    (∃ left s right, before = left ++ s :: right ∧ (∀ t ∈ left, t.key ≠ f.responseKey) ∧
      s.key = f.responseKey ∧ s.field.name = f.name ∧ s.field.arguments = f.arguments ∧
      after = left ++ ⟨s.field, s.inner ++ inner⟩ :: right) ∨
    ((∀ t ∈ before, t.key ≠ f.responseKey) ∧ after = before ++ [⟨f, inner⟩]) := by
  induction before generalizing after with
  | nil =>
      cases h
      exact .inr ⟨nofun, rfl⟩
  | cons s rest ih =>
      unfold mergeField at h
      split at h
      · rename_i hkey
        split at h
        · rename_i hsame
          cases h
          exact .inl ⟨[], s, rest, rfl, nofun, hkey, hsame.1, hsame.2, rfl⟩
        · cases h
      · rename_i hkey
        split at h
        · cases h
        · rename_i merged hmerged
          cases h
          rcases ih hmerged with ⟨left, t, right, rfl, hleft, ht, hname, harguments, rfl⟩ |
            ⟨hall, rfl⟩
          · exact .inl ⟨s :: left, t, right, rfl, List.forall_mem_cons.mpr ⟨hkey, hleft⟩, ht,
              hname, harguments, rfl⟩
          · exact .inr ⟨List.forall_mem_cons.mpr ⟨hkey, hall⟩, rfl⟩

/-- What `set` is merged to, on top of what was merged `before`. -/
structure Merged (before : List Selected) (set : SelectionSet) (after : List Selected) : Prop where
  /-- Each key is there once. -/
  distinct : (after.map Selected.key).Nodup
  /-- Under each key is what was there, and what the set selects. -/
  inner : ∀ s ∈ after,
    (∃ t ∈ before, t.field = s.field ∧ s.inner = t.inner ++ set.under s.key) ∨
      ((∀ t ∈ before, t.key ≠ s.key) ∧ s.inner = set.under s.key)
  /-- What was there stays there. -/
  kept : ∀ t ∈ before, ∃ s ∈ after, s.field = t.field
  /-- Every field of the set is there. -/
  covered : ∀ f below, (f, below) ∈ set.fields →
    ∃ s ∈ after, s.key = f.responseKey ∧ s.field.name = f.name ∧ s.field.arguments = f.arguments

theorem Merged.nil {before : List Selected} (h : (before.map Selected.key).Nodup) :
    Merged before .nil before where
  distinct := h
  inner := fun s hs => .inl ⟨s, hs, rfl, (SelectionSet.append_nil _).symm⟩
  kept := fun t ht => ⟨t, ht, rfl⟩
  covered := nofun

theorem Merged.append {before mid after : List Selected} {s t : SelectionSet}
    (h : Merged before s mid) (h' : Merged mid t after) : Merged before (s ++ t) after := by
  refine ⟨h'.distinct, fun x hx => ?_, fun y hy => ?_, fun f below hmem => ?_⟩
  · rw [SelectionSet.under_append]
    rcases h'.inner x hx with ⟨y, hy, hfield, hinner⟩ | ⟨hnew, hinner⟩
    · have hkey : y.key = x.key := congrArg Field.responseKey hfield
      rcases h.inner y hy with ⟨z, hz, hfield', hinner'⟩ | ⟨hnew, hinner'⟩
      · refine .inl ⟨z, hz, hfield'.trans hfield, ?_⟩
        rw [hinner, hinner', hkey, SelectionSet.append_assoc]
      · refine .inr ⟨hkey ▸ hnew, ?_⟩
        rw [hinner, hinner', hkey]
    · -- A key that is new in the second set has nothing under it in the first.
      have hfirst : s.under x.key = .nil := by
        refine SelectionSet.under_of_forall_ne fun f below hmem heq => ?_
        obtain ⟨y, hy, hkey, -⟩ := h.covered f below hmem
        exact hnew y hy (hkey.trans heq)
      refine .inr ⟨fun z hz heq => ?_, ?_⟩
      · obtain ⟨y, hy, hfield⟩ := h.kept z hz
        exact hnew y hy ((congrArg Field.responseKey hfield).trans heq)
      · rw [hinner, hfirst]
        rfl
  · obtain ⟨x, hx, hfield⟩ := h.kept y hy
    obtain ⟨z, hz, hfield'⟩ := h'.kept x hx
    exact ⟨z, hz, hfield'.trans hfield⟩
  · rw [SelectionSet.fields_append] at hmem
    rcases List.mem_append.mp hmem with hmem | hmem
    · obtain ⟨x, hx, hkey, hname, harguments⟩ := h.covered f below hmem
      obtain ⟨z, hz, hfield⟩ := h'.kept x hx
      refine ⟨z, hz, ?_, hfield ▸ hname, hfield ▸ harguments⟩
      exact (congrArg Field.responseKey hfield).trans hkey
    · exact h'.covered f below hmem

theorem Merged.of_same {f : Field} {below : SelectionSet} {s : Selected}
    {left right : List Selected} (hnodup : ((left ++ s :: right).map Selected.key).Nodup)
    (hleft : ∀ t ∈ left, t.key ≠ f.responseKey) (hkey : s.key = f.responseKey)
    (hname : s.field.name = f.name) (harguments : s.field.arguments = f.arguments) :
    Merged (left ++ s :: right) (.field f below .nil)
      (left ++ ⟨s.field, s.inner ++ below⟩ :: right) := by
  rw [List.map_append, List.map_cons] at hnodup
  have hright : ∀ t ∈ right, t.key ≠ f.responseKey := by
    intro t ht heq
    rw [List.nodup_append, List.nodup_cons] at hnodup
    apply hnodup.2.1.1
    rw [hkey, ← heq]
    exact List.mem_map_of_mem ht
  have hkept : ∀ t : Selected, t.key ≠ f.responseKey →
      t.inner = t.inner ++ (SelectionSet.field f below .nil).under t.key := by
    intro t ht
    rw [SelectionSet.under_single_of_ne below (Ne.symm ht), SelectionSet.append_nil]
  refine ⟨?_, fun t ht => ?_, fun t ht => ?_, fun g inner hg => ?_⟩
  · rw [List.map_append, List.map_cons]
    exact hnodup
  · rcases List.mem_append.mp ht with ht | ht
    · exact .inl ⟨t, List.mem_append_left _ ht, rfl, hkept t (hleft t ht)⟩
    · rcases List.mem_cons.mp ht with rfl | ht
      · refine .inl ⟨s, List.mem_append_right _ List.mem_cons_self, rfl, ?_⟩
        show s.inner ++ below = s.inner ++ (SelectionSet.field f below .nil).under s.key
        rw [hkey, SelectionSet.under_single]
      · exact .inl ⟨t, List.mem_append_right _ (List.mem_cons_of_mem _ ht), rfl,
          hkept t (hright t ht)⟩
  · rcases List.mem_append.mp ht with ht | ht
    · exact ⟨t, List.mem_append_left _ ht, rfl⟩
    · rcases List.mem_cons.mp ht with rfl | ht
      · exact ⟨_, List.mem_append_right _ List.mem_cons_self, rfl⟩
      · exact ⟨t, List.mem_append_right _ (List.mem_cons_of_mem _ ht), rfl⟩
  · cases List.mem_singleton.mp hg
    exact ⟨_, List.mem_append_right _ List.mem_cons_self, hkey, hname, harguments⟩

theorem Merged.of_new {f : Field} {below : SelectionSet} {before : List Selected}
    (hnodup : (before.map Selected.key).Nodup) (hnew : ∀ t ∈ before, t.key ≠ f.responseKey) :
    Merged before (.field f below .nil) (before ++ [⟨f, below⟩]) := by
  refine ⟨?_, fun t ht => ?_, fun t ht => ⟨t, List.mem_append_left _ ht, rfl⟩,
    fun g inner hg => ?_⟩
  · rw [List.map_append, List.nodup_append]
    refine ⟨hnodup, List.nodup_cons.mpr ⟨List.not_mem_nil, List.nodup_nil⟩, fun a ha b hb => ?_⟩
    obtain ⟨t, ht, rfl⟩ := List.mem_map.mp ha
    rw [List.mem_singleton.mp hb]
    exact hnew t ht
  · rcases List.mem_append.mp ht with ht | ht
    · refine .inl ⟨t, ht, rfl, ?_⟩
      rw [SelectionSet.under_single_of_ne below (Ne.symm (hnew t ht)), SelectionSet.append_nil]
    · rw [List.mem_singleton.mp ht]
      exact .inr ⟨hnew, (SelectionSet.under_single f below).symm⟩
  · cases List.mem_singleton.mp hg
    exact ⟨⟨f, below⟩, List.mem_append_right _ List.mem_cons_self, rfl, rfl, rfl⟩

theorem Merged.of_mergeField {f : Field} {below : SelectionSet} {before after : List Selected}
    (hnodup : (before.map Selected.key).Nodup) (h : mergeField f below before = .ok after) :
    Merged before (.field f below .nil) after := by
  rcases mergeField_eq_ok h with ⟨left, s, right, rfl, hleft, hkey, hname, harguments, rfl⟩ |
    ⟨hnew, rfl⟩
  · exact .of_same hnodup hleft hkey hname harguments
  · exact .of_new hnodup hnew

theorem Merged.of_mergeFields {set : SelectionSet} {before after : List Selected}
    (hnodup : (before.map Selected.key).Nodup) (h : mergeFields before set = .ok after) :
    Merged before set after := by
  induction set generalizing before with
  | nil =>
      cases h
      exact .nil hnodup
  | field f inner rest _ ih =>
      unfold mergeFields at h
      split at h
      · cases h
      · rename_i mid hmid
        have hfirst := of_mergeField hnodup hmid
        exact hfirst.append (ih hfirst.distinct h)
  | spread s rest _ => cases h
  | inline i inner rest _ _ => cases h

/-- `mergeFields` on nothing gives what a set is `Merged` to. -/
theorem merged_of_mergeFields {set : SelectionSet} {fields : List Selected}
    (h : mergeFields [] set = .ok fields) : Merged [] set fields := by
  have hnodup : (([] : List Selected).map Selected.key).Nodup := List.nodup_nil
  exact Merged.of_mergeFields hnodup h

/-- Each key of a set is merged to all that `SelectionSet.under` finds for it. -/
theorem Merged.inner_eq {set : SelectionSet} {fields : List Selected} (h : Merged [] set fields)
    {s : Selected} (hs : s ∈ fields) : s.inner = set.under s.key := by
  rcases h.inner s hs with ⟨t, ht, -⟩ | ⟨-, hinner⟩
  · cases ht
  · exact hinner

theorem Merged.name_eq {before after : List Selected} {set : SelectionSet}
    (h : Merged before set after) {s : Selected} (hs : s ∈ after) {f : Field}
    {below : SelectionSet} (hf : (f, below) ∈ set.fields) (hkey : f.responseKey = s.key) :
    f.name = s.field.name := by
  obtain ⟨t, ht, htkey, hname, -⟩ := h.covered f below hf
  rw [← hname, List.inj_on_of_nodup_map h.distinct ht hs (htkey.trans hkey)]

theorem Merged.exists_of_under {before after : List Selected} {set : SelectionSet}
    (h : Merged before set after) {key : String} (hsome : set.under key ≠ .nil) :
    ∃ s ∈ after, s.key = key := by
  by_contra hnone
  apply hsome
  apply SelectionSet.under_of_forall_ne
  intro f below hmem hkey
  obtain ⟨s, hs, hskey, -⟩ := h.covered f below hmem
  exact hnone ⟨s, hs, hskey.trans hkey⟩

theorem field_of_mergeField {f : Field} {inner : SelectionSet} {before after : List Selected}
    (h : mergeField f inner before = .ok after) :
    ∀ s ∈ after, s.field = f ∨ ∃ t ∈ before, t.field = s.field := by
  rcases mergeField_eq_ok h with ⟨left, s, right, rfl, -, -, -, -, rfl⟩ | ⟨-, rfl⟩
  · rw [List.forall_mem_append, List.forall_mem_cons]
    exact ⟨fun t ht => .inr ⟨t, List.mem_append_left _ ht, rfl⟩,
      .inr ⟨s, List.mem_append_right _ List.mem_cons_self, rfl⟩,
      fun t ht => .inr ⟨t, List.mem_append_right _ (List.mem_cons_of_mem s ht), rfl⟩⟩
  · rw [List.forall_mem_append, List.forall_mem_singleton]
    exact ⟨fun t ht => .inr ⟨t, ht, rfl⟩, .inl rfl⟩

/-- Each field of `mergeFields` is one of the set, or was there before. -/
theorem field_of_mergeFields {set : SelectionSet} {before after : List Selected}
    (h : mergeFields before set = .ok after) :
    ∀ s ∈ after, (∃ t ∈ before, t.field = s.field) ∨ ∃ below, (s.field, below) ∈ set.fields := by
  induction set generalizing before with
  | nil =>
      cases h
      exact fun s hs => .inl ⟨s, hs, rfl⟩
  | field f inner rest _ ih =>
      unfold mergeFields at h
      split at h
      · cases h
      · rename_i mid hmid
        intro s hs
        rcases ih h s hs with ⟨t, ht, hfield⟩ | ⟨below, hbelow⟩
        · rw [← hfield]
          rcases field_of_mergeField hmid t ht with hnew | hold
          · exact .inr ⟨inner, by rw [hnew]; exact List.mem_cons_self⟩
          · exact .inl hold
        · exact .inr ⟨below, List.mem_cons_of_mem _ hbelow⟩
  | spread s rest _ => cases h
  | inline i inner rest _ _ => cases h

end QueryBindings

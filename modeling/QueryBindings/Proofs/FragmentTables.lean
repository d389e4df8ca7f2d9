import QueryBindings.Document.Fragments
import QueryBindings.Proofs.Tables

/-! # Tables of fragments

Fragments go into a table one after another, and a name that comes again is an error.  So there is
a table exactly if the names differ, and it holds each fragment under its own name.

Main statements: `ofFragments_eq_ok` (what a table holds) and `exists_ofFragments` (when there is
one). -/

namespace QueryBindings

namespace FragmentTable

/-- Every fragment of the table stands under its own name. -/
def Keyed (table : FragmentTable) : Prop := ∀ name f, table.get? name = some f → f.name = name

/-! ### Adding fragments -/

theorem contains_insert_eq_false {table : FragmentTable} {f : Fragment} {name : String} :
    (table.insert f.name f).contains name = false ↔ name ≠ f.name ∧ table.contains name = false := by
  unfold Table.contains
  rw [Table.get?_insert]
  by_cases h : name = f.name <;> simp [h]

theorem get?_insert_eq_some_iff {table : FragmentTable} {f g : Fragment} {name : String}
    (hfree : table.contains f.name = false) :
    (table.insert f.name f).get? name = some g ↔
      table.get? name = some g ∨ (g = f ∧ g.name = name) := by
  have hnone : table.get? f.name = none := by simpa [Table.contains] using hfree
  rw [Table.get?_insert]
  constructor
  · intro h
    split at h
    · rename_i hname
      cases h
      exact .inr ⟨rfl, hname.symm⟩
    · exact .inl h
  · rintro (h | ⟨rfl, rfl⟩)
    · rw [if_neg, h]
      rintro rfl
      rw [hnone] at h
      cases h
    · exact if_pos rfl

/-- The fragments have names of their own, and afterwards the table holds them and what it held. -/
theorem addAll_eq_ok {before after : FragmentTable} {fs : List Fragment}
    (h : addAll before fs = .ok after) :
    (fs.map Fragment.name).Nodup ∧ (∀ f ∈ fs, before.contains f.name = false) ∧
      ∀ name f, after.get? name = some f ↔
        before.get? name = some f ∨ (f ∈ fs ∧ f.name = name) := by
  induction fs generalizing before with
  | nil =>
      cases h
      exact ⟨List.nodup_nil, nofun, fun name f => by simp⟩
  | cons f rest ih =>
      unfold addAll at h
      split at h
      · cases h
      · rename_i hfree
        rw [Bool.not_eq_true] at hfree
        obtain ⟨hdistinct, hfresh, hget⟩ := ih h
        have hnew : ∀ g ∈ rest, g.name ≠ f.name ∧ before.contains g.name = false :=
          fun g hg => contains_insert_eq_false.mp (hfresh g hg)
        refine ⟨?_, List.forall_mem_cons.mpr ⟨hfree, fun g hg => (hnew g hg).2⟩, fun name g => ?_⟩
        · rw [List.map_cons, List.nodup_cons]
          refine ⟨fun hmem => ?_, hdistinct⟩
          obtain ⟨g, hg, hname⟩ := List.mem_map.mp hmem
          exact (hnew g hg).1 hname
        · rw [hget, get?_insert_eq_some_iff hfree, List.mem_cons, or_and_right, or_assoc]

theorem exists_addAll {before : FragmentTable} {fs : List Fragment}
    (hdistinct : (fs.map Fragment.name).Nodup)
    (hfresh : ∀ f ∈ fs, before.contains f.name = false) :
    ∃ after, addAll before fs = .ok after := by
  induction fs generalizing before with
  | nil => exact ⟨before, rfl⟩
  | cons f rest ih =>
      rw [List.map_cons, List.nodup_cons] at hdistinct
      rw [List.forall_mem_cons] at hfresh
      unfold addAll
      rw [if_neg (by rw [hfresh.1]; exact Bool.false_ne_true)]
      refine ih hdistinct.2 fun g hg => contains_insert_eq_false.mpr ⟨fun heq => ?_, hfresh.2 g hg⟩
      exact hdistinct.1 (heq ▸ List.mem_map_of_mem hg)

/-! ### The table of some fragments -/

/-- `ofFragments` holds the fragments under their names, which differ. -/
theorem ofFragments_eq_ok {table : FragmentTable} {fs : List Fragment}
    (h : ofFragments fs = .ok table) :
    (fs.map Fragment.name).Nodup ∧
      ∀ name f, table.get? name = some f ↔ f ∈ fs ∧ f.name = name := by
  obtain ⟨hdistinct, -, hget⟩ := addAll_eq_ok h
  refine ⟨hdistinct, fun name f => ?_⟩
  rw [hget]
  exact or_iff_right nofun

theorem exists_ofFragments {fs : List Fragment} (h : (fs.map Fragment.name).Nodup) :
    ∃ table, ofFragments fs = .ok table := exists_addAll h fun _ _ => rfl

theorem keyed_of_ofFragments {table : FragmentTable} {fs : List Fragment}
    (h : ofFragments fs = .ok table) : table.Keyed :=
  fun name f hget => (((ofFragments_eq_ok h).2 name f).mp hget).2

theorem contains_ofFragments_iff {table : FragmentTable} {fs : List Fragment}
    (h : ofFragments fs = .ok table) (name : String) :
    table.contains name = true ↔ ∃ f ∈ fs, f.name = name := by
  rw [Table.contains_iff]
  exact exists_congr fun f => (ofFragments_eq_ok h).2 name f

/-! ### Larger tables -/

/-- What is found in `small` is found in `large` too. -/
def Within (small large : FragmentTable) : Prop :=
  ∀ name f, small.get? name = some f → large.get? name = some f

theorem within_of_subset {part whole : List Fragment} {small large : FragmentTable}
    (hsmall : ofFragments part = .ok small) (hlarge : ofFragments whole = .ok large)
    (h : part ⊆ whole) : small.Within large := by
  intro name f hget
  obtain ⟨hf, hname⟩ := ((ofFragments_eq_ok hsmall).2 name f).mp hget
  exact ((ofFragments_eq_ok hlarge).2 name f).mpr ⟨h hf, hname⟩

/-- The order of the fragments makes no difference to their table. -/
theorem ofFragments_of_perm {fs gs : List Fragment} {table : FragmentTable} (h : fs.Perm gs)
    (htable : ofFragments fs = .ok table) : ofFragments gs = .ok table := by
  have hdistinct := (ofFragments_eq_ok htable).1
  obtain ⟨other, hother⟩ := exists_ofFragments ((h.map Fragment.name).nodup_iff.mp hdistinct)
  have hsame : other = table := Table.ext fun name => Option.ext fun f => by
    rw [(ofFragments_eq_ok hother).2, (ofFragments_eq_ok htable).2, h.mem_iff]
  rw [hother, hsame]

end FragmentTable

end QueryBindings

import Mathlib.Logic.Relation
import QueryBindings.Document.Fragments
import QueryBindings.Proofs.Tables

/-! # The graph of fragments

A fragment leads to the fragments that it spreads.  What a selection set needs is what its own
spreads lead to, and a name is settled (`Resolves`) if everything that it leads to is defined
and no way from it goes on for ever.

Main statement: `resolves_reachable_iff` (the spreads of a set resolve exactly if everything that
they lead to is defined and nothing among it leads back to itself). -/

namespace QueryBindings

namespace FragmentTable

variable (table : FragmentTable)

/-- A fragment named `a` spreads `b`, at some depth of its selections. -/
def Spreads (a b : String) : Prop := ∃ f, table.get? a = some f ∧ b ∈ f.selections.spreads

/-- The spreads of `set` lead to `name`, directly or through the bodies of fragments. -/
def Reachable (set : SelectionSet) (name : String) : Prop :=
  ∃ n ∈ set.spreads, Relation.ReflTransGen table.Spreads n name

/-- The name is that of a fragment, and so is all that it leads to, in finitely many steps. -/
inductive Resolves : String → Prop where
  | intro {name : String} {f : Fragment} (hget : table.get? name = some f)
      (hbody : ∀ m ∈ f.selections.spreads, Resolves m) : Resolves name

/-- No way along spreads from `name` goes on for ever. -/
abbrev Ends (name : String) : Prop := Acc (fun next name => table.Spreads name next) name

variable {table}

theorem Ends.acyclic {name : String} (h : table.Ends name) :
    ¬ Relation.TransGen table.Spreads name name := by
  induction h with
  | intro name _ ih =>
      intro hcycle
      rw [Relation.TransGen.head'_iff] at hcycle
      obtain ⟨next, hnext, hback⟩ := hcycle
      exact ih next hnext (Relation.TransGen.tail' hback hnext)

theorem ends_of_get?_eq_none {name : String} (h : table.get? name = none) : table.Ends name := by
  refine .intro name fun next ⟨f, hget, _⟩ => ?_
  rw [h] at hget
  cases hget

theorem Resolves.contains {name : String} (h : table.Resolves name) :
    table.contains name = true := by
  obtain ⟨hget, -⟩ := h
  rw [Table.contains_iff]
  exact ⟨_, hget⟩

theorem Resolves.step {a b : String} (h : table.Resolves a) (hab : table.Spreads a b) :
    table.Resolves b := by
  obtain ⟨hget, hbody⟩ := h
  obtain ⟨f, hf, hb⟩ := hab
  rw [hget] at hf
  cases hf
  exact hbody b hb

theorem Resolves.trans {a b : String} (h : table.Resolves a)
    (hab : Relation.ReflTransGen table.Spreads a b) : table.Resolves b := by
  induction hab with
  | refl => exact h
  | tail _ hstep ih => exact ih.step hstep

theorem Resolves.ends {name : String} (h : table.Resolves name) : table.Ends name := by
  induction h with
  | intro hget _ ih =>
      refine .intro _ fun next ⟨f, hf, hnext⟩ => ?_
      rw [hget] at hf
      cases hf
      exact ih next hnext

theorem Resolves.acyclic {name : String} (h : table.Resolves name) :
    ¬ Relation.TransGen table.Spreads name name := h.ends.acyclic

/-- The spreads of `name` come after every fragment that leads to `name`. -/
theorem spreads_after {active : List String} {name next : String}
    (hactive : ∀ a ∈ active, Relation.TransGen table.Spreads a name)
    (hnext : table.Spreads name next) :
    ∀ a ∈ name :: active, Relation.TransGen table.Spreads a next := by
  intro a ha
  rcases List.mem_cons.mp ha with rfl | ha
  · exact .single hnext
  · exact (hactive a ha).tail hnext

/-- Names that are on the way to `name` and differ leave fewer fragments to go through, so every way
from it ends if nothing ahead of it is cyclic. -/
theorem ends_of_ahead {name : String} (remaining : Nat) {active : List String}
    (hdistinct : active.Nodup) (hkeys : ∀ a ∈ active, a ∈ table.keys)
    (hcount : table.size + 1 ≤ remaining + active.length)
    (hactive : ∀ a ∈ active, Relation.TransGen table.Spreads a name)
    (hahead : ∀ m, Relation.ReflTransGen table.Spreads name m →
      ¬ Relation.TransGen table.Spreads m m) :
    table.Ends name := by
  induction remaining generalizing active name with
  | zero =>
      have := Table.length_le_size hdistinct hkeys
      omega
  | succ remaining ih =>
      cases hget : table.get? name with
      | none => exact ends_of_get?_eq_none hget
      | some f =>
          have hnew : name ∉ active := fun hmem => hahead name .refl (hactive name hmem)
          refine .intro name fun next hstep => ?_
          have hdistinct' : (name :: active).Nodup := List.nodup_cons.mpr ⟨hnew, hdistinct⟩
          refine ih hdistinct' ?_ ?_ (spreads_after hactive hstep)
            fun m hm => hahead m (.head hstep hm)
          · intro a ha
            rcases List.mem_cons.mp ha with rfl | ha
            · exact Table.mem_keys_of_get? hget
            · exact hkeys a ha
          · rw [List.length_cons]
            omega

/-- From the spreads of a set every way ends if nothing to which they lead is cyclic. -/
theorem ends_of_acyclic {set : SelectionSet}
    (h : ∀ n, table.Reachable set n → ¬ Relation.TransGen table.Spreads n n) :
    ∀ n ∈ set.spreads, table.Ends n := fun n hn =>
  ends_of_ahead (table.size + 1) List.nodup_nil (by simp) (by simp) (by simp)
    fun m hm => h m ⟨n, hn, hm⟩

/-- A name from which every way ends resolves if all ahead of it is defined. -/
theorem Ends.resolves {name : String} (h : table.Ends name)
    (hahead : ∀ m, Relation.ReflTransGen table.Spreads name m → table.contains m = true) :
    table.Resolves name := by
  induction h with
  | intro name _ ih =>
      obtain ⟨f, hget⟩ := (table.contains_iff name).mp (hahead name .refl)
      refine .intro hget fun next hnext => ?_
      have hstep : table.Spreads name next := ⟨f, hget, hnext⟩
      exact ih next hstep fun m hm => hahead m (.head hstep hm)

/-- The spreads of a set resolve exactly if everything `Reachable` is defined and nothing among it
leads back to itself. -/
theorem resolves_reachable_iff {set : SelectionSet} :
    (∀ n ∈ set.spreads, table.Resolves n) ↔
      ∀ n, table.Reachable set n →
        table.contains n = true ∧ ¬ Relation.TransGen table.Spreads n n := by
  constructor
  · rintro h n ⟨m, hm, hn⟩
    have hresolves := (h m hm).trans hn
    exact ⟨hresolves.contains, hresolves.acyclic⟩
  · intro h n hn
    exact (ends_of_acyclic (fun m hm => (h m hm).2) n hn).resolves fun m hm => (h m ⟨n, hn, hm⟩).1

end FragmentTable

end QueryBindings

import Mathlib.Data.List.Chain
import Mathlib.Data.List.Nodup
import QueryBindings.Proofs.FragmentCycles

/-! # Walks into a cycle

What the search for cycles reports is the walk that led it back, and the search needs no bound on
the length of the way: `Searches` tells of it without one.

Main statements: `searches_checkCycles` (the bounded search is the one without a bound),
`closes_of_visitFragment` (what is reported is a walk into a cycle) and
`checkCycles_decides_acyclicity` (all of it, for fragments of different names). -/

namespace QueryBindings

namespace FragmentTable

variable {table : FragmentTable}

/-! ### The search without a bound -/

/-- A depth-first search over the names in `pending`, one after another, without a bound: `path`
holds the fragments on the way to them, innermost first, and `done` those that are settled. -/
inductive Searches (table : FragmentTable) :
    (path done pending : List String) → Except Error (List String) → Prop where
  | nil {path done : List String} : Searches table path done [] (.ok done)
  | undefined {path done rest : List String} {name : String} {outcome : Except Error (List String)}
      (hget : table.get? name = none) (hrest : Searches table path done rest outcome) :
      Searches table path done (name :: rest) outcome
  | settled {path done rest : List String} {name : String} {f : Fragment}
      {outcome : Except Error (List String)} (hget : table.get? name = some f)
      (hdone : name ∈ done) (hrest : Searches table path done rest outcome) :
      Searches table path done (name :: rest) outcome
  | cyclic {path done rest : List String} {name : String} {f : Fragment}
      (hget : table.get? name = some f) (hdone : name ∉ done) (hpath : name ∈ path) :
      Searches table path done (name :: rest) (.error (.cyclicFragment (name :: path).reverse))
  | inside {path done mid rest : List String} {name : String} {f : Fragment}
      {outcome : Except Error (List String)} (hget : table.get? name = some f)
      (hdone : name ∉ done) (hpath : name ∉ path)
      (hbody : Searches table (name :: path) done f.selections.spreads (.ok mid))
      (hrest : Searches table path (name :: mid) rest outcome) :
      Searches table path done (name :: rest) outcome
  | stopped {path done rest : List String} {name : String} {f : Fragment} {e : Error}
      (hget : table.get? name = some f) (hdone : name ∉ done) (hpath : name ∉ path)
      (hbody : Searches table (name :: path) done f.selections.spreads (.error e)) :
      Searches table path done (name :: rest) (.error e)

namespace Searches

variable {path done mid names others : List String} {outcome outcome' : Except Error (List String)}

theorem unique (h : Searches table path done names outcome)
    (h' : Searches table path done names outcome') : outcome = outcome' := by
  induction h generalizing outcome' with
  | nil =>
      cases h'
      rfl
  | undefined hget _ ih =>
      cases h' with
      | undefined _ hrest => exact ih hrest
      | settled hget' => cases hget.symm.trans hget'
      | cyclic hget' => cases hget.symm.trans hget'
      | inside hget' => cases hget.symm.trans hget'
      | stopped hget' => cases hget.symm.trans hget'
  | settled hget hdone _ ih =>
      cases h' with
      | undefined hget' => cases hget.symm.trans hget'
      | settled _ _ hrest => exact ih hrest
      | cyclic _ hdone' => exact absurd hdone hdone'
      | inside _ hdone' => exact absurd hdone hdone'
      | stopped _ hdone' => exact absurd hdone hdone'
  | cyclic hget hdone hpath =>
      cases h' with
      | undefined hget' => cases hget.symm.trans hget'
      | settled _ hdone' => exact absurd hdone' hdone
      | cyclic => rfl
      | inside _ _ hpath' => exact absurd hpath hpath'
      | stopped _ _ hpath' => exact absurd hpath hpath'
  | inside hget hdone hpath _ _ ihbody ihrest =>
      cases h' with
      | undefined hget' => cases hget.symm.trans hget'
      | settled _ hdone' => exact absurd hdone' hdone
      | cyclic _ _ hpath' => exact absurd hpath' hpath
      | inside hget' _ _ hbody hrest =>
          cases hget.symm.trans hget'
          cases ihbody hbody
          exact ihrest hrest
      | stopped hget' _ _ hbody =>
          cases hget.symm.trans hget'
          cases ihbody hbody
  | stopped hget hdone hpath _ ihbody =>
      cases h' with
      | undefined hget' => cases hget.symm.trans hget'
      | settled _ hdone' => exact absurd hdone' hdone
      | cyclic _ _ hpath' => exact absurd hpath' hpath
      | inside hget' _ _ hbody =>
          cases hget.symm.trans hget'
          cases ihbody hbody
      | stopped hget' _ _ hbody =>
          cases hget.symm.trans hget'
          cases ihbody hbody
          rfl

theorem append (h : Searches table path done names (.ok mid))
    (h' : Searches table path mid others outcome) :
    Searches table path done (names ++ others) outcome := by
  generalize hout : Except.ok mid = first at h
  induction h with
  | nil =>
      cases hout
      exact h'
  | undefined hget _ ih => exact .undefined hget (ih h' hout)
  | settled hget hdone _ ih => exact .settled hget hdone (ih h' hout)
  | cyclic => cases hout
  | inside hget hdone hpath hbody _ _ ih => exact .inside hget hdone hpath hbody (ih h' hout)
  | stopped => cases hout

theorem append_error {e : Error} (h : Searches table path done names (.error e))
    (others : List String) : Searches table path done (names ++ others) (.error e) := by
  generalize hout : Except.error e = first at h
  induction h with
  | nil => cases hout
  | undefined hget _ ih => exact .undefined hget (ih hout)
  | settled hget hdone _ ih => exact .settled hget hdone (ih hout)
  | cyclic hget hdone hpath =>
      cases hout
      exact .cyclic hget hdone hpath
  | inside hget hdone hpath hbody _ _ ih => exact .inside hget hdone hpath hbody (ih hout)
  | stopped hget hdone hpath hbody =>
      cases hout
      exact .stopped hget hdone hpath hbody

theorem body {name : String} {f : Fragment} (hget : table.get? name = some f)
    (hdone : name ∉ done) (hpath : name ∉ path)
    (h : Searches table (name :: path) done f.selections.spreads outcome) :
    Searches table path done [name] (outcome >>= fun mid => .ok (name :: mid)) := by
  cases outcome with
  | error e => exact .stopped hget hdone hpath h
  | ok mid => exact .inside hget hdone hpath h .nil

end Searches

theorem searches_foldlM {α : Type} {key : α → String} {path : List String}
    {step : List String → α → Except Error (List String)} {items : List α}
    (hstep : ∀ a ∈ items, ∀ done, table.Searches path done [key a] (step done a))
    (done : List String) : table.Searches path done (items.map key) (items.foldlM step done) := by
  induction items generalizing done with
  | nil => exact .nil
  | cons a rest ih =>
      have hhere := hstep a List.mem_cons_self done
      have hrest := fun mid => ih (fun b hb => hstep b (List.mem_cons_of_mem a hb)) mid
      rw [List.foldlM_cons]
      cases hfirst : step done a with
      | error e =>
          rw [hfirst] at hhere
          exact hhere.append_error _
      | ok mid =>
          rw [hfirst] at hhere
          exact hhere.append (hrest mid)

end FragmentTable

open FragmentTable

variable {table : FragmentTable} {depth : Nat} {path : List String} {f : Fragment}

/-- `visitFragment` with a sufficient bound is the search over the one name, as the fragments on the
way differ. -/
theorem searches_visitFragment (hkeyed : table.Keyed)
    (hbounded : Inlining.Bounded table depth path) (hget : table.get? f.name = some f)
    (done : List String) :
    table.Searches path done [f.name] (visitFragment table depth path done f) := by
  induction depth generalizing path f done with
  | zero => exact absurd hbounded.pos (Nat.lt_irrefl 0)
  | succ depth ih =>
      unfold visitFragment
      split
      · rename_i hdone
        exact .settled hget (List.contains_iff_mem.mp hdone) .nil
      · rename_i hdone
        rw [List.contains_iff_mem] at hdone
        split
        · rename_i hpath
          exact .cyclic hget hdone (List.contains_iff_mem.mp hpath)
        · rename_i hpath
          rw [List.contains_iff_mem] at hpath
          refine .body hget hdone hpath ?_
          conv => arg 4; rw [← List.map_id f.selections.spreads]
          refine searches_foldlM (fun name _ done => ?_) done
          split
          · rename_i next hnext
            have hname := hkeyed name next hnext
            subst hname
            exact ih (hbounded.push hget hpath) hnext done
          · rename_i hnone
            exact .undefined hnone .nil

/-- `checkCycles` is the search over all fragments of the table. -/
theorem searches_checkCycles {fragments : List Fragment}
    (htable : ofFragments fragments = .ok table) :
    ∃ outcome, table.Searches [] [] (fragments.map Fragment.name) outcome ∧
      checkCycles table fragments = outcome.map fun _ => () := by
  have hget := (ofFragments_eq_ok htable).2
  refine ⟨fragments.foldlM (visitFragment table (table.size + 2) []) [],
    searches_foldlM (fun f hf done => ?_) [], ?_⟩
  · exact searches_visitFragment (keyed_of_ofFragments htable) (.start table 1)
      ((hget f.name f).mpr ⟨hf, rfl⟩) done
  · unfold checkCycles
    cases fragments.foldlM (visitFragment table (table.size + 2) []) [] <;> rfl

/-! ### What is reported -/

/-- A walk into a cycle: each name spreads the next one, and the names differ until the last one
comes again. -/
structure FragmentTable.Closes (table : FragmentTable) (walk : List String) : Prop where
  steps : walk.IsChain table.Spreads
  distinct : walk.dropLast.Nodup
  again : ∃ last ∈ walk.getLast?, last ∈ walk.dropLast

theorem FragmentTable.closes_reverse {name : String}
    (hsteps : (name :: path).IsChain fun next name => table.Spreads name next)
    (hdistinct : path.Nodup) (hmem : name ∈ path) : table.Closes (name :: path).reverse := by
  have hlast : (name :: path).reverse.dropLast = path.reverse := by
    rw [List.reverse_cons, List.dropLast_concat]
  refine ⟨List.isChain_reverse.mpr hsteps, ?_, name, ?_, ?_⟩
  · rw [hlast]
    exact List.nodup_reverse.mpr hdistinct
  · rw [List.reverse_cons, List.getLast?_concat]
    rfl
  · rw [hlast]
    exact List.mem_reverse.mpr hmem

/-- A search stops with the walk that led it back. -/
theorem closes_of_visitFragment (hkeyed : table.Keyed) (hget : table.get? f.name = some f)
    (hsteps : (f.name :: path).IsChain fun next name => table.Spreads name next)
    (hdistinct : path.Nodup) {done : List String} {e : Error}
    (h : visitFragment table depth path done f = .error e) :
    ∃ walk, e = .cyclicFragment walk ∧ table.Closes walk := by
  induction depth generalizing path f done with
  | zero => cases h
  | succ depth ih =>
      unfold visitFragment at h
      split at h
      · cases h
      · split at h
        · rename_i hpath
          cases h
          exact ⟨_, rfl, closes_reverse hsteps hdistinct (List.contains_iff_mem.mp hpath)⟩
        · rename_i hpath
          rw [List.contains_iff_mem] at hpath
          rcases bind_eq_error.mp h with h | ⟨mid, -, h⟩
          · obtain ⟨before, name, hname, hstep⟩ := foldlM_eq_error h
            split at hstep
            · rename_i next hnext
              have hkey := hkeyed name next hnext
              subst hkey
              exact ih hnext (.cons_cons ⟨f, hget, hname⟩ hsteps)
                (List.nodup_cons.mpr ⟨hpath, hdistinct⟩) hstep
            · cases hstep
          · cases h

theorem closes_of_checkCycles {fragments : List Fragment}
    (htable : ofFragments fragments = .ok table) {e : Error}
    (h : checkCycles table fragments = .error e) :
    ∃ walk, e = .cyclicFragment walk ∧ table.Closes walk := by
  rcases bind_eq_error.mp h with h | ⟨done, -, h⟩
  · obtain ⟨before, f, hf, hstep⟩ := foldlM_eq_error h
    have hget := ((ofFragments_eq_ok htable).2 f.name f).mpr ⟨hf, rfl⟩
    exact closes_of_visitFragment (keyed_of_ofFragments htable) hget (.singleton _) List.nodup_nil
      hstep
  · cases h

/-- Fragments of different names have a table, and `checkCycles` on it ends, with the one outcome of
`Searches`, and is exact: it succeeds if and only if no fragment leads back to itself, and fails
with a walk that `Closes`. -/
theorem checkCycles_decides_acyclicity {fragments : List Fragment}
    (hdistinct : (fragments.map Fragment.name).Nodup) :
    ∃ table, ofFragments fragments = .ok table ∧
      (∃! outcome, table.Searches [] [] (fragments.map Fragment.name) outcome) ∧
      (∀ outcome, table.Searches [] [] (fragments.map Fragment.name) outcome →
        checkCycles table fragments = outcome.map fun _ => ()) ∧
      (checkCycles table fragments = .ok () ↔
        ∀ f ∈ fragments, ¬ Relation.TransGen table.Spreads f.name f.name) ∧
      ∀ e, checkCycles table fragments = .error e →
        ∃ walk, e = .cyclicFragment walk ∧ table.Closes walk := by
  obtain ⟨table, htable⟩ := exists_ofFragments hdistinct
  obtain ⟨outcome, hsearches, hcheck⟩ := searches_checkCycles htable
  refine ⟨table, htable, ⟨outcome, hsearches, fun _ h => h.unique hsearches⟩, fun _ h => ?_, ?_,
    fun e h => closes_of_checkCycles htable h⟩
  · rw [h.unique hsearches, hcheck]
  · rw [checkCycles_eq_ok_iff htable]
    refine ⟨fun h f _ => h f.name, fun h n hcycle => ?_⟩
    obtain ⟨next, ⟨f, hget, -⟩, -⟩ := Relation.TransGen.head'_iff.mp hcycle
    obtain ⟨hf, rfl⟩ := ((ofFragments_eq_ok htable).2 n f).mp hget
    exact h f hf hcycle

/-- `A` leads to `D` in two ways, inside a field and in line, and `D` leads back to `B`. -/
def knottedFragments : List Fragment :=
  [⟨"A", "T", [], .field ⟨none, "t", [], []⟩ (.spread ⟨"B", []⟩ .nil)
      (.inline ⟨none, []⟩ (.spread ⟨"C", []⟩ .nil) .nil)⟩,
    ⟨"B", "T", [], .spread ⟨"D", []⟩ .nil⟩, ⟨"C", "T", [], .spread ⟨"D", []⟩ .nil⟩,
    ⟨"D", "T", [], .spread ⟨"missing", []⟩ (.spread ⟨"B", []⟩ .nil)⟩]

theorem checkCycles_knottedFragments :
    (knottedFragments.map Fragment.name).Nodup ∧
      ∃ table walk, ofFragments knottedFragments = .ok table ∧
        checkCycles table knottedFragments = .error (.cyclicFragment walk) ∧ table.Closes walk ∧
        walk = ["A", "B", "D", "B"] := by
  have hdistinct : (knottedFragments.map Fragment.name).Nodup := by decide
  obtain ⟨table, htable, -, -, -, hreport⟩ := checkCycles_decides_acyclicity hdistinct
  have hwalk : (match checkCycles table knottedFragments with
      | .error (.cyclicFragment walk) => walk
      | _ => []) = ["A", "B", "D", "B"] := by
    have h : (match ofFragments knottedFragments >>= (checkCycles · knottedFragments) with
        | .error (.cyclicFragment walk) => walk
        | _ => []) = ["A", "B", "D", "B"] := by decide +kernel
    rw [htable] at h
    exact h
  cases hcheck : checkCycles table knottedFragments with
  | ok _ =>
      rw [hcheck] at hwalk
      cases hwalk
  | error e =>
      obtain ⟨walk, rfl, hcloses⟩ := hreport e hcheck
      rw [hcheck] at hwalk
      exact ⟨hdistinct, table, walk, htable, hcheck, hcloses, hwalk⟩

end QueryBindings

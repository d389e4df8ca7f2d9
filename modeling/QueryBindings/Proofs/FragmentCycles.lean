import QueryBindings.Document.Validation
import QueryBindings.Proofs.FragmentTables
import QueryBindings.Proofs.Inlining

/-! # The search for cycles

The search goes depth first from every fragment and remembers the names that it is done with.  It
is done with a name once no way from there goes on for ever (`Ends`), and it stops at a name only if
the way to it came through the same name before.

Main statements: `searched_visitFragment` (what a search has settled), `exists_visitFragment` (it
does not stop if there is no cycle) and `checkCycles_eq_ok_iff` (both, for all fragments of a
document). -/

namespace QueryBindings

/-! ### Steps of the search -/

namespace FragmentTable

variable {table : FragmentTable}

/-- From the names in `before` a search over `names` came to those in `after`. -/
structure Searched (table : FragmentTable) (before names after : List String) : Prop where
  kept : ∀ n ∈ before, n ∈ after
  /-- The fragments of these names are settled now. -/
  covered : ∀ n ∈ names, table.contains n = true → n ∈ after
  /-- From what is settled every way ends. -/
  ends : (∀ n ∈ before, table.Ends n) → ∀ n ∈ after, table.Ends n

theorem Searched.nil (table : FragmentTable) (before : List String) :
    Searched table before [] before := ⟨fun _ h => h, nofun, fun h => h⟩

theorem Searched.undefined (before : List String) {name : String} (h : table.get? name = none) :
    Searched table before [name] before := by
  refine ⟨fun _ hn => hn, fun n hn hcontains => ?_, fun hends => hends⟩
  obtain ⟨f, hf⟩ := (table.contains_iff n).mp hcontains
  rw [List.mem_singleton.mp hn, h] at hf
  cases hf

theorem Searched.append {before mid after names others : List String}
    (h : Searched table before names mid) (h' : Searched table mid others after) :
    Searched table before (names ++ others) after := by
  refine ⟨fun n hn => h'.kept n (h.kept n hn), fun n hn hcontains => ?_,
    fun hends => h'.ends (h.ends hends)⟩
  rcases List.mem_append.mp hn with hn | hn
  · exact h'.kept n (h.covered n hn hcontains)
  · exact h'.covered n hn hcontains

theorem searched_foldlM {α : Type} {key : α → String}
    {step : List String → α → Except Error (List String)} {items : List α}
    (hstep : ∀ a ∈ items, ∀ before after, step before a = .ok after →
      Searched table before [key a] after)
    {before after : List String} (h : items.foldlM step before = .ok after) :
    Searched table before (items.map key) after := by
  induction items generalizing before with
  | nil =>
      cases h
      exact .nil table _
  | cons a rest ih =>
      rw [List.foldlM_cons] at h
      obtain ⟨mid, hfirst, hrest⟩ := bind_eq_ok.mp h
      have hhere := hstep a List.mem_cons_self before mid hfirst
      exact hhere.append (ih (fun b hb => hstep b (List.mem_cons_of_mem a hb)) hrest)

theorem Searched.fragment {f : Fragment} {before mid : List String}
    (hget : table.get? f.name = some f) (h : Searched table before f.selections.spreads mid) :
    Searched table before [f.name] (f.name :: mid) := by
  refine ⟨fun n hn => List.mem_cons_of_mem _ (h.kept n hn), fun n hn _ => ?_, fun hends => ?_⟩
  · rw [List.mem_singleton.mp hn]
    exact List.mem_cons_self
  · rw [List.forall_mem_cons]
    refine ⟨.intro f.name fun next ⟨g, hg, hnext⟩ => ?_, h.ends hends⟩
    rw [hget] at hg
    cases hg
    cases hcontains : table.get? next with
    | none => exact ends_of_get?_eq_none hcontains
    | some other =>
        exact h.ends hends next (h.covered next hnext ((table.contains_iff next).mpr ⟨_, hcontains⟩))

end FragmentTable

/-! ### The search from a fragment -/

open FragmentTable

variable {table : FragmentTable} {depth : Nat} {path : List String} {f : Fragment}

/-- A search from a fragment settles it.  As the fragments on the way differ, the bound on the
length of the way is never met. -/
theorem searched_visitFragment (hkeyed : table.Keyed)
    (hbounded : Inlining.Bounded table depth path) (hget : table.get? f.name = some f)
    {before after : List String} (h : visitFragment table depth path before f = .ok after) :
    Searched table before [f.name] after := by
  induction depth generalizing path f before after with
  | zero => exact absurd hbounded.pos (Nat.lt_irrefl 0)
  | succ depth ih =>
      unfold visitFragment at h
      split at h
      · rename_i hdone
        cases h
        have hmem := List.contains_iff_mem.mp hdone
        exact ⟨fun n hn => hn, fun n hn _ => List.mem_singleton.mp hn ▸ hmem, fun hends => hends⟩
      · split at h
        · cases h
        · rename_i hnew
          obtain ⟨mid, hmid, h⟩ := bind_eq_ok.mp h
          cases h
          have hbelow : Inlining.Bounded table depth (f.name :: path) :=
            hbounded.push hget fun hmem => hnew (List.contains_iff_mem.mpr hmem)
          refine .fragment hget ?_
          rw [← List.map_id f.selections.spreads]
          refine searched_foldlM (fun name _ start last hstep => ?_) hmid
          split at hstep
          · rename_i next hnext
            have hname := hkeyed name next hnext
            subst hname
            exact ih hbelow hnext hstep
          · rename_i hnone
            cases hstep
            exact .undefined start hnone

/-- `visitFragment` stops only at a fragment that the way to it came through before. -/
theorem exists_visitFragment (hkeyed : table.Keyed)
    (hacyclic : ∀ n, ¬ Relation.TransGen table.Spreads n n) (hget : table.get? f.name = some f)
    (hpath : ∀ a ∈ path, Relation.TransGen table.Spreads a f.name) (done : List String) :
    ∃ after, visitFragment table depth path done f = .ok after := by
  induction depth generalizing path f done with
  | zero => exact ⟨done, rfl⟩
  | succ depth ih =>
      have hnew : ¬ path.contains f.name = true := fun hmem =>
        hacyclic f.name (hpath f.name (List.contains_iff_mem.mp hmem))
      unfold visitFragment
      rw [if_neg hnew]
      split
      · exact ⟨done, rfl⟩
      · refine exists_bind (exists_foldlM fun done name hname => ?_) fun mid => ⟨_, rfl⟩
        split
        · rename_i next hnext
          have hkey := hkeyed name next hnext
          subst hkey
          exact ih hnext (spreads_after hpath ⟨f, hget, hname⟩) done
        · exact ⟨done, rfl⟩

/-! ### All fragments of a document -/

/-- `checkCycles` succeeds exactly if no fragment of the table leads back to itself. -/
theorem checkCycles_eq_ok_iff {fragments : List Fragment}
    (htable : ofFragments fragments = .ok table) :
    checkCycles table fragments = .ok () ↔ ∀ n, ¬ Relation.TransGen table.Spreads n n := by
  have hget := (ofFragments_eq_ok htable).2
  have hkeyed := keyed_of_ofFragments htable
  constructor
  · intro h n hcycle
    obtain ⟨after, hafter, -⟩ := bind_eq_ok.mp h
    have hsearched : table.Searched [] (fragments.map Fragment.name) after :=
      searched_foldlM (fun f hf before last hstep =>
        searched_visitFragment hkeyed (.start table 1) ((hget f.name f).mpr ⟨hf, rfl⟩) hstep) hafter
    obtain ⟨next, ⟨f, hf, -⟩, -⟩ := Relation.TransGen.head'_iff.mp hcycle
    obtain ⟨hmem, hname⟩ := (hget n f).mp hf
    have hcovered : n ∈ after := by
      refine hsearched.covered n ?_ ((table.contains_iff n).mpr ⟨f, hf⟩)
      exact hname ▸ List.mem_map_of_mem hmem
    exact (hsearched.ends (List.forall_mem_nil _) n hcovered).acyclic hcycle
  · intro hacyclic
    obtain ⟨done, hdone⟩ : ∃ done, fragments.foldlM (visitFragment table (table.size + 2) []) [] =
        .ok done := exists_foldlM fun done f hf =>
      exists_visitFragment hkeyed hacyclic ((hget f.name f).mpr ⟨hf, rfl⟩) (List.forall_mem_nil _)
        done
    exact bind_eq_ok.mpr ⟨done, hdone, rfl⟩

end QueryBindings

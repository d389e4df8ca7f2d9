import QueryBindings.Proofs.FragmentGraph
import QueryBindings.Proofs.FragmentTables
import QueryBindings.Proofs.Outcome

/-! # Fragments in use

The fragments that a set needs are listed by following spreads, each name once.  The list is closed
under spreads and holds nothing that could be left out, and there is one unless a spread that is met
names no fragment.

Main statements: `listed_of_usedIn` (what is listed), `exists_usedIn_iff` (when there is a list) and
`error_of_usedFrom` (what stands in the way of one). -/

namespace QueryBindings

namespace FragmentTable

variable {table : FragmentTable}

/-- `fs` are the fragments to which the names in `pending` lead, but for those in `used`. -/
structure Listed (table : FragmentTable) (used pending : List String) (fs : List Fragment) :
    Prop where
  distinct : (fs.map Fragment.name).Nodup
  fresh : ∀ f ∈ fs, f.name ∉ used
  found : ∀ f ∈ fs, table.get? f.name = some f
  covered : ∀ n ∈ pending, n ∈ used ∨ ∃ f ∈ fs, f.name = n
  /-- The fragments of all names that a listed one spreads are there. -/
  closed : ∀ f ∈ fs, ∀ n ∈ f.selections.spreads, n ∈ used ∨ ∃ g ∈ fs, g.name = n
  /-- Whoever keeps all that is pending, and all that a kept fragment spreads, keeps them all. -/
  least : ∀ kept : String → Prop, (∀ n ∈ pending, kept n) →
    (∀ f ∈ fs, kept f.name → ∀ n ∈ f.selections.spreads, kept n) → ∀ f ∈ fs, kept f.name

theorem Listed.nil (table : FragmentTable) (used : List String) : Listed table used [] [] :=
  ⟨List.nodup_nil, nofun, nofun, nofun, nofun, fun _ _ _ => nofun⟩

theorem Listed.skip {used pending : List String} {fs : List Fragment} {name : String}
    (h : Listed table used pending fs) (hused : name ∈ used) :
    Listed table used (name :: pending) fs where
  distinct := h.distinct
  fresh := h.fresh
  found := h.found
  covered := List.forall_mem_cons.mpr ⟨.inl hused, h.covered⟩
  closed := h.closed
  least := fun kept hpending hkept =>
    h.least kept (fun n hn => hpending n (List.mem_cons_of_mem name hn)) hkept

theorem Listed.cons {used pending : List String} {fs : List Fragment} {f : Fragment}
    (h : Listed table (f.name :: used) (f.selections.spreads ++ pending) fs)
    (hget : table.get? f.name = some f) (hnew : f.name ∉ used) :
    Listed table used (f.name :: pending) (f :: fs) := by
  have hthere : ∀ n, (n ∈ f.name :: used ∨ ∃ g ∈ fs, g.name = n) →
      n ∈ used ∨ ∃ g ∈ f :: fs, g.name = n := by
    rintro n (hn | ⟨g, hg, hname⟩)
    · rcases List.mem_cons.mp hn with rfl | hn
      · exact .inr ⟨f, List.mem_cons_self, rfl⟩
      · exact .inl hn
    · exact .inr ⟨g, List.mem_cons_of_mem f hg, hname⟩
  have hcovered : ∀ n ∈ f.selections.spreads ++ pending, n ∈ used ∨ ∃ g ∈ f :: fs, g.name = n :=
    fun n hn => hthere n (h.covered n hn)
  refine ⟨?_, ?_, List.forall_mem_cons.mpr ⟨hget, h.found⟩, ?_, ?_, fun kept hpending hkept => ?_⟩
  · rw [List.map_cons, List.nodup_cons]
    refine ⟨fun hmem => ?_, h.distinct⟩
    obtain ⟨g, hg, hname⟩ := List.mem_map.mp hmem
    exact h.fresh g hg (hname ▸ List.mem_cons_self)
  · rw [List.forall_mem_cons]
    exact ⟨hnew, fun g hg hmem => h.fresh g hg (List.mem_cons_of_mem f.name hmem)⟩
  · rw [List.forall_mem_cons]
    exact ⟨.inr ⟨f, List.mem_cons_self, rfl⟩, fun n hn => hcovered n (List.mem_append_right _ hn)⟩
  · rw [List.forall_mem_cons]
    exact ⟨fun n hn => hcovered n (List.mem_append_left _ hn),
      fun g hg n hn => hthere n (h.closed g hg n hn)⟩
  · rw [List.forall_mem_cons] at hpending hkept ⊢
    refine ⟨hpending.1, h.least kept ?_ hkept.2⟩
    rw [List.forall_mem_append]
    exact ⟨hkept.1 hpending.1, hpending.2⟩

/-! ### Following spreads -/

/-- The fragments not in use are those of `table` under other names. -/
def Unlisted (table : FragmentTable) (unused : List (String × Fragment)) (used : List String) :
    Prop := ∀ n, n ∉ used → unused.lookup n = table.get? n

theorem Unlisted.without {unused : List (String × Fragment)} {used : List String}
    (h : Unlisted table unused used) (name : String) :
    Unlisted table (without name unused) (name :: used) := by
  intro n hn
  rw [List.mem_cons, not_or] at hn
  unfold QueryBindings.without
  rw [Table.lookup_filter_ne, if_neg hn.1]
  exact h n hn.2

/-- What `usedFrom` returns is `Listed`. -/
theorem listed_of_usedFrom (hkeyed : table.Keyed) {unused : List (String × Fragment)}
    {used pending : List String} {fs : List Fragment} (hunused : Unlisted table unused used)
    (h : usedFrom unused used pending = .ok fs) : Listed table used pending fs := by
  fun_induction usedFrom unused used pending generalizing fs with
  | case1 =>
      cases h
      exact .nil table _
  | case2 unused used name rest hused ih =>
      exact (ih hunused h).skip (List.contains_iff_mem.mp hused)
  | case3 unused used name rest hnew hnone => cases h
  | case4 unused used name rest hnew f hfind ih =>
      have hmem : name ∉ used := fun hmem => hnew (List.contains_iff_mem.mpr hmem)
      have hget : table.get? name = some f := (hunused name hmem).symm.trans hfind
      have hname := hkeyed name f hget
      subst hname
      cases hlater : usedFrom (QueryBindings.without f.name unused) (f.name :: used)
          (f.selections.spreads ++ rest) with
      | error e =>
          rw [hlater] at h
          cases h
      | ok later =>
          rw [hlater] at h
          cases h
          exact (ih (hunused.without f.name) hlater).cons hget hmem

/-- `usedFrom` fails only at a name without a fragment that spreads lead to. -/
theorem error_of_usedFrom {unused : List (String × Fragment)} {used pending : List String}
    {e : Error} (hunused : Unlisted table unused used)
    (h : usedFrom unused used pending = .error e) :
    ∃ n, e = .unresolvedFragment n ∧ table.get? n = none ∧
      ∃ p ∈ pending, Relation.ReflTransGen table.Spreads p n := by
  fun_induction usedFrom unused used pending with
  | case1 => cases h
  | case2 unused used name rest hused ih =>
      obtain ⟨n, he, hnone, p, hp, hlead⟩ := ih hunused h
      exact ⟨n, he, hnone, p, List.mem_cons_of_mem name hp, hlead⟩
  | case3 unused used name rest hnew hnone =>
      cases h
      have hmem : name ∉ used := fun hmem => hnew (List.contains_iff_mem.mpr hmem)
      exact ⟨name, rfl, (hunused name hmem).symm.trans hnone, name, List.mem_cons_self, .refl⟩
  | case4 unused used name rest hnew f hfind ih =>
      have hmem : name ∉ used := fun hmem => hnew (List.contains_iff_mem.mpr hmem)
      have hget : table.get? name = some f := (hunused name hmem).symm.trans hfind
      cases hlater : usedFrom (QueryBindings.without name unused) (name :: used)
          (f.selections.spreads ++ rest) with
      | ok later =>
          rw [hlater] at h
          cases h
      | error e' =>
          rw [hlater] at h
          cases h
          obtain ⟨n, he, hnone, p, hp, hlead⟩ := ih (hunused.without name) hlater
          refine ⟨n, he, hnone, ?_⟩
          rcases List.mem_append.mp hp with hp | hp
          · exact ⟨name, List.mem_cons_self, .head ⟨f, hget, hp⟩ hlead⟩
          · exact ⟨p, List.mem_cons_of_mem name hp, hlead⟩

/-! ### Sets -/

theorem unlisted_entries (table : FragmentTable) : Unlisted table table.entries [] :=
  fun _ _ => rfl

theorem listed_of_usedIn (hkeyed : table.Keyed) {set : SelectionSet} {fs : List Fragment}
    (h : table.usedIn set = .ok fs) : Listed table [] set.spreads fs :=
  listed_of_usedFrom hkeyed (unlisted_entries table) h

theorem usedIn_of_spreads_eq_nil {set : SelectionSet} (h : set.spreads = []) :
    table.usedIn set = .ok [] := by
  unfold usedIn
  rw [h, usedFrom]

/-- All that is `Reachable` is listed. -/
theorem Listed.mem_of_reachable {set : SelectionSet} {fs : List Fragment}
    (h : Listed table [] set.spreads fs) {n : String} (hn : table.Reachable set n) :
    ∃ f ∈ fs, f.name = n := by
  obtain ⟨m, hm, hlead⟩ := hn
  induction hlead with
  | refl => exact (h.covered m hm).resolve_left List.not_mem_nil
  | tail _ hstep ih =>
      obtain ⟨f, hf, rfl⟩ := ih
      obtain ⟨g, hg, hnext⟩ := hstep
      rw [h.found f hf] at hg
      cases hg
      exact (h.closed f hf _ hnext).resolve_left List.not_mem_nil

/-- `usedIn` lists the fragments exactly if the spreads lead to fragments only. -/
theorem exists_usedIn_iff (hkeyed : table.Keyed) {set : SelectionSet} :
    (∃ fs, table.usedIn set = .ok fs) ↔ ∀ n, table.Reachable set n → table.contains n = true := by
  constructor
  · rintro ⟨fs, h⟩ n hn
    have hlisted := listed_of_usedIn hkeyed h
    obtain ⟨f, hf, rfl⟩ := hlisted.mem_of_reachable hn
    exact (table.contains_iff f.name).mpr ⟨f, hlisted.found f hf⟩
  · intro hdefined
    cases h : table.usedIn set with
    | ok fs => exact ⟨fs, rfl⟩
    | error e =>
        obtain ⟨n, -, hnone, hlead⟩ := error_of_usedFrom (unlisted_entries table) h
        obtain ⟨f, hf⟩ := (table.contains_iff n).mp (hdefined n hlead)
        rw [hnone] at hf
        cases hf

end FragmentTable

end QueryBindings

import QueryBindings.Document.Fragments
import QueryBindings.Proofs.FragmentGraph
import QueryBindings.Proofs.Outcome

/-! # What inlining yields

The reference is `Expansion`: a set is expanded by expanding what is selected inside its fields
and by putting the expansion of its body in the place of every fragment.  An inliner computes
it.  The names being expanded are a state of the inliner, but every step gives them back as it
found them, so they are as good as an argument (`run_expand`).

Main statements: `expansion_of_inlined` (a result is the expansion), `exists_inlined` (there is
one if everything reachable resolves), `fragmentBody_succ` (the bound on the depth of expansions
is never met) and `inlined_ok_iff_reachable_resolves` (all of it, for every table). -/

namespace QueryBindings

/-! ### The reference -/

/-- The expansion of a set: fields stay in order, every fragment gives way to the expansion of its
body. -/
inductive FragmentTable.Expansion (table : FragmentTable) :
    SelectionSet → SelectionSet → Prop where
  | nil : Expansion table .nil .nil
  | field {f : Field} {inner inner' rest rest' : SelectionSet}
      (hinner : Expansion table inner inner') (hrest : Expansion table rest rest') :
      Expansion table (.field f inner rest) (.field f inner' rest')
  | spread {s : Spread} {fragment : Fragment} {body rest rest' : SelectionSet}
      (hget : table.get? s.name = some fragment)
      (hbody : Expansion table fragment.selections body) (hrest : Expansion table rest rest') :
      Expansion table (.spread s rest) (body ++ rest')
  | inline {i : InlineFragment} {inner body rest rest' : SelectionSet}
      (hbody : Expansion table inner body) (hrest : Expansion table rest rest') :
      Expansion table (.inline i inner rest) (body ++ rest')

namespace SelectionSet

theorem isFlat_append (s t : SelectionSet) : (s ++ t).isFlat = (s.isFlat && t.isFlat) := by
  induction s with
  | nil => simp [isFlat]
  | field f inner rest _ ih => simp [isFlat, ih, Bool.and_assoc]
  | spread s rest _ => simp [isFlat]
  | inline i inner rest _ _ => simp [isFlat]

end SelectionSet

namespace FragmentTable.Expansion

variable {table : FragmentTable} {set e e' : SelectionSet}

theorem unique (h : table.Expansion set e) (h' : table.Expansion set e') : e = e' := by
  induction h generalizing e' with
  | nil =>
      cases h'
      rfl
  | field _ _ ihinner ihrest =>
      cases h' with
      | field hinner hrest => rw [ihinner hinner, ihrest hrest]
  | spread hget _ _ ihbody ihrest =>
      cases h' with
      | spread hget' hbody hrest =>
          rw [hget] at hget'
          cases hget'
          rw [ihbody hbody, ihrest hrest]
  | inline _ _ ihbody ihrest =>
      cases h' with
      | inline hbody hrest => rw [ihbody hbody, ihrest hrest]

theorem flat (h : table.Expansion set e) : e.isFlat = true := by
  induction h with
  | nil => rfl
  | field _ _ ihinner ihrest => simp only [SelectionSet.isFlat, ihinner, ihrest, Bool.and_self]
  | spread _ _ _ ihbody ihrest => rw [SelectionSet.isFlat_append, ihbody, ihrest, Bool.and_self]
  | inline _ _ ihbody ihrest => rw [SelectionSet.isFlat_append, ihbody, ihrest, Bool.and_self]

theorem resolves (h : table.Expansion set e) : ∀ n ∈ set.spreads, table.Resolves n := by
  induction h with
  | nil => simp [SelectionSet.spreads]
  | field _ _ ihinner ihrest =>
      intro n hn
      rcases List.mem_append.mp hn with hn | hn
      · exact ihinner n hn
      · exact ihrest n hn
  | spread hget _ _ ihbody ihrest =>
      intro n hn
      rcases List.mem_cons.mp hn with rfl | hn
      · exact .intro hget ihbody
      · exact ihrest n hn
  | inline _ _ ihbody ihrest =>
      intro n hn
      rcases List.mem_append.mp hn with hn | hn
      · exact ihbody n hn
      · exact ihrest n hn

end FragmentTable.Expansion

/-! ### The names being expanded as an argument -/

namespace Inlining

/-- The fields that a set selects, where `body` gives those of a spread fragment. -/
def splice (body : String → Except Error SelectionSet) :
    SelectionSet → Except Error SelectionSet
  | .nil => return .nil
  | .field f inner rest => do
    let inner ← splice body inner
    return .field f inner (← splice body rest)
  | .spread s rest => do
    let fields ← body s.name
    return fields ++ (← splice body rest)
  | .inline _ inner rest => do
    let fields ← splice body inner
    return fields ++ (← splice body rest)

/-- The fields of a fragment that is spread inside the fragments `active`, innermost first. -/
def fragmentBody (table : FragmentTable) :
    (depth : Nat) → (active : List String) → (name : String) → Except Error SelectionSet
  | 0, _, name => .error (.unresolvedFragment name)
  | depth + 1, active, name =>
    match table.get? name with
    | none => .error (.unresolvedFragment name)
    | some f =>
      if active.contains name then .error (.cyclicFragment (name :: active).reverse)
      else splice (fragmentBody table depth (name :: active)) f.selections

section run

variable {α β : Type} {active : List String}

/-- The outcome of a step decides whether the next one runs. -/
theorem run_bind (step : Inlining α) (next : α → Inlining β) (before : List String) :
    (step >>= next).run before =
      match step.run before with
      | (.ok a, after) => (next a).run after
      | (.error e, after) => (.error e, after) := by
  rw [ExceptT.run_bind]
  have hstep (f : Except Error α → StateM (List String) (Except Error β)) :
      (step.run >>= f) before = f (step.run before).1 (step.run before).2 := rfl
  rw [hstep]
  cases step.run before with
  | mk outcome after => cases outcome <;> rfl

theorem run_combine {first second : Inlining α} (combine : α → α → α) (before : List String) :
    (do let x ← first; return combine x (← second) : Inlining α).run before =
      match first.run before with
      | (.error e, mid) => (.error e, mid)
      | (.ok x, mid) =>
        match second.run mid with
        | (.error e, after) => (.error e, after)
        | (.ok y, after) => (.ok (combine x y), after) := by
  rw [run_bind]
  cases first.run before with
  | mk outcome mid =>
      cases outcome with
      | error e => rfl
      | ok x =>
          dsimp only
          rw [run_bind]
          cases second.run mid with
          | mk outcome after => cases outcome <;> rfl

theorem run_both {first second : Inlining α} {a b : Except Error α} (combine : α → α → α)
    (hfirst : first.run active = (a, active)) (hsecond : second.run active = (b, active)) :
    (do let x ← first; return combine x (← second) : Inlining α).run active =
      (do let x ← a; return combine x (← b), active) := by
  rw [run_combine, hfirst]
  cases a with
  | error e => rfl
  | ok x =>
      dsimp only
      rw [hsecond]
      cases b <;> rfl

end run

theorem run_flatten {expand : String → Inlining SelectionSet}
    {body : String → Except Error SelectionSet} {active : List String}
    (h : ∀ name, (expand name).run active = (body name, active)) (set : SelectionSet) :
    (flatten expand set).run active = (splice body set, active) := by
  induction set with
  | nil => rfl
  | field f inner rest ihinner ihrest => exact run_both (.field f) ihinner ihrest
  | spread s rest ih => exact run_both (· ++ ·) (h s.name) ih
  | inline i inner rest ihinner ihrest => exact run_both (· ++ ·) ihinner ihrest

theorem run_whileExpanding {α : Type} {name : String} {step : Inlining α} {active : List String}
    {outcome : Except Error α} (h : step.run (name :: active) = (outcome, name :: active)) :
    (whileExpanding name step).run active = (outcome, active) := by
  have hrun : (whileExpanding name step).run active =
      ((step.run (name :: active)).1, (step.run (name :: active)).2.tail) := rfl
  rw [hrun, h]
  rfl

/-- `expand` gives the names being expanded back as it found them. -/
theorem run_expand (table : FragmentTable) (depth : Nat) (active : List String) (name : String) :
    (expand table depth name).run active = (fragmentBody table depth active name, active) := by
  induction depth generalizing active name with
  | zero => rfl
  | succ depth ih =>
      unfold expand fragmentBody
      cases hget : table.get? name with
      | none => rfl
      | some f =>
          have hstate : (get : Inlining (List String)).run active = (.ok active, active) := rfl
          rw [run_bind, hstate]
          by_cases hactive : active.contains name
          · simp only [if_pos hactive]
            rfl
          · simp only [if_neg hactive]
            exact run_whileExpanding (run_flatten (fun n => ih (name :: active) n) f.selections)
/-! ### Splicing -/

section splice

variable {table : FragmentTable} {body body' : String → Except Error SelectionSet}
variable {set r : SelectionSet}

theorem expansion_of_splice
    (hbody : ∀ n fields, body n = .ok fields →
      ∃ f, table.get? n = some f ∧ table.Expansion f.selections fields)
    (h : splice body set = .ok r) : table.Expansion set r := by
  induction set generalizing r with
  | nil =>
      cases h
      exact .nil
  | field f inner rest ihinner ihrest =>
      obtain ⟨inner', rest', hinner, hrest, rfl⟩ := combine_eq_ok.mp h
      exact .field (ihinner hinner) (ihrest hrest)
  | spread s rest ih =>
      obtain ⟨fields, rest', hfields, hrest, rfl⟩ := combine_eq_ok.mp h
      obtain ⟨f, hget, hexpansion⟩ := hbody s.name fields hfields
      exact .spread hget hexpansion (ih hrest)
  | inline i inner rest ihinner ihrest =>
      obtain ⟨fields, rest', hfields, hrest, rfl⟩ := combine_eq_ok.mp h
      exact .inline (ihinner hfields) (ihrest hrest)

theorem exists_splice (hbody : ∀ n ∈ set.spreads, ∃ fields, body n = .ok fields) :
    ∃ r, splice body set = .ok r := by
  induction set with
  | nil => exact ⟨.nil, rfl⟩
  | field f inner rest ihinner ihrest =>
      obtain ⟨inner', hinner⟩ := ihinner fun n hn => hbody n (List.mem_append_left _ hn)
      obtain ⟨rest', hrest⟩ := ihrest fun n hn => hbody n (List.mem_append_right _ hn)
      exact ⟨_, combine_eq_ok.mpr ⟨_, _, hinner, hrest, rfl⟩⟩
  | spread s rest ih =>
      obtain ⟨fields, hfields⟩ := hbody s.name List.mem_cons_self
      obtain ⟨rest', hrest⟩ := ih fun n hn => hbody n (List.mem_cons_of_mem _ hn)
      exact ⟨_, combine_eq_ok.mpr ⟨_, _, hfields, hrest, rfl⟩⟩
  | inline i inner rest ihinner ihrest =>
      obtain ⟨fields, hfields⟩ := ihinner fun n hn => hbody n (List.mem_append_left _ hn)
      obtain ⟨rest', hrest⟩ := ihrest fun n hn => hbody n (List.mem_append_right _ hn)
      exact ⟨_, combine_eq_ok.mpr ⟨_, _, hfields, hrest, rfl⟩⟩

/-- Only the bodies of the spread fragments count. -/
theorem splice_congr (hbody : ∀ n ∈ set.spreads, body n = body' n) :
    splice body set = splice body' set := by
  induction set with
  | nil => rfl
  | field f inner rest ihinner ihrest =>
      unfold splice
      rw [ihinner fun n hn => hbody n (List.mem_append_left _ hn),
        ihrest fun n hn => hbody n (List.mem_append_right _ hn)]
  | spread s rest ih =>
      unfold splice
      rw [hbody s.name List.mem_cons_self, ih fun n hn => hbody n (List.mem_cons_of_mem _ hn)]
  | inline i inner rest ihinner ihrest =>
      unfold splice
      rw [ihinner fun n hn => hbody n (List.mem_append_left _ hn),
        ihrest fun n hn => hbody n (List.mem_append_right _ hn)]

theorem error_of_splice {e : Error} (h : splice body set = .error e) :
    ∃ n ∈ set.spreads, body n = .error e := by
  induction set with
  | nil => cases h
  | field f inner rest ihinner ihrest =>
      rcases combine_eq_error h with h | h
      · obtain ⟨n, hn, hbody⟩ := ihinner h
        exact ⟨n, List.mem_append_left _ hn, hbody⟩
      · obtain ⟨n, hn, hbody⟩ := ihrest h
        exact ⟨n, List.mem_append_right _ hn, hbody⟩
  | spread s rest ih =>
      rcases combine_eq_error h with h | h
      · exact ⟨s.name, List.mem_cons_self, h⟩
      · obtain ⟨n, hn, hbody⟩ := ih h
        exact ⟨n, List.mem_cons_of_mem _ hn, hbody⟩
  | inline i inner rest ihinner ihrest =>
      rcases combine_eq_error h with h | h
      · obtain ⟨n, hn, hbody⟩ := ihinner h
        exact ⟨n, List.mem_append_left _ hn, hbody⟩
      · obtain ⟨n, hn, hbody⟩ := ihrest h
        exact ⟨n, List.mem_append_right _ hn, hbody⟩

theorem splice_of_isFlat (h : set.isFlat = true) : splice body set = .ok set := by
  induction set with
  | nil => rfl
  | field f inner rest ihinner ihrest =>
      unfold SelectionSet.isFlat at h
      rw [Bool.and_eq_true] at h
      exact combine_eq_ok.mpr ⟨_, _, ihinner h.1, ihrest h.2, rfl⟩
  | spread s rest _ => cases h
  | inline i inner rest _ _ => cases h

end splice

/-! ### Expanding fragments -/

section expand

variable {table : FragmentTable}

/-- What `fragmentBody` finds is the expansion of the fragment's selections. -/
theorem expansion_of_fragmentBody {depth : Nat} {active : List String} {name : String}
    {fields : SelectionSet} (h : fragmentBody table depth active name = .ok fields) :
    ∃ f, table.get? name = some f ∧ table.Expansion f.selections fields := by
  induction depth generalizing active name fields with
  | zero => cases h
  | succ depth ih =>
      unfold fragmentBody at h
      cases hget : table.get? name with
      | none =>
          rw [hget] at h
          cases h
      | some f =>
          rw [hget] at h
          by_cases hactive : active.contains name
          · simp only [if_pos hactive] at h
            cases h
          · simp only [if_neg hactive] at h
            exact ⟨f, rfl, expansion_of_splice (fun n fields hn => ih hn) h⟩

/-- The fragments being expanded: they differ, are all in the table, and leave no more `depth` than
is needed. -/
structure Bounded (table : FragmentTable) (depth : Nat) (active : List String) : Prop where
  distinct : active.Nodup
  keys : ∀ a ∈ active, a ∈ table.keys
  count : table.size + 1 ≤ depth + active.length

theorem Bounded.start (table : FragmentTable) (extra : Nat) :
    Bounded table (table.size + 1 + extra) [] :=
  ⟨List.nodup_nil, by simp, by simp⟩

theorem Bounded.pos {depth : Nat} {active : List String} (h : Bounded table depth active) :
    0 < depth := by
  have := Table.length_le_size h.distinct h.keys
  have := h.count
  omega

theorem Bounded.push {depth : Nat} {active : List String} {name : String} {f : Fragment}
    (h : Bounded table (depth + 1) active) (hget : table.get? name = some f)
    (hnew : name ∉ active) : Bounded table depth (name :: active) := by
  refine ⟨List.nodup_cons.mpr ⟨hnew, h.distinct⟩, ?_, ?_⟩
  · intro a ha
    rcases List.mem_cons.mp ha with rfl | ha
    · exact Table.mem_keys_of_get? hget
    · exact h.keys a ha
  · have := h.count
    rw [List.length_cons]
    omega

/-- A bounded expansion never meets the bound on its depth: one level more changes nothing. -/
theorem fragmentBody_succ {depth : Nat} {active : List String} (h : Bounded table depth active)
    (name : String) :
    fragmentBody table (depth + 1) active name = fragmentBody table depth active name := by
  induction depth generalizing active name with
  | zero => exact absurd h.pos (Nat.lt_irrefl 0)
  | succ depth ih =>
      rw [fragmentBody, fragmentBody]
      cases hget : table.get? name with
      | none => rfl
      | some f =>
          by_cases hactive : active.contains name
          · simp only [if_pos hactive]
          · simp only [if_neg hactive]
            have hnew : name ∉ active := fun hmem => hactive (List.contains_iff_mem.mpr hmem)
            exact splice_congr fun n _ => ih (h.push hget hnew) n

theorem exists_fragmentBody {name : String} (hresolves : table.Resolves name) {depth : Nat}
    {active : List String} (h : Bounded table depth active)
    (hactive : ∀ a ∈ active, Relation.TransGen table.Spreads a name) :
    ∃ fields, fragmentBody table depth active name = .ok fields := by
  induction hresolves generalizing depth active with
  | @intro name f hget hbody ih =>
      obtain ⟨depth, rfl⟩ := Nat.exists_eq_add_one.mpr h.pos
      have hnew : name ∉ active := fun hmem =>
        (FragmentTable.Resolves.intro hget hbody).acyclic (hactive name hmem)
      have hcontains : ¬ active.contains name = true := fun hmem =>
        hnew (List.contains_iff_mem.mp hmem)
      unfold fragmentBody
      rw [hget]
      simp only [if_neg hcontains]
      refine exists_splice fun n hn => ?_
      have hstep : table.Spreads name n := ⟨f, hget, hn⟩
      exact ih n hn (h.push hget hnew) (FragmentTable.spreads_after hactive hstep)

/-- What stands in the way of the body of `name`: it leads to one that is no fragment's, or to one
that leads back to itself. -/
inductive Blocks (table : FragmentTable) (name : String) : Error → Prop where
  | undefined {n : String} (hnone : table.get? n = none)
      (hlead : Relation.ReflTransGen table.Spreads name n) :
      Blocks table name (.unresolvedFragment n)
  | cyclic {n : String} {way : List String} (hcycle : Relation.TransGen table.Spreads n n)
      (hlead : Relation.ReflTransGen table.Spreads name n) :
      Blocks table name (.cyclicFragment way)

theorem Blocks.head {name next : String} {e : Error} (h : Blocks table next e)
    (hstep : table.Spreads name next) : Blocks table name e := by
  cases h with
  | undefined hnone hlead => exact .undefined hnone (.head hstep hlead)
  | cyclic hcycle hlead => exact .cyclic hcycle (.head hstep hlead)

theorem blocks_of_fragmentBody {depth : Nat} {active : List String} {name : String} {e : Error}
    (h : Bounded table depth active)
    (hactive : ∀ a ∈ active, Relation.TransGen table.Spreads a name)
    (herror : fragmentBody table depth active name = .error e) : Blocks table name e := by
  induction depth generalizing active name with
  | zero => exact absurd h.pos (Nat.lt_irrefl 0)
  | succ depth ih =>
      unfold fragmentBody at herror
      cases hget : table.get? name with
      | none =>
          rw [hget] at herror
          cases herror
          exact .undefined hget .refl
      | some f =>
          rw [hget] at herror
          by_cases hmem : name ∈ active
          · simp only [if_pos (List.contains_iff_mem.mpr hmem)] at herror
            cases herror
            exact .cyclic (hactive name hmem) .refl
          · have hcontains : ¬ active.contains name = true := fun hcontains =>
              hmem (List.contains_iff_mem.mp hcontains)
            simp only [if_neg hcontains] at herror
            obtain ⟨n, hn, hbody⟩ := error_of_splice herror
            have hstep : table.Spreads name n := ⟨f, hget, hn⟩
            exact (ih (h.push hget hmem) (FragmentTable.spreads_after hactive hstep) hbody).head hstep

end expand

end Inlining

/-! ### Selection sets -/

namespace SelectionSet

open Inlining

/-- What `inlined` computes, with the names being expanded as an argument. -/
theorem inlined_eq_splice (table : FragmentTable) (set : SelectionSet) :
    set.inlined table = splice (fragmentBody table (table.size + 1) []) set :=
  congrArg Prod.fst (run_flatten (run_expand table (table.size + 1) []) set)

theorem inline_fresh (table : FragmentTable) (set : SelectionSet) :
    (Inliner.fresh table).inline set = (set.inlined table, Inliner.fresh table) := by
  have hrun : (Inlining.inline table set).run [] =
      (splice (fragmentBody table (table.size + 1) []) set, []) :=
    run_flatten (run_expand table (table.size + 1) []) set
  rw [inlined_eq_splice]
  unfold Inliner.inline Inliner.fresh
  rw [hrun]

/-- What `inlined` gives is the `Expansion` of the set. -/
theorem expansion_of_inlined {table : FragmentTable} {set r : SelectionSet}
    (h : set.inlined table = .ok r) : table.Expansion set r := by
  rw [inlined_eq_splice] at h
  exact expansion_of_splice (fun _ _ => expansion_of_fragmentBody) h

/-- There is a result if the spreads of the set resolve. -/
theorem exists_inlined {table : FragmentTable} {set : SelectionSet}
    (h : ∀ n ∈ set.spreads, table.Resolves n) : ∃ r, set.inlined table = .ok r := by
  rw [inlined_eq_splice]
  exact exists_splice fun n hn => exists_fragmentBody (h n hn) (.start table 0) (by simp)

/-- Without a result, one of the spreads of the set has something in its way. -/
theorem blocks_of_inlined {table : FragmentTable} {set : SelectionSet} {e : Error}
    (h : set.inlined table = .error e) : ∃ n ∈ set.spreads, Blocks table n e := by
  rw [inlined_eq_splice] at h
  obtain ⟨n, hn, hbody⟩ := error_of_splice h
  exact ⟨n, hn, blocks_of_fragmentBody (.start table 0) (List.forall_mem_nil _) hbody⟩

theorem inlined_of_depth (table : FragmentTable) (set : SelectionSet) (extra : Nat) :
    ((flatten (expand table (table.size + 1 + extra)) set).run []).1 = set.inlined table := by
  rw [run_flatten (run_expand table (table.size + 1 + extra) []) set, inlined_eq_splice]
  refine splice_congr fun n _ => ?_
  induction extra with
  | zero => rfl
  | succ extra ih => exact (fragmentBody_succ (.start table extra) n).trans ih

/-- **Inlining.**  For every table, also one with cycles: the depth bound of `expand` is never met;
`inlined` has a result exactly if everything `Reachable` from the set is a fragment and none of it
reaches itself; the result is the one `Expansion` of the set, holds no fragment, and stays as it is
when it is inlined again. -/
theorem inlined_ok_iff_reachable_resolves (table : FragmentTable) (set : SelectionSet) :
    (∀ extra, ((flatten (expand table (table.size + 1 + extra)) set).run []).1 =
      set.inlined table) ∧
    ((∃ r, set.inlined table = .ok r) ↔
      ∀ n, table.Reachable set n →
        table.contains n = true ∧ ¬ Relation.TransGen table.Spreads n n) ∧
    ∀ r, set.inlined table = .ok r →
      (∀ e, table.Expansion set e ↔ e = r) ∧ r.isFlat = true ∧
        ∀ other : FragmentTable, r.inlined other = .ok r := by
  refine ⟨inlined_of_depth table set, ?_, ?_⟩
  · rw [← FragmentTable.resolves_reachable_iff]
    constructor
    · rintro ⟨r, h⟩
      exact (expansion_of_inlined h).resolves
    · exact exists_inlined
  · intro r h
    have hexpansion := expansion_of_inlined h
    refine ⟨fun e => ⟨fun he => he.unique hexpansion, fun he => he ▸ hexpansion⟩,
      hexpansion.flat, fun other => ?_⟩
    rw [inlined_eq_splice]
    exact splice_of_isFlat hexpansion.flat

/-- `F` is plain, and `G` spreads itself. -/
def named : FragmentTable :=
  Table.ofList [("F", ⟨"F", "T", [], .field ⟨none, "name", [], []⟩ .nil .nil⟩),
    ("G", ⟨"G", "T", [], .spread ⟨"G", []⟩ .nil⟩)]

theorem inlined_named :
    inlined named (.spread ⟨"F", []⟩ .nil) = .ok (.field ⟨none, "name", [], []⟩ .nil .nil) ∧
      (∀ e, named.Expansion (.spread ⟨"F", []⟩ .nil) e ↔
        e = .field ⟨none, "name", [], []⟩ .nil .nil) ∧
      ¬ ∃ r, inlined named (.spread ⟨"G", []⟩ .nil) = .ok r := by
  have hread : inlined named (.spread ⟨"F", []⟩ .nil) =
      .ok (.field ⟨none, "name", [], []⟩ .nil .nil) := by rfl
  refine ⟨hread, ((inlined_ok_iff_reachable_resolves named _).2.2 _ hread).1, ?_⟩
  rw [(inlined_ok_iff_reachable_resolves named _).2.1]
  intro hresolves
  have hspreads : named.Spreads "G" "G" := ⟨_, rfl, List.mem_cons_self⟩
  exact (hresolves "G" ⟨"G", List.mem_cons_self, .refl⟩).2 (.single hspreads)

end SelectionSet

end QueryBindings

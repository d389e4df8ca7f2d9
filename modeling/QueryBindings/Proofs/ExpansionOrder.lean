import QueryBindings.Proofs.DepthFirst
import QueryBindings.Proofs.Rendering

/-! # The order of expansions

An inliner expands a fragment at each of its spreads, so it meets again what it met before; the
listing of the fragments in use goes into each of them once.  If nothing is cyclic both come to the
same names in the same order: the listing is what the inliner expands, each fragment where it is
expanded first, and both stop at the same name that is no fragment's.

`Unrolled` are the names that are met when every spread is followed each time.  They are what an
inliner notes that takes notes of its expansions (`notes_noted`), and without repetitions they are
the names in depth first order (`DepthFirst.eraseDups_eq`).

Main statement: `usedBy_agrees_with_inlining`. -/

namespace QueryBindings

namespace FragmentTable

variable {table : FragmentTable}

/-! ### Unrolled spreads -/

/-- The names met from `names` when every spread is followed each time that it is met. -/
inductive Unrolled (table : FragmentTable) : (names all : List String) → Prop where
  | nil : Unrolled table [] []
  | cons {name : String} {rest inside after : List String}
      (hinside : Unrolled table (table.spreadsOf name) inside)
      (hrest : Unrolled table rest after) :
      Unrolled table (name :: rest) (name :: (inside ++ after))

namespace Unrolled

variable {names others all : List String}

theorem of_append (h : table.Unrolled (names ++ others) all) :
    ∃ front behind, all = front ++ behind ∧ table.Unrolled names front ∧
      table.Unrolled others behind := by
  induction names generalizing all with
  | nil => exact ⟨[], all, rfl, .nil, h⟩
  | cons name rest ih =>
      cases h with
      | cons hinside hrest =>
          obtain ⟨front, behind, rfl, hfront, hbehind⟩ := ih hrest
          exact ⟨_, behind, by rw [List.cons_append, List.append_assoc], .cons hinside hfront,
            hbehind⟩

theorem exists_lead (h : table.Unrolled names all) :
    ∀ n ∈ all, ∃ m ∈ names, Relation.ReflTransGen table.Spreads m n := by
  induction h with
  | nil => exact nofun
  | @cons name _ _ _ _ _ ihinside ihrest =>
      rw [List.forall_mem_cons, List.forall_mem_append]
      refine ⟨⟨name, List.mem_cons_self, .refl⟩, fun n hn => ?_, fun n hn => ?_⟩
      · obtain ⟨m, hm, hlead⟩ := ihinside n hn
        exact ⟨name, List.mem_cons_self, .head (mem_spreadsOf.mp hm) hlead⟩
      · obtain ⟨m, hm, hlead⟩ := ihrest n hn
        exact ⟨m, List.mem_cons_of_mem _ hm, hlead⟩

end Unrolled

theorem exists_unrolled_of_forall {names : List String}
    (h : ∀ n ∈ names, ∃ inside, table.Unrolled (table.spreadsOf n) inside) :
    ∃ all, table.Unrolled names all := by
  induction names with
  | nil => exact ⟨[], .nil⟩
  | cons name rest ih =>
      rw [List.forall_mem_cons] at h
      obtain ⟨inside, hinside⟩ := h.1
      obtain ⟨after, hafter⟩ := ih h.2
      exact ⟨_, .cons hinside hafter⟩

/-- There is an `Unrolled` order if every way along the spreads ends. -/
theorem exists_unrolled {names : List String} (h : ∀ n ∈ names, table.Ends n) :
    ∃ all, table.Unrolled names all := by
  refine exists_unrolled_of_forall fun n hn => ?_
  have hends := h n hn
  clear h hn
  induction hends with
  | intro n _ ih =>
      exact exists_unrolled_of_forall fun next hnext => ih next (mem_spreadsOf.mp hnext)

/-! ### Repetitions -/

section repetitions

variable {α : Type} [DecidableEq α]

theorem eraseDups_filter_cons {a : α} {seen inner inside : List α} (hnew : a ∉ seen)
    (hinside : (inner.filter fun n => n ∉ a :: seen).eraseDups = inside) (outer : List α) :
    ((a :: (inner ++ outer)).filter fun n => n ∉ seen).eraseDups =
      a :: (inside ++ (outer.filter fun n => n ∉ inside ++ a :: seen).eraseDups) := by
  have hinner : (inner.filter fun n => n ∉ seen).filter (fun n => !n == a) =
      inner.filter fun n => n ∉ a :: seen := by
    rw [List.filter_filter]
    refine List.filter_congr fun n _ => ?_
    rw [Bool.eq_iff_iff]
    simp
  have houter : ((outer.filter fun n => n ∉ seen).filter fun n => !n == a).removeAll
      (inner.filter fun n => n ∉ a :: seen) = outer.filter fun n => n ∉ inside ++ a :: seen := by
    unfold List.removeAll
    rw [List.filter_filter, List.filter_filter]
    refine List.filter_congr fun n _ => ?_
    have hmem : n ∈ inside ↔ n ∈ inner.filter fun n => n ∉ a :: seen := by
      rw [← hinside, List.mem_eraseDups]
    rw [Bool.eq_iff_iff]
    simp only [List.mem_append, hmem, List.mem_cons, Bool.and_eq_true, Bool.not_eq_true',
      decide_eq_true_eq, beq_eq_false_iff_ne, List.elem_eq_mem, decide_eq_false_iff_not]
    tauto
  rw [List.filter_cons_of_pos (by simpa using hnew), List.eraseDups_cons, List.filter_append,
    List.filter_append, List.eraseDups_append, hinner, houter, hinside]

theorem find?_eraseDups (p : α → Bool) (l : List α) : l.eraseDups.find? p = l.find? p := by
  induction hlength : l.length using Nat.strongRecOn generalizing l with
  | _ length ih =>
      cases l with
      | nil => rfl
      | cons a rest =>
          have hshort : (rest.filter fun n => !n == a).length < length := by
            rw [← hlength, List.length_cons]
            exact Nat.lt_succ_of_le (List.length_filter_le _ _)
          rw [List.eraseDups_cons, List.find?_cons, List.find?_cons, ih _ hshort _ rfl,
            List.find?_filter]
          cases ha : p a with
          | true => rfl
          | false =>
              refine congrArg (List.find? · rest) (funext fun n => ?_)
              by_cases hn : n = a <;> simp [hn, ha]

end repetitions

/-! ### Unrolled and depth first -/

/-- A search that meets a name which it knows does not look for what lies behind it; so all that
lies behind what is in `seen` has to be known. -/
def Settled (table : FragmentTable) (seen names : List String) : Prop :=
  ∀ a ∈ seen, ∀ n ∈ names, Relation.ReflTransGen table.Spreads n a →
    ∀ m, Relation.ReflTransGen table.Spreads a m → m ∈ seen

theorem Settled.tail {seen rest : List String} {name : String}
    (h : table.Settled seen (name :: rest)) : table.Settled seen rest :=
  fun a ha n hn => h a ha n (List.mem_cons_of_mem name hn)

/-- Inside a fragment that does not lead back to itself its name is never looked for. -/
theorem Settled.inside {seen rest : List String} {name : String}
    (h : table.Settled seen (name :: rest)) (hends : table.Ends name) :
    table.Settled (name :: seen) (table.spreadsOf name) := by
  intro a ha n hn hlead m hm
  have hstep := mem_spreadsOf.mp hn
  rcases List.mem_cons.mp ha with rfl | ha
  · exact absurd (Relation.TransGen.head' hstep hlead) hends.acyclic
  · have hmem := h a ha name List.mem_cons_self (.head hstep hlead) m hm
    exact List.mem_cons_of_mem name hmem

/-- After a fragment all that lies behind it is known. -/
theorem Settled.after {seen rest inside : List String} {name : String}
    (h : table.Settled seen (name :: rest)) (hends : table.Ends name)
    (hinside : table.DepthFirst (name :: seen) (table.spreadsOf name) inside) :
    table.Settled (inside ++ name :: seen) rest := by
  have hbehind : ∀ m, Relation.ReflTransGen table.Spreads name m → m ∈ inside ++ name :: seen := by
    intro m hm
    rcases Relation.ReflTransGen.cases_head hm with rfl | ⟨next, hstep, hlead⟩
    · exact List.mem_append_right _ List.mem_cons_self
    · have hnext := mem_spreadsOf.mpr hstep
      refine hinside.mem_of_lead (fun a ha hna ham => ?_) (hinside.covered next hnext) hlead
      exact List.mem_append_right _ (h.inside hends a ha next hnext hna m ham)
  intro a ha n hn hlead m hm
  rcases List.mem_append.mp ha with ha | ha
  · obtain ⟨next, hnext, hna⟩ := hinside.exists_lead a ha
    exact hbehind m (.head (mem_spreadsOf.mp hnext) (hna.trans hm))
  · rcases List.mem_cons.mp ha with rfl | ha
    · exact hbehind m hm
    · have hmem := h a ha n (List.mem_cons_of_mem name hn) hlead m hm
      exact List.mem_append_right _ (List.mem_cons_of_mem name hmem)

theorem DepthFirst.eraseDups_filter {seen names order all : List String}
    (h : table.DepthFirst seen names order) (hall : table.Unrolled names all)
    (hends : ∀ n ∈ names, table.Ends n) (hsettled : table.Settled seen names) :
    (all.filter fun n => n ∉ seen).eraseDups = order := by
  induction h generalizing all with
  | nil =>
      cases hall
      rfl
  | @again seen rest order name hseen _ ih =>
      -- All behind a name that was seen was seen too.
      have hsplit : table.Unrolled ([name] ++ rest) all := hall
      obtain ⟨front, behind, rfl, hfront, hbehind⟩ := hsplit.of_append
      have hnone : front.filter (fun n => n ∉ seen) = [] := by
        refine List.filter_eq_nil_iff.mpr fun n hn => ?_
        obtain ⟨m, hm, hlead⟩ := hfront.exists_lead n hn
        rw [List.mem_singleton.mp hm] at hlead
        simpa using hsettled name hseen name List.mem_cons_self .refl n hlead
      rw [List.filter_append, hnone, List.nil_append]
      exact ih hbehind (fun n hn => hends n (List.mem_cons_of_mem name hn)) hsettled.tail
  | @first seen rest inside after name hnew hinside hrest ihinside ihrest =>
      cases hall with
      | @cons _ _ inner outer hinner houter =>
          have hname := hends name List.mem_cons_self
          have hfront := ihinside hinner (fun n hn => hname.inv (mem_spreadsOf.mp hn))
            (hsettled.inside hname)
          have hbehind := ihrest houter (fun n hn => hends n (List.mem_cons_of_mem name hn))
            (hsettled.after hname hinside)
          rw [eraseDups_filter_cons hnew hfront outer, hbehind]

/-- Without repetitions the `Unrolled` names are those in depth first order, if no way goes on for
ever. -/
theorem DepthFirst.eraseDups_eq {names order all : List String}
    (h : table.DepthFirst [] names order) (hall : table.Unrolled names all)
    (hends : ∀ n ∈ names, table.Ends n) : all.eraseDups = order := by
  have hfilter := h.eraseDups_filter hall hends (List.forall_mem_nil _)
  rwa [List.filter_eq_self.mpr fun n _ => by simp] at hfilter

end FragmentTable

/-! ### An inliner that takes notes -/

namespace Inlining

/-- The fields that a fragment selects, where it is spread inside the fragments `active`, innermost
first.  The state holds the names of the fragments that were expanded so far, each as often as it
was. -/
def noting (table : FragmentTable) :
    (depth : Nat) → (active : List String) → (name : String) → Inlining SelectionSet
  | 0, _, name => throw (.unresolvedFragment name)
  | depth + 1, active, name => do
    match table.get? name with
    | none => throw (.unresolvedFragment name)
    | some f =>
      if active.contains name then throw (.cyclicFragment (name :: active).reverse)
      else
        modify (· ++ [name])
        flatten (noting table depth (name :: active)) f.selections

/-- The outcome of inlining a set, and the fragments that were expanded for it, in order. -/
def noted (table : FragmentTable) (set : SelectionSet) :
    Except Error SelectionSet × List String :=
  (flatten (noting table (table.size + 1) []) set).run []

variable {table : FragmentTable}

theorem run_modify_bind {α : Type} (change : List String → List String) (next : Inlining α)
    (before : List String) :
    (do modify change; next : Inlining α).run before = next.run (change before) := rfl

/-! ### Notes do not matter -/

theorem fst_run_both {first second : Inlining SelectionSet}
    {a b : Except Error SelectionSet} (combine : SelectionSet → SelectionSet → SelectionSet)
    (hfirst : ∀ before, (first.run before).1 = a) (hsecond : ∀ before, (second.run before).1 = b)
    (before : List String) :
    ((do let x ← first; return combine x (← second) : Inlining SelectionSet).run before).1 =
      (do let x ← a; return combine x (← b)) := by
  have ha := hfirst before
  rw [run_combine]
  cases hrun : first.run before with
  | mk outcome mid =>
      rw [hrun] at ha
      subst ha
      cases outcome with
      | error e => rfl
      | ok x =>
          have hb := hsecond mid
          dsimp only
          cases hrun' : second.run mid with
          | mk outcome' after =>
              rw [hrun'] at hb
              subst hb
              cases outcome' <;> rfl

theorem fst_run_flatten {expand : String → Inlining SelectionSet}
    {body : String → Except Error SelectionSet}
    (h : ∀ name before, ((expand name).run before).1 = body name) (set : SelectionSet) :
    ∀ before, ((flatten expand set).run before).1 = splice body set := by
  induction set with
  | nil => exact fun _ => rfl
  | field f inner rest ihinner ihrest => exact fst_run_both (.field f) ihinner ihrest
  | spread s rest ih => exact fst_run_both (· ++ ·) (h s.name) ih
  | inline i inner rest ihinner ihrest => exact fst_run_both (· ++ ·) ihinner ihrest

theorem fst_run_noting (table : FragmentTable) (depth : Nat) (active : List String) (name : String)
    (before : List String) :
    ((noting table depth active name).run before).1 = fragmentBody table depth active name := by
  induction depth generalizing active name before with
  | zero => rfl
  | succ depth ih =>
      unfold noting fragmentBody
      cases hget : table.get? name with
      | none => rfl
      | some f =>
          by_cases hactive : active.contains name
          · simp only [if_pos hactive]
            rfl
          · simp only [if_neg hactive]
            rw [run_modify_bind]
            exact fst_run_flatten (ih (name :: active)) f.selections _

/-- The notes do not change the outcome. -/
theorem fst_noted (table : FragmentTable) (set : SelectionSet) :
    (noted table set).1 = set.inlined table := by
  rw [SelectionSet.inlined_eq_splice]
  exact fst_run_flatten (fst_run_noting table (table.size + 1) []) set []

/-! ### What is noted -/

/-- A step that meets the names in `all`, one after another, notes them all if they are those of
fragments, and else it stops at the first that is none's. -/
structure Notes (table : FragmentTable) (before all : List String)
    (outcome : Except Error SelectionSet × List String) : Prop where
  ok : ∀ set, outcome.1 = .ok set →
    (∀ n ∈ all, table.contains n = true) ∧ outcome.2 = before ++ all
  error : ∀ e, outcome.1 = .error e →
    ∃ n, all.find? (fun n => !table.contains n) = some n ∧ e = .unresolvedFragment n

theorem Notes.unresolved {name : String} (h : table.get? name = none)
    (before inside : List String) :
    Notes table before (name :: inside) (.error (.unresolvedFragment name), before) := by
  refine ⟨nofun, fun e he => ?_⟩
  cases he
  refine ⟨name, List.find?_cons_of_pos ?_, rfl⟩
  unfold Table.contains
  rw [h]
  rfl

theorem Notes.cons {name : String} {before inside : List String}
    {outcome : Except Error SelectionSet × List String} (hname : table.contains name = true)
    (h : Notes table (before ++ [name]) inside outcome) :
    Notes table before (name :: inside) outcome := by
  refine ⟨fun set hset => ?_, fun e he => ?_⟩
  · obtain ⟨hinside, hnoted⟩ := h.ok set hset
    refine ⟨List.forall_mem_cons.mpr ⟨hname, hinside⟩, ?_⟩
    rw [hnoted, List.append_assoc, List.singleton_append]
  · obtain ⟨n, hfirst, he⟩ := h.error e he
    refine ⟨n, ?_, he⟩
    rwa [List.find?_cons_of_neg (by simp [hname])]

theorem notes_both {first second : Inlining SelectionSet} {names others : List String}
    (combine : SelectionSet → SelectionSet → SelectionSet)
    (hfirst : ∀ before, Notes table before names (first.run before))
    (hsecond : ∀ before, Notes table before others (second.run before)) (before : List String) :
    Notes table before (names ++ others)
      ((do let x ← first; return combine x (← second) : Inlining SelectionSet).run before) := by
  have ha := hfirst before
  rw [run_combine]
  cases hrun : first.run before with
  | mk outcome mid =>
      rw [hrun] at ha
      cases outcome with
      | error e =>
          obtain ⟨n, hfind, he⟩ := ha.error e rfl
          refine ⟨nofun, fun e' he' => ?_⟩
          cases he'
          exact ⟨n, by rw [List.find?_append, hfind, Option.some_or], he⟩
      | ok x =>
          obtain ⟨hnames, hmid⟩ := ha.ok x rfl
          have hnone : names.find? (fun n => !table.contains n) = none := by
            simpa using hnames
          have hb := hsecond mid
          dsimp only
          cases hrun' : second.run mid with
          | mk outcome' after =>
              rw [hrun'] at hb
              cases outcome' with
              | error e =>
                  obtain ⟨n, hfind, he⟩ := hb.error e rfl
                  refine ⟨nofun, fun e' he' => ?_⟩
                  cases he'
                  exact ⟨n, by rw [List.find?_append, hnone, Option.none_or, hfind], he⟩
              | ok y =>
                  obtain ⟨hothers, hafter⟩ := hb.ok y rfl
                  refine ⟨fun _ _ => ⟨List.forall_mem_append.mpr ⟨hnames, hothers⟩, ?_⟩, nofun⟩
                  show after = _
                  rw [show after = mid ++ others from hafter, show mid = before ++ names from hmid,
                    List.append_assoc]

theorem notes_flatten {expand : String → Inlining SelectionSet} {set : SelectionSet}
    {all : List String} (hall : table.Unrolled set.spreads all)
    (h : ∀ n ∈ set.spreads, ∀ inside, table.Unrolled (table.spreadsOf n) inside →
      ∀ before, Notes table before (n :: inside) ((expand n).run before)) :
    ∀ before, Notes table before all ((flatten expand set).run before) := by
  induction set generalizing all with
  | nil =>
      cases hall
      exact fun before => ⟨fun _ _ => ⟨List.forall_mem_nil _, (List.append_nil _).symm⟩, nofun⟩
  | field f inner rest ihinner ihrest =>
      obtain ⟨front, behind, rfl, hfront, hbehind⟩ := hall.of_append
      exact notes_both (.field f) (ihinner hfront fun n hn => h n (List.mem_append_left _ hn))
        (ihrest hbehind fun n hn => h n (List.mem_append_right _ hn))
  | spread s rest ih =>
      cases hall with
      | @cons _ _ inside after hinside hafter =>
          rw [← List.cons_append]
          exact notes_both (· ++ ·) (h s.name List.mem_cons_self inside hinside)
            (ih hafter fun n hn => h n (List.mem_cons_of_mem _ hn))
  | inline i inner rest ihinner ihrest =>
      obtain ⟨front, behind, rfl, hfront, hbehind⟩ := hall.of_append
      exact notes_both (· ++ ·) (ihinner hfront fun n hn => h n (List.mem_append_left _ hn))
        (ihrest hbehind fun n hn => h n (List.mem_append_right _ hn))

/-- An expansion of a fragment from which every way ends meets its name and what it leads to.  The
names on the way to it come before it, so it is none of them. -/
theorem notes_noting {depth : Nat} {active : List String} {name : String} {inside : List String}
    (hbounded : Bounded table depth active)
    (hactive : ∀ a ∈ active, Relation.TransGen table.Spreads a name) (hends : table.Ends name)
    (hinside : table.Unrolled (table.spreadsOf name) inside) (before : List String) :
    Notes table before (name :: inside) ((noting table depth active name).run before) := by
  induction depth generalizing active name inside before with
  | zero => exact absurd hbounded.pos (Nat.lt_irrefl 0)
  | succ depth ih =>
      have hnew : name ∉ active := fun hmem => hends.acyclic (hactive name hmem)
      have hcontains : ¬ active.contains name = true := fun hmem =>
        hnew (List.contains_iff_mem.mp hmem)
      unfold noting
      cases hget : table.get? name with
      | none => exact .unresolved hget before inside
      | some f =>
          simp only [if_neg hcontains]
          rw [run_modify_bind]
          unfold FragmentTable.spreadsOf at hinside
          rw [hget] at hinside
          refine .cons ((table.contains_iff name).mpr ⟨f, hget⟩) (notes_flatten hinside ?_ _)
          intro next hnext within hwithin later
          have hstep : table.Spreads name next := ⟨f, hget, hnext⟩
          exact ih (hbounded.push hget hnew) (FragmentTable.spreads_after hactive hstep)
            (hends.inv hstep) hwithin later

/-- What is noted for a set is what its spreads unroll to. -/
theorem notes_noted {set : SelectionSet} {all : List String}
    (hall : table.Unrolled set.spreads all) (hends : ∀ n ∈ set.spreads, table.Ends n) :
    Notes table [] all (noted table set) :=
  notes_flatten hall (fun n hn _ hinside =>
    notes_noting (.start table 0) (List.forall_mem_nil _) (hends n hn) hinside) []

end Inlining

/-! ### The fragments in use and the inliner -/

namespace FragmentTable

variable {table : FragmentTable} {set : SelectionSet} {order : List String}

theorem usedIn_eq_error_iff (h : table.DepthFirst [] set.spreads order) {e : Error} :
    table.usedIn set = .error e ↔
      ∃ n, order.find? (fun n => !table.contains n) = some n ∧ e = .unresolvedFragment n := by
  rw [usedIn_eq_mapM h, mapM_fragment_eq_error]

/-- Where every way ends, an inliner that succeeds expands each fragment of the depth first order
for the first time in its turn, and all of them are in the table. -/
theorem eraseDups_noted (h : table.DepthFirst [] set.spreads order)
    (hends : ∀ n ∈ set.spreads, table.Ends n) {flat : SelectionSet}
    (hflat : set.inlined table = .ok flat) :
    (Inlining.noted table set).2.eraseDups = order ∧ ∀ n ∈ order, table.contains n = true := by
  obtain ⟨all, hall⟩ := exists_unrolled hends
  rw [← Inlining.fst_noted] at hflat
  obtain ⟨hcontains, hnoted⟩ := (Inlining.notes_noted hall hends).ok flat hflat
  have horder := h.eraseDups_eq hall hends
  rw [hnoted, List.nil_append]
  exact ⟨horder, fun n hn => hcontains n (List.mem_eraseDups.mp (horder ▸ hn))⟩

/-- Where every way ends, `inlined` stops at the name at which the listing stops. -/
theorem find?_of_inlined (h : table.DepthFirst [] set.spreads order)
    (hends : ∀ n ∈ set.spreads, table.Ends n) {e : Error} (herror : set.inlined table = .error e) :
    ∃ n, order.find? (fun n => !table.contains n) = some n ∧ e = .unresolvedFragment n := by
  obtain ⟨all, hall⟩ := exists_unrolled hends
  rw [← Inlining.fst_noted] at herror
  rw [← h.eraseDups_eq hall hends, find?_eraseDups]
  exact (Inlining.notes_noted hall hends).error e herror

/-- Where every way ends, `inlined` and `usedIn` fail together and with the same error. -/
theorem inlined_eq_error_iff (h : table.DepthFirst [] set.spreads order)
    (hends : ∀ n ∈ set.spreads, table.Ends n) {e : Error} :
    set.inlined table = .error e ↔ table.usedIn set = .error e := by
  rw [usedIn_eq_error_iff h]
  constructor
  · exact find?_of_inlined h hends
  · rintro ⟨n, hfind, rfl⟩
    cases hinlined : set.inlined table with
    | error e =>
        obtain ⟨m, hm, rfl⟩ := find?_of_inlined h hends hinlined
        rw [hfind] at hm
        cases hm
        rfl
    | ok flat =>
        have hn := List.find?_some hfind
        rw [(eraseDups_noted h hends hinlined).2 n (List.mem_of_find?_eq_some hfind)] at hn
        cases hn

end FragmentTable

theorem inlineOperation_eq_error_iff {table : FragmentTable} {o : Operation} {e : Error} :
    ((Inliner.fresh table).inlineOperation o).1 = .error e ↔
      o.selections.inlined table = .error e := by
  rw [inlineOperation_fresh]
  cases o.selections.inlined table with
  | error e' => exact ⟨fun h => by cases h; rfl, fun h => by cases h; rfl⟩
  | ok flat => exact iff_of_false nofun nofun

namespace FragmentTable

/-- **The fragments in use, and those that are expanded.**  For every table, also one with cycles,
there is one `DepthFirst` order of the names to which the spreads of an operation lead, with each of
them once.  `usedBy` lists the fragments in it, and fails exactly if one of the names is none's, the
first of which is in the error.  If nothing among them leads back to itself, inlining fails exactly
as the listing does, and otherwise fragments are expanded for the first time in the order in which
they are listed. -/
theorem usedBy_agrees_with_inlining (table : FragmentTable) (o : Operation) :
    ∃ order : List String,
      (∀ names, table.DepthFirst [] o.selections.spreads names ↔ names = order) ∧
      order.Nodup ∧
      (∀ n, n ∈ order ↔ table.Reachable o.selections n) ∧
      table.usedBy o = order.mapM table.fragment ∧
      (∀ e, table.usedBy o = .error e ↔
        ∃ n, order.find? (fun n => !table.contains n) = some n ∧ e = .unresolvedFragment n) ∧
      (Inlining.noted table o.selections).1 = o.selections.inlined table ∧
      ((∀ n, table.Reachable o.selections n → ¬ Relation.TransGen table.Spreads n n) →
        (∀ e, ((Inliner.fresh table).inlineOperation o).1 = .error e ↔
          table.usedBy o = .error e) ∧
        ∀ flat, ((Inliner.fresh table).inlineOperation o).1 = .ok flat →
          (Inlining.noted table o.selections).2.eraseDups = order) := by
  obtain ⟨order, horder⟩ := exists_depthFirst table [] o.selections.spreads
  refine ⟨order, fun names => ⟨fun h => h.unique horder, fun h => h ▸ horder⟩, horder.nodup,
    fun n => horder.mem_iff, usedIn_eq_mapM horder, fun e => usedIn_eq_error_iff horder,
    Inlining.fst_noted table o.selections, fun hacyclic => ?_⟩
  have hends := ends_of_acyclic hacyclic
  refine ⟨fun e => ?_, fun flat hflat => ?_⟩
  · rw [inlineOperation_eq_error_iff]
    exact inlined_eq_error_iff horder hends
  · cases hinlined : o.selections.inlined table with
    | error e =>
        rw [inlineOperation_eq_error_iff.mpr hinlined] at hflat
        cases hflat
    | ok set => exact (eraseDups_noted horder hends hinlined).1

/-- `A` spreads `B` and `C`, and `L` spreads itself. -/
def diamond : FragmentTable :=
  Table.ofList [("A", ⟨"A", "T", [], .spread ⟨"B", []⟩ (.spread ⟨"C", []⟩ .nil)⟩),
    ("B", ⟨"B", "T", [], .spread ⟨"C", []⟩ .nil⟩),
    ("C", ⟨"C", "T", [], .field ⟨none, "name", [], []⟩ .nil .nil⟩),
    ("L", ⟨"L", "T", [], .spread ⟨"L", []⟩ .nil⟩)]

/-- `B` is spread before `A`. -/
def diamondQuery : Operation :=
  ⟨.query, some "Q", [], [], .spread ⟨"B", []⟩ (.spread ⟨"A", []⟩ .nil)⟩

theorem usedBy_agrees_with_inlining_diamond :
    (∀ n, diamond.Reachable diamondQuery.selections n →
      ¬ Relation.TransGen diamond.Spreads n n) ∧
    (Inlining.noted diamond diamondQuery.selections).2 = ["B", "C", "A", "B", "C", "C"] ∧
    diamond.DepthFirst [] ["B", "A"] ["B", "C", "A"] ∧
    (∃ fs, diamond.usedBy diamondQuery = .ok fs ∧ fs.map Fragment.name = ["B", "C", "A"]) := by
  have hc : diamond.Resolves "C" := .intro rfl (List.forall_mem_nil _)
  have hb : diamond.Resolves "B" := .intro rfl (List.forall_mem_singleton.mpr hc)
  have ha : diamond.Resolves "A" := .intro rfl
    (List.forall_mem_cons.mpr ⟨hb, List.forall_mem_singleton.mpr hc⟩)
  have hspreads : ∀ n ∈ diamondQuery.selections.spreads, diamond.Resolves n :=
    List.forall_mem_cons.mpr ⟨hb, List.forall_mem_singleton.mpr ha⟩
  have hacyclic : ∀ n, diamond.Reachable diamondQuery.selections n →
      ¬ Relation.TransGen diamond.Spreads n n :=
    fun n hn => (resolves_reachable_iff.mp hspreads n hn).2
  have hnoted : (Inlining.noted diamond diamondQuery.selections).2 =
    ["B", "C", "A", "B", "C", "C"] := by rfl
  obtain ⟨order, hunique, -, -, hused, -, -, hagree⟩ :=
    usedBy_agrees_with_inlining diamond diamondQuery
  have horder := (hagree hacyclic).2 _ rfl
  rw [hnoted] at horder
  have horder : order = ["B", "C", "A"] := horder.symm.trans (by decide)
  subst horder
  exact ⟨hacyclic, hnoted, (hunique _).mpr rfl, _, hused, rfl⟩

end FragmentTable

end QueryBindings

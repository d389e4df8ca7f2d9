import QueryBindings.Proofs.FragmentUse

/-! # Depth first order

From some names a reader comes to others by following spreads: into a fragment where it is first
met, and past it where it comes again.  The names in the order in which they are met so are said
here by a relation, without a stack of names that wait (`DepthFirst`).  There is always one such
order, also where fragments lead back to themselves, and it holds exactly what can be reached.

Main statements: `exists_depthFirst` and `DepthFirst.unique` (there is one order),
`DepthFirst.mem_iff` (what it holds) and `usedFrom_eq_mapM` (the fragments in use are listed in
it). -/

namespace QueryBindings

namespace FragmentTable

/-- The names that a fragment spreads, in document order.  What is no fragment spreads none. -/
def spreadsOf (table : FragmentTable) (name : String) : List String :=
  match table.get? name with
  | some f => f.selections.spreads
  | none => []

/-- The names met from `names` in depth first order, where those in `seen` were met before. -/
inductive DepthFirst (table : FragmentTable) :
    (seen names order : List String) → Prop where
  | nil {seen : List String} : DepthFirst table seen [] []
  | again {seen rest order : List String} {name : String} (hseen : name ∈ seen)
      (hrest : DepthFirst table seen rest order) : DepthFirst table seen (name :: rest) order
  | first {seen rest inside after : List String} {name : String} (hnew : name ∉ seen)
      (hinside : DepthFirst table (name :: seen) (table.spreadsOf name) inside)
      (hrest : DepthFirst table (inside ++ name :: seen) rest after) :
      DepthFirst table seen (name :: rest) (name :: (inside ++ after))

/-- The fragment of a name, which has to be there. -/
def fragment (table : FragmentTable) (name : String) : Except Error Fragment :=
  match table.get? name with
  | some f => .ok f
  | none => .error (.unresolvedFragment name)

variable {table : FragmentTable}

theorem mem_spreadsOf {name next : String} :
    next ∈ table.spreadsOf name ↔ table.Spreads name next := by
  unfold spreadsOf Spreads
  cases table.get? name with
  | none => simp
  | some f => simp

/-! ### There is one order -/

def unmet (table : FragmentTable) (seen : List String) : List String :=
  table.keys.filter fun n => n ∉ seen

theorem length_unmet_le {before after : List String} (h : before ⊆ after) :
    (table.unmet after).length ≤ (table.unmet before).length := by
  refine (List.monotone_filter_right _ fun n hn => ?_).length_le
  rw [decide_eq_true_eq] at hn ⊢
  exact fun hmem => hn (h hmem)

theorem length_unmet_cons_lt {seen : List String} {name : String} (hnew : name ∉ seen)
    {f : Fragment} (hget : table.get? name = some f) :
    (table.unmet (name :: seen)).length < (table.unmet seen).length :=
  Table.length_filter_keys_lt hget (decide_eq_true hnew) fun n => by simp

/-- The induction is on the fragments that are still `unmet`, and inside it on the names: a fragment
that is met for the first time leaves fewer, and all else leaves no more. -/
theorem exists_depthFirst_of_le {remaining : Nat} {seen : List String} (names : List String)
    (hcount : (table.unmet seen).length ≤ remaining) :
    ∃ order, table.DepthFirst seen names order := by
  induction remaining using Nat.strongRecOn generalizing seen names with
  | _ remaining ih =>
      induction names generalizing seen with
      | nil => exact ⟨[], .nil⟩
      | cons name rest ihrest =>
          by_cases hseen : name ∈ seen
          · obtain ⟨order, horder⟩ := ihrest hcount
            exact ⟨order, .again hseen horder⟩
          · obtain ⟨inside, hinside⟩ :
                ∃ inside, table.DepthFirst (name :: seen) (table.spreadsOf name) inside := by
              cases hget : table.get? name with
              | none =>
                  unfold spreadsOf
                  rw [hget]
                  exact ⟨[], .nil⟩
              | some f =>
                  have hless := length_unmet_cons_lt hseen hget
                  exact ih _ (Nat.lt_of_lt_of_le hless hcount) _ (Nat.le_refl _)
            have hkept : seen ⊆ inside ++ name :: seen :=
              fun n hn => List.mem_append_right _ (List.mem_cons_of_mem name hn)
            obtain ⟨after, hafter⟩ := ihrest (Nat.le_trans (length_unmet_le hkept) hcount)
            exact ⟨_, .first hseen hinside hafter⟩

/-- There is a depth first order, also in a table where fragments lead back to themselves. -/
theorem exists_depthFirst (table : FragmentTable) (seen names : List String) :
    ∃ order, table.DepthFirst seen names order :=
  exists_depthFirst_of_le names (Nat.le_refl _)

namespace DepthFirst

variable {seen names order : List String}

/-- The depth first order is determined by `seen` and `names`. -/
theorem unique {other : List String} (h : table.DepthFirst seen names order)
    (h' : table.DepthFirst seen names other) : order = other := by
  induction h generalizing other with
  | nil =>
      cases h'
      rfl
  | again hseen _ ih =>
      cases h' with
      | again _ hrest => exact ih hrest
      | first hnew _ _ => exact absurd hseen hnew
  | first hnew _ _ ihinside ihrest =>
      cases h' with
      | again hseen _ => exact absurd hseen hnew
      | first _ hinside hrest =>
          have hsame := ihinside hinside
          subst hsame
          rw [ihrest hrest]

theorem of_mem_iff {other : List String} (h : table.DepthFirst seen names order)
    (hsame : ∀ n, n ∈ seen ↔ n ∈ other) : table.DepthFirst other names order := by
  induction h generalizing other with
  | nil => exact .nil
  | again hseen _ ih => exact .again ((hsame _).mp hseen) (ih hsame)
  | @first seen rest inside after name hnew _ _ ihinside ihrest =>
      have hinside : ∀ n, n ∈ name :: seen ↔ n ∈ name :: other := fun n => by
        rw [List.mem_cons, List.mem_cons, hsame]
      refine .first (fun hmem => hnew ((hsame name).mpr hmem)) (ihinside hinside) (ihrest ?_)
      intro n
      rw [List.mem_append, List.mem_append, hinside]

/-- What is met from `names` comes before what is met from `others` after them. -/
theorem append {others after : List String} (h : table.DepthFirst seen names order)
    (h' : table.DepthFirst (order ++ seen) others after) :
    table.DepthFirst seen (names ++ others) (order ++ after) := by
  induction h with
  | nil => exact h'
  | again hseen _ ih => exact .again hseen (ih h')
  | @first seen rest inside behind name hnew hinside _ _ ihrest =>
      rw [List.cons_append, List.cons_append, List.append_assoc]
      refine .first hnew hinside (ihrest (h'.of_mem_iff fun n => ?_))
      simp only [List.mem_append, List.mem_cons]
      tauto

/-! ### What is met -/

theorem not_mem_seen (h : table.DepthFirst seen names order) : ∀ n ∈ order, n ∉ seen := by
  induction h with
  | nil => exact nofun
  | again _ _ ih => exact ih
  | first hnew _ _ ihinside ihrest =>
      rw [List.forall_mem_cons, List.forall_mem_append]
      refine ⟨hnew, fun n hn hmem => ?_, fun n hn hmem => ?_⟩
      · exact ihinside n hn (List.mem_cons_of_mem _ hmem)
      · exact ihrest n hn (List.mem_append_right _ (List.mem_cons_of_mem _ hmem))

theorem nodup (h : table.DepthFirst seen names order) : order.Nodup := by
  induction h with
  | nil => exact List.nodup_nil
  | again _ _ ih => exact ih
  | first _ hinside hrest ihinside ihrest =>
      rw [List.nodup_cons, List.mem_append, List.nodup_append]
      refine ⟨?_, ihinside, ihrest, ?_⟩
      · rintro (hmem | hmem)
        · exact hinside.not_mem_seen _ hmem List.mem_cons_self
        · exact hrest.not_mem_seen _ hmem (List.mem_append_right _ List.mem_cons_self)
      · rintro n hn m hm rfl
        exact hrest.not_mem_seen n hm (List.mem_append_left _ hn)

theorem covered (h : table.DepthFirst seen names order) : ∀ n ∈ names, n ∈ order ++ seen := by
  induction h with
  | nil => exact nofun
  | again hseen _ ih => exact List.forall_mem_cons.mpr ⟨List.mem_append_right _ hseen, ih⟩
  | first _ _ _ _ ihrest =>
      refine List.forall_mem_cons.mpr ⟨List.mem_cons_self, fun n hn => ?_⟩
      have hmem := ihrest n hn
      simp only [List.mem_append, List.mem_cons] at hmem ⊢
      tauto

/-- With a name all that its fragment spreads is met. -/
theorem closed (h : table.DepthFirst seen names order) :
    ∀ n ∈ order, ∀ m ∈ table.spreadsOf n, m ∈ order ++ seen := by
  induction h with
  | nil => exact nofun
  | again _ _ ih => exact ih
  | first _ hinside _ ihinside ihrest =>
      rw [List.forall_mem_cons, List.forall_mem_append]
      refine ⟨fun m hm => ?_, fun n hn m hm => ?_, fun n hn m hm => ?_⟩
      · have hmem := hinside.covered m hm
        simp only [List.mem_append, List.mem_cons] at hmem ⊢
        tauto
      · have hmem := ihinside n hn m hm
        simp only [List.mem_append, List.mem_cons] at hmem ⊢
        tauto
      · have hmem := ihrest n hn m hm
        simp only [List.mem_append, List.mem_cons] at hmem ⊢
        tauto

/-- Nothing is met but what the names lead to. -/
theorem exists_lead (h : table.DepthFirst seen names order) :
    ∀ n ∈ order, ∃ m ∈ names, Relation.ReflTransGen table.Spreads m n := by
  induction h with
  | nil => exact nofun
  | again _ _ ih =>
      intro n hn
      obtain ⟨m, hm, hlead⟩ := ih n hn
      exact ⟨m, List.mem_cons_of_mem _ hm, hlead⟩
  | @first _ _ _ _ name _ _ _ ihinside ihrest =>
      rw [List.forall_mem_cons, List.forall_mem_append]
      refine ⟨⟨name, List.mem_cons_self, .refl⟩, fun n hn => ?_, fun n hn => ?_⟩
      · obtain ⟨m, hm, hlead⟩ := ihinside n hn
        exact ⟨name, List.mem_cons_self, .head (mem_spreadsOf.mp hm) hlead⟩
      · obtain ⟨m, hm, hlead⟩ := ihrest n hn
        exact ⟨m, List.mem_cons_of_mem _ hm, hlead⟩

/-- What a name leads to is met with it, unless the way there comes through a name that was `seen`
before and whose own way was not followed. -/
theorem mem_of_lead {n m : String} (h : table.DepthFirst seen names order)
    (hseen : ∀ a ∈ seen, Relation.ReflTransGen table.Spreads n a →
      Relation.ReflTransGen table.Spreads a m → m ∈ order ++ seen)
    (hn : n ∈ order ++ seen) (hlead : Relation.ReflTransGen table.Spreads n m) :
    m ∈ order ++ seen := by
  induction hlead using Relation.ReflTransGen.head_induction_on with
  | refl => exact hn
  | @head a b hstep hlead ih =>
      rcases List.mem_append.mp hn with horder | hmem
      · refine ih (fun c hc hbc => hseen c hc (.head hstep hbc)) ?_
        exact h.closed a horder b (mem_spreadsOf.mpr hstep)
      · exact hseen a hmem .refl (.head hstep hlead)

/-- From the spreads of a set exactly that is met which is `Reachable`. -/
theorem mem_iff {set : SelectionSet} (h : table.DepthFirst [] set.spreads order) {n : String} :
    n ∈ order ↔ table.Reachable set n := by
  constructor
  · exact fun hn => h.exists_lead n hn
  · rintro ⟨m, hm, hlead⟩
    have hmem := h.mem_of_lead (List.forall_mem_nil _) (h.covered m hm) hlead
    rwa [List.append_nil] at hmem

end DepthFirst

/-! ### The fragments in use -/

theorem fragment_of_get? {name : String} {f : Fragment} (h : table.get? name = some f) :
    table.fragment name = .ok f := by
  unfold fragment
  rw [h]

theorem fragment_of_none {name : String} (h : table.get? name = none) :
    table.fragment name = .error (.unresolvedFragment name) := by
  unfold fragment
  rw [h]

theorem mapM_fragment_eq_error {names : List String} {e : Error} :
    names.mapM table.fragment = .error e ↔
      ∃ n, names.find? (fun n => !table.contains n) = some n ∧ e = .unresolvedFragment n := by
  induction names with
  | nil => exact iff_of_false nofun fun ⟨_, h, _⟩ => nomatch h
  | cons name rest ih =>
      rw [List.mapM_cons, List.find?_cons]
      cases hget : table.get? name with
      | none =>
          have hcontains : table.contains name = false := by
            unfold Table.contains
            rw [hget]
            rfl
          rw [fragment_of_none hget, hcontains]
          constructor
          · intro h
            cases h
            exact ⟨name, rfl, rfl⟩
          · rintro ⟨n, h, rfl⟩
            cases h
            rfl
      | some f =>
          rw [fragment_of_get? hget, (table.contains_iff name).mpr ⟨f, hget⟩]
          refine Iff.trans ?_ ih
          cases rest.mapM table.fragment with
          | error e' => exact ⟨fun h => h, fun h => h⟩
          | ok fs => exact iff_of_false nofun nofun

/-- `usedFrom` lists the fragments in depth first order, up to a name that is none's. -/
theorem usedFrom_eq_mapM {unused : List (String × Fragment)} {used pending order : List String}
    (hunused : Unlisted table unused used) (h : table.DepthFirst used pending order) :
    usedFrom unused used pending = order.mapM table.fragment := by
  fun_induction usedFrom unused used pending generalizing order with
  | case1 =>
      cases h
      rfl
  | case2 unused used name rest hused ih =>
      cases h with
      | again _ hrest => exact ih hunused hrest
      | first hnew _ _ => exact absurd (List.contains_iff_mem.mp hused) hnew
  | case3 unused used name rest hnew hnone =>
      have hmem : name ∉ used := fun hmem => hnew (List.contains_iff_mem.mpr hmem)
      have hget : table.get? name = none := (hunused name hmem).symm.trans hnone
      cases h with
      | again hseen _ => exact absurd hseen hmem
      | first _ _ _ =>
          rw [List.mapM_cons, fragment_of_none hget]
          rfl
  | case4 unused used name rest hnew f hfind ih =>
      have hmem : name ∉ used := fun hmem => hnew (List.contains_iff_mem.mpr hmem)
      have hget : table.get? name = some f := (hunused name hmem).symm.trans hfind
      cases h with
      | again hseen _ => exact absurd hseen hmem
      | @first _ _ inside after _ _ hinside hrest =>
          have hspreads : table.spreadsOf name = f.selections.spreads := by
            unfold spreadsOf
            rw [hget]
          rw [hspreads] at hinside
          rw [ih (hunused.without name) (hinside.append hrest), List.mapM_cons,
            fragment_of_get? hget]
          cases (inside ++ after).mapM table.fragment <;> rfl

/-- `usedIn` lists the fragments in depth first order. -/
theorem usedIn_eq_mapM {set : SelectionSet} {order : List String}
    (h : table.DepthFirst [] set.spreads order) :
    table.usedIn set = order.mapM table.fragment :=
  usedFrom_eq_mapM (unlisted_entries table) h

end FragmentTable

end QueryBindings

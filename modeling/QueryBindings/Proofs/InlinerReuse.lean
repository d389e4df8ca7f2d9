import QueryBindings.Proofs.Rendering

/-! # One inliner, many calls

An inliner takes calls one after another and keeps the names being expanded between them.  A call
gives these names back as it found them, also when it fails in the middle of an expansion.  So the
next call cannot tell whether there was one before it.

Main statement: `answers_eq_map_answer`. -/

namespace QueryBindings

namespace Inliner

/-- What an inliner can be asked for. -/
inductive Call where
  | set (set : SelectionSet)
  | operation (o : Operation)
deriving DecidableEq, Repr

inductive Reply where
  | set (outcome : Except Error SelectionSet)
  | operation (outcome : Except Error Operation)
deriving Repr

/-- The reply to a call, and the inliner after it. -/
def answer (i : Inliner) : Call → Reply × Inliner
  | .set s => (i.inline s).map .set id
  | .operation o => (i.inlineOperation o).map .operation id

/-- The replies to calls that are made one after another, whatever becomes of them.  Each comes with
the inliner after it. -/
def answers : Inliner → List Call → List (Reply × Inliner)
  | _, [] => []
  | i, c :: rest => i.answer c :: answers (i.answer c).2 rest

/-! ### One call -/

theorem snd_run_flatten (table : FragmentTable) (depth : Nat) (active : List String)
    (set : SelectionSet) :
    ((Inlining.flatten (Inlining.expand table depth) set).run active).2 = active :=
  congrArg Prod.snd (Inlining.run_flatten (Inlining.run_expand table depth active) set)

theorem inline_snd (i : Inliner) (set : SelectionSet) : (i.inline set).2 = i := by
  have hactive := snd_run_flatten i.table (i.table.size + 1) i.active set
  show { i with active := ((Inlining.inline i.table set).run i.active).2 } = i
  unfold Inlining.inline
  rw [hactive]

theorem inlineOperation_snd (i : Inliner) (o : Operation) : (i.inlineOperation o).2 = i :=
  i.inline_snd o.selections

theorem answer_snd (i : Inliner) (c : Call) : (i.answer c).2 = i := by
  cases c with
  | set set => exact i.inline_snd set
  | operation o => exact i.inlineOperation_snd o

/-! ### Calls one after another -/

theorem answers_eq_map (i : Inliner) (calls : List Call) :
    i.answers calls = calls.map fun c => ((i.answer c).1, i) := by
  induction calls with
  | nil => rfl
  | cons c rest ih =>
      rw [answers, List.map_cons, answer_snd, ih]
      exact congrArg (· :: _) (Prod.ext rfl (i.answer_snd c))

theorem inlineEach_eq_map (i : Inliner) (sets : List SelectionSet) :
    i.inlineEach sets = sets.map fun set => (i.inline set).1 := by
  induction sets with
  | nil => rfl
  | cons set rest ih =>
      show (i.inline set).1 :: (i.inline set).2.inlineEach rest = _
      rw [inline_snd, ih, List.map_cons]

theorem inlineOperations_eq_mapM (i : Inliner) (os : List Operation) :
    i.inlineOperations os = os.mapM fun o => (i.inlineOperation o).1 := by
  induction os with
  | nil => rfl
  | cons o rest ih =>
      have hafter := i.inlineOperation_snd o
      rw [inlineOperations, List.mapM_cons]
      cases hrun : i.inlineOperation o with
      | mk outcome after =>
          rw [hrun] at hafter
          subst hafter
          cases outcome with
          | error e => rfl
          | ok flat =>
              show (after.inlineOperations rest).map (flat :: ·) = _
              rw [ih]
              rfl

/-- **An inliner can be used again after any outcome.**  At every depth `flatten` gives the names
being expanded back as it found them; so `answers` to many calls, failing ones among them, are what
`answer` gives to each alone, and the inliner is the same after each.  A `fresh` one is fresh after
each, for the sets that are asked of it as for the operations of a document. -/
theorem answers_eq_map_answer (table : FragmentTable) :
    (∀ depth active set,
      ((Inlining.flatten (Inlining.expand table depth) set).run active).2 = active) ∧
    (∀ active calls, (Inliner.mk table active).answers calls =
      calls.map fun c => (((Inliner.mk table active).answer c).1, ⟨table, active⟩)) ∧
    (∀ calls, (fresh table).answers calls =
      calls.map fun c => (((fresh table).answer c).1, fresh table)) ∧
    (∀ sets, (fresh table).inlineEach sets =
      sets.map fun set => ((fresh table).inline set).1) ∧
    ∀ d : Document, d.fragmentTable = .ok table →
      d.inlinedOperations = d.operations.mapM fun o => ((fresh table).inlineOperation o).1 := by
  refine ⟨snd_run_flatten table, fun active => (Inliner.mk table active).answers_eq_map,
    (fresh table).answers_eq_map, (fresh table).inlineEach_eq_map, fun d hd => ?_⟩
  unfold Document.inlinedOperations
  rw [hd]
  exact (fresh table).inlineOperations_eq_mapM d.operations

/-- One fragment is plain, and one spreads itself. -/
def selfSpreading : Document :=
  ⟨[⟨.query, some "Q", [], [], .spread ⟨"F", []⟩ .nil⟩],
    [⟨"F", "T", [], .field ⟨none, "name", [], []⟩ .nil .nil⟩,
      ⟨"G", "T", [], .field ⟨none, "next", [], []⟩ (.spread ⟨"G", []⟩ .nil) .nil⟩]⟩

theorem answers_selfSpreading :
    ∃ table, selfSpreading.fragmentTable = .ok table ∧
      (fresh table).answers [.set (.spread ⟨"G", []⟩ .nil), .set (.spread ⟨"F", []⟩ .nil)] =
        [(.set (.error (.cyclicFragment ["G", "G"])), fresh table),
          (.set (.ok (.field ⟨none, "name", [], []⟩ .nil .nil)), fresh table)] ∧
      selfSpreading.inlinedOperations =
        .ok [⟨.query, some "Q", [], [], .field ⟨none, "name", [], []⟩ .nil .nil⟩] := by
  obtain ⟨table, htable⟩ : ∃ table, selfSpreading.fragmentTable = .ok table := ⟨_, rfl⟩
  obtain ⟨-, -, hanswers, -, hdocument⟩ := answers_eq_map_answer table
  refine ⟨table, htable, ?_, ?_⟩
  · cases htable
    exact (hanswers _).trans rfl
  · rw [hdocument selfSpreading htable]
    cases htable
    rfl

end Inliner

end QueryBindings

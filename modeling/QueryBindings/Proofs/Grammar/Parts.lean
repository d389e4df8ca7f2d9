import QueryBindings.Proofs.Grammar.ValueText

/-! # Reading arguments, directives and default values

Each part of a text has the tokens that its layout shows (`tokens`), is `Legible` if its names
are names and its values fit their place, and `ReadsBack` if all of its values do.  What is
`Placed` is legible but for values that do not read back.

Main statements: a legible part is read from its tokens (`reads_directives`, `reads_defaultValue`),
and what is read is placed, and legible if it reads back (`yields_directives`,
`yields_defaultValue`). -/

namespace QueryBindings

open Grammar

/-! ### Arguments and directives -/

namespace Argument

def tokens (a : Argument) : List Token := .name a.name :: .symbol ':' :: lex a.value.toList

/-- The value of an argument in parentheses has one level of brackets less. -/
def Legible (references : Bool) : Nat → Argument → Prop
  | 0, _ => False
  | depth + 1, a => isName a.name = true ∧ Grammar.Legible references depth a.value

/-- As `Legible`, for a value that need not read back. -/
def Placed (references : Bool) : Nat → Argument → Prop
  | 0, _ => False
  | depth + 1, a => isName a.name = true ∧ Grammar.Placed references depth a.value

theorem Placed.legible {references : Bool} {depth : Nat} {a : Argument}
    (h : a.Placed references depth) (hdepth : depth ≤ nestingLimit) (hback : ReadsBack a.value) :
    a.Legible references depth := by
  cases depth with
  | zero => exact h.elim
  | succ depth => exact ⟨h.1, h.2.legible (Nat.le_of_succ_le hdepth) hback⟩

end Argument

/-- Arguments in parentheses; nothing if there are none. -/
def argumentTokens (arguments : List Argument) : List Token :=
  if arguments.isEmpty then []
  else .symbol '(' :: (arguments.flatMap Argument.tokens ++ [.symbol ')'])

namespace Directive

def tokens (d : Directive) : List Token := .symbol '@' :: .name d.name :: argumentTokens d.arguments

/-- Names have `isName`, and the values of arguments fit their place. -/
def Legible (references : Bool) (depth : Nat) (d : Directive) : Prop :=
  isName d.name = true ∧ ∀ a ∈ d.arguments, a.Legible references depth

/-- Names have `isName`, and the values of arguments are those of values that fit their place. -/
def Placed (references : Bool) (depth : Nat) (d : Directive) : Prop :=
  isName d.name = true ∧ ∀ a ∈ d.arguments, a.Placed references depth

def ReadsBack (d : Directive) : Prop := ∀ a ∈ d.arguments, Grammar.ReadsBack a.value

theorem Placed.legible {references : Bool} {depth : Nat} {d : Directive}
    (h : d.Placed references depth) (hdepth : depth ≤ nestingLimit) (hback : d.ReadsBack) :
    d.Legible references depth :=
  ⟨h.1, fun a ha => (h.2 a ha).legible hdepth (hback a ha)⟩

end Directive

def defaultTokens : Option String → List Token
  | none => []
  | some text => .symbol '=' :: lex text.toList

namespace Grammar

open Rule

/-! ### What parts begin with -/

theorem clear_argumentTokens {barred rest : List Token} (as : List Argument)
    (h : .symbol '(' ∉ barred) (hrest : Clear barred rest) :
    Clear barred (argumentTokens as ++ rest) := by
  unfold argumentTokens
  split
  · exact hrest
  · exact clear_cons h _

theorem clear_directiveTokens {barred rest : List Token} (ds : List Directive)
    (h : .symbol '@' ∉ barred) (hrest : Clear barred rest) :
    Clear barred (ds.flatMap Directive.tokens ++ rest) := by
  cases ds with
  | nil => exact hrest
  | cons d ds => exact clear_cons h _

theorem clear_defaultTokens {barred rest : List Token} (given : Option String)
    (h : .symbol '=' ∉ barred) (hrest : Clear barred rest) :
    Clear barred (defaultTokens given ++ rest) := by
  cases given with
  | none => exact hrest
  | some text => exact clear_cons h _

/-! ### Reading legible parts -/

theorem reads_argument {references : Bool} {depth : Nat} {a : Argument}
    (h : Legible references depth a.value) :
    Reads (do
      let n ← name
      symbol ':'
      return ⟨n, ← valueText references depth⟩) a.tokens a [] := by
  intro rest hrest
  apply (bind_ok (name_cons a.name _)).trans
  apply (bind_ok (symbol_cons ':' _)).trans
  exact bind_ok (h.reads rest hrest)

theorem reads_arguments {references : Bool} {depth : Nat} {as : List Argument}
    (h : ∀ a ∈ as, a.Legible references depth) :
    (arguments references depth).Reads (argumentTokens as) as [.symbol '('] := by
  intro rest hrest
  unfold arguments
  cases as with
  | nil => exact bind_ok (isNext_of_clear hrest)
  | cons first others =>
      cases depth with
      | zero => exact (h first List.mem_cons_self).elim
      | succ depth =>
          have hread : ∀ a ∈ first :: others, Reads (do
              let n ← name
              symbol ':'
              return ⟨n, ← valueText references depth⟩) a.tokens (id a) [] :=
            fun a ha => reads_argument (h a ha).2
          have hlist : (someUntil ')' _).Reads _ ((first :: others).map id) [] :=
            reads_someUntil (fun a _ => ⟨.name a.name, _, rfl, by simp, List.not_mem_nil⟩) hread
              List.not_mem_nil
          rw [List.map_id] at hlist
          unfold bracketed
          apply (bind_ok (isNext_cons (.symbol '(') _)).trans
          apply (bind_ok (symbol_cons '(' _)).trans
          exact hlist rest (clear_nil rest)

theorem reads_directives {references : Bool} {depth : Nat} {ds : List Directive}
    (h : ∀ d ∈ ds, d.Legible references depth) :
    (directives references depth).Reads (ds.flatMap Directive.tokens) ds
      [.symbol '@', .symbol '('] := by
  have hread : ∀ d ∈ ds, Reads (do
      let n ← name
      return ⟨n, ← arguments references depth⟩) (.name d.name :: argumentTokens d.arguments)
      (id d) [.symbol '('] := by
    intro d hd rest hrest
    apply (bind_ok (name_cons d.name _)).trans
    exact bind_ok (reads_arguments (h d hd).2 rest hrest)
  have hall := reads_manyAfter (c := '@') hread (by simp)
  rw [List.map_id] at hall
  exact hall

theorem reads_defaultValue {depth : Nat} {given : Option String}
    (h : ∀ text, given = some text → Legible false depth text) :
    (defaultValue depth).Reads (defaultTokens given) given [.symbol '='] := by
  intro rest hrest
  unfold defaultValue
  cases given with
  | none => exact bind_ok (option_of_clear hrest)
  | some text =>
      apply (bind_ok (option_cons (.symbol '=') _)).trans
      exact bind_ok ((h text rfl).reads rest (clear_nil rest))

/-! ### Legibility of what is read -/

theorem yields_placedArguments (references : Bool) (depth : Nat) :
    (arguments references depth).Yields fun as => ∀ a ∈ as, a.Placed references depth := by
  unfold arguments
  refine Yields.bind (yields_isNext _) fun isOpen _ => ?_
  split
  · cases depth with
    | zero => exact yields_fail
    | succ depth =>
        have hargument : Yields (do
            let n ← name
            symbol ':'
            return ⟨n, ← valueText references depth⟩ : Rule Argument)
            fun a => a.Placed references (depth + 1) := by
          refine Yields.bind yields_name fun n hn => ?_
          refine Yields.bind (yields_symbol ':') fun _ _ => ?_
          refine Yields.bind (yields_valueText references depth) fun text htext => ?_
          exact yields_pure ⟨hn, htext⟩
        unfold bracketed
        refine Yields.bind (yields_symbol '(') fun _ _ => ?_
        exact (yields_someUntil hargument).mono fun as has => has.2
  · exact yields_pure (by simp)

theorem yields_placedDirectives (references : Bool) (depth : Nat) :
    (directives references depth).Yields fun ds => ∀ d ∈ ds, d.Placed references depth := by
  unfold directives
  apply yields_manyAfter
  refine Yields.bind yields_name fun n hn => ?_
  refine Yields.bind (yields_placedArguments references depth) fun as has => ?_
  exact yields_pure ⟨hn, has⟩

theorem yields_placedDefault (depth : Nat) :
    (defaultValue depth).Yields fun given =>
      ∀ text, given = some text → Placed false depth text := by
  unfold defaultValue
  refine Yields.bind (yields_option (by simp)) fun isGiven _ => ?_
  split
  · refine Yields.bind (yields_valueText false depth) fun text htext => ?_
    apply yields_pure
    intro other hother
    cases hother
    exact htext
  · apply yields_pure
    intro other hother
    cases hother

theorem yields_arguments (references : Bool) {depth : Nat} (hdepth : depth ≤ nestingLimit) :
    (arguments references depth).Yields fun as =>
      ∀ a ∈ as, ReadsBack a.value → a.Legible references depth :=
  (yields_placedArguments references depth).mono fun _ has a ha => (has a ha).legible hdepth

theorem yields_directives (references : Bool) {depth : Nat} (hdepth : depth ≤ nestingLimit) :
    (directives references depth).Yields fun ds =>
      ∀ d ∈ ds, d.ReadsBack → d.Legible references depth :=
  (yields_placedDirectives references depth).mono fun _ hds d hd => (hds d hd).legible hdepth

theorem yields_defaultValue {depth : Nat} (hdepth : depth ≤ nestingLimit) :
    (defaultValue depth).Yields fun given =>
      ∀ text, given = some text → ReadsBack text → Legible false depth text :=
  (yields_placedDefault depth).mono fun _ hgiven text htext => (hgiven text htext).legible hdepth

end Grammar

end QueryBindings

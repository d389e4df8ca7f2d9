import QueryBindings.Proofs.Grammar.Members

/-! # Brackets

A rule that reads what stands between two brackets ends behind the bracket that closes the first
one, whatever the rule makes of the tokens between them.  `afterClosing` finds that place without
any rule, and `Shifts` says how many brackets a rule opens and closes in the tokens that it takes;
it is kept by the ways in which rules are put together.

Main statement: `rest_of_optionalBody` (where members between brackets end). -/

namespace QueryBindings.Grammar

def opens : Token → Bool
  | .symbol c => c = '(' || c = '[' || c = '\x7b'
  | _ => false

def closes : Token → Bool
  | .symbol c => c = ')' || c = ']' || c = '\x7d'
  | _ => false

/-- What follows the brackets that close the innermost `n` of those that are open. -/
def afterClosing : Nat → List Token → List Token
  | 0, ts => ts
  | _ + 1, [] => []
  | n + 1, t :: ts =>
    if opens t then afterClosing (n + 2) ts
    else if closes t then afterClosing n ts
    else afterClosing (n + 1) ts

theorem afterClosing_zero (ts : List Token) : afterClosing 0 ts = ts := by
  rw [afterClosing]

theorem afterClosing_opening {t : Token} (h : opens t = true) (n : Nat) (ts : List Token) :
    afterClosing (n + 1) (t :: ts) = afterClosing (n + 2) ts := by
  rw [afterClosing, if_pos h]

theorem afterClosing_closing {t : Token} (h : closes t = true) (n : Nat) (ts : List Token) :
    afterClosing (n + 1) (t :: ts) = afterClosing n ts := by
  have hopens : opens t = false := by
    unfold closes at h
    split at h
    · rename_i c
      simp only [Bool.or_eq_true, decide_eq_true_eq] at h
      rcases h with (rfl | rfl) | rfl <;> rfl
    · cases h
  rw [afterClosing, if_neg (by simp [hopens]), if_pos h]

def isPlain (t : Token) : Bool := !opens t && !closes t

theorem afterClosing_plain {t : Token} (h : isPlain t = true) (n : Nat) (ts : List Token) :
    afterClosing (n + 1) (t :: ts) = afterClosing (n + 1) ts := by
  obtain ⟨hopens, hcloses⟩ := Bool.and_eq_true_iff.mp h
  rw [afterClosing, if_neg (by simpa using hopens), if_neg (by simpa using hcloses)]

/-! ### Level tokens -/

/-- Tokens that close the brackets that they open, and no other. -/
def Level (ts : List Token) : Prop :=
  ∀ n more, afterClosing (n + 1) (ts ++ more) = afterClosing (n + 1) more

theorem level_nil : Level [] := fun _ _ => rfl

theorem Level.append {ts us : List Token} (ht : Level ts) (hu : Level us) : Level (ts ++ us) := by
  intro n more
  rw [List.append_assoc, ht, hu]

theorem level_plain {t : Token} (h : isPlain t = true) : Level [t] :=
  fun n more => afterClosing_plain h n more

theorem level_group {opening closing : Token} {ts : List Token} (hopen : opens opening = true)
    (h : Level ts) (hclose : closes closing = true) : Level (opening :: (ts ++ [closing])) := by
  intro n more
  rw [List.cons_append, afterClosing_opening hopen, List.append_assoc, h]
  exact afterClosing_closing hclose (n + 1) more

theorem Level.afterClosing_eq {ts : List Token} (h : Level ts) {closing : Token}
    (hclose : closes closing = true) (rest : List Token) :
    afterClosing 1 (ts ++ closing :: rest) = rest := by
  rw [h 0, afterClosing_closing hclose, afterClosing_zero]

namespace Rule

variable {α β : Type}

/-! ### Brackets in what rules take -/

/-- Of `i` open brackets, the tokens that `rule` takes leave `o` open. -/
def Shifts (rule : Rule α) (i o : Nat) : Prop :=
  ∀ ts a rest, rule ts = .ok (a, rest) → ∀ n, afterClosing (n + i) ts = afterClosing (n + o) rest

theorem Shifts.add {rule : Rule α} {i o : Nat} (h : rule.Shifts i o) (k : Nat) :
    rule.Shifts (k + i) (k + o) := by
  intro ts a rest hok n
  rw [← Nat.add_assoc, ← Nat.add_assoc]
  exact h ts a rest hok (n + k)

theorem Shifts.bind {rule : Rule α} {next : α → Rule β} {i m o : Nat} (h : rule.Shifts i m)
    (hnext : ∀ a, (next a).Shifts m o) : Shifts (rule >>= next) i o := by
  intro ts b rest hok n
  obtain ⟨a, mid, hfirst, hsecond⟩ := of_bind_ok hok
  rw [h ts a mid hfirst n, hnext a mid b rest hsecond n]

theorem shifts_pure (a : α) (k : Nat) : Shifts (pure a) k k := by
  intro ts b rest hok n
  cases hok
  rfl

theorem shifts_fail (i o : Nat) : Shifts (fail : Rule α) i o := by
  intro ts a rest hok
  cases hok

theorem shifts_isNext (t : Token) (k : Nat) : Shifts (isNext t) k k := by
  intro ts a rest hok n
  cases hok
  rfl

theorem shifts_name : Shifts name 1 1 := by
  intro ts a rest hok n
  obtain rfl := eq_cons_of_name hok
  exact afterClosing_plain rfl n _

theorem shifts_token {t : Token} {i o : Nat}
    (h : ∀ n ts, afterClosing (n + i) (t :: ts) = afterClosing (n + o) ts) :
    Shifts (token t) i o := by
  intro ts a rest hok n
  obtain rfl := eq_cons_of_token hok
  exact h n _

theorem shifts_plain {c : Char} (h : isPlain (.symbol c) = true) : Shifts (symbol c) 1 1 :=
  shifts_token fun n ts => afterClosing_plain h n ts

theorem shifts_opening {c : Char} (h : opens (.symbol c) = true) : Shifts (symbol c) 1 2 :=
  shifts_token fun n ts => afterClosing_opening h n ts

theorem shifts_closing {c : Char} (h : closes (.symbol c) = true) : Shifts (symbol c) 1 0 :=
  shifts_token fun n ts => afterClosing_closing h n ts

/-- What follows an optional token goes on from the place that the token shifts to. -/
theorem shifts_option {t : Token} {taken other : Rule α} {m : Nat}
    (ht : ∀ n ts, afterClosing (n + 1) (t :: ts) = afterClosing (n + m) ts)
    (htaken : taken.Shifts m 1) (hother : other.Shifts 1 1) :
    Shifts (do if ← option t then taken else other) 1 1 := by
  intro ts a rest hok n
  obtain ⟨isTaken, mid, hfirst, hsecond⟩ := of_bind_ok hok
  rcases option_eq_ok hfirst with ⟨rfl, rfl⟩ | ⟨rfl, rfl, -⟩
  · rw [ht]
    exact htaken mid a rest hsecond n
  · exact hother mid a rest hsecond n

theorem shifts_many {starts : Token → Bool} {item : Rule α} (h : item.Shifts 1 1) :
    Shifts (many starts item) 1 1 := by
  intro ts
  fun_induction many starts item ts with
  | case1 =>
      intro as rest hok n
      cases hok
      rfl
  | case2 t ts hstarts e hitem | case3 t ts hstarts a after hitem hlt e hmany ih
  | case5 t ts hstarts a after hitem hlt =>
      intro as rest hok
      cases hok
  | case4 t ts hstarts a after hitem hlt others final hmany ih =>
      intro as rest hok n
      cases hok
      rw [h _ a after hitem n, ih others _ hmany n]
  | case6 t ts hstarts =>
      intro as rest hok n
      cases hok
      rfl

theorem shifts_manyUntil {closing : Char} {item : Rule α} (hclose : closes (.symbol closing) = true)
    (h : item.Shifts 1 1) : Shifts (manyUntil closing item) 1 0 := by
  unfold manyUntil
  refine Shifts.bind (shifts_many h) fun as => ?_
  exact Shifts.bind (shifts_closing hclose) fun _ => shifts_pure as 0

theorem shifts_someUntil {closing : Char} {item : Rule α} (hclose : closes (.symbol closing) = true)
    (h : item.Shifts 1 1) : Shifts (someUntil closing item) 1 0 := by
  unfold someUntil
  refine Shifts.bind h fun a => ?_
  exact Shifts.bind (shifts_manyUntil hclose h) fun as => shifts_pure (a :: as) 0

theorem shifts_manyAfter {c : Char} {item : Rule α} (hc : isPlain (.symbol c) = true)
    (h : item.Shifts 1 1) : Shifts (manyAfter c item) 1 1 := by
  unfold manyAfter
  exact shifts_many (Shifts.bind (shifts_plain hc) fun _ => h)

theorem shifts_bracketed {opening : Char} {inner : Nat → Rule α}
    (hopen : opens (.symbol opening) = true) (h : ∀ depth, (inner depth).Shifts 1 0) (depth : Nat) :
    Shifts (bracketed opening inner depth) 1 1 := by
  cases depth with
  | zero => exact shifts_fail 1 1
  | succ depth => exact Shifts.bind (shifts_opening hopen) fun _ => (h depth).add 1

/-- What is read behind an opening bracket ends behind the one that closes it. -/
theorem rest_of_bracketed {opening : Char} {closing : Token} {inner : Nat → Rule α}
    (h : ∀ depth, (inner depth).Shifts 1 0) {depth : Nat} {ts rest rest' : List Token} {a : α}
    (hts : Level ts) (hclose : closes closing = true)
    (hok : bracketed opening inner depth (.symbol opening :: (ts ++ closing :: rest)) =
      .ok (a, rest')) : rest' = rest := by
  cases depth with
  | zero => cases hok
  | succ depth =>
      obtain ⟨_, mid, hsymbol, hinner⟩ := of_bind_ok hok
      rw [symbol_cons] at hsymbol
      cases hsymbol
      have hshift := h depth _ a rest' hinner 0
      rw [hts.afterClosing_eq hclose] at hshift
      exact (hshift.trans (afterClosing_zero rest')).symm

end Rule

open Rule

/-! ### Brackets in what the grammar takes -/

theorem shifts_plainValue (references : Bool) : (plainValue references).Shifts 1 1 := by
  intro ts v rest hok n
  unfold plainValue at hok
  split at hok
  · cases hok
    exact afterClosing_plain rfl n _
  · cases hok
    exact afterClosing_plain rfl n _
  · cases hok
    exact afterClosing_plain rfl n _
  · cases hok
    exact afterClosing_plain rfl n _
  · split at hok
    · have hreference : Shifts (do let n ← name; return .reference n : Rule Value) 1 1 :=
        Shifts.bind shifts_name fun _ => shifts_pure _ 1
      rw [afterClosing_plain (by decide)]
      exact hreference _ v rest hok n
    · cases hok
  · cases hok

theorem shifts_value (references : Bool) (depth : Nat) : (value references depth).Shifts 1 1 := by
  induction depth with
  | zero => exact shifts_plainValue references
  | succ depth ih =>
      have hfield : Shifts (do
          let n ← name
          symbol ':'
          return (n, ← value references depth) : Rule (String × Value)) 1 1 := by
        refine Shifts.bind shifts_name fun n => ?_
        refine Shifts.bind (shifts_plain (by decide)) fun _ => ?_
        exact Shifts.bind ih fun _ => shifts_pure _ 1
      have hlist : (manyUntil ']' (value references depth)).Shifts 2 1 :=
        (shifts_manyUntil (by decide) ih).add 1
      have hobject : (manyUntil '\x7d' _).Shifts 2 1 :=
        (shifts_manyUntil (by decide) hfield).add 1
      unfold value
      refine shifts_option (afterClosing_opening (by decide)) ?_ ?_
      · exact Shifts.bind hlist fun _ => shifts_pure _ 1
      · refine shifts_option (afterClosing_opening (by decide)) ?_ (shifts_plainValue references)
        exact Shifts.bind hobject fun _ => shifts_pure _ 1

theorem shifts_valueText (references : Bool) (depth : Nat) :
    (valueText references depth).Shifts 1 1 :=
  Shifts.bind (shifts_value references depth) fun _ => shifts_pure _ 1

/-- Tokens that read as a value, whatever follows them, have `Level`. -/
theorem ReadsAs.level {references : Bool} {depth : Nat} {ts : List Token} {v : Value}
    (h : ReadsAs references depth ts v) : Level ts := by
  intro n more
  have hread := h references depth id (Nat.le_refl depth) more (clear_nil more)
  exact shifts_value references depth _ v more hread n

theorem TypeTree.Derives.level {t : TypeTree} {ts : List Token} (h : t.Derives ts) : Level ts := by
  induction h with
  | named n => exact level_plain rfl
  | list h ih => exact level_group (by decide) ih (by decide)
  | nonNull h hunmarked ih => exact ih.append (level_plain (by decide))

theorem shifts_typeExpr (depth : Nat) : (typeExpr depth).Shifts 1 1 := by
  intro ts a rest hok n
  obtain ⟨t, mid, htree, hresult⟩ := of_bind_ok hok
  cases hresult
  obtain ⟨-, used, rfl, hderives⟩ := finds_withMark (finds_unmarkedType depth) ts t _ htree
  exact hderives.level n _

theorem shifts_argument (references : Bool) (depth : Nat) :
    Shifts (do
      let n ← name
      symbol ':'
      return ⟨n, ← valueText references depth⟩ : Rule Argument) 1 1 := by
  refine Shifts.bind shifts_name fun n => ?_
  refine Shifts.bind (shifts_plain (by decide)) fun _ => ?_
  exact Shifts.bind (shifts_valueText references depth) fun _ => shifts_pure _ 1

theorem shifts_optionalBody {α : Type} {opening closing : Char} {member : Nat → Rule α}
    (hopen : opens (.symbol opening) = true) (hclose : closes (.symbol closing) = true)
    (h : ∀ depth, (member depth).Shifts 1 1) (depth : Nat) :
    (optionalBody opening closing member depth).Shifts 1 1 := by
  unfold optionalBody
  refine Shifts.bind (shifts_isNext _ 1) fun isOpen => ?_
  split
  · exact shifts_bracketed hopen (fun d => shifts_someUntil hclose (h d)) depth
  · exact shifts_pure _ 1

theorem shifts_arguments (references : Bool) (depth : Nat) :
    (arguments references depth).Shifts 1 1 :=
  shifts_optionalBody (by decide) (by decide) (shifts_argument references) depth

theorem shifts_directives (references : Bool) (depth : Nat) :
    (directives references depth).Shifts 1 1 := by
  unfold directives
  refine shifts_manyAfter (by decide) (Shifts.bind shifts_name fun n => ?_)
  exact Shifts.bind (shifts_arguments references depth) fun _ => shifts_pure _ 1

theorem shifts_defaultValue (depth : Nat) : (defaultValue depth).Shifts 1 1 := by
  unfold defaultValue
  refine shifts_option (afterClosing_plain (by decide)) ?_ (shifts_pure _ 1)
  exact Shifts.bind (shifts_valueText false depth) fun _ => shifts_pure _ 1

theorem shifts_description : description.Shifts 1 1 := by
  intro ts about rest hok n
  unfold description at hok
  split at hok
  · cases hok
    exact afterClosing_plain rfl n _
  · cases hok
    rfl

theorem shifts_argumentDefinition (depth : Nat) : (argumentDefinition depth).Shifts 1 1 := by
  unfold argumentDefinition
  refine Shifts.bind shifts_description fun about => ?_
  refine Shifts.bind shifts_name fun n => ?_
  refine Shifts.bind (shifts_plain (by decide)) fun _ => ?_
  refine Shifts.bind (shifts_typeExpr depth) fun type => ?_
  refine Shifts.bind (shifts_defaultValue depth) fun given => ?_
  exact Shifts.bind (shifts_directives true depth) fun _ => shifts_pure _ 1

theorem shifts_fieldDefinition (depth : Nat) : (fieldDefinition depth).Shifts 1 1 := by
  unfold fieldDefinition
  refine Shifts.bind shifts_description fun about => ?_
  refine Shifts.bind shifts_name fun n => ?_
  refine Shifts.bind (shifts_optionalBody (by decide) (by decide) shifts_argumentDefinition depth)
    fun declared => ?_
  refine Shifts.bind (shifts_plain (by decide)) fun _ => ?_
  refine Shifts.bind (shifts_typeExpr depth) fun type => ?_
  exact Shifts.bind (shifts_directives true depth) fun _ => shifts_pure _ 1

theorem shifts_enumValue (depth : Nat) : (enumValue depth).Shifts 1 1 := by
  unfold enumValue
  refine Shifts.bind shifts_description fun about => ?_
  refine Shifts.bind shifts_name fun n => ?_
  exact Shifts.bind (shifts_directives true depth) fun _ => shifts_pure _ 1

/-! ### Where members between brackets end -/

theorem rest_of_optionalBody {α : Type} {opening closing : Char} {member : Nat → Rule α}
    (hclose : closes (.symbol closing) = true) (h : ∀ depth, (member depth).Shifts 1 1)
    {depth : Nat} {ts rest rest' : List Token} {as : List α} (hts : Level ts)
    (hok : optionalBody opening closing member depth
      (.symbol opening :: (ts ++ .symbol closing :: rest)) = .ok (as, rest')) : rest' = rest := by
  unfold optionalBody at hok
  rw [bind_ok (isNext_cons (.symbol opening) _)] at hok
  exact rest_of_bracketed (fun d => shifts_someUntil hclose (h d)) hts hclose hok

end QueryBindings.Grammar

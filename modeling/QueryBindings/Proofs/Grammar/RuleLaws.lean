import QueryBindings.Grammar.Rule
import QueryBindings.Proofs.Grammar.Lexing
import QueryBindings.Proofs.Outcome

/-! # Laws of rules

Two ways to speak of a rule.  `Reads` says what it makes of tokens that are laid out for it:
it takes exactly them, unless the next token is one that it could go on with.  `Yields` says
what holds of every result, when the names among its tokens are names; it also says that the
tokens taken are readable.

Main statements: `reads_many` and `yields_many` (repetition), with a law for every primitive. -/

namespace QueryBindings.Grammar

/-- The next token is none of these. -/
def Clear (barred : List Token) (rest : List Token) : Prop :=
  ∀ t ∈ barred, rest.head? ≠ some t

theorem Clear.mono {few many rest : List Token} (h : Clear many rest) (hsub : few ⊆ many) :
    Clear few rest := fun t ht => h t (hsub ht)

theorem clear_cons {barred : List Token} {t : Token} (h : t ∉ barred) (rest : List Token) :
    Clear barred (t :: rest) := by
  intro u hu heq
  cases heq
  exact h hu

theorem clear_nil (rest : List Token) : Clear [] rest := fun _ ht => absurd ht List.not_mem_nil

theorem clear_end (barred : List Token) : Clear barred [] := by
  intro t _ h
  cases h

namespace Rule

variable {α β : Type}

/-! ### Steps -/

theorem bind_ok {rule : Rule α} {next : α → Rule β} {ts rest : List Token} {a : α}
    (h : rule ts = .ok (a, rest)) : (rule >>= next) ts = next a rest := by
  show (StateT.bind rule next) ts = _
  unfold StateT.bind
  rw [h]
  rfl

theorem of_bind_ok {rule : Rule α} {next : α → Rule β} {ts rest : List Token} {b : β}
    (h : (rule >>= next) ts = .ok (b, rest)) :
    ∃ a mid, rule ts = .ok (a, mid) ∧ next a mid = .ok (b, rest) := by
  obtain ⟨⟨a, mid⟩, hfirst, hsecond⟩ := bind_eq_ok.mp h
  exact ⟨a, mid, hfirst, hsecond⟩

theorem map_ok {rule : Rule α} {f : α → β} {ts rest : List Token} {a : α}
    (h : rule ts = .ok (a, rest)) : (f <$> rule) ts = .ok (f a, rest) := by
  show (StateT.map f rule) ts = _
  unfold StateT.map
  rw [h]
  rfl

theorem pure_ok (a : α) (ts : List Token) : (pure a : Rule α) ts = .ok (a, ts) := rfl

theorem name_cons (text : String) (rest : List Token) :
    name (.name text :: rest) = .ok (text, rest) := rfl

theorem eq_cons_of_name {text : String} {ts rest : List Token} (h : name ts = .ok (text, rest)) :
    ts = .name text :: rest := by
  unfold name at h
  split at h
  · cases h
    rfl
  · cases h

theorem token_cons (t : Token) (rest : List Token) : token t (t :: rest) = .ok ((), rest) := by
  unfold token
  exact if_pos rfl

theorem eq_cons_of_token {t : Token} {ts rest : List Token} {u : Unit}
    (h : token t ts = .ok (u, rest)) : ts = t :: rest := by
  unfold token at h
  split at h
  · split at h
    · rename_i ht
      cases h
      rw [ht]
    · cases h
  · cases h

theorem symbol_cons (c : Char) (rest : List Token) :
    symbol c (.symbol c :: rest) = .ok ((), rest) := token_cons _ _

theorem keyword_cons (text : String) (rest : List Token) :
    keyword text (.name text :: rest) = .ok ((), rest) := token_cons _ _

theorem option_cons (t : Token) (rest : List Token) :
    option t (t :: rest) = .ok (true, rest) := by
  unfold option
  exact if_pos rfl

theorem option_of_clear {t : Token} {rest : List Token} (h : Clear [t] rest) :
    option t rest = .ok (false, rest) := by
  unfold option
  cases rest with
  | nil => rfl
  | cons u rest =>
      refine if_neg fun heq => ?_
      exact h t List.mem_cons_self (congrArg some heq)

theorem option_eq_ok {t : Token} {ts rest : List Token} {taken : Bool}
    (h : option t ts = .ok (taken, rest)) :
    (taken = true ∧ ts = t :: rest) ∨ (taken = false ∧ rest = ts ∧ Clear [t] ts) := by
  unfold option at h
  split at h
  · split at h
    · rename_i ht
      cases h
      exact .inl ⟨rfl, by rw [ht]⟩
    · rename_i ht
      cases h
      exact .inr ⟨rfl, rfl, clear_cons (by simpa using ht) _⟩
  · cases h
    exact .inr ⟨rfl, rfl, clear_end _⟩

theorem isNext_cons (t : Token) (rest : List Token) :
    isNext t (t :: rest) = .ok (true, t :: rest) := by
  unfold isNext
  simp

theorem isNext_of_clear {t : Token} {rest : List Token} (h : Clear [t] rest) :
    isNext t rest = .ok (false, rest) := by
  unfold isNext
  have hne : (rest.head? == some t) = false := by
    rw [beq_eq_false_iff_ne]
    exact h t List.mem_cons_self
  rw [hne]

theorem peek_of_eq_cons {ts more : List Token} {t : Token} (h : ts = t :: more) :
    peek ts = .ok (some t, ts) := by
  rw [h]
  rfl

theorem many_nil (starts : Token → Bool) (item : Rule α) : many starts item [] = .ok ([], []) := by
  rw [many]

theorem many_stop {starts : Token → Bool} {item : Rule α} {t : Token} (h : starts t = false)
    (rest : List Token) : many starts item (t :: rest) = .ok ([], t :: rest) := by
  rw [many, if_neg (by simp [h])]

theorem many_cons {starts : Token → Bool} {item : Rule α} {t : Token} {ts after final : List Token}
    {a : α} {as : List α} (hstarts : starts t = true) (hitem : item (t :: ts) = .ok (a, after))
    (hlt : after.length < (t :: ts).length) (hmany : many starts item after = .ok (as, final)) :
    many starts item (t :: ts) = .ok (a :: as, final) := by
  rw [many, if_pos hstarts, hitem]
  simp only
  rw [dif_pos hlt, hmany]

/-! ### Reading what is laid out -/

/-- The rule takes exactly the tokens `used`, unless one of `barred` comes next. -/
def Reads (rule : Rule α) (used : List Token) (a : α) (barred : List Token) : Prop :=
  ∀ rest, Clear barred rest → rule (used ++ rest) = .ok (a, rest)

theorem Reads.mono {rule : Rule α} {used few many : List Token} {a : α}
    (h : rule.Reads used a few) (hsub : few ⊆ many) : rule.Reads used a many :=
  fun rest hrest => h rest (hrest.mono hsub)

/-- Repeated items are read one after another, up to a token that starts none. -/
theorem reads_many {starts : Token → Bool} {item : Rule α} {barred : List Token}
    {entries : List β} {tokens : β → List Token} {value : β → α}
    (hstart : ∀ e ∈ entries, ∃ t ts, tokens e = t :: ts ∧ starts t = true ∧ t ∉ barred)
    (hread : ∀ e ∈ entries, item.Reads (tokens e) (value e) barred)
    {rest : List Token} (hrest : ∀ t, rest.head? = some t → starts t = false)
    (hclear : Clear barred rest) :
    many starts item (entries.flatMap tokens ++ rest) = .ok (entries.map value, rest) := by
  induction entries with
  | nil =>
      cases rest with
      | nil => exact many_nil starts item
      | cons t rest => exact many_stop (hrest t rfl) rest
  | cons e entries ih =>
      have hnext : Clear barred (entries.flatMap tokens ++ rest) := by
        cases entries with
        | nil => exact hclear
        | cons next _ =>
            obtain ⟨t, ts, htokens, -, hbarred⟩ := hstart next (by simp)
            rw [List.flatMap_cons, htokens]
            exact clear_cons hbarred _
      have hitem := hread e List.mem_cons_self (entries.flatMap tokens ++ rest) hnext
      obtain ⟨t, ts, htokens, hstarts, -⟩ := hstart e List.mem_cons_self
      rw [List.flatMap_cons, List.append_assoc]
      rw [htokens] at hitem ⊢
      refine many_cons hstarts hitem ?_ (ih (fun e he => hstart e (List.mem_cons_of_mem _ he))
        fun e he => hread e (List.mem_cons_of_mem _ he))
      have hlength : (ts ++ (entries.flatMap tokens ++ rest)).length =
          ts.length + (entries.flatMap tokens ++ rest).length := List.length_append
      show _ < (t :: (ts ++ (entries.flatMap tokens ++ rest))).length
      rw [List.length_cons, hlength]
      omega

/-- A bracketed list of items, without its opening bracket. -/
theorem reads_manyUntil {closing : Char} {item : Rule α} {barred : List Token}
    {entries : List β} {tokens : β → List Token} {value : β → α}
    (hstart : ∀ e ∈ entries, ∃ t ts, tokens e = t :: ts ∧ t ≠ .symbol closing ∧ t ∉ barred)
    (hread : ∀ e ∈ entries, item.Reads (tokens e) (value e) barred)
    (hclosing : .symbol closing ∉ barred) :
    (manyUntil closing item).Reads (entries.flatMap tokens ++ [.symbol closing])
      (entries.map value) [] := by
  intro rest _
  have hmany : many (· ≠ .symbol closing) item
      (entries.flatMap tokens ++ .symbol closing :: rest) =
      .ok (entries.map value, .symbol closing :: rest) := by
    refine reads_many (fun e he => ?_) hread (fun t ht => ?_) (clear_cons hclosing rest)
    · obtain ⟨t, ts, htokens, hne, hbarred⟩ := hstart e he
      exact ⟨t, ts, htokens, by simp [hne], hbarred⟩
    · cases ht
      simp
  unfold manyUntil
  rw [List.append_assoc]
  apply (bind_ok hmany).trans
  exact bind_ok (symbol_cons closing rest)

/-- A bracketed list with at least one item, without its opening bracket. -/
theorem reads_someUntil {closing : Char} {item : Rule α} {barred : List Token}
    {first : β} {others : List β} {tokens : β → List Token} {value : β → α}
    (hstart : ∀ e ∈ others, ∃ t ts, tokens e = t :: ts ∧ t ≠ .symbol closing ∧ t ∉ barred)
    (hread : ∀ e ∈ first :: others, item.Reads (tokens e) (value e) barred)
    (hclosing : .symbol closing ∉ barred) :
    (someUntil closing item).Reads ((first :: others).flatMap tokens ++ [.symbol closing])
      ((first :: others).map value) [] := by
  intro rest hrest
  have hmore := reads_manyUntil hstart (fun e he => hread e (List.mem_cons_of_mem _ he)) hclosing
    rest hrest
  have hnext : Clear barred (others.flatMap tokens ++ [.symbol closing] ++ rest) := by
    cases others with
    | nil => exact clear_cons hclosing rest
    | cons next _ =>
        obtain ⟨t, ts, htokens, -, hbarred⟩ := hstart next (by simp)
        rw [List.flatMap_cons, htokens]
        exact clear_cons hbarred _
  have hfirst := hread first List.mem_cons_self _ hnext
  unfold someUntil
  rw [List.flatMap_cons]
  simp only [List.append_assoc] at hfirst hmore ⊢
  apply (bind_ok hfirst).trans
  exact bind_ok hmore

theorem reads_manyAfter {c : Char} {item : Rule α} {barred : List Token} {entries : List β}
    {tokens : β → List Token} {value : β → α}
    (hread : ∀ e ∈ entries, item.Reads (tokens e) (value e) barred)
    (hbarred : .symbol c ∉ barred) :
    (manyAfter c item).Reads (entries.flatMap fun e => .symbol c :: tokens e)
      (entries.map value) (.symbol c :: barred) := by
  intro rest hrest
  have hitem : ∀ e ∈ entries,
      Reads (do symbol c; item) (.symbol c :: tokens e) (value e) barred := by
    intro e he after hafter
    apply (bind_ok (symbol_cons c _)).trans
    exact hread e he after hafter
  unfold manyAfter
  refine reads_many (fun e _ => ⟨.symbol c, tokens e, rfl, by simp, hbarred⟩) hitem ?_
    (hrest.mono fun _ => List.mem_cons_of_mem _)
  intro t ht
  rw [decide_eq_false_iff_not]
  rintro rfl
  exact hrest _ List.mem_cons_self ht

/-! ### What results are like -/

/-- Every `name` among the tokens has `isName`. -/
def Named (ts : List Token) : Prop := ∀ text, .name text ∈ ts → isName text = true

theorem named_of_lex (cs : List Char) : Named (upToUnreadable (lex cs)) :=
  fun _ htext => isName_of_mem_lex (mem_of_mem_upToUnreadable htext)

theorem named_of_append {used rest : List Token} (h : Named (used ++ rest)) : Named rest :=
  fun text htext => h text (List.mem_append_right used htext)

/-- Every result from tokens that are `Named` is as `P` says, and the tokens taken are readable. -/
def Yields (rule : Rule α) (P : α → Prop) : Prop :=
  ∀ ts, Named ts → ∀ a rest, rule ts = .ok (a, rest) →
    P a ∧ ∃ used, ts = used ++ rest ∧ .unreadable ∉ used

theorem Yields.mono {rule : Rule α} {P Q : α → Prop} (h : rule.Yields P)
    (hPQ : ∀ a, P a → Q a) : rule.Yields Q := by
  intro ts hnamed a rest hok
  obtain ⟨ha, hused⟩ := h ts hnamed a rest hok
  exact ⟨hPQ a ha, hused⟩

theorem yields_pure {P : α → Prop} {a : α} (h : P a) : Yields (pure a) P := by
  intro ts _ b rest hok
  cases hok
  exact ⟨h, [], rfl, List.not_mem_nil⟩

/-- The steps of a rule yield what its last step does. -/
theorem Yields.bind {rule : Rule α} {next : α → Rule β} {P : α → Prop} {Q : β → Prop}
    (h : rule.Yields P) (hnext : ∀ a, P a → (next a).Yields Q) : Yields (rule >>= next) Q := by
  intro ts hnamed b rest hok
  obtain ⟨a, mid, hfirst, hsecond⟩ := of_bind_ok hok
  obtain ⟨ha, used, rfl, hused⟩ := h ts hnamed a mid hfirst
  obtain ⟨hb, more, rfl, hmore⟩ :=
    hnext a ha mid (named_of_append hnamed) b rest hsecond
  refine ⟨hb, used ++ more, (List.append_assoc ..).symm, ?_⟩
  rw [List.mem_append, not_or]
  exact ⟨hused, hmore⟩

theorem Yields.map {rule : Rule α} {f : α → β} {P : α → Prop} {Q : β → Prop}
    (h : rule.Yields P) (hf : ∀ a, P a → Q (f a)) : Yields (f <$> rule) Q := by
  intro ts hnamed b rest hok
  obtain ⟨⟨a, mid⟩, hfirst, hsecond⟩ := bind_eq_ok.mp
    (show (rule ts >>= fun p => Except.ok (f p.1, p.2)) = .ok (b, rest) from hok)
  cases hsecond
  obtain ⟨ha, hused⟩ := h ts hnamed a _ hfirst
  exact ⟨hf a ha, hused⟩

theorem yields_fail {P : α → Prop} : Yields (fail : Rule α) P := by
  intro ts _ a rest hok
  cases hok

theorem yields_throw {P : α → Prop} (e : List Token) : Yields (throw e : Rule α) P := by
  intro ts _ a rest hok
  cases hok

theorem yields_get : Yields (get : Rule (List Token)) fun _ => True := by
  intro ts _ a rest hok
  cases hok
  exact ⟨trivial, [], rfl, List.not_mem_nil⟩

theorem yields_peek : Yields peek fun _ => True := by
  intro ts _ a rest hok
  cases hok
  exact ⟨trivial, [], rfl, List.not_mem_nil⟩

theorem yields_isNext (t : Token) : Yields (isNext t) fun _ => True := by
  intro ts _ a rest hok
  cases hok
  exact ⟨trivial, [], rfl, List.not_mem_nil⟩

theorem yields_name : Yields name fun text => isName text = true := by
  intro ts hnamed a rest hok
  obtain rfl := eq_cons_of_name hok
  exact ⟨hnamed a List.mem_cons_self, [.name a], rfl, by simp⟩

theorem yields_token {t : Token} (h : t ≠ .unreadable) : Yields (token t) fun _ => True := by
  intro ts _ a rest hok
  obtain rfl := eq_cons_of_token hok
  exact ⟨trivial, [t], rfl, by simp [Ne.symm h]⟩

theorem yields_symbol (c : Char) : Yields (symbol c) fun _ => True :=
  yields_token (by simp)

theorem yields_keyword (text : String) : Yields (keyword text) fun _ => True :=
  yields_token (by simp)

theorem yields_option {t : Token} (h : t ≠ .unreadable) : Yields (option t) fun _ => True := by
  intro ts _ a rest hok
  rcases option_eq_ok hok with ⟨-, rfl⟩ | ⟨-, rfl, -⟩
  · exact ⟨trivial, [t], rfl, by simp [Ne.symm h]⟩
  · exact ⟨trivial, [], rfl, List.not_mem_nil⟩

theorem yields_many {starts : Token → Bool} {item : Rule α} {P : α → Prop}
    (h : item.Yields P) : Yields (many starts item) fun as => ∀ a ∈ as, P a := by
  intro ts
  fun_induction many starts item ts with
  | case1 =>
      intro _ as rest hok
      cases hok
      exact ⟨by simp, [], rfl, List.not_mem_nil⟩
  | case2 t ts hstarts e hitem =>
      intro _ as rest hok
      cases hok
  | case3 t ts hstarts a after hitem hlt e hmany ih =>
      intro _ as rest hok
      cases hok
  | case4 t ts hstarts a after hitem hlt others final hmany ih =>
      intro hnamed as rest hok
      cases hok
      obtain ⟨ha, used, hsplit, hused⟩ := h _ hnamed a after hitem
      rw [hsplit] at hnamed ⊢
      obtain ⟨hothers, more, hsplit', hmore⟩ := ih (named_of_append hnamed) others _ hmany
      refine ⟨List.forall_mem_cons.mpr ⟨ha, hothers⟩, used ++ more, ?_, ?_⟩
      · rw [hsplit', List.append_assoc]
      · rw [List.mem_append, not_or]
        exact ⟨hused, hmore⟩
  | case5 t ts hstarts a after hitem hlt =>
      intro _ as rest hok
      cases hok
  | case6 t ts hstarts =>
      intro _ as rest hok
      cases hok
      exact ⟨by simp, [], rfl, List.not_mem_nil⟩

theorem yields_manyUntil {closing : Char} {item : Rule α} {P : α → Prop} (h : item.Yields P) :
    Yields (manyUntil closing item) fun as => ∀ a ∈ as, P a := by
  unfold manyUntil
  refine Yields.bind (yields_many h) fun as has => ?_
  exact Yields.bind (yields_symbol closing) fun _ _ => yields_pure has

theorem yields_someUntil {closing : Char} {item : Rule α} {P : α → Prop} (h : item.Yields P) :
    Yields (someUntil closing item) fun as => as ≠ [] ∧ ∀ a ∈ as, P a := by
  unfold someUntil
  refine Yields.bind h fun a ha => ?_
  refine Yields.bind (yields_manyUntil h) fun as has => ?_
  exact yields_pure ⟨List.cons_ne_nil a as, List.forall_mem_cons.mpr ⟨ha, has⟩⟩

theorem yields_manyAfter {c : Char} {item : Rule α} {P : α → Prop} (h : item.Yields P) :
    Yields (manyAfter c item) fun as => ∀ a ∈ as, P a := by
  unfold manyAfter
  exact yields_many (Yields.bind (yields_symbol c) fun _ _ => h)

/-- A rule that takes all tokens of a text reads the text: none of them is `unreadable`. -/
theorem readAll_of_lex {rule : Rule α} {P : α → Prop} {text : String} {a : α}
    (h : rule.Yields P) (hok : rule (lex text.toList) = .ok (a, [])) :
    readAll rule text = .ok a := by
  have hnamed : Named (lex text.toList) := fun _ => isName_of_mem_lex
  obtain ⟨-, used, hused, hreadable⟩ := h _ hnamed a [] hok
  rw [List.append_nil] at hused
  rw [← hused] at hreadable
  rw [readAll_eq_ok, upToUnreadable_of_not_mem hreadable]
  exact hok

end Rule

end QueryBindings.Grammar

import QueryBindings.Proofs.Grammar.LiteralLexing
import QueryBindings.Proofs.Grammar.RuleLaws
import QueryBindings.Proofs.Tables

/-! # Texts of values

The canonical text of a value is laid out from names, literals and brackets, so it reads as some
value again wherever the first one could stand, unless a literal in it cannot be read.  That the
second value has the same text is not true of every literal; `ReadsBack` says it of a text.

Main statements: `yields_value` (what values are read), `Value.Readable.settled` (their texts
read as values), `legible_of_readsBack` (a text that reads back does so in its place),
`yields_valueText` (what texts are read). -/

namespace QueryBindings.Grammar

open Number Rule Text

/-! ### Values that can be read -/

/-- A value with as many brackets as `depth` allows, and names where names stand. -/
inductive Value.Readable (references : Bool) : Nat → Value → Prop where
  | reference {depth : Nat} {name : String} (hallowed : references = true)
      (hname : isName name = true) : Readable references depth (.reference name)
  | int (depth : Nat) (n : Int) : Readable references depth (.int n)
  | float (depth : Nat) (b : Binary64) : Readable references depth (.float b)
  | string (depth : Nat) (text : String) : Readable references depth (.string text)
  | word {depth : Nat} {text : String} (hname : isName text = true) :
      Readable references depth (.word text)
  | list {depth : Nat} {items : List Value} (h : ∀ v ∈ items, Readable references depth v) :
      Readable references (depth + 1) (.list items)
  | object {depth : Nat} {fields : List (String × Value)}
      (hnames : ∀ f ∈ fields, isName f.1 = true)
      (h : ∀ f ∈ fields, Readable references depth f.2) :
      Readable references (depth + 1) (.object fields)

theorem yields_plainValue (references : Bool) (depth : Nat) :
    (plainValue references).Yields (Value.Readable references depth) := by
  intro ts hnamed v rest hok
  unfold plainValue at hok
  split at hok
  · cases hok
    exact ⟨.int _ _, [_], rfl, by simp⟩
  · cases hok
    exact ⟨.float _ _, [_], rfl, by simp⟩
  · cases hok
    exact ⟨.string _ _, [_], rfl, by simp⟩
  · cases hok
    exact ⟨.word (hnamed _ List.mem_cons_self), [_], rfl, by simp⟩
  · split at hok
    · rename_i more hallowed
      have hreference : Yields (do let n ← name; return .reference n : Rule Value)
          (Value.Readable references depth) :=
        Yields.bind yields_name fun n hn => yields_pure (.reference hallowed hn)
      obtain ⟨hv, used, rfl, hused⟩ :=
        hreference _ (fun text htext => hnamed text (List.mem_cons_of_mem _ htext)) v rest hok
      exact ⟨hv, .symbol '$' :: used, rfl, by simp [hused]⟩
    · cases hok
  · cases hok

/-- What `value` reads is `Readable` in its place. -/
theorem yields_value (references : Bool) (depth : Nat) :
    (value references depth).Yields (Value.Readable references depth) := by
  induction depth with
  | zero => exact yields_plainValue references 0
  | succ depth ih =>
      unfold value
      refine Yields.bind (yields_option (by simp)) fun isList _ => ?_
      split
      · refine Yields.bind (yields_manyUntil ih) fun items hitems => ?_
        exact yields_pure (.list hitems)
      · refine Yields.bind (yields_option (by simp)) fun isObject _ => ?_
        split
        · have hfield : Yields (do
              let n ← name
              symbol ':'
              return (n, ← value references depth) : Rule (String × Value))
              fun f => isName f.1 = true ∧ f.2.Readable references depth := by
            refine Yields.bind yields_name fun n hn => ?_
            refine Yields.bind (yields_symbol ':') fun _ _ => ?_
            exact Yields.bind ih fun v hv => yields_pure ⟨hn, hv⟩
          refine Yields.bind (yields_manyUntil hfield) fun fields hfields => ?_
          exact yields_pure (.object (fun f hf => (hfields f hf).1) fun f hf => (hfields f hf).2)
        · exact yields_plainValue references (depth + 1)

/-! ### Texts that read as values -/

/-- Tokens that read as `v` wherever one with these brackets and references may stand. -/
def ReadsAs (references : Bool) (depth : Nat) (ts : List Token) (v : Value) : Prop :=
  ∀ references' depth', (references = true → references' = true) → depth ≤ depth' →
    (value references' depth').Reads ts v []

/-- A text that is `Spoiled`, or reads as a value. -/
def Settled (references : Bool) (depth : Nat) (cs : List Char) : Prop :=
  Spoiled cs ∨ ∃ ts v, Lexed cs ts ∧ ReadsAs references depth ts v

/-- A literal token reads as a value in any place. -/
theorem reads_literal {t : Token} (h : (∃ n, t = .int n) ∨ (∃ b, t = .float b) ∨
    (∃ text, t = .string text) ∨ ∃ text, t = .name text) :
    ∃ v, ∀ references depth, (value references depth).Reads [t] v [] := by
  rcases h with ⟨n, rfl⟩ | ⟨b, rfl⟩ | ⟨text, rfl⟩ | ⟨text, rfl⟩
  · exact ⟨.int n, fun _ depth _ _ => by cases depth <;> rfl⟩
  · exact ⟨.float b, fun _ depth _ _ => by cases depth <;> rfl⟩
  · exact ⟨.string text, fun _ depth _ _ => by cases depth <;> rfl⟩
  · exact ⟨.word text, fun _ depth _ _ => by cases depth <;> rfl⟩

theorem settled_literal {cs : List Char} {t : Token} (hlexed : Lexed cs [t])
    (h : (∃ n, t = .int n) ∨ (∃ b, t = .float b) ∨ (∃ text, t = .string text) ∨
      ∃ text, t = .name text) (references : Bool) (depth : Nat) : Settled references depth cs := by
  obtain ⟨v, hv⟩ := reads_literal h
  exact .inr ⟨[t], v, hlexed, fun references' depth' _ _ => hv references' depth'⟩

theorem settled_numeral {cs : List Char} (h : isNumeral cs = true) (references : Bool)
    (depth : Nat) : Settled references depth cs := by
  have hlexed := lexed_numeral h
  cases htoken : numberToken? cs with
  | none =>
      rw [htoken] at hlexed
      exact .inl (hlexed.spoiled List.mem_cons_self)
  | some t =>
      rw [htoken] at hlexed
      rcases numberToken?_eq_some htoken with hint | hfloat
      · exact settled_literal hlexed (.inl hint) references depth
      · exact settled_literal hlexed (.inr (.inl hfloat)) references depth

/-! ### Numbers -/

theorem isAsciiDigit_of_isDigit {c : Char} (h : c.isDigit = true) : isAsciiDigit c = true := by
  rw [Char.isDigit_iff_toNat] at h
  unfold isAsciiDigit
  rw [Bool.and_eq_true, decide_eq_true_eq, decide_eq_true_eq]
  exact h

theorem not_endsNumber_of_isDigit {c : Char} (h : c.isDigit = true) : endsNumber c = false :=
  not_endsNumber_of_isNamePart (isNamePart_of_isAsciiDigit (isAsciiDigit_of_isDigit h))

/-- Digits and points that begin with a digit. -/
def isDecimal : List Char → Bool
  | [] => false
  | c :: rest => c.isDigit && rest.all fun d => d.isDigit || d = '.'

theorem not_endsNumber_of_all {cs : List Char}
    (h : (cs.all fun d => d.isDigit || d = '.') = true) :
    (cs.all fun d => !endsNumber d) = true := by
  rw [List.all_eq_true] at h ⊢
  intro d hd
  rcases Bool.or_eq_true_iff.mp (h d hd) with hdigit | hpoint
  · rw [not_endsNumber_of_isDigit hdigit]
    rfl
  · rw [of_decide_eq_true hpoint]
    rfl

theorem isNumeral_of_isDecimal {cs : List Char} (h : isDecimal cs = true) :
    isNumeral cs = true := by
  unfold isDecimal at h
  split at h
  · cases h
  · rename_i c rest
    obtain ⟨hc, hrest⟩ := Bool.and_eq_true_iff.mp h
    show ((decide (c = '-') || isAsciiDigit c) && rest.all fun d => !endsNumber d) = true
    rw [isAsciiDigit_of_isDigit hc, not_endsNumber_of_all hrest, Bool.or_true]
    rfl

theorem isNumeral_minus_of_isDecimal {cs : List Char} (h : isDecimal cs = true) :
    isNumeral ('-' :: cs) = true := by
  unfold isDecimal at h
  split at h
  · cases h
  · rename_i c rest
    obtain ⟨hc, hrest⟩ := Bool.and_eq_true_iff.mp h
    show ((c :: rest).all fun d => !endsNumber d) = true
    rw [List.all_cons, not_endsNumber_of_isDigit hc, not_endsNumber_of_all hrest]
    rfl

theorem isDecimal_append {digits more : List Char} (h : isDecimal digits = true)
    (hmore : (more.all fun d => d.isDigit || d = '.') = true) :
    isDecimal (digits ++ more) = true := by
  cases digits with
  | nil => cases h
  | cons c rest =>
      obtain ⟨hc, hrest⟩ := Bool.and_eq_true_iff.mp (show (c.isDigit && _) = true from h)
      show (c.isDigit && (rest ++ more).all _) = true
      rw [hc, List.all_append, hrest, hmore]
      rfl

theorem all_digits (n : Nat) :
    ((Nat.toDigits 10 n).all fun d => d.isDigit || d = '.') = true := by
  rw [List.all_eq_true]
  intro d hd
  rw [Nat.isDigit_of_mem_toDigits (by decide) (by decide) hd]
  rfl

theorem isDecimal_of_all {cs : List Char} (hne : cs ≠ []) (h : ∀ c ∈ cs, c.isDigit = true) :
    isDecimal cs = true := by
  obtain ⟨c, rest, rfl⟩ := List.exists_cons_of_ne_nil hne
  show (c.isDigit && rest.all fun d => d.isDigit || d = '.') = true
  rw [h c List.mem_cons_self, Bool.true_and, List.all_eq_true]
  intro d hd
  rw [h d (List.mem_cons_of_mem c hd)]
  rfl

theorem isDecimal_toDigits (n : Nat) : isDecimal (Nat.toDigits 10 n) = true :=
  isDecimal_of_all Nat.toDigits_ne_nil fun _ =>
    Nat.isDigit_of_mem_toDigits (by decide) (by decide)

theorem isDecimal_positional (d : Decimal) : isDecimal d.positional = true := by
  have hdigits : ∀ c ∈ Nat.toDigits 10 d.digits, c.isDigit = true := fun _ =>
    Nat.isDigit_of_mem_toDigits (by decide) (by decide)
  have hzeros : ∀ n, ((List.replicate n '0').all fun d => d.isDigit || d = '.') = true := by
    intro n
    rw [List.all_replicate]
    split <;> rfl
  unfold Decimal.positional
  dsimp only
  split
  · show isDecimal (['0'] ++ ('.' :: List.replicate d.point.natAbs '0' ++ _)) = true
    apply isDecimal_append rfl
    rw [List.all_append, List.all_cons, hzeros, all_digits]
    rfl
  · rename_i hpoint
    split
    · exact isDecimal_append (isDecimal_toDigits d.digits) (hzeros _)
    · refine isDecimal_append (isDecimal_of_all ?_ fun c hc => ?_) ?_
      · intro hnil
        rcases List.take_eq_nil_iff.mp hnil with hzero | hempty
        · omega
        · exact Nat.toDigits_ne_nil hempty
      · exact hdigits c (List.mem_of_mem_take hc)
      · rw [List.all_cons, List.all_eq_true.mpr]
        · rfl
        · intro c hc
          rw [hdigits c (List.mem_of_mem_drop hc)]
          rfl

theorem settled_int (references : Bool) (depth : Nat) (n : Int) :
    Settled references depth (toString n).toList := by
  refine settled_numeral ?_ references depth
  cases n with
  | ofNat n =>
      show isNumeral (toString n).toList = true
      rw [Nat.toString_eq_ofList_toDigits, String.toList_ofList]
      exact isNumeral_of_isDecimal (isDecimal_toDigits n)
  | negSucc n =>
      have htext : ("-" ++ toString (n + 1)).toList = '-' :: Nat.toDigits 10 (n + 1) := by
        rw [String.toList_append, Nat.toString_eq_ofList_toDigits]
        exact congrArg ('-' :: ·) String.toList_ofList
      show isNumeral ("-" ++ toString (n + 1)).toList = true
      rw [htext]
      exact isNumeral_minus_of_isDecimal (isDecimal_toDigits (n + 1))

theorem settled_float (references : Bool) (depth : Nat) (b : Binary64) :
    Settled references depth b.positional.toList := by
  have hfinite : ∀ size, isDecimal size = true →
      Settled references depth (b.signed size).toList := by
    intro size hsize
    refine settled_numeral ?_ references depth
    unfold Binary64.signed
    rw [String.toList_ofList]
    split
    · exact isNumeral_minus_of_isDecimal hsize
    · exact isNumeral_of_isDecimal hsize
  unfold Binary64.positional
  split
  · unfold Binary64.signed
    rw [String.toList_ofList]
    split
    · exact settled_numeral (by decide) references depth
    · have hlexed : Lexed "inf".toList [.name "inf"] := lexed_name (by decide)
      exact settled_literal hlexed (.inr (.inr (.inr ⟨"inf", rfl⟩))) references depth
  · exact hfinite ['0'] (by decide)
  · exact hfinite _ (isDecimal_positional _)

theorem settled_string (references : Bool) (depth : Nat) (text : String) :
    Settled references depth (Value.stringText text).toList := by
  unfold Value.stringText
  dsimp only
  rw [String.toList_ofList]
  split
  · rcases lexed_inline text.toList with hspoiled | ⟨value, hlexed⟩
    · exact .inl hspoiled
    · exact settled_literal hlexed (.inr (.inr (.inl ⟨value, rfl⟩))) references depth
  · obtain ⟨value, hlexed⟩ := lexed_block text.toList
    exact settled_literal hlexed (.inr (.inr (.inl ⟨value, rfl⟩))) references depth

/-! ### Lists and objects -/

theorem lexed_intercalate {α : Type} {P : List Token → α → Prop} {texts : List (List Char)}
    (h : ∀ text ∈ texts, Spoiled text ∨ ∃ ts a, Lexed text ts ∧ P ts a) :
    Spoiled ([',', ' '].intercalate texts) ∨
      ∃ entries : List (List Token × α),
        Lexed ([',', ' '].intercalate texts) (entries.flatMap Prod.fst) ∧
          ∀ e ∈ entries, P e.1 e.2 := by
  have hcomma : Closed [',', ' '] [] := closed_of_ignored rfl
  induction texts with
  | nil => exact .inr ⟨[], Closed.nil.lexed, by simp⟩
  | cons text others ih =>
      have hfirst := h text List.mem_cons_self
      cases others with
      | nil =>
          rw [List.intercalate_singleton]
          rcases hfirst with hspoiled | ⟨ts, a, hlexed, ha⟩
          · exact .inl hspoiled
          · refine .inr ⟨[(ts, a)], ?_, by simpa using ha⟩
            rw [List.flatMap_cons, List.flatMap_nil, List.append_nil]
            exact hlexed
      | cons next more =>
          rw [List.intercalate_cons_cons, List.append_assoc]
          rcases hfirst with hspoiled | ⟨ts, a, hlexed, ha⟩
          · exact .inl (hspoiled.append fun _ _ => rfl)
          rw [← List.append_assoc]
          have hclosed : Closed (text ++ [',', ' ']) (ts ++ []) :=
            hlexed.append_closed hcomma fun _ => rfl
          rw [List.append_nil] at hclosed
          rcases ih fun t ht => h t (List.mem_cons_of_mem text ht) with
            hspoiled | ⟨entries, hothers, hentries⟩
          · exact .inl (hclosed.append_spoiled hspoiled)
          · exact .inr ⟨(ts, a) :: entries, hclosed.append_lexed hothers,
              List.forall_mem_cons.mpr ⟨ha, hentries⟩⟩

theorem starts_of_reads {references : Bool} {depth : Nat} {ts : List Token} {v : Value}
    (h : (value references depth).Reads ts v []) :
    ∃ t rest, ts = t :: rest ∧ t ≠ .symbol ']' ∧ t ∉ ([] : List Token) := by
  cases ts with
  | nil =>
      have hok := h [] (clear_nil [])
      cases depth <;> cases hok
  | cons t rest =>
      refine ⟨t, rest, rfl, ?_, List.not_mem_nil⟩
      rintro rfl
      have hok := h [] (clear_nil [])
      cases depth <;> cases hok

theorem readsAs_list {references : Bool} {depth : Nat} {entries : List (List Token × Value)}
    (h : ∀ e ∈ entries, ReadsAs references depth e.1 e.2) :
    ReadsAs references (depth + 1) (.symbol '[' :: (entries.flatMap Prod.fst ++ [.symbol ']']))
      (.list (entries.map Prod.snd)) := by
  intro references' depth' hreferences hdepth rest hrest
  obtain ⟨more, rfl⟩ := Nat.exists_eq_add_one.mpr (Nat.lt_of_lt_of_le (Nat.succ_pos depth) hdepth)
  have hread : ∀ e ∈ entries, (value references' more).Reads e.1 e.2 [] :=
    fun e he => h e he references' more hreferences (Nat.le_of_succ_le_succ hdepth)
  have hitems : (manyUntil ']' (value references' more)).Reads
      (entries.flatMap Prod.fst ++ [.symbol ']']) (entries.map Prod.snd) [] :=
    reads_manyUntil (fun e he => starts_of_reads (hread e he)) hread List.not_mem_nil
  unfold value
  apply (bind_ok (option_cons _ _)).trans
  exact bind_ok (hitems rest hrest)

theorem readsAs_object {references : Bool} {depth : Nat}
    {entries : List (List Token × (String × Value))}
    (h : ∀ e ∈ entries, ∃ ts, e.1 = .name e.2.1 :: .symbol ':' :: ts ∧
      ReadsAs references depth ts e.2.2) :
    ReadsAs references (depth + 1)
      (.symbol '\x7b' :: (entries.flatMap Prod.fst ++ [.symbol '\x7d']))
      (.object (entries.map Prod.snd)) := by
  intro references' depth' hreferences hdepth rest hrest
  obtain ⟨more, rfl⟩ := Nat.exists_eq_add_one.mpr (Nat.lt_of_lt_of_le (Nat.succ_pos depth) hdepth)
  have hread : ∀ e ∈ entries, Reads (do
      let n ← name
      symbol ':'
      return (n, ← value references' more)) e.1 e.2 [] := by
    intro e he after hafter
    obtain ⟨ts, htokens, hvalue⟩ := h e he
    rw [htokens]
    apply (bind_ok (name_cons _ _)).trans
    apply (bind_ok (symbol_cons _ _)).trans
    exact bind_ok (hvalue references' more hreferences (Nat.le_of_succ_le_succ hdepth) after hafter)
  have hstart : ∀ e ∈ entries, ∃ t ts, e.1 = t :: ts ∧ t ≠ .symbol '\x7d' ∧
      t ∉ ([] : List Token) := by
    intro e he
    obtain ⟨ts, htokens, -⟩ := h e he
    exact ⟨_, _, htokens, by simp, List.not_mem_nil⟩
  have hfields := reads_manyUntil hstart hread List.not_mem_nil
  unfold value
  have hopen : Clear [.symbol '['] (.symbol '\x7b' ::
      (entries.flatMap Prod.fst ++ [.symbol '\x7d']) ++ rest) := clear_cons (by simp) _
  apply (bind_ok (option_of_clear hopen)).trans
  apply (bind_ok (option_cons _ _)).trans
  exact bind_ok (hfields rest hrest)

theorem texts_eq_map (vs : List Value) : Value.texts vs = vs.map Value.text := by
  induction vs with
  | nil => rw [Value.texts, List.map_nil]
  | cons v vs ih => rw [Value.texts, List.map_cons, ih]

theorem memberTexts_eq_map (fields : List (String × Value)) :
    Value.memberTexts fields = fields.map fun f => (f.1, f.2.text) := by
  induction fields with
  | nil => rw [Value.memberTexts, List.map_nil]
  | cons f fields ih => rw [Value.memberTexts, List.map_cons, ih]

theorem settled_list {references : Bool} {depth : Nat} {items : List Value}
    (h : ∀ v ∈ items, Settled references depth v.text.toList) :
    Settled references (depth + 1) (Value.list items).text.toList := by
  have hopen : Closed ['['] [.symbol '['] := closed_symbol rfl
  have hclose : Closed [']'] [.symbol ']'] := closed_symbol rfl
  have htext : (Value.list items).text.toList =
      ['['] ++ ([',', ' '].intercalate (items.map fun v => v.text.toList) ++ [']']) := by
    rw [Value.text, texts_eq_map]
    simp [String.toList_intercalate, Function.comp_def]
  have hitems : ∀ text ∈ items.map fun v => v.text.toList,
      Spoiled text ∨ ∃ ts v, Lexed text ts ∧ ReadsAs references depth ts v := by
    intro text htext
    obtain ⟨v, hv, rfl⟩ := List.mem_map.mp htext
    exact h v hv
  rw [htext]
  rcases lexed_intercalate hitems with hspoiled | ⟨entries, hlexed, hentries⟩
  · exact .inl (hopen.append_spoiled (hspoiled.append fun _ _ => rfl))
  · exact .inr ⟨_, _, (hopen.append (hlexed.append_closed hclose fun _ => rfl)).lexed,
      readsAs_list hentries⟩

theorem settled_object {references : Bool} {depth : Nat} {fields : List (String × Value)}
    (hnames : ∀ f ∈ fields, isName f.1 = true)
    (h : ∀ f ∈ fields, Settled references depth f.2.text.toList) :
    Settled references (depth + 1) (Value.object fields).text.toList := by
  have hopen : Closed ['\x7b'] [.symbol '\x7b'] := closed_symbol rfl
  have hclose : Closed ['\x7d'] [.symbol '\x7d'] := closed_symbol rfl
  have hspace : Closed [' '] [] := closed_of_ignored rfl
  have hcolon : Closed [':', ' '] [.symbol ':'] := (closed_symbol rfl).append hspace
  -- The fields are written in name order, the last of a repeated one only.
  let members := (Table.ofList (fields.map fun f => (f.1, f.2.text))).entries
  have htext : (Value.object fields).text.toList = ['\x7b'] ++ ([',', ' '].intercalate
      (members.map fun m => m.1.toList ++ [':', ' '] ++ m.2.toList) ++ ['\x7d']) := by
    rw [Value.text, memberTexts_eq_map]
    show ("\x7b" ++ ", ".intercalate (members.map fun m => m.1 ++ ": " ++ m.2) ++ "\x7d").toList = _
    simp [String.toList_intercalate, Function.comp_def]
  have hmembers : ∀ text ∈ members.map fun m => m.1.toList ++ [':', ' '] ++ m.2.toList,
      Spoiled text ∨ ∃ ts, ∃ f : String × Value, Lexed text ts ∧
        ∃ us, ts = .name f.1 :: .symbol ':' :: us ∧ ReadsAs references depth us f.2 := by
    intro text htext
    obtain ⟨m, hm, rfl⟩ := List.mem_map.mp htext
    obtain ⟨f, hf, rfl⟩ := List.mem_map.mp (Table.mem_of_mem_ofList hm)
    have hname : Closed (f.1.toList ++ [':', ' ']) ([.name f.1] ++ [.symbol ':']) :=
      (lexed_name (hnames f hf)).append_closed hcolon fun _ => rfl
    rcases h f hf with hspoiled | ⟨ts, v, hlexed, hreads⟩
    · exact .inl (hname.append_spoiled hspoiled)
    · exact .inr ⟨_, (f.1, v), hname.append_lexed hlexed, ts, rfl, hreads⟩
  rw [htext]
  rcases lexed_intercalate hmembers with hspoiled | ⟨entries, hlexed, hentries⟩
  · exact .inl (hopen.append_spoiled (hspoiled.append fun _ _ => rfl))
  · exact .inr ⟨_, _, (hopen.append (hlexed.append_closed hclose fun _ => rfl)).lexed,
      readsAs_object hentries⟩

/-- The text of a value that is `Readable` reads as a value in its place, unless it is `Spoiled`. -/
theorem Value.Readable.settled {references : Bool} {depth : Nat} {v : Value}
    (h : v.Readable references depth) : Settled references depth v.text.toList := by
  induction h with
  | @reference depth name hallowed hname =>
      have hdollar : Closed ['$'] [.symbol '$'] := closed_symbol rfl
      rw [Value.text, String.toList_append]
      refine .inr ⟨_, .reference name, hdollar.append_lexed (lexed_name hname), ?_⟩
      intro references' depth' hreferences _ rest _
      rw [hreferences hallowed]
      cases depth' <;> rfl
  | int depth n =>
      rw [Value.text]
      exact settled_int references depth n
  | float depth b =>
      rw [Value.text]
      exact settled_float references depth b
  | string depth text =>
      rw [Value.text]
      exact settled_string references depth text
  | word hname =>
      rw [Value.text]
      exact settled_literal (lexed_name hname) (.inr (.inr (.inr ⟨_, rfl⟩))) references _
  | list _ ih => exact settled_list ih
  | object hnames _ ih => exact settled_object hnames ih

/-! ### Texts that read back -/

/-- `text` reads as a value whose canonical text it is. -/
def ReadsBack (text : String) : Prop :=
  ∃ v, readAll (value true nestingLimit) text = .ok v ∧ v.text = text

/-- `text` keeps its own tokens before a stop, and they read as a value with this text. -/
structure Legible (references : Bool) (depth : Nat) (text : String) : Prop where
  lexed : Lexed text.toList (lex text.toList)
  reads : (valueText references depth).Reads (lex text.toList) text []

/-- The text of a value that reads back does so wherever the value stands. -/
theorem legible_of_readsBack {references : Bool} {depth : Nat} {v : Value}
    (hreadable : v.Readable references depth) (hdepth : depth ≤ nestingLimit)
    (hback : ReadsBack v.text) : Legible references depth v.text := by
  obtain ⟨w, hw, hsame⟩ := hback
  rw [readAll_eq_ok] at hw
  obtain ⟨-, used, hused, hclean⟩ :=
    yields_value true nestingLimit _ (named_of_lex v.text.toList) w [] hw
  rw [List.append_nil] at hused
  rw [← hused] at hclean
  have hreadable' := not_mem_of_not_mem_upToUnreadable hclean
  rw [upToUnreadable_of_not_mem hreadable'] at hw
  rcases hreadable.settled with hspoiled | ⟨ts, u, hlexed, hreads⟩
  · have := hspoiled [] rfl
    rw [List.append_nil] at this
    exact absurd this hreadable'
  have hts := hlexed.lex_eq
  subst hts
  have hu := hreads true nestingLimit (fun _ => rfl) hdepth [] (clear_nil [])
  rw [List.append_nil, hw] at hu
  cases hu
  refine ⟨hlexed, fun rest hrest => ?_⟩
  unfold valueText
  apply (bind_ok (hreads references depth id (Nat.le_refl depth) rest hrest)).trans
  rw [hsame]
  rfl

/-- The canonical text of a value that is `Readable`. -/
def Placed (references : Bool) (depth : Nat) (text : String) : Prop :=
  ∃ v : Value, v.Readable references depth ∧ v.text = text

theorem Placed.legible {references : Bool} {depth : Nat} {text : String}
    (h : Placed references depth text) (hdepth : depth ≤ nestingLimit) (hback : ReadsBack text) :
    Legible references depth text := by
  obtain ⟨v, hv, rfl⟩ := h
  exact legible_of_readsBack hv hdepth hback

theorem Placed.settled {references : Bool} {depth : Nat} {text : String}
    (h : Placed references depth text) : Settled references depth text.toList := by
  obtain ⟨v, hv, rfl⟩ := h
  exact hv.settled

theorem yields_valueText (references : Bool) (depth : Nat) :
    (valueText references depth).Yields (Placed references depth) := by
  unfold valueText
  refine Yields.bind (yields_value references depth) fun v hv => ?_
  exact yields_pure ⟨v, hv, rfl⟩

end QueryBindings.Grammar

import QueryBindings.Grammar.Rule

/-! # Lexing piece by piece

`lex` gives the tokens of a text without their positions, and reads on behind what is
unreadable; the tokens that rules see are those up to the first unreadable one.  A piece of text
is lexed on its own (`Closed`), or at least before a character that ends every name and number
(`Lexed`).

Main statements: `readAll_eq_ok` (a rule reads a text exactly if it reads its tokens),
`isName_of_mem_lex` (name tokens are names), and the tokens of names, symbols and dots. -/

namespace QueryBindings.Grammar

open Text

/-! ### Tokens without positions -/

/-- The tokens of a text, also those behind an `unreadable` one. -/
def lex (cs : List Char) : List Token :=
  match cs with
  | [] => []
  | c :: rest =>
    if isIgnored c then lex rest
    else if c = '#' then
      match _h : afterComment? rest with
      | some after => lex after
      | none => []
    else (scan c rest).token :: lex (rest.drop (scan c rest).more)
termination_by cs.length
decreasing_by
  · exact Nat.lt_succ_self _
  · exact Nat.lt_succ_of_lt (length_afterComment?_lt _h)
  · rw [List.length_drop, List.length_cons]; omega

def upToUnreadable : List Token → List Token
  | [] => []
  | t :: rest => if t = .unreadable then [t] else t :: upToUnreadable rest

theorem map_fst_tokensFrom (p : Position) (cs : List Char) :
    (tokensFrom p cs).tokens.map Prod.fst = upToUnreadable (lex cs) := by
  fun_induction lex cs generalizing p with
  | case1 =>
      rw [tokensFrom]
      rfl
  | case2 c rest hignored ih =>
      rw [tokensFrom, if_pos hignored]
      exact ih _
  | case3 rest after hafter hignored ih =>
      rw [tokensFrom, if_neg hignored, if_pos rfl]
      split
      · rename_i after' hafter'
        rw [hafter] at hafter'
        cases hafter'
        exact ih _
      · rename_i hafter'
        rw [hafter] at hafter'
        cases hafter'
  | case4 rest hafter hignored =>
      rw [tokensFrom, if_neg hignored, if_pos rfl]
      split
      · rename_i after' hafter'
        rw [hafter] at hafter'
        cases hafter'
      · rfl
  | case5 c rest hignored hcomment ih =>
      rw [tokensFrom, if_neg hignored, if_neg hcomment, upToUnreadable]
      by_cases hunreadable : (scan c rest).token = .unreadable
      · simp only [hunreadable]
        rfl
      · simp only [if_neg hunreadable, Tokens.cons, List.map_cons]
        rw [ih]

theorem map_fst_tokens (text : String) :
    (tokens text).tokens.map Prod.fst = upToUnreadable (lex text.toList) :=
  map_fst_tokensFrom .start text.toList

theorem upToUnreadable_of_not_mem {ts : List Token} (h : .unreadable ∉ ts) :
    upToUnreadable ts = ts := by
  induction ts with
  | nil => rfl
  | cons t rest ih =>
      rw [List.mem_cons, not_or] at h
      rw [upToUnreadable, if_neg (Ne.symm h.1), ih h.2]

theorem not_mem_of_not_mem_upToUnreadable {ts : List Token} (h : .unreadable ∉ upToUnreadable ts) :
    .unreadable ∉ ts := by
  induction ts with
  | nil => exact List.not_mem_nil
  | cons t rest ih =>
      rw [upToUnreadable] at h
      split at h
      · rename_i ht
        simp [ht] at h
      · rw [List.mem_cons, not_or] at h ⊢
        exact ⟨h.1, ih h.2⟩

theorem mem_of_mem_upToUnreadable {t : Token} {ts : List Token} (h : t ∈ upToUnreadable ts) :
    t ∈ ts := by
  induction ts with
  | nil => exact h
  | cons u rest ih =>
      rw [upToUnreadable] at h
      split at h
      · rw [List.mem_singleton] at h
        exact h ▸ List.mem_cons_self
      · rcases List.mem_cons.mp h with rfl | h
        · exact List.mem_cons_self
        · exact List.mem_cons_of_mem u (ih h)

/-- `readAll` takes a text exactly if the rule takes all of its tokens. -/
theorem readAll_eq_ok {α : Type} {rule : Rule α} {text : String} {a : α} :
    readAll rule text = .ok a ↔ rule (upToUnreadable (lex text.toList)) = .ok (a, []) := by
  unfold readAll
  simp only [map_fst_tokens]
  constructor
  · intro h
    split at h
    · rename_i b hb
      cases h
      exact hb
    · cases h
    · cases h
  · intro h
    rw [h]

/-! ### Classes of characters -/

theorem code_of_isAsciiDigit {c : Char} (h : isAsciiDigit c = true) :
    48 ≤ c.toNat ∧ c.toNat ≤ 57 := by
  simp only [isAsciiDigit, Bool.and_eq_true, decide_eq_true_eq, Char.le_def,
    UInt32.le_iff_toNat_le] at h
  exact h

theorem code_of_isNameStart {c : Char} (h : isNameStart c = true) :
    c.toNat = 95 ∨ (97 ≤ c.toNat ∧ c.toNat ≤ 122) ∨ (65 ≤ c.toNat ∧ c.toNat ≤ 90) := by
  simp only [isNameStart, isAsciiLetter, isAsciiLower, isAsciiUpper, Bool.or_eq_true,
    Bool.and_eq_true, decide_eq_true_eq, Char.le_def, UInt32.le_iff_toNat_le] at h
  rcases h with rfl | h | h
  · exact .inl rfl
  · exact .inr (.inl h)
  · exact .inr (.inr h)

theorem code_of_isNamePart {c : Char} (h : isNamePart c = true) :
    c.toNat = 95 ∨ (97 ≤ c.toNat ∧ c.toNat ≤ 122) ∨ (65 ≤ c.toNat ∧ c.toNat ≤ 90) ∨
      (48 ≤ c.toNat ∧ c.toNat ≤ 57) := by
  unfold isNamePart at h
  rcases Bool.or_eq_true_iff.mp h with h | h
  · have := code_of_isNameStart h
    omega
  · exact .inr (.inr (.inr (code_of_isAsciiDigit h)))

theorem code_mem {c : Char} {cs : List Char} (h : cs.contains c = true) :
    c.toNat ∈ cs.map Char.toNat :=
  List.mem_map_of_mem (List.contains_iff_mem.mp h)

theorem code_of_endsNumber {c : Char} (h : endsNumber c = true) :
    c.toNat ∈ [40, 41, 91, 93, 123, 125, 33, 36, 58, 61, 64, 124, 38, 32, 9, 10, 13, 44, 35] := by
  simp only [endsNumber, Bool.or_eq_true, decide_eq_true_eq] at h
  rcases h with (((((h | rfl) | rfl) | rfl) | rfl) | rfl) | rfl
  · have := code_mem h
    simp at this ⊢
    omega
  all_goals decide

theorem code_of_isIgnored {c : Char} (h : isIgnored c = true) :
    c.toNat ∈ [65279, 13, 9, 10, 32, 44] := code_mem h

theorem not_endsNumber_of_isNamePart {c : Char} (h : isNamePart c = true) :
    endsNumber c = false := by
  rw [Bool.eq_false_iff]
  intro hends
  have hname := code_of_isNamePart h
  have hcode := code_of_endsNumber hends
  simp at hcode
  omega

theorem not_isBlank_of_isNamePart {c : Char} (h : isNamePart c = true) : isBlank c = false := by
  have hcode := code_of_isNamePart h
  simp only [isBlank, Bool.or_eq_false_iff, Bool.and_eq_false_iff, decide_eq_false_iff_not,
    beq_eq_false_iff_ne]
  omega

theorem not_isIgnored_of_isNamePart {c : Char} (h : isNamePart c = true) :
    isIgnored c = false := by
  rw [Bool.eq_false_iff]
  intro hignored
  have hname := code_of_isNamePart h
  have hcode := code_of_isIgnored hignored
  simp at hcode
  omega

theorem endsNumber_of_isSymbol {c : Char} (h : isSymbol c = true) : endsNumber c = true := by
  unfold endsNumber
  rw [h]
  rfl

theorem not_isSymbol_of_isNamePart {c : Char} (h : isNamePart c = true) :
    isSymbol c = false := by
  rw [Bool.eq_false_iff]
  intro hsymbol
  have := not_endsNumber_of_isNamePart h
  rw [endsNumber_of_isSymbol hsymbol] at this
  cases this

theorem isNamePart_of_isNameStart {c : Char} (h : isNameStart c = true) :
    isNamePart c = true := by
  unfold isNamePart
  rw [h, Bool.true_or]

theorem not_isIgnored_of_isSymbol {c : Char} (h : isSymbol c = true) : isIgnored c = false := by
  rw [Bool.eq_false_iff]
  intro hignored
  have hsymbol := code_mem h
  have hcode := code_of_isIgnored hignored
  simp at hsymbol hcode
  omega

/-! ### Names -/

/-- A letter or an underscore, followed by such and digits. -/
def isName (text : String) : Bool :=
  match text.toList with
  | [] => false
  | c :: rest => isNameStart c && rest.all isNamePart

theorem isName_ofList {c : Char} {rest : List Char} (hc : isNameStart c = true)
    (hrest : rest.all isNamePart = true) : isName (String.ofList (c :: rest)) = true := by
  unfold isName
  rw [String.toList_ofList]
  simp only [hc, hrest, Bool.and_self]

theorem eq_cons_of_isName {text : String} (h : isName text = true) :
    ∃ c rest, text.toList = c :: rest ∧ isNameStart c = true ∧ rest.all isNamePart = true := by
  unfold isName at h
  split at h
  · cases h
  · rename_i c rest hlist
    rw [Bool.and_eq_true] at h
    exact ⟨c, rest, hlist, h.1, h.2⟩

theorem isNamePart_of_mem {text : String} (h : isName text = true) :
    ∀ c ∈ text.toList, isNamePart c = true := by
  obtain ⟨c, rest, hlist, hc, hrest⟩ := eq_cons_of_isName h
  rw [hlist, List.forall_mem_cons]
  exact ⟨isNamePart_of_isNameStart hc, List.all_eq_true.mp hrest⟩

theorem unsignedToken?_eq_some {negative : Bool} {cs : List Char} {t : Token}
    (h : unsignedToken? negative cs = some t) : (∃ n, t = .int n) ∨ ∃ b, t = .float b := by
  have hwhole : ∀ value : Int,
      (if Number.isSigned64 value then some (Token.int value) else none) = some t →
        (∃ n, t = .int n) ∨ ∃ b, t = .float b := by
    intro value h
    split at h
    · exact .inl ⟨value, (Option.some.inj h).symm⟩
    · exact absurd h (by simp)
  unfold unsignedToken? at h
  dsimp only at h
  split at h
  · exact absurd h (by simp)
  · split at h
    · exact hwhole _ h
    · obtain ⟨_, -, hfloat⟩ := Option.map_eq_some_iff.mp h
      exact .inr ⟨_, hfloat.symm⟩

theorem numberToken?_eq_some {cs : List Char} {t : Token} (h : numberToken? cs = some t) :
    (∃ n, t = .int n) ∨ ∃ b, t = .float b := by
  unfold numberToken? at h
  split at h <;> exact unsignedToken?_eq_some h

theorem isName_of_scan {c : Char} {rest : List Char} {text : String}
    (h : (scan c rest).token = .name text) : isName text = true := by
  unfold scan at h
  split at h
  · cases h
  · split at h
    · rename_i hstart
      cases h
      exact isName_ofList hstart List.all_takeWhile
    · split at h
      · dsimp only at h
        cases hn : numberToken? (c :: rest.takeWhile fun d => !endsNumber d) with
        | none =>
            rw [hn] at h
            cases h
        | some t =>
            rw [hn] at h
            rcases numberToken?_eq_some hn with ⟨n, rfl⟩ | ⟨b, rfl⟩
            · cases h
            · cases h
      · repeat' split at h
        all_goals cases h

theorem isName_of_mem_lex {cs : List Char} {text : String} (h : .name text ∈ lex cs) :
    isName text = true := by
  fun_induction lex cs with
  | case1 => exact absurd h List.not_mem_nil
  | case2 c rest hignored ih => exact ih h
  | case3 rest after hafter hignored ih => exact ih h
  | case4 rest hafter hignored => exact absurd h List.not_mem_nil
  | case5 c rest hignored hcomment ih =>
      rcases List.mem_cons.mp h with h | h
      · exact isName_of_scan h.symm
      · exact ih h

/-! ### Pieces of text -/

/-- `cs` is at its end or goes on with a character that `endsNumber`, which no name or number holds.
-/
def stops : List Char → Bool
  | [] => true
  | c :: _ => endsNumber c

/-- A piece that has the tokens `ts` whatever follows. -/
def Closed (cs : List Char) (ts : List Token) : Prop :=
  ∀ rest, lex (cs ++ rest) = ts ++ lex rest

/-- A piece that has the tokens `ts` before anything that `stops` it. -/
def Lexed (cs : List Char) (ts : List Token) : Prop :=
  ∀ rest, stops rest = true → lex (cs ++ rest) = ts ++ lex rest

theorem Closed.lexed {cs : List Char} {ts : List Token} (h : Closed cs ts) : Lexed cs ts :=
  fun rest _ => h rest

theorem Closed.nil : Closed [] [] := fun _ => rfl

theorem Closed.append {a b : List Char} {ts us : List Token} (ha : Closed a ts)
    (hb : Closed b us) : Closed (a ++ b) (ts ++ us) := by
  intro rest
  rw [List.append_assoc, ha, hb, List.append_assoc]

theorem Closed.append_lexed {a b : List Char} {ts us : List Token} (ha : Closed a ts)
    (hb : Lexed b us) : Lexed (a ++ b) (ts ++ us) := by
  intro rest hrest
  rw [List.append_assoc, ha, hb rest hrest, List.append_assoc]

/-- A piece is closed by one that begins with a stopping character. -/
theorem Lexed.append_closed {a b : List Char} {ts us : List Token} (ha : Lexed a ts)
    (hb : Closed b us) (hstop : ∀ rest, stops (b ++ rest) = true) :
    Closed (a ++ b) (ts ++ us) := by
  intro rest
  rw [List.append_assoc, ha _ (hstop rest), hb, List.append_assoc]

theorem Lexed.append {a b : List Char} {ts us : List Token} (ha : Lexed a ts)
    (hb : Lexed b us) (hstop : ∀ rest, stops rest = true → stops (b ++ rest) = true) :
    Lexed (a ++ b) (ts ++ us) := by
  intro rest hrest
  rw [List.append_assoc, ha _ (hstop rest hrest), hb rest hrest, List.append_assoc]

theorem Lexed.lex_eq {cs : List Char} {ts : List Token} (h : Lexed cs ts) : lex cs = ts := by
  have hend := h [] rfl
  rw [List.append_nil] at hend
  rw [hend, lex, List.append_nil]

theorem closed_of_ignored {cs : List Char} (h : cs.all isIgnored = true) : Closed cs [] := by
  intro rest
  induction cs with
  | nil => rfl
  | cons c cs ih =>
      rw [List.all_cons, Bool.and_eq_true] at h
      rw [List.cons_append, lex, if_pos h.1]
      exact ih h.2

/-- The tokens of a text that begins with a token. -/
theorem lex_cons {c : Char} {t : Token} (rest after : List Char) (hignored : isIgnored c = false)
    (hcomment : c ≠ '#') (hscan : scan c (rest ++ after) = ⟨t, rest.length⟩) :
    lex (c :: (rest ++ after)) = t :: lex after := by
  rw [lex, if_neg (by simp [hignored]), if_neg hcomment, hscan]
  simp

theorem closed_symbol {c : Char} (h : isSymbol c = true) : Closed [c] [.symbol c] := by
  intro rest
  have hcomment : c ≠ '#' := by
    rintro rfl
    revert h
    decide
  apply lex_cons [] rest (not_isIgnored_of_isSymbol h) hcomment
  unfold scan
  rw [if_pos h]
  rfl

theorem closed_ellipsis : Closed ['.', '.', '.'] [.ellipsis] := by
  intro rest
  exact lex_cons ['.', '.'] rest (by decide) (by decide) rfl

/-- Characters of a class that no stopping character is in are taken to their end. -/
theorem takeWhile_append_of_stops {p : Char → Bool} (hp : ∀ c, endsNumber c = true → p c = false)
    {cs rest : List Char} (hall : cs.all p = true) (hstops : stops rest = true) :
    (cs ++ rest).takeWhile p = cs := by
  rw [List.takeWhile_append_of_pos (List.all_eq_true.mp hall)]
  cases rest with
  | nil => simp
  | cons c rest => simp [hp c hstops]

theorem lexed_name {text : String} (h : isName text = true) :
    Lexed text.toList [.name text] := by
  intro rest hrest
  obtain ⟨c, part, hlist, hc, hpart⟩ := eq_cons_of_isName h
  have hname := isNamePart_of_isNameStart hc
  have hcomment : c ≠ '#' := by
    rintro rfl
    revert hc
    decide
  have htext : String.ofList (c :: part) = text := by
    rw [← hlist, String.ofList_toList]
  have htake : (part ++ rest).takeWhile isNamePart = part := by
    refine takeWhile_append_of_stops (fun d hd => ?_) hpart hrest
    rw [Bool.eq_false_iff]
    intro hd'
    rw [not_endsNumber_of_isNamePart hd'] at hd
    cases hd
  rw [hlist]
  apply lex_cons part rest (not_isIgnored_of_isNamePart hname) hcomment
  unfold scan
  rw [if_neg (by simp [not_isSymbol_of_isNamePart hname]), if_pos hc]
  simp only [htake, htext]

end QueryBindings.Grammar

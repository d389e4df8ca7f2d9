import QueryBindings.Proofs.Grammar.LiteralLexing

/-! # Text between quotes

A quoted text is one string literal with that text as its value.  `stringLiteral?` reads a literal
by the rules of the query language, `unescape` is the reader of the tokens; they differ in the
escapes that are never written.  How one character is written says all that either of them needs
(`Written`).

Main statements: `stringLiteral?_quote` and `lex_quote` (the value, read in front of what follows),
`not_control_quotedChars` (what stands between the quotes). -/

namespace QueryBindings.Literal

open Grammar

/-! ### Literals of the query language -/

/-- The character of a short escape. -/
def escapeValue? : Char → Option Char
  | '"' => some '"'
  | '\\' => some '\\'
  | '/' => some '/'
  | 'b' => some '\x08'
  | 'f' => some '\x0c'
  | 'n' => some '\n'
  | 'r' => some '\r'
  | 't' => some '\t'
  | _ => none

/-- What may stand in a literal without an escape: of the controls, only a tab. -/
def isPlain (c : Char) : Bool := c ≠ '"' && c ≠ '\\' && (0x20 ≤ c.toNat || c = '\t')

/-- The value of a literal up to its closing quote, and what follows.  An escape by four digits is
one of a character; halves of a surrogate pair are not read. -/
def stringRest? : List Char → Option (List Char × List Char)
  | [] => none
  | '"' :: rest => some ([], rest)
  | '\\' :: 'u' :: a :: b :: c :: d :: rest =>
    ((hexNumber? 0 [a, b, c, d]).bind codePoint?).bind fun e =>
      (stringRest? rest).map fun (value, behind) => (e :: value, behind)
  | '\\' :: c :: rest =>
    (escapeValue? c).bind fun e =>
      (stringRest? rest).map fun (value, behind) => (e :: value, behind)
  | c :: rest =>
    if isPlain c then (stringRest? rest).map fun (value, behind) => (c :: value, behind) else none

/-- The value of the string literal that a text begins with, and what follows.  Three quotes begin a
block string, which is none. -/
def stringLiteral? : List Char → Option (String × List Char)
  | '"' :: '"' :: '"' :: _ => none
  | '"' :: rest => (stringRest? rest).map fun (value, behind) => (String.ofList value, behind)
  | _ => none

/-! ### One character -/

/-- The three ways in which `quoteChar` writes a character. -/
inductive Written (c : Char) : List Char → Prop where
  /-- A backslash and a letter. -/
  | short (letter : Char) (hcode : letter ≠ 'u') (hprinted : 0x20 ≤ letter.toNat)
      (hvalue : escapeValue? letter = some c) (hescape : shortEscape? letter = some c) :
      Written c ['\\', letter]
  /-- The digits of a control. -/
  | coded (hcontrol : c.toNat < 0x20) : Written c ('\\' :: 'u' :: fourHexDigits c.toNat)
  | plain (hquote : c ≠ '"') (hslash : c ≠ '\\') (hprinted : 0x20 ≤ c.toNat) : Written c [c]

theorem written_quoteChar (c : Char) : Written c (quoteChar c) := by
  unfold quoteChar
  split
  · rename_i hc
    exact hc ▸ .short '"' (by decide) (by decide) rfl rfl
  · split
    · rename_i hc
      exact hc ▸ .short '\\' (by decide) (by decide) rfl rfl
    · split
      · rename_i hc
        exact hc ▸ .short 'n' (by decide) (by decide) rfl rfl
      · split
        · rename_i hc
          exact hc ▸ .short 'r' (by decide) (by decide) rfl rfl
        · split
          · rename_i hc
            exact hc ▸ .short 't' (by decide) (by decide) rfl rfl
          · rename_i hquote hslash _ _ _
            split
            · rename_i hcontrol
              exact .coded hcontrol
            · rename_i hcontrol
              exact .plain hquote hslash (Nat.le_of_not_lt hcontrol)

theorem codePoint?_fourHexDigits {n : Nat} (h : n < 0x20) :
    (hexNumber? 0 (fourHexDigits n)).bind codePoint? = some (Char.ofNat n) ∧
      escapedCodePoint? (fourHexDigits n) = some (Char.ofNat n) := by
  have hall : ∀ n < 0x20, (hexNumber? 0 (fourHexDigits n)).bind codePoint? = some (Char.ofNat n) ∧
      escapedCodePoint? (fourHexDigits n) = some (Char.ofNat n) := by decide
  exact hall n h

theorem isPlain_fourHexDigits {n : Nat} (h : n < 0x20) :
    ∀ d ∈ fourHexDigits n, d ≠ '"' ∧ d ≠ '\\' ∧ 0x20 ≤ d.toNat := by
  have hall : ∀ n < 0x20,
      (fourHexDigits n).all fun d => d ≠ '"' && d ≠ '\\' && 0x20 ≤ d.toNat := by decide
  intro d hd
  have hplain := List.all_eq_true.mp (hall n h) d hd
  simp only [Bool.and_eq_true, decide_eq_true_eq, and_assoc] at hplain
  exact hplain

theorem ne_lineFeed {c : Char} (h : 0x20 ≤ c.toNat) : c ≠ '\n' := by
  rintro rfl
  exact absurd h (by decide)

namespace Written

variable {c : Char} {cs : List Char} (h : Written c cs)
include h

theorem not_control : ∀ d ∈ cs, 0x20 ≤ d.toNat := by
  cases h with
  | short letter hcode hprinted hvalue hescape => simpa using hprinted
  | coded hcontrol =>
      have hdigits := fun d hd => (isPlain_fourHexDigits hcontrol d hd).2.2
      simpa using hdigits
  | plain hquote hslash hprinted => simpa using hprinted

theorem isContent : IsContent cs := by
  cases h with
  | short letter hcode hprinted hvalue hescape => exact isContent_escape (ne_lineFeed hprinted)
  | coded hcontrol =>
      have hdigits : IsContent (fourHexDigits c.toNat) := by
        refine .of_forall fun d hd => ?_
        obtain ⟨hquote, hslash, hdigit⟩ := isPlain_fourHexDigits hcontrol d hd
        exact isContent_plain hquote hslash (ne_lineFeed hdigit)
      exact (isContent_escape (by decide)).append hdigits
  | plain hquote hslash hprinted => exact isContent_plain hquote hslash (ne_lineFeed hprinted)

theorem unescape_append (rest : List Char) :
    unescape (cs ++ rest) = (unescape rest).map (c :: ·) := by
  cases h with
  | short letter hcode hprinted hvalue hescape =>
      rw [List.cons_append, List.singleton_append, unescape, hescape, Option.bind_some]
      intro _ _ _ _ _ hletter
      exact absurd hletter hcode
  | coded hcontrol =>
      have hvalue := (codePoint?_fourHexDigits hcontrol).2
      rw [Char.ofNat_toNat] at hvalue
      unfold fourHexDigits at hvalue ⊢
      simp only [List.cons_append, List.nil_append]
      rw [unescape, hvalue, Option.bind_some]
  | plain hquote hslash hprinted =>
      rw [List.singleton_append, unescape, if_neg hslash]
      · intro _ _ _ _ _ hc
        exact absurd hc hslash
      · intro _ _ hc
        exact absurd hc hslash

theorem stringRest?_append (rest : List Char) :
    stringRest? (cs ++ rest) =
      (stringRest? rest).map fun (value, behind) => (c :: value, behind) := by
  cases h with
  | short letter hcode hprinted hvalue hescape =>
      rw [List.cons_append, List.singleton_append, stringRest?, hvalue, Option.bind_some]
      intro _ _ _ _ _ hletter
      exact absurd hletter hcode
  | coded hcontrol =>
      have hvalue := (codePoint?_fourHexDigits hcontrol).1
      rw [Char.ofNat_toNat] at hvalue
      unfold fourHexDigits at hvalue ⊢
      simp only [List.cons_append, List.nil_append]
      rw [stringRest?, hvalue, Option.bind_some]
  | plain hquote hslash hprinted =>
      have hplain : isPlain c = true := by simp [isPlain, hquote, hslash, hprinted]
      rw [List.singleton_append, stringRest?, if_pos hplain]
      · exact hquote
      · intro _ _ _ _ _ hc
        exact absurd hc hslash
      · intro _ _ hc
        exact absurd hc hslash

end Written

/-! ### A whole text -/

/-- What `quote` puts between the quotes. -/
def quotedChars (text : String) : List Char := text.toList.flatMap quoteChar

theorem toList_quote (text : String) :
    (quote text).toList = '"' :: quotedChars text ++ ['"'] := by
  unfold quote
  rw [String.toList_ofList]
  rfl

theorem not_control_quotedChars (text : String) : ∀ c ∈ quotedChars text, 0x20 ≤ c.toNat := by
  intro c hc
  obtain ⟨d, -, hd⟩ := List.mem_flatMap.mp hc
  exact (written_quoteChar d).not_control c hd

theorem isContent_quotedChars (text : String) : IsContent (quotedChars text) :=
  .flatMap fun c _ => (written_quoteChar c).isContent

theorem unescape_quotedChars (text : String) :
    unescape (quotedChars text) = some text.toList := by
  unfold quotedChars
  induction text.toList with
  | nil => rfl
  | cons c cs ih =>
      rw [List.flatMap_cons, (written_quoteChar c).unescape_append, ih]
      rfl

theorem stringRest?_quotedChars (text : String) (behind : List Char) :
    stringRest? (quotedChars text ++ '"' :: behind) = some (text.toList, behind) := by
  unfold quotedChars
  induction text.toList with
  | nil => rfl
  | cons c cs ih =>
      rw [List.flatMap_cons, List.append_assoc, (written_quoteChar c).stringRest?_append, ih]
      rfl

/-- `quote text` is a literal with the value `text`, whatever follows but a quote; that would begin
a block string with an empty text. -/
theorem stringLiteral?_quote (text : String) {behind : List Char}
    (hbehind : behind.head? ≠ some '"') :
    stringLiteral? ((quote text).toList ++ behind) = some (text, behind) := by
  have hsplit : (quote text).toList ++ behind = '"' :: (quotedChars text ++ '"' :: behind) := by
    rw [toList_quote]
    simp
  have hfence : ∀ rest, quotedChars text ++ '"' :: behind ≠ '"' :: '"' :: rest :=
    (isContent_quotedChars text).append_quote_ne_fence hbehind
  rw [hsplit, stringLiteral?, stringRest?_quotedChars]
  · simp
  · exact hfence

/-- What `quote` writes is one string token. -/
theorem lex_quote (text : String) {behind : List Char} (hbehind : behind.head? ≠ some '"') :
    lex ((quote text).toList ++ behind) = .string text :: lex behind := by
  have h := lex_quoted (isContent_quotedChars text) (unescape_quotedChars text) hbehind
  rw [String.ofList_toList] at h
  rw [toList_quote]
  exact h

end QueryBindings.Literal

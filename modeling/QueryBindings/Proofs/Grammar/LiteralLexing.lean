import QueryBindings.Grammar.Value
import QueryBindings.Proofs.Grammar.Lexing

/-! # Lexing literals

What a writer of numbers and strings puts down is found again by the reader: no character of a
number ends it, and no quote, line feed or fence inside a string ends the string.  A literal that
the reader cannot make sense of spoils the text it stands in.

Main statements: `lexed_numeral`, `lexed_inline`, `lexed_block`, `blockContent?_line` (a line of
a block string) and `unescapeFences_escapeFences`. -/

namespace QueryBindings.Grammar

open Literal Number Text

/-! ### Between quotes -/

/-- Characters that are content of a string, whatever follows them in it. -/
def IsContent (cs : List Char) : Prop :=
  ∀ rest, quotedContent? false (cs ++ rest) = (quotedContent? false rest).map (cs ++ ·)

theorem isContent_plain {c : Char} (hquote : c ≠ '"') (hslash : c ≠ '\\') (hline : c ≠ '\n') :
    IsContent [c] := by
  intro rest
  rw [List.singleton_append, quotedContent?, if_neg (fun h => hquote h.1), if_neg hline]
  simp only [decide_eq_false hslash, Bool.not_false, Bool.true_and]
  rfl

theorem isContent_escape {c : Char} (hline : c ≠ '\n') : IsContent ['\\', c] := by
  intro rest
  rw [List.cons_append, List.singleton_append, quotedContent?, if_neg (by decide),
    if_neg (by decide), quotedContent?, if_neg (by simp), if_neg hline, Option.map_map]
  rfl

namespace IsContent

theorem nil : IsContent [] := fun _ => (Option.map_id_apply ..).symm

theorem append {a b : List Char} (ha : IsContent a) (hb : IsContent b) : IsContent (a ++ b) := by
  intro rest
  rw [List.append_assoc, ha, hb, Option.map_map]
  exact congrArg (Option.map · _) (funext fun _ => (List.append_assoc ..).symm)

theorem flatMap {α : Type} {write : α → List Char} {items : List α}
    (h : ∀ x ∈ items, IsContent (write x)) : IsContent (items.flatMap write) := by
  induction items with
  | nil => exact nil
  | cons x items ih =>
      rw [List.flatMap_cons]
      exact (h x List.mem_cons_self).append (ih fun y hy => h y (List.mem_cons_of_mem x hy))

theorem of_forall {cs : List Char} (h : ∀ c ∈ cs, IsContent [c]) : IsContent cs := by
  have hall := flatMap h
  rwa [List.flatMap_singleton'] at hall

variable {cs : List Char} (h : IsContent cs)
include h

theorem quotedContent?_eq (rest : List Char) :
    quotedContent? false (cs ++ '"' :: rest) = some cs := by
  rw [h, quotedContent?, if_pos ⟨rfl, rfl⟩, Option.map_some, List.append_nil]

theorem head_ne_quote : cs.head? ≠ some '"' := by
  intro hhead
  obtain ⟨tail, rfl⟩ := List.head?_eq_some_iff.mp hhead
  have hstart : quotedContent? false ('"' :: tail) = some [] := by
    rw [quotedContent?, if_pos ⟨rfl, rfl⟩]
  have hcontent := h []
  rw [List.append_nil, hstart] at hcontent
  cases hcontent

theorem append_quote_ne_fence {rest : List Char} (hrest : rest.head? ≠ some '"')
    (body : List Char) : cs ++ '"' :: rest ≠ '"' :: '"' :: body := by
  intro heq
  cases cs with
  | nil =>
      rw [List.nil_append] at heq
      rw [(List.cons.inj heq).2] at hrest
      exact hrest rfl
  | cons c cs =>
      rw [List.cons_append] at heq
      exact h.head_ne_quote (congrArg some (List.cons.inj heq).1)

end IsContent

theorem isContent_of_isDigit {c : Char} (h : c.isDigit = true) : IsContent [c] := by
  have hne : ∀ d : Char, d.isDigit = false → c ≠ d := by
    rintro d hd rfl
    rw [hd] at h
    cases h
  exact isContent_plain (hne '"' rfl) (hne '\\' rfl) (hne '\n' rfl)

theorem isDigit_of_mem_fourDecimalDigits {n : Nat} {c : Char}
    (h : c ∈ Value.fourDecimalDigits n) : c.isDigit = true := by
  unfold Value.fourDecimalDigits at h
  rcases List.mem_append.mp h with h | h
  · rw [(List.mem_replicate.mp h).2]
    rfl
  · exact Nat.isDigit_of_mem_toDigits (by decide) (by decide) h

theorem isContent_inlineChar (c : Char) : IsContent (Value.inlineChar c) := by
  unfold Value.inlineChar
  split
  · exact isContent_escape (by decide)
  · split
    · exact isContent_escape (by decide)
    · split
      · exact isContent_escape (by decide)
      · split
        · exact isContent_escape (by decide)
        · split
          · exact isContent_escape (by decide)
          · rename_i _ hline _ hquote hslash
            split
            · exact isContent_plain hquote hslash hline
            · have hdigits : IsContent (Value.fourDecimalDigits c.toNat) := .of_forall fun _ hd =>
                isContent_of_isDigit (isDigit_of_mem_fourDecimalDigits hd)
              exact (isContent_escape (by decide)).append hdigits

/-! ### Between fences -/

theorem blockContent?_cons {c : Char} {rest : List Char} (afterBackslash : Bool)
    (h : ∀ tail, c :: rest ≠ '"' :: '"' :: '"' :: tail) :
    blockContent? afterBackslash (c :: rest) =
      (blockContent? (c = '\\') rest).map (c :: ·) := by
  rw [blockContent?]
  intro tail hc hrest
  exact h tail (by rw [hc, hrest])

theorem blockContent?_fence (tail : List Char) :
    blockContent? true ('"' :: '"' :: '"' :: tail) =
      (blockContent? false tail).map ('"' :: '"' :: '"' :: ·) := by
  rw [blockContent?, if_pos rfl]

theorem eq_cons_of_escapeFences {line rest after : List Char} (hrest : rest.head? ≠ some '"')
    (h : escapeFences line ++ rest = '"' :: after) :
    ∃ tail, line = '"' :: tail ∧ escapeFences tail ++ rest = after := by
  unfold escapeFences at h
  split at h
  · cases h
  · rename_i c tail _
    obtain ⟨rfl, hafter⟩ := List.cons.inj h
    exact ⟨tail, rfl, hafter⟩
  · rw [List.nil_append] at h
    rw [h] at hrest
    exact absurd rfl hrest

theorem escapeFences_ne_fence (line : List Char) {rest : List Char}
    (hrest : rest.head? ≠ some '"') (after : List Char) :
    escapeFences line ++ rest ≠ '"' :: '"' :: '"' :: after := by
  intro h
  obtain ⟨first, rfl, hfirst⟩ := eq_cons_of_escapeFences hrest h
  obtain ⟨second, rfl, hsecond⟩ := eq_cons_of_escapeFences hrest hfirst
  obtain ⟨third, rfl, -⟩ := eq_cons_of_escapeFences hrest hsecond
  rw [escapeFences] at h
  cases h

/-- No line of a block string, with `escapeFences`, holds the end of the block. -/
theorem blockContent?_line (afterBackslash : Bool) (line rest : List Char) :
    blockContent? afterBackslash (escapeFences line ++ '\n' :: rest) =
      (blockContent? false rest).map (escapeFences line ++ '\n' :: ·) := by
  fun_induction escapeFences line generalizing afterBackslash with
  | case1 tail ih =>
      rw [List.cons_append, blockContent?_cons afterBackslash (by simp)]
      simp only [List.cons_append, decide_true]
      rw [blockContent?_fence, ih, Option.map_map, Option.map_map]
      rfl
  | case2 c tail hfence ih =>
      have hline : escapeFences (c :: tail) = c :: escapeFences tail := by
        rw [escapeFences]
        exact hfence
      rw [List.cons_append, blockContent?_cons afterBackslash, ih, Option.map_map]
      · rfl
      · rw [← List.cons_append, ← hline]
        exact escapeFences_ne_fence _ (by simp)
  | case3 =>
      rw [List.nil_append, blockContent?_cons afterBackslash (by simp)]
      rfl

/-- `unescapeFences` undoes `escapeFences`. -/
theorem unescapeFences_escapeFences (line : List Char) :
    unescapeFences (escapeFences line) = line := by
  fun_induction escapeFences line with
  | case1 tail ih => rw [unescapeFences, ih]
  | case2 c tail hfence ih =>
      rw [unescapeFences, ih]
      intro after _ htail
      have hfirst : escapeFences tail ++ [] = '"' :: '"' :: '"' :: after := by
        rw [List.append_nil]
        exact htail
      exact escapeFences_ne_fence tail (by simp) after hfirst
  | case3 => rfl

/-! ### Spoiled text -/

/-- A piece that makes any text unreadable in which something that `stops` it follows. -/
def Spoiled (cs : List Char) : Prop :=
  ∀ rest, stops rest = true → .unreadable ∈ lex (cs ++ rest)

theorem Lexed.spoiled {cs : List Char} {ts : List Token} (h : Lexed cs ts)
    (hts : .unreadable ∈ ts) : Spoiled cs := by
  intro rest hrest
  rw [h rest hrest]
  exact List.mem_append_left _ hts

theorem Closed.append_spoiled {a b : List Char} {ts : List Token} (ha : Closed a ts)
    (hb : Spoiled b) : Spoiled (a ++ b) := by
  intro rest hrest
  rw [List.append_assoc, ha]
  exact List.mem_append_right ts (hb rest hrest)

theorem Spoiled.append {a : List Char} (ha : Spoiled a) {b : List Char}
    (hstop : ∀ rest, stops rest = true → stops (b ++ rest) = true) : Spoiled (a ++ b) := by
  intro rest hrest
  rw [List.append_assoc]
  exact ha _ (hstop rest hrest)

/-! ### Numbers -/

/-- A sign or a digit, followed by characters that end no number. -/
def isNumeral : List Char → Bool
  | [] => false
  | c :: rest => (c = '-' || isAsciiDigit c) && rest.all fun d => !endsNumber d

theorem isNamePart_of_isAsciiDigit {c : Char} (h : isAsciiDigit c = true) :
    isNamePart c = true := by
  unfold isNamePart
  rw [h, Bool.or_true]

theorem not_isNameStart_of_isAsciiDigit {c : Char} (h : isAsciiDigit c = true) :
    isNameStart c = false := by
  rw [Bool.eq_false_iff]
  intro hstart
  have hdigit := code_of_isAsciiDigit h
  have hcode := code_of_isNameStart hstart
  omega

/-- The token of a numeral, whether or not its number can be read. -/
theorem lexed_numeral {cs : List Char} (h : isNumeral cs = true) :
    Lexed cs [(numberToken? cs).getD .unreadable] := by
  intro rest hrest
  unfold isNumeral at h
  split at h
  · cases h
  · rename_i c part
    rw [Bool.and_eq_true] at h
    obtain ⟨hc, hpart⟩ := h
    have htake : (part ++ rest).takeWhile (fun d => !endsNumber d) = part :=
      takeWhile_append_of_stops (fun d hd => by rw [hd]; rfl) hpart hrest
    have hstart : isIgnored c = false ∧ c ≠ '#' ∧ isSymbol c = false ∧ isNameStart c = false := by
      rw [Bool.or_eq_true, decide_eq_true_eq] at hc
      rcases hc with rfl | hc
      · decide
      · have hpart := isNamePart_of_isAsciiDigit hc
        refine ⟨not_isIgnored_of_isNamePart hpart, ?_, not_isSymbol_of_isNamePart hpart,
          not_isNameStart_of_isAsciiDigit hc⟩
        rintro rfl
        exact absurd hc (by decide)
    obtain ⟨hignored, hcomment, hsymbol, hname⟩ := hstart
    apply lex_cons part rest hignored hcomment
    unfold scan
    rw [if_neg (by simp [hsymbol]), if_neg (by simp [hname]), if_pos hc]
    simp only [htake]

/-! ### Strings -/

/-- A string that begins with a quote is scanned to the quote behind its content. -/
theorem scan_quoted {cs rest : List Char} (h : IsContent cs) (hrest : rest.head? ≠ some '"') :
    scan '"' (cs ++ '"' :: rest) =
      match unescape cs with
      | some value => ⟨.string (String.ofList value), cs.length + 1⟩
      | none => ⟨.unreadable, 0⟩ := by
  unfold scan
  rw [if_neg (by decide), if_neg (by decide), if_neg (by decide), if_neg (by decide),
    if_pos rfl]
  split
  · rename_i body hbody
    exact absurd hbody (h.append_quote_ne_fence hrest body)
  · cases hvalue : unescape cs with
    | none => simp only [h.quotedContent?_eq, hvalue]
    | some value => simp only [h.quotedContent?_eq, hvalue]

theorem lex_quoted {cs value rest : List Char} (h : IsContent cs) (hvalue : unescape cs = some value)
    (hrest : rest.head? ≠ some '"') :
    lex ('"' :: cs ++ ['"'] ++ rest) = .string (String.ofList value) :: lex rest := by
  have hscan := scan_quoted h hrest
  rw [hvalue] at hscan
  have hlength : (cs ++ ['"']).length = cs.length + 1 := List.length_append
  have hsplit : cs ++ '"' :: rest = (cs ++ ['"']) ++ rest := by simp
  rw [hsplit, ← hlength] at hscan
  exact lex_cons (c := '"') _ rest (by decide) (by decide) hscan

theorem head_ne_quote_of_stops {rest : List Char} (h : stops rest = true) :
    rest.head? ≠ some '"' := by
  intro hhead
  obtain ⟨tail, rfl⟩ := List.head?_eq_some_iff.mp hhead
  exact absurd (show endsNumber '"' = true from h) (by decide)

/-- An inline string is a string token, unless it has a bad escape. -/
theorem lexed_inline (cs : List Char) :
    Spoiled ('"' :: cs.flatMap Value.inlineChar ++ ['"']) ∨
      ∃ value, Lexed ('"' :: cs.flatMap Value.inlineChar ++ ['"']) [.string value] := by
  have hcontent : IsContent (cs.flatMap Value.inlineChar) :=
    .flatMap fun c _ => isContent_inlineChar c
  cases hvalue : unescape (cs.flatMap Value.inlineChar) with
  | none =>
      refine .inl fun rest hrest => ?_
      have hscan := scan_quoted hcontent (head_ne_quote_of_stops hrest)
      have hsplit : '"' :: cs.flatMap Value.inlineChar ++ ['"'] ++ rest =
          '"' :: (cs.flatMap Value.inlineChar ++ '"' :: rest) := by simp
      rw [hvalue] at hscan
      rw [hsplit, lex, if_neg (by decide), if_neg (by decide), hscan]
      exact List.mem_cons_self
  | some value =>
      exact .inr ⟨String.ofList value, fun rest hrest =>
        lex_quoted hcontent hvalue (head_ne_quote_of_stops hrest)⟩

/-! ### Blocks -/

def blockLines (lines : List (List Char)) : List Char :=
  lines.flatMap fun line => escapeFences line ++ ['\n']

def isPad (cs : List Char) : Bool := cs.all fun c => c = ' ' || c = '\t'

theorem blockContent?_pad {pad : List Char} (h : isPad pad = true) (rest : List Char) :
    blockContent? false (pad ++ '"' :: '"' :: '"' :: rest) = some pad := by
  induction pad with
  | nil => rfl
  | cons c pad ih =>
      unfold isPad at h
      rw [List.all_cons, Bool.and_eq_true, Bool.or_eq_true, decide_eq_true_eq,
        decide_eq_true_eq] at h
      rw [List.cons_append, blockContent?_cons]
      · have hslash : decide (c = '\\') = false := by
          rcases h.1 with rfl | rfl <;> rfl
        rw [hslash, ih h.2]
        rfl
      · rintro tail heq
        rcases h.1 with rfl | rfl <;> cases heq

theorem blockContent?_blockLines (lines : List (List Char)) {pad : List Char}
    (h : isPad pad = true) (rest : List Char) :
    blockContent? false (blockLines lines ++ pad ++ '"' :: '"' :: '"' :: rest) =
      some (blockLines lines ++ pad) := by
  unfold blockLines
  induction lines with
  | nil => exact blockContent?_pad h rest
  | cons line lines ih =>
      rw [List.flatMap_cons]
      simp only [List.append_assoc, List.cons_append, List.nil_append] at ih ⊢
      rw [blockContent?_line, ih]
      rfl

/-- Lines between fences are one string token. -/
theorem closed_block (lines : List (List Char)) {pad : List Char} (h : isPad pad = true) :
    Closed (['"', '"', '"'] ++ blockLines lines ++ pad ++ ['"', '"', '"'])
      [.string (String.ofList (readBlock (blockLines lines ++ pad)))] := by
  intro rest
  have hscan : scan '"' ('"' :: '"' :: (blockLines lines ++ pad ++ '"' :: '"' :: '"' :: rest)) =
      ⟨.string (String.ofList (readBlock (blockLines lines ++ pad))),
        (blockLines lines ++ pad).length + 5⟩ := by
    unfold scan
    rw [if_neg (by decide), if_neg (by decide), if_neg (by decide), if_neg (by decide),
      if_pos rfl]
    simp only [blockContent?_blockLines lines h]
  have hlength : ('"' :: '"' :: (blockLines lines ++ pad ++ ['"', '"', '"'])).length =
      (blockLines lines ++ pad).length + 5 := by
    rw [List.length_cons, List.length_cons, List.length_append]
    rfl
  have hsplit : '"' :: '"' :: (blockLines lines ++ pad ++ ['"', '"', '"']) ++ rest =
      '"' :: '"' :: (blockLines lines ++ pad ++ '"' :: '"' :: '"' :: rest) := by
    simp
  rw [← hsplit, ← hlength] at hscan
  exact lex_cons (c := '"') _ rest (by decide) (by decide) hscan

/-- What `writeBlock` gives is a string token. -/
theorem lexed_block (cs : List Char) : ∃ value, Lexed (writeBlock cs) [.string value] := by
  let lines := [] :: (lineChars cs).map fun line =>
    if line.all isBlank then [] else ' ' :: ' ' :: line
  have hlines : writeBlock cs = ['"', '"', '"'] ++ blockLines lines ++ [] ++ ['"', '"', '"'] := by
    have hline : ∀ line : List Char,
        (if line.all isBlank then [] else ' ' :: ' ' :: escapeFences line) =
          escapeFences (if line.all isBlank then [] else ' ' :: ' ' :: line) := by
      intro line
      split <;> rfl
    simp only [writeBlock, blockLines, lines, List.flatMap_cons, List.flatMap_map, hline,
      List.append_nil]
    rfl
  rw [hlines]
  exact ⟨_, (closed_block lines rfl).lexed⟩

end QueryBindings.Grammar

import QueryBindings.Proofs.Layout.Parts
import QueryBindings.Proofs.Literal.QuotedText

/-! # Deprecations read back

A reason for a deprecation is quoted into the argument of a directive.  Whatever the reason and
whatever the pen has written before, it writes one directive, after an indentation or a space, and
that directive reads as a deprecation for this reason.

Main statement: `deprecation_reads_back`. -/

namespace QueryBindings

open Grammar Rule Literal

/-- What a pen writes before a piece that is kept apart. -/
def Pen.lead (p : Pen) : String := if p.atLineStart then repeated p.indent p.level else " "

/-- The directive that deprecates for a reason. -/
def deprecationText (reason : String) : String :=
  "@deprecated(reason: " ++ quote reason ++ ")"

def deprecationTokens (reason : String) : List Token :=
  [.symbol '@', .name "deprecated", .symbol '(', .name "reason", .symbol ':', .string reason,
    .symbol ')']

/-- `written` has the `deprecationTokens`, whatever follows it, and reads as this one directive. -/
structure IsDeprecation (reason written : String) : Prop where
  closed : Closed written.toList (deprecationTokens reason)
  reads : ∀ references depth, readAll (directives references (depth + 1)) written =
    .ok [⟨"deprecated", [⟨"reason", (Value.string reason).text⟩]⟩]

/-! ### What is written -/

theorem Pen.write_apart_raw (p : Pen) (text : String) :
    (p.write .apart).write (.raw text) =
      ⟨p.text ++ p.lead ++ text, p.indent, p.level, false, false⟩ := by
  obtain ⟨written, indent, level, atLineStart, needsSpace⟩ := p
  cases atLineStart <;> simp [Pen.write, Pen.advance, Pen.lead]

theorem text_writeAll_deprecated (p : Pen) (reason : String) :
    (p.writeAll (directivePieces [.deprecated (some reason)])).text =
      p.text ++ (p.lead ++ deprecationText reason) := by
  have hdirective : Text.trim "deprecated" = "deprecated" := trim_of_isName (by decide)
  have hargument : Text.trim "reason" = "reason" := trim_of_isName (by decide)
  have hhead : "@deprecated(reason: " = "@" ++ "deprecated" ++ "(" ++ "reason" ++ ":" ++ " " := by
    decide
  have hpieces : directivePieces [.deprecated (some reason)] =
      [.apart, .raw "@", .word "deprecated", .tight, .raw "(", .word "reason", .tight, .raw ":",
        .apart, .raw (quote reason), .tight, .raw ")", .apart] := rfl
  unfold deprecationText
  rw [hpieces, Pen.writeAll_cons, Pen.writeAll_cons, Pen.write_apart_raw, hhead]
  simp only [Pen.writeAll_cons, Pen.writeAll_nil, Pen.write, Pen.advance, hdirective, hargument]
  simp only [Bool.false_eq_true, if_false, if_true, String.append_assoc]

/-! ### What is read -/

theorem closed_deprecationText (reason : String) :
    Closed (deprecationText reason).toList (deprecationTokens reason) := by
  have hsymbol : ∀ c, isSymbol c = true → Closed [c] [.symbol c] := fun _ => closed_symbol
  have hname : Closed (['@'] ++ "deprecated".toList ++ ['(']) _ :=
    ((hsymbol '@' rfl).append_lexed (lexed_name (by decide))).append_closed (hsymbol '(' rfl)
      fun _ => rfl
  have hspace : Closed [' '] [] := closed_of_ignored rfl
  have hargument : Closed ("reason".toList ++ [':'] ++ [' ']) _ :=
    ((lexed_name (by decide)).append_closed (hsymbol ':' rfl) fun _ => rfl).append hspace
  have hvalue : Lexed (quote reason).toList [.string reason] :=
    fun rest hrest => lex_quote reason (head_ne_quote_of_stops hrest)
  have hsplit : (deprecationText reason).toList = (['@'] ++ "deprecated".toList ++ ['(']) ++
      (("reason".toList ++ [':'] ++ [' ']) ++ ((quote reason).toList ++ [')'])) := by
    have hhead : "@deprecated(reason: ".toList =
        (['@'] ++ "deprecated".toList ++ ['(']) ++ ("reason".toList ++ [':'] ++ [' ']) := by decide
    unfold deprecationText
    rw [String.toList_append, String.toList_append, hhead, List.append_assoc,
      List.append_assoc _ _ ((quote reason).toList ++ _)]
    rfl
  rw [hsplit]
  exact hname.append (hargument.append (hvalue.append_closed (hsymbol ')' rfl) fun _ => rfl))

theorem arguments_reason (references : Bool) (depth : Nat) (reason : String) :
    arguments references (depth + 1) [.symbol '(', .name "reason", .symbol ':', .string reason,
      .symbol ')'] = .ok ([⟨"reason", (Value.string reason).text⟩], []) := by
  have hvalue : valueText references depth [.string reason, .symbol ')'] =
      .ok ((Value.string reason).text, [.symbol ')']) := by
    cases depth <;> rfl
  have hfirst : (do
      let n ← name
      symbol ':'
      return (⟨n, ← valueText references depth⟩ : Argument))
      [.name "reason", .symbol ':', .string reason, .symbol ')'] =
        .ok (⟨"reason", (Value.string reason).text⟩, [.symbol ')']) := by
    apply (bind_ok (name_cons "reason" _)).trans
    apply (bind_ok (symbol_cons ':' _)).trans
    exact bind_ok hvalue
  have hothers : manyUntil ')' (do
      let n ← name
      symbol ':'
      return (⟨n, ← valueText references depth⟩ : Argument)) [.symbol ')'] = .ok ([], []) := by
    unfold manyUntil
    exact (bind_ok (many_stop (by decide) [])).trans (bind_ok (symbol_cons ')' []))
  unfold arguments bracketed someUntil
  apply (bind_ok (isNext_cons (.symbol '(') _)).trans
  apply (bind_ok (symbol_cons '(' _)).trans
  exact (bind_ok hfirst).trans (bind_ok hothers)

theorem directives_deprecationTokens (references : Bool) (depth : Nat) (reason : String) :
    directives references (depth + 1) (deprecationTokens reason) =
      .ok ([⟨"deprecated", [⟨"reason", (Value.string reason).text⟩]⟩], []) := by
  have hitem : (do
      symbol '@'
      let n ← name
      return (⟨n, ← arguments references (depth + 1)⟩ : Directive)) (deprecationTokens reason) =
        .ok (⟨"deprecated", [⟨"reason", (Value.string reason).text⟩]⟩, []) := by
    apply (bind_ok (symbol_cons '@' _)).trans
    apply (bind_ok (name_cons "deprecated" _)).trans
    exact bind_ok (arguments_reason references depth reason)
  exact many_cons rfl hitem (Nat.succ_pos _) (many_nil _ _)

theorem isDeprecation_of_isPad {pad : String} (h : isPad pad.toList = true) (reason : String) :
    IsDeprecation reason (pad ++ deprecationText reason) := by
  have hclosed : Closed (pad ++ deprecationText reason).toList (deprecationTokens reason) := by
    rw [String.toList_append]
    exact (Pen.closed_of_isPad h).append (closed_deprecationText reason)
  refine ⟨hclosed, fun references depth => ?_⟩
  have hreadable : .unreadable ∉ deprecationTokens reason := by simp [deprecationTokens]
  rw [readAll_eq_ok, hclosed.lexed.lex_eq, upToUnreadable_of_not_mem hreadable]
  exact directives_deprecationTokens references depth reason

theorem Pen.isPad_lead {p : Pen}
    (h : p.atLineStart = true → p.level = 0 ∨ isPad p.indent.toList = true) :
    isPad p.lead.toList = true := by
  unfold lead
  split
  · rename_i hstart
    rcases h hstart with hlevel | hindent
    · rw [hlevel]
      rfl
    · exact isPad_repeated hindent p.level
  · rfl

/-- What `quote` writes is one literal of the query language with the reason as its value: no quote
inside of it is unescaped and no control stands in it.  Any pen writes the deprecation for a reason
as its `lead` and one directive, and that directive reads as the deprecation for this reason. -/
theorem deprecation_reads_back (reason : String) :
    (∃ content : List Char, (quote reason).toList = '"' :: content ++ ['"'] ∧
      (∀ c ∈ content, 0x20 ≤ c.toNat) ∧
      ∀ behind, quotedContent? false (content ++ '"' :: behind) = some content) ∧
    (∀ behind : List Char, behind.head? ≠ some '"' →
      stringLiteral? ((quote reason).toList ++ behind) = some (reason, behind)) ∧
    IsDeprecation reason (deprecationText reason) ∧
    ∀ p : Pen,
      (p.writeAll (directivePieces [.deprecated (some reason)])).text =
        p.text ++ (p.lead ++ deprecationText reason) ∧
      ((p.atLineStart = true → p.level = 0 ∨ isPad p.indent.toList = true) →
        IsDeprecation reason (p.lead ++ deprecationText reason)) := by
  have hempty : isPad "".toList = true := rfl
  have hbare := isDeprecation_of_isPad hempty reason
  rw [String.empty_append] at hbare
  refine ⟨⟨_, toList_quote reason, not_control_quotedChars reason, ?_⟩, ?_, hbare, ?_⟩
  · exact (isContent_quotedChars reason).quotedContent?_eq
  · exact fun _ => stringLiteral?_quote reason
  · exact fun p => ⟨text_writeAll_deprecated p reason,
      fun h => isDeprecation_of_isPad (Pen.isPad_lead h) reason⟩

theorem deprecation_reads_back_indented :
    stringLiteral? ((quote "use \"b\\c\"\x07f").toList ++ [')']) =
      some ("use \"b\\c\"\x07f", [')']) ∧
    IsDeprecation "use \"b\\c\"\x07f"
      (Pen.lead ⟨"", "\t", 2, true, false⟩ ++ deprecationText "use \"b\\c\"\x07f") :=
  have h := deprecation_reads_back "use \"b\\c\"\x07f"
  ⟨h.2.1 [')'] (by decide), (h.2.2.2 ⟨"", "\t", 2, true, false⟩).2 fun _ => .inr (by decide)⟩

end QueryBindings

import QueryBindings.Layout
import QueryBindings.Proofs.Grammar.Parts
import QueryBindings.Proofs.Grammar.TypeTrees
import QueryBindings.Proofs.Layout.Emission

/-! # Tokens of laid out parts

Names, types, default values, arguments and directives emit their tokens.  Names and types hold
no blanks, so a word of layout is the whole of them. -/

namespace QueryBindings

open Grammar Text

/-! ### Words without blanks -/

theorem dropWhile_isBlank {cs : List Char} (h : ∀ c ∈ cs, isBlank c = false) :
    cs.dropWhile isBlank = cs := by
  cases cs with
  | nil => rfl
  | cons c cs =>
      rw [List.dropWhile_cons, h c List.mem_cons_self]
      rfl

theorem toList_trim {text : String} (h : ∀ c ∈ text.toList, isBlank c = false) :
    (trim text).toList = text.toList := by
  have hreverse : ∀ c ∈ text.toList.reverse, isBlank c = false :=
    fun c hc => h c (List.mem_reverse.mp hc)
  unfold trim trimChars trimStartChars trimEndChars
  rw [String.toList_ofList, dropWhile_isBlank h, dropWhile_isBlank hreverse, List.reverse_reverse]

theorem not_isBlank_of_isName {text : String} (h : isName text = true) :
    ∀ c ∈ text.toList, isBlank c = false :=
  fun c hc => not_isBlank_of_isNamePart (isNamePart_of_mem h c hc)

theorem trim_of_isName {text : String} (h : isName text = true) : trim text = text :=
  String.toList_injective (toList_trim (not_isBlank_of_isName h))

theorem emits_name {text : String} (h : isName text = true) :
    Emits .firm [.word text] [.name text] .firm := by
  apply Emits.word
  rw [toList_trim (not_isBlank_of_isName h)]
  exact lexed_name h

/-! ### Types -/

namespace TypeExpr

def markChars (mark : Bool) : List Char := if mark then ['!'] else []

theorem toList_text_named (n : String) (mark : Bool) :
    (named n mark).text.toList = n.toList ++ markChars mark := by
  unfold text markChars
  split
  · exact String.toList_append
  · rw [List.append_nil]

theorem toList_text_list (element : TypeExpr) (mark : Bool) :
    (list element mark).text.toList =
      ['['] ++ (element.text.toList ++ ([']'] ++ markChars mark)) := by
  cases mark with
  | true =>
      rw [text, if_pos rfl, String.toList_append, String.toList_append, List.append_assoc]
      rfl
  | false =>
      rw [text, if_neg Bool.false_ne_true, String.toList_append, String.toList_append,
        List.append_assoc]
      rfl

theorem closed_mark (mark : Bool) : Closed (markChars mark) (markTokens mark) := by
  cases mark with
  | true => exact closed_symbol rfl
  | false => exact Closed.nil

/-- How deep the lists are makes no difference to the tokens of `TypeExpr.text`. -/
theorem lexed_text {t : TypeExpr} (h : isName t.baseName = true) : Lexed t.text.toList t.tokens := by
  have hopen : Closed ['['] [.symbol '['] := closed_symbol rfl
  have hclose : Closed [']'] [.symbol ']'] := closed_symbol rfl
  induction t with
  | named n mark =>
      have hname : Lexed n.toList [.name n] := lexed_name h
      rw [toList_text_named]
      refine hname.append (closed_mark mark).lexed fun rest hrest => ?_
      cases mark with
      | true => rfl
      | false => exact hrest
  | list element mark ih =>
      have hend : Closed ([']'] ++ markChars mark) (.symbol ']' :: markTokens mark) :=
        hclose.append (closed_mark mark)
      have hbody := (ih h).append_closed hend fun _ => rfl
      rw [toList_text_list]
      exact (hopen.append hbody).lexed

theorem not_isBlank_mark {mark : Bool} : ∀ c ∈ markChars mark, isBlank c = false := by
  intro c hc
  cases mark with
  | true =>
      rw [List.mem_singleton.mp hc]
      rfl
  | false => cases hc

theorem not_isBlank_text {t : TypeExpr} (h : isName t.baseName = true) :
    ∀ c ∈ t.text.toList, isBlank c = false := by
  intro c hc
  induction t with
  | named n mark =>
      rw [toList_text_named, List.mem_append] at hc
      rcases hc with hc | hc
      · exact not_isBlank_of_isName h c hc
      · exact not_isBlank_mark c hc
  | list element mark ih =>
      rw [toList_text_list] at hc
      simp only [List.mem_append, List.mem_singleton] at hc
      rcases hc with rfl | hc | rfl | hc
      · rfl
      · exact ih h hc
      · rfl
      · exact not_isBlank_mark c hc

end TypeExpr

theorem emits_type {depth : Nat} {t : TypeExpr} (h : t.Legible depth) :
    Emits .firm [.word t.text] t.tokens .firm := by
  have hname := (TypeExpr.legible_iff.mp h).1
  apply Emits.word
  rw [toList_trim (t.not_isBlank_text hname)]
  exact t.lexed_text hname

/-! ### Values -/

theorem emits_default {references : Bool} {depth : Nat} {given : Option String}
    (h : ∀ text, given = some text → Legible references depth text) :
    Emits .firm (defaultPieces given) (defaultTokens given) .loose := by
  cases given with
  | none => exact (Emits.nil .firm).weaken
  | some text =>
      have hequals : Emits .firm [.word "="] [.symbol '='] .firm := by
        have htrim : (trim "=").toList = ['='] := by decide
        apply Emits.word
        rw [htrim]
        exact (closed_symbol rfl).lexed
      exact hequals.append (Emits.raw (h text rfl).lexed)

theorem emits_argument {references : Bool} {depth : Nat} {a : Argument}
    (h : a.Legible references depth) :
    Emits .firm ([.word a.name] ++ Piece.colon ++ [.raw a.value]) a.tokens .loose := by
  cases depth with
  | zero => exact h.elim
  | succ depth =>
      exact ((emits_name h.1).append (Emits.of_loose Emits.colon)).append (Emits.raw h.2.lexed)

theorem emits_closeArguments :
    Emits .loose Piece.closeArguments [.symbol ')'] .firm := by
  have hclose : Emits .loose [.raw ")"] [.symbol ')'] .firm :=
    Emits.raw_stop (closed_symbol rfl) fun _ => rfl
  exact (Emits.tight.silent_append hclose).append_silent (Emits.of_loose Emits.apart)

theorem emits_arguments {references : Bool} {depth : Nat} {as : List Argument}
    (h : ∀ a ∈ as, a.Legible references depth) :
    Emits .firm (argumentPieces as) (argumentTokens as) .firm := by
  unfold argumentPieces argumentTokens
  split
  · exact Emits.nil .firm
  · have hopen : Emits .loose [.raw "("] [.symbol '('] .firm :=
      Emits.raw_stop (closed_symbol rfl) fun _ => rfl
    have hitems := Emits.commaSeparated fun a ha => emits_argument (h a ha)
    have hall := (((Emits.tight.silent_append hopen).append hitems).append emits_closeArguments)
    rw [List.append_assoc] at hall
    exact Emits.of_loose hall

/-- Applied directives emit their tokens and stand apart on either side. -/
theorem emits_directives {references : Bool} {depth : Nat} {ds : List Directive}
    (h : ∀ d ∈ ds, d.Legible references depth) (seam : Seam) :
    Emits seam (directivePieces ds) (ds.flatMap Directive.tokens) seam := by
  have hat : Emits .firm [.raw "@"] [.symbol '@'] .firm := Emits.raw_closed (closed_symbol rfl)
  refine Emits.flatMap fun d hd => ?_
  have hhead := (Emits.apart.silent_append hat).append (emits_name (h d hd).1)
  have hall := hhead.append (emits_arguments (h d hd).2)
  cases seam with
  | firm => exact Emits.of_loose hall
  | loose => exact hall.weaken

end QueryBindings

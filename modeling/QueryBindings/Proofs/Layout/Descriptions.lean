import QueryBindings.Proofs.Grammar.Members
import QueryBindings.Proofs.Layout.Parts

/-! # Tokens of descriptions

A description is laid out as a block string, line by line with the indentation of the pen.  All of
it is one string token, and if it is in normal form, the value of that token is the description.

Main statements: `lineAfter_description` (the text) and `acts_description` (its token). -/

namespace QueryBindings

open Grammar Literal Text

/-- The pen `q` goes on with a new line after `p`, with the text `added`. -/
structure Pen.LineAfter (p q : Pen) (added : List Char) : Prop where
  text : q.text.toList = p.text.toList ++ added
  indent : q.indent = p.indent
  level : q.level = p.level
  start : q.atLineStart = true

namespace Pen

/-- What a pen puts in front of a line. -/
def pad (p : Pen) : List Char := (repeated p.indent p.level).toList

theorem LineAfter.pad_eq {p q : Pen} {added : List Char} (h : LineAfter p q added) :
    q.pad = p.pad := by
  unfold pad
  rw [h.indent, h.level]

theorem LineAfter.trans {p q r : Pen} {a b : List Char} (h : LineAfter p q a)
    (h' : LineAfter q r b) : LineAfter p r (a ++ b) := by
  refine ⟨?_, h'.indent.trans h.indent, h'.level.trans h.level, h'.start⟩
  rw [h'.text, h.text, List.append_assoc]

theorem lineAfter_raw {p : Pen} (hstart : p.atLineStart = true) (text : String) :
    LineAfter p (p.writeAll [.raw text, .newline]) (p.pad ++ text.toList ++ ['\n']) := by
  have hadvance : p.advance = { p with
      text := p.text ++ repeated p.indent p.level, atLineStart := false, needsSpace := false } := by
    unfold Pen.advance
    rw [if_pos hstart]
  rw [writeAll_cons, writeAll_cons, writeAll_nil, write, write, hadvance]
  refine ⟨?_, rfl, rfl, rfl⟩
  show (p.text ++ repeated p.indent p.level ++ text ++ "\n").toList = _
  rw [String.toList_append, String.toList_append, String.toList_append, List.append_assoc,
    List.append_assoc, ← List.append_assoc (repeated p.indent p.level).toList]
  rfl

theorem lineAfter_descriptionLine {p : Pen} (hstart : p.atLineStart = true) (line : List Char)
    (hpad : isPad p.pad = true) :
    LineAfter p (p.writeAll (descriptionLine line))
      (escapeFences (paddedLine p.pad line) ++ ['\n']) := by
  unfold descriptionLine paddedLine
  by_cases hempty : line.isEmpty = true
  · rw [if_pos hempty, if_pos hempty]
    exact ⟨String.toList_append, rfl, rfl, rfl⟩
  · rw [if_neg hempty, if_neg hempty, escapeFences_pad hpad]
    have hline := lineAfter_raw hstart (String.ofList (escapeFences line))
    rw [String.toList_ofList] at hline
    exact hline

theorem lineAfter_lines {p : Pen} (hstart : p.atLineStart = true) (hpad : isPad p.pad = true)
    (lines : List (List Char)) :
    LineAfter p (p.writeAll (lines.flatMap descriptionLine))
      (blockLines (lines.map (paddedLine p.pad))) := by
  induction lines generalizing p with
  | nil => exact ⟨(List.append_nil _).symm, rfl, rfl, hstart⟩
  | cons line lines ih =>
      have hline := lineAfter_descriptionLine hstart line hpad
      have hrest := ih hline.start (hline.pad_eq ▸ hpad)
      rw [hline.pad_eq] at hrest
      rw [List.flatMap_cons, writeAll_append, List.map_cons]
      exact hline.trans hrest

theorem lineAfter_description {p : Pen} (hpad : isPad p.indent.toList = true) {text : String}
    (hne : text ≠ "") :
    LineAfter p.advance (p.writeAll (descriptionPieces (some text)))
      ((['"', '"', '"'] ++ blockLines ([] :: (lineChars text.toList).map (paddedLine p.pad)) ++
        p.pad ++ ['"', '"', '"']) ++ ['\n']) := by
  let fenceLine := [Piece.raw fence, Piece.newline]
  have hpieces : descriptionPieces (some text) =
      fenceLine ++ ((lineChars text.toList).flatMap descriptionLine ++ fenceLine) := by
    unfold descriptionPieces
    dsimp only
    rw [if_neg hne, List.append_assoc]
  have hopen : LineAfter p.advance (p.writeAll fenceLine) (['"', '"', '"'] ++ ['\n']) := by
    refine ⟨?_, rfl, rfl, rfl⟩
    show (p.advance.text ++ fence ++ "\n").toList = _
    rw [String.toList_append, String.toList_append, List.append_assoc]
    rfl
  have hsame : (p.writeAll fenceLine).pad = p.pad := by
    rw [hopen.pad_eq]
    unfold pad
    rw [p.indent_advance, p.level_advance]
  have hbody := lineAfter_lines (p := p.writeAll fenceLine) rfl
    (hsame ▸ isPad_repeated hpad p.level) (lineChars text.toList)
  have hall := hopen.trans (hbody.trans (lineAfter_raw hbody.start fence))
  rw [hbody.pad_eq, hsame, ← writeAll_append, ← writeAll_append, ← hpieces] at hall
  have hfirst : ∀ more, blockLines ([] :: more) = '\n' :: blockLines more := fun _ => rfl
  rw [hfirst]
  simpa [fence] using hall

end Pen

/-- A description that is not empty is one string token.  The value of that token is the description
if it has `BlockNormal`. -/
theorem acts_description {text : String} (hne : text ≠ "") :
    Acts .firm (descriptionPieces (some text)) (fun behind all => ∃ value,
      (BlockNormal text.toList → value = text) ∧ all = .string value :: behind) .firm := by
  intro p e hp
  have hpad : isPad p.pad = true := Pen.isPad_repeated hp.pad p.level
  have hdescription := Pen.lineAfter_description hp.pad hne
  let content := [] :: (lineChars text.toList).map (paddedLine p.pad)
  let value := readBlock (blockLines content ++ p.pad)
  have hblock : (Effect.adds [.string (String.ofList value)]).Holds (['"', '"', '"'] ++
      blockLines content ++ p.pad ++ ['"', '"', '"']) := closed_block content hpad
  have hvalue : BlockNormal text.toList → String.ofList value = text := by
    intro hnormal
    have hread : value = text.toList := readBlock_padded hpad hnormal
    rw [hread, String.ofList_toList]
  have hline : Closed ['\n'] [] := closed_of_ignored rfl
  have hclosed := (hp.advance.2 rfl).append (hblock.append_silent hline)
  rw [← hdescription.text] at hclosed
  have hwrote : (p.writeAll (descriptionPieces (some text))).Wrote .firm
      (Relation.Comp (Effect.adds [.string (String.ofList value)]) e) := by
    refine ⟨?_, hclosed.atStop, fun _ => hclosed, fun _ => .inr hclosed⟩
    rw [hdescription.indent, p.indent_advance]
    exact hp.pad
  exact hwrote.mono fun _ _ ⟨t, ht, he⟩ => ⟨t, ⟨_, hvalue, ht⟩, he⟩

/-- An optional description is laid out as its token. -/
theorem emits_descriptions {about : Option String}
    (h : ∀ text, about = some text → BlockNormal text.toList) :
    Emits .firm (descriptionPieces about) (descriptionTokens about) .firm := by
  cases about with
  | none => exact Emits.nil .firm
  | some text =>
      refine (acts_description (h text rfl).ne_empty).mono ?_
      rintro behind all ⟨value, hvalue, rfl⟩
      rw [hvalue (h text rfl)]
      rfl

end QueryBindings

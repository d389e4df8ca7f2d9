import Mathlib.Data.List.DropRight
import QueryBindings.Proofs.Layout.Descriptions

/-! # Values of descriptions

What a description is worth to a reader that goes by the rules of block strings: the string ends at
the first fence that no backslash precedes, lines are indented by spaces and tabs, and the value
leaves out the indentation that all lines but the first share and the blank lines at either end
(`rawContent?`, `blockValue`).

A description is laid out with its fences escaped, behind a line that holds the opening fence alone
and with the indentation of the pen before each of its lines.  So the string ends where it was meant
to end, the shared indentation is that of the pen and of the text itself, and the value is the text
without shared indentation and blank ends (`normalForm`).

Main statement: `description_value`. -/

namespace QueryBindings

open Grammar Text

namespace Literal

/-! ### The rules of block strings -/

def isSpacing (c : Char) : Bool := c = ' ' || c = '\t'

/-- The characters before the first fence that no backslash precedes, with every escaped fence as
the fence itself, and what follows that fence. -/
def rawContent? : List Char → Option (List Char × List Char)
  | '"' :: '"' :: '"' :: behind => some ([], behind)
  | '\\' :: '"' :: '"' :: '"' :: rest => (rawContent? rest).map (.map ('"' :: '"' :: '"' :: ·) id)
  | c :: rest => (rawContent? rest).map (.map (c :: ·) id)
  | [] => none

/-- The lines of a text.  A line feed, a carriage return and a pair of both end a line, and the last
line is what follows the last of these. -/
def ruledLines : List Char → List (List Char)
  | [] => [[]]
  | '\r' :: '\n' :: rest => [] :: ruledLines rest
  | '\r' :: rest => [] :: ruledLines rest
  | '\n' :: rest => [] :: ruledLines rest
  | c :: rest => consToFirstLine c (ruledLines rest)

/-- The length of the indentation of a line; a blank line has none. -/
def margin? (line : List Char) : Option Nat :=
  if isPad line then none else some (line.takeWhile isSpacing).length

/-- The least `margin?` of the lines, which all but blank ones share. -/
def sharedMargin (lines : List (List Char)) : Nat := ((lines.filterMap margin?).min?).getD 0

/-- The lines without the blank ones at either end. -/
def withoutBlankEnds (lines : List (List Char)) : List (List Char) :=
  (lines.dropWhile isPad).rdropWhile isPad

/-- The value of the raw content of a block string: its `ruledLines` without the `sharedMargin` of
all but the first, and `withoutBlankEnds`. -/
def blockValue (raw : List Char) : List Char :=
  match ruledLines raw with
  | [] => []
  | first :: rest =>
    joinLines (withoutBlankEnds (first :: rest.map (·.drop (sharedMargin rest))))

/-! ### Normal forms -/

/-- A text whose first and last line are not blank, and some line of which is not indented. -/
structure NormalText (text : List Char) : Prop where
  first : ∀ line, (allLines text).head? = some line → isPad line = false
  last : ∀ line, (allLines text).getLast? = some line → isPad line = false
  flush : some 0 ∈ (allLines text).map margin?

/-- The lines of a text without their `sharedMargin`, and `withoutBlankEnds`. -/
def normalLines (text : List Char) : List (List Char) :=
  withoutBlankEnds ((allLines text).map (·.drop (sharedMargin (allLines text))))

/-- `normalLines` as a text. -/
def normalForm (text : List Char) : List Char := joinLines (normalLines text)

/-! ### Margins -/

theorem not_isPad_of_margin? {line : List Char} {n : Nat} (h : margin? line = some n) :
    isPad line = false := by
  unfold margin? at h
  split at h
  · cases h
  · rename_i hline
    exact Bool.eq_false_iff.mpr hline

theorem exists_eq_of_margin? {line : List Char} {n : Nat} (h : margin? line = some n) :
    ∃ pad c rest, line = pad ++ c :: rest ∧ pad.length = n ∧ isSpacing c = false := by
  have hline := not_isPad_of_margin? h
  unfold margin? at h
  rw [if_neg (by simp [hline])] at h
  have hsplit : line.takeWhile isSpacing ++ line.dropWhile isSpacing = line :=
    List.takeWhile_append_dropWhile
  cases hrest : line.dropWhile isSpacing with
  | nil =>
      have hall : isPad line = true := List.all_eq_true.mpr (List.dropWhile_eq_nil_iff.mp hrest)
      rw [hall] at hline
      cases hline
  | cons c rest =>
      have hc := List.head?_dropWhile_not isSpacing line
      rw [hrest] at hc hsplit
      exact ⟨_, c, rest, hsplit.symm, Option.some.inj h, hc⟩

theorem isPad_append (a b : List Char) : isPad (a ++ b) = (isPad a && isPad b) := List.all_append

theorem isPad_drop_of_margin? {line : List Char} {n k : Nat} (h : margin? line = some n)
    (hk : k ≤ n) : isPad (line.drop k) = false := by
  obtain ⟨pad, c, rest, rfl, rfl, hc⟩ := exists_eq_of_margin? h
  rw [List.drop_append_of_le_length hk, isPad_append]
  have hrest : isPad (c :: rest) = false := by
    show (isSpacing c && isPad rest) = false
    rw [hc, Bool.false_and]
  rw [hrest, Bool.and_false]

theorem margin?_drop {line : List Char} {n : Nat} (h : margin? line = some n) :
    margin? (line.drop n) = some 0 := by
  have hblank := isPad_drop_of_margin? h (Nat.le_refl n)
  obtain ⟨pad, c, rest, rfl, rfl, hc⟩ := exists_eq_of_margin? h
  rw [List.drop_left] at hblank ⊢
  unfold margin?
  rw [if_neg (by simp [hblank]), List.takeWhile_cons, hc]
  rfl

theorem margin?_append {pad : List Char} (hpad : isPad pad = true) (line : List Char) :
    margin? (pad ++ line) = (margin? line).map (pad.length + ·) := by
  have hall : ∀ c ∈ pad, isSpacing c = true := List.all_eq_true.mp hpad
  unfold margin?
  rw [isPad_append, hpad, Bool.true_and, List.takeWhile_append_of_pos hall, List.length_append]
  split <;> rfl

section

variable {lines : List (List Char)}

theorem sharedMargin_spec {line : List Char} (hmem : line ∈ lines) (hline : isPad line = false) :
    some (sharedMargin lines) ∈ lines.map margin? ∧
      ∀ other ∈ lines, ∀ n, margin? other = some n → sharedMargin lines ≤ n := by
  have hne : lines.filterMap margin? ≠ [] := by
    refine List.ne_nil_of_mem (a := (line.takeWhile isSpacing).length) ?_
    rw [List.mem_filterMap]
    exact ⟨line, hmem, by simp [margin?, hline]⟩
  obtain ⟨least, hleast⟩ := Option.isSome_iff_exists.mp (List.isSome_min?_iff.mpr hne)
  have hshared : sharedMargin lines = least := by
    unfold sharedMargin
    rw [hleast]
    rfl
  obtain ⟨hmin, hle⟩ := List.min?_eq_some_iff.mp hleast
  obtain ⟨shortest, hshortest, hmargin⟩ := List.mem_filterMap.mp hmin
  rw [hshared]
  exact ⟨List.mem_map.mpr ⟨shortest, hshortest, hmargin⟩,
    fun other hother n hn => hle n (List.mem_filterMap.mpr ⟨other, hother, hn⟩)⟩

theorem sharedMargin_eq {n : Nat} (hmem : some n ∈ lines.map margin?)
    (hle : ∀ line ∈ lines, ∀ m, margin? line = some m → n ≤ m) : sharedMargin lines = n := by
  obtain ⟨line, hline, hn⟩ := List.mem_map.mp hmem
  obtain ⟨hleast, hshared⟩ := sharedMargin_spec hline (not_isPad_of_margin? hn)
  obtain ⟨shortest, hshortest, hmargin⟩ := List.mem_map.mp hleast
  exact Nat.le_antisymm (hshared line hline n hn) (hle shortest hshortest _ hmargin)

/-! ### Blank ends -/

theorem withoutBlankEnds_append_blank (lines : List (List Char)) {line : List Char}
    (h : isPad line = true) : withoutBlankEnds (lines ++ [line]) = withoutBlankEnds lines := by
  unfold withoutBlankEnds
  rw [List.dropWhile_append]
  split
  · rename_i hempty
    rw [List.isEmpty_iff.mp hempty]
    simp [h]
  · exact List.rdropWhile_concat_pos _ _ _ h

theorem withoutBlankEnds_cons_blank (lines : List (List Char)) {line : List Char}
    (h : isPad line = true) : withoutBlankEnds (line :: lines) = withoutBlankEnds lines := by
  unfold withoutBlankEnds
  rw [List.dropWhile_cons_of_pos h]

theorem mem_withoutBlankEnds {line : List Char} (hmem : line ∈ lines)
    (hline : isPad line = false) : line ∈ withoutBlankEnds lines := by
  have hdrop : ∀ ls : List (List Char), line ∈ ls → line ∈ ls.dropWhile isPad := by
    intro ls hls
    rw [← List.takeWhile_append_dropWhile (p := isPad) (l := ls), List.mem_append] at hls
    rcases hls with hls | hls
    · rw [List.mem_takeWhile_imp hls] at hline
      cases hline
    · exact hls
  exact List.mem_reverse.mpr (hdrop _ (List.mem_reverse.mpr (hdrop lines hmem)))

theorem mem_of_mem_withoutBlankEnds {line : List Char} (h : line ∈ withoutBlankEnds lines) :
    line ∈ lines :=
  (List.dropWhile_suffix isPad).mem ((List.rdropWhile_prefix isPad _).mem h)

theorem head_withoutBlankEnds {line : List Char}
    (h : (withoutBlankEnds lines).head? = some line) : isPad line = false := by
  obtain ⟨more, hmore⟩ := List.rdropWhile_prefix isPad (lines.dropWhile isPad)
  have hhead : (lines.dropWhile isPad).head? = some line := by
    rw [← hmore, List.head?_append]
    exact congrArg (·.or more.head?) h
  have hnot := List.head?_dropWhile_not isPad lines
  rw [hhead] at hnot
  exact hnot

theorem getLast_withoutBlankEnds {line : List Char}
    (h : (withoutBlankEnds lines).getLast? = some line) : isPad line = false := by
  have hne : withoutBlankEnds lines ≠ [] := by
    intro hnil
    rw [hnil] at h
    cases h
  rw [List.getLast?_eq_some_getLast hne] at h
  rw [← Option.some.inj h]
  exact Bool.eq_false_iff.mpr (List.rdropWhile_last_not isPad _ hne)

theorem withoutBlankEnds_eq_self (hfirst : ∀ line, lines.head? = some line → isPad line = false)
    (hlast : ∀ line, lines.getLast? = some line → isPad line = false) :
    withoutBlankEnds lines = lines := by
  have hdrop : lines.dropWhile isPad = lines := by
    cases lines with
    | nil => rfl
    | cons line rest => rw [List.dropWhile_cons_of_neg (by simp [hfirst line rfl])]
  unfold withoutBlankEnds
  rw [hdrop, List.rdropWhile_eq_self_iff]
  exact fun hne => by simp [hlast _ (List.getLast?_eq_some_getLast hne)]

end

/-! ### Normal forms are normal -/

section

variable {text : List Char}

theorem normalForm_eq_self (h : NormalText text) : normalForm text = text := by
  have hshared : sharedMargin (allLines text) = 0 :=
    sharedMargin_eq h.flush fun _ _ _ _ => Nat.zero_le _
  have hlines : normalLines text = allLines text := by
    unfold normalLines
    rw [hshared]
    simp only [List.drop_zero, List.map_id']
    exact withoutBlankEnds_eq_self h.first h.last
  unfold normalForm
  rw [hlines]
  exact intercalate_splitOnChar '\n' text

theorem normal_normalForm {line : List Char} (hmem : line ∈ allLines text)
    (hline : isPad line = false) : NormalText (normalForm text) := by
  obtain ⟨hleast, hle⟩ := sharedMargin_spec hmem hline
  obtain ⟨shortest, hshortest, hmargin⟩ := List.mem_map.mp hleast
  have hmem : shortest.drop (sharedMargin (allLines text)) ∈ normalLines text :=
    mem_withoutBlankEnds (List.mem_map_of_mem hshortest)
      (isPad_drop_of_margin? hmargin (Nat.le_refl _))
  have hfeed : ∀ part ∈ normalLines text, '\n' ∉ part := by
    intro part hpart hc
    obtain ⟨whole, hwhole, rfl⟩ := List.mem_map.mp (mem_of_mem_withoutBlankEnds hpart)
    exact (mem_splitOnChar hwhole).1 (List.mem_of_mem_drop hc)
  have hlines : allLines (normalForm text) = normalLines text :=
    splitOnChar_intercalate (List.ne_nil_of_mem hmem) hfeed
  refine ⟨fun first hfirst => ?_, fun last hlast => ?_, ?_⟩
  · rw [hlines] at hfirst
    exact head_withoutBlankEnds hfirst
  · rw [hlines] at hlast
    exact getLast_withoutBlankEnds hlast
  · rw [hlines]
    exact List.mem_map.mpr ⟨_, hmem, margin?_drop hmargin⟩

end

/-! ### Where a block ends -/

/-- Lines of raw content, each ended by a line feed. -/
def rawLines (lines : List (List Char)) : List Char := lines.flatMap (· ++ ['\n'])

theorem rawContent?_cons {c : Char} {rest : List Char}
    (hfence : ∀ tail, c :: rest ≠ '"' :: '"' :: '"' :: tail)
    (hescaped : ∀ tail, c :: rest ≠ '\\' :: '"' :: '"' :: '"' :: tail) :
    rawContent? (c :: rest) = (rawContent? rest).map (.map (c :: ·) id) := by
  rw [rawContent?]
  · intro tail hc hrest
    exact hfence tail (by rw [hc, hrest])
  · intro tail hc hrest
    exact hescaped tail (by rw [hc, hrest])

theorem rawContent?_line (line rest : List Char) :
    rawContent? (escapeFences line ++ '\n' :: rest) =
      (rawContent? rest).map (.map (line ++ '\n' :: ·) id) := by
  fun_induction escapeFences line with
  | case1 tail ih =>
      simp only [List.cons_append]
      rw [rawContent?, ih, Option.map_map]
      rfl
  | case2 c tail hfence ih =>
      have hline : escapeFences (c :: tail) = c :: escapeFences tail := by
        rw [escapeFences]
        exact hfence
      rw [List.cons_append, rawContent?_cons, ih, Option.map_map]
      · rfl
      · rw [← List.cons_append, ← hline]
        exact escapeFences_ne_fence _ (by simp)
      · exact fun after h => escapeFences_ne_fence tail (by simp) after (List.cons.inj h).2
  | case3 =>
      rw [List.nil_append, rawContent?_cons (by simp) (by simp)]
      rfl

theorem rawContent?_pad {pad : List Char} (hpad : isPad pad = true) (behind : List Char) :
    rawContent? (pad ++ '"' :: '"' :: '"' :: behind) = some (pad, behind) := by
  induction pad with
  | nil => rw [List.nil_append, rawContent?]
  | cons c pad ih =>
      have hc : isSpacing c = true ∧ isPad pad = true := by
        simpa [isPad, isSpacing] using hpad
      rw [List.cons_append, rawContent?_cons, ih hc.2]
      · rfl
      · rintro tail heq
        rw [(List.cons.inj heq).1] at hc
        exact absurd hc.1 (by decide)
      · rintro tail heq
        rw [(List.cons.inj heq).1] at hc
        exact absurd hc.1 (by decide)

theorem rawContent?_blockLines (lines : List (List Char)) {pad : List Char}
    (hpad : isPad pad = true) (behind : List Char) :
    rawContent? (blockLines lines ++ pad ++ '"' :: '"' :: '"' :: behind) =
      some (rawLines lines ++ pad, behind) := by
  unfold blockLines rawLines
  induction lines with
  | nil => exact rawContent?_pad hpad behind
  | cons line lines ih =>
      rw [List.flatMap_cons]
      simp only [List.append_assoc, List.cons_append, List.nil_append] at ih ⊢
      rw [rawContent?_line, ih]
      simp

/-! ### Values of padded blocks -/

theorem ruledLines_cons {c : Char} {rest : List Char} (hfeed : c ≠ '\n') (hreturn : c ≠ '\r') :
    ruledLines (c :: rest) = consToFirstLine c (ruledLines rest) := by
  rw [ruledLines]
  · exact fun _ h => absurd h hreturn
  · exact hreturn
  · exact hfeed

theorem ruledLines_single {line : List Char} (hfeed : '\n' ∉ line) (hreturn : '\r' ∉ line) :
    ruledLines line = [line] := by
  induction line with
  | nil => rfl
  | cons c line ih =>
      rw [List.mem_cons, not_or] at hfeed hreturn
      rw [ruledLines_cons (Ne.symm hfeed.1) (Ne.symm hreturn.1), ih hfeed.2 hreturn.2]
      rfl

theorem ruledLines_line {line : List Char} (hfeed : '\n' ∉ line) (hreturn : '\r' ∉ line)
    (rest : List Char) : ruledLines (line ++ '\n' :: rest) = line :: ruledLines rest := by
  induction line with
  | nil => rw [List.nil_append, ruledLines]
  | cons c line ih =>
      rw [List.mem_cons, not_or] at hfeed hreturn
      rw [List.cons_append, ruledLines_cons (Ne.symm hfeed.1) (Ne.symm hreturn.1),
        ih hfeed.2 hreturn.2]
      rfl

theorem ruledLines_rawLines {lines : List (List Char)}
    (h : ∀ line ∈ lines, '\n' ∉ line ∧ '\r' ∉ line) (rest : List Char) :
    ruledLines (rawLines lines ++ rest) = lines ++ ruledLines rest := by
  unfold rawLines
  induction lines with
  | nil => rfl
  | cons line lines ih =>
      obtain ⟨⟨hfeed, hreturn⟩, hlines⟩ := List.forall_mem_cons.mp h
      rw [List.flatMap_cons, List.append_assoc, List.append_assoc, List.singleton_append,
        ruledLines_line hfeed hreturn, ih hlines]
      rfl

section

variable {pad text : List Char}

theorem margin?_paddedLine (hpad : isPad pad = true) (line : List Char) :
    margin? (paddedLine pad line) = (margin? line).map (pad.length + ·) := by
  unfold paddedLine
  split
  · rename_i hempty
    rw [List.isEmpty_iff.mp hempty]
    rfl
  · exact margin?_append hpad line

theorem drop_paddedLine (n : Nat) (line : List Char) :
    (paddedLine pad line).drop (pad.length + n) = line.drop n := by
  unfold paddedLine
  split
  · rename_i hempty
    rw [List.isEmpty_iff.mp hempty, List.drop_nil, List.drop_nil]
  · exact List.drop_length_add_append n

/-- The lines of an indented block share the pad and what they shared before. -/
theorem sharedMargin_padded (hpad : isPad pad = true) {lines : List (List Char)} {line : List Char}
    (hmem : line ∈ lines) (hline : isPad line = false) :
    sharedMargin (lines.map (paddedLine pad) ++ [pad]) = pad.length + sharedMargin lines := by
  obtain ⟨hleast, hle⟩ := sharedMargin_spec hmem hline
  obtain ⟨shortest, hshortest, hmargin⟩ := List.mem_map.mp hleast
  refine sharedMargin_eq ?_ fun other hother m hm => ?_
  · refine List.mem_map.mpr ⟨paddedLine pad shortest, ?_, ?_⟩
    · exact List.mem_append_left _ (List.mem_map_of_mem hshortest)
    · rw [margin?_paddedLine hpad, hmargin]
      rfl
  · rcases List.mem_append.mp hother with hother | hother
    · obtain ⟨own, hown, rfl⟩ := List.mem_map.mp hother
      rw [margin?_paddedLine hpad] at hm
      obtain ⟨n, hn, rfl⟩ := Option.map_eq_some_iff.mp hm
      exact Nat.add_le_add_left (hle own hown n hn) _
    · rw [List.mem_singleton.mp hother] at hm
      rw [not_isPad_of_margin? hm] at hpad
      cases hpad

theorem normalLines_eq (hreturn : '\r' ∉ text) : normalLines text =
    withoutBlankEnds ((lineChars text).map (·.drop (sharedMargin (lineChars text)))) := by
  unfold normalLines
  rcases allLines_eq hreturn with ⟨hlines, -⟩ | hlines
  · rw [hlines]
  · have hshared : sharedMargin (lineChars text ++ [[]]) = sharedMargin (lineChars text) := by
      unfold sharedMargin
      rw [List.filterMap_append]
      simp [margin?, isPad]
    rw [hlines, hshared, List.map_append]
    exact withoutBlankEnds_append_blank _ (by simp [isPad])

theorem blockValue_padded (hpad : isPad pad = true) (hreturn : '\r' ∉ text) {line : List Char}
    (hmem : line ∈ lineChars text) (hline : isPad line = false) :
    blockValue (rawLines ([] :: (lineChars text).map (paddedLine pad)) ++ pad) =
      normalForm text := by
  have hpads := not_mem_of_isPad hpad
  have hlines : ruledLines (rawLines ([] :: (lineChars text).map (paddedLine pad)) ++ pad) =
      [] :: ((lineChars text).map (paddedLine pad) ++ [pad]) := by
    rw [ruledLines_rawLines (lines_padded hpad hreturn), ruledLines_single hpads.1 hpads.2]
    rfl
  have hdropped : ((lineChars text).map (paddedLine pad) ++ [pad]).map
        (·.drop (pad.length + sharedMargin (lineChars text))) =
      (lineChars text).map (·.drop (sharedMargin (lineChars text))) ++ [[]] := by
    rw [List.map_append, List.map_map]
    refine congrArg₂ _ (List.map_congr_left fun own _ => drop_paddedLine _ own) ?_
    simp
  unfold blockValue normalForm
  rw [hlines]
  dsimp only
  rw [sharedMargin_padded hpad hmem hline, hdropped, withoutBlankEnds_cons_blank _ (by rfl),
    withoutBlankEnds_append_blank _ (by rfl), normalLines_eq hreturn]

theorem mem_lineChars_of_not_blank {line : List Char} (hreturn : '\r' ∉ text)
    (hmem : line ∈ allLines text) (hline : isPad line = false) : line ∈ lineChars text := by
  rcases allLines_eq hreturn with ⟨heq, -⟩ | heq
  · rwa [← heq]
  · rw [heq, List.mem_append, List.mem_singleton] at hmem
    rcases hmem with hmem | rfl
    · exact hmem
    · cases hline

end

end Literal

/-! ### Laid out descriptions -/

open Literal

/-- **Values of descriptions.**  A pen of any level whose indentation `isPad` lays out a description
with some line that is not blank as two fences with content between them.  By the rules of block
strings, `rawContent?` and `blockValue`, the string ends at the second fence, whatever follows, and
its value is the `normalForm` of the text; which is normal, and the text itself if that is normal
already. -/
theorem description_value {p : Pen} (hindent : isPad p.indent.toList = true) {text : String}
    (hreturn : '\r' ∉ text.toList) (hline : ∃ line ∈ allLines text.toList, isPad line = false) :
    ∃ content raw : List Char,
      (p.writeAll (descriptionPieces (some text))).text.toList =
        p.advance.text.toList ++ (fence.toList ++ content ++ fence.toList) ++ ['\n'] ∧
      (∀ behind, rawContent? (content ++ fence.toList ++ behind) = some (raw, behind)) ∧
      blockValue raw = normalForm text.toList ∧
      NormalText (normalForm text.toList) ∧
      (NormalText text.toList → normalForm text.toList = text.toList) := by
  obtain ⟨line, hmem, hblank⟩ := hline
  have hpad : isPad p.pad = true := Pen.isPad_repeated hindent p.level
  have hne : text ≠ "" := by
    rintro rfl
    rw [List.mem_singleton.mp (show line ∈ [[]] from hmem)] at hblank
    cases hblank
  let lines := [] :: (lineChars text.toList).map (paddedLine p.pad)
  refine ⟨blockLines lines ++ p.pad, rawLines lines ++ p.pad, ?_, fun behind => ?_,
    blockValue_padded hpad hreturn (mem_lineChars_of_not_blank hreturn hmem hblank) hblank,
    normal_normalForm hmem hblank, normalForm_eq_self⟩
  · rw [(Pen.lineAfter_description hindent hne).text]
    simp [fence, lines]
  · have hends := rawContent?_blockLines lines hpad behind
    simpa [fence] using hends

/-- Indented lines with runs of quotes and backslashes before quotes. -/
def quotedLines : String := "\n  a\"\"\"\"\n\n    \\\"\"\" b\\\n \t"

theorem description_value_quotedLines :
    let p : Pen := ⟨"", "\t", 2, true, false⟩
    isPad p.indent.toList = true ∧ '\r' ∉ quotedLines.toList ∧
    (∃ line ∈ allLines quotedLines.toList, isPad line = false) ∧
    ∃ content raw : List Char,
      (p.writeAll (descriptionPieces (some quotedLines))).text.toList =
        p.advance.text.toList ++ (fence.toList ++ content ++ fence.toList) ++ ['\n'] ∧
      (∀ behind, rawContent? (content ++ fence.toList ++ behind) = some (raw, behind)) ∧
      blockValue raw = "a\"\"\"\"\n\n  \\\"\"\" b\\".toList := by
  intro p
  have hreturn : '\r' ∉ quotedLines.toList := by decide
  have hline : ∃ line ∈ allLines quotedLines.toList, isPad line = false := by decide
  obtain ⟨content, raw, htext, hends, hvalue, -, -⟩ :=
    description_value (p := p) (by decide) hreturn hline
  exact ⟨by decide, hreturn, hline, content, raw, htext, hends, hvalue.trans (by decide)⟩

end QueryBindings

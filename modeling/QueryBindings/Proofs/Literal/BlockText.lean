import QueryBindings.Proofs.Grammar.LiteralLexing
import QueryBindings.Text

/-! # Texts that block strings keep

A block string drops blank lines at its ends, the indentation that its lines share, and carriage
returns before line feeds.  A text that has none of these (`BlockNormal`) is what the lines of a
block read as, however far the block is indented.

Main statement: `readBlock_padded`. -/

namespace QueryBindings

open Grammar Literal Text

/-- The lines of a text, also an empty one behind a line feed at its end. -/
def allLines (text : List Char) : List (List Char) := splitOnChar '\n' text

/-- A text without carriage returns whose first and last line are not blank, and some line of which
is not indented. -/
structure BlockNormal (text : List Char) : Prop where
  no_return : '\r' ∉ text
  first : ∀ line, (allLines text).head? = some line → line.all isBlank = false
  last : ∀ line, (allLines text).getLast? = some line → line.all isBlank = false
  flush : ∃ c rest, c :: rest ∈ allLines text ∧ isBlank c = false

/-! ### Lines -/

theorem lineChars_cons {c : Char} {rest : List Char} (hline : c ≠ '\n') (hreturn : c ≠ '\r') :
    lineChars (c :: rest) = consToFirstLine c (lineChars rest) := by
  rw [lineChars]
  · exact hline
  · exact fun _ h => absurd h hreturn

/-- Without carriage returns `lineChars` gives the parts between line feeds, but for an empty one at
the end. -/
theorem allLines_eq {text : List Char} (hreturn : '\r' ∉ text) :
    (allLines text = lineChars text ∧ (allLines text).getLast? ≠ some []) ∨
      allLines text = lineChars text ++ [[]] := by
  unfold allLines
  induction text with
  | nil => exact .inr rfl
  | cons c rest ih =>
      rw [List.mem_cons, not_or] at hreturn
      have ih := ih hreturn.2
      obtain ⟨part, parts, hsplit⟩ := List.exists_cons_of_ne_nil (splitOnChar_ne_nil '\n' rest)
      by_cases hc : c = '\n'
      · have hlines : splitOnChar '\n' (c :: rest) = [] :: splitOnChar '\n' rest := by
          rw [splitOnChar, hsplit, hc]
          rfl
        have hchars : lineChars (c :: rest) = [] :: lineChars rest := by
          rw [hc, lineChars]
        rw [hlines, hchars]
        rcases ih with ⟨heq, hlast⟩ | heq
        · refine .inl ⟨by rw [heq], ?_⟩
          rw [hsplit] at hlast ⊢
          rw [List.getLast?_cons_cons]
          exact hlast
        · exact .inr (by rw [heq]; rfl)
      · have hlines : splitOnChar '\n' (c :: rest) = (c :: part) :: parts := by
          rw [splitOnChar, hsplit]
          exact if_neg hc
        rw [hlines, lineChars_cons hc (Ne.symm hreturn.1)]
        rw [hsplit] at ih
        rcases ih with ⟨heq, hlast⟩ | heq
        · rw [← heq]
          refine .inl ⟨rfl, ?_⟩
          cases parts with
          | nil => simp
          | cons next more =>
              rw [List.getLast?_cons_cons] at hlast ⊢
              exact hlast
        · cases hchars : lineChars rest with
          | nil =>
              rw [hchars] at heq
              cases heq
              exact .inl ⟨rfl, by simp⟩
          | cons line lines =>
              rw [hchars] at heq
              cases heq
              exact .inr rfl

theorem BlockNormal.lineChars_eq {text : List Char} (h : BlockNormal text) :
    lineChars text = allLines text := by
  rcases allLines_eq h.no_return with ⟨heq, -⟩ | heq
  · exact heq.symm
  · have hlast := h.last [] (by rw [heq, List.getLast?_append]; rfl)
    cases hlast

theorem lineChars_line {line : List Char} (hline : '\n' ∉ line) (hreturn : '\r' ∉ line)
    (rest : List Char) : lineChars (line ++ '\n' :: rest) = line :: lineChars rest := by
  induction line with
  | nil => rw [List.nil_append, lineChars]
  | cons c line ih =>
      rw [List.mem_cons, not_or] at hline hreturn
      rw [List.cons_append, lineChars_cons (Ne.symm hline.1) (Ne.symm hreturn.1),
        ih hline.2 hreturn.2]
      rfl

theorem lineChars_single {line : List Char} (hne : line ≠ []) (hline : '\n' ∉ line)
    (hreturn : '\r' ∉ line) : lineChars line = [line] := by
  induction line with
  | nil => exact absurd rfl hne
  | cons c line ih =>
      rw [List.mem_cons, not_or] at hline hreturn
      rw [lineChars_cons (Ne.symm hline.1) (Ne.symm hreturn.1)]
      cases line with
      | nil => rfl
      | cons d line =>
          rw [ih (List.cons_ne_nil d line) hline.2 hreturn.2]
          rfl

/-! ### Escaped lines -/

theorem mem_of_mem_escapeFences {c : Char} {line : List Char} (hslash : c ≠ '\\')
    (h : c ∈ escapeFences line) : c ∈ line := by
  fun_induction escapeFences line with
  | case1 tail ih =>
      simp only [List.mem_cons] at h ⊢
      rcases h with h | h | h | h | h
      · exact absurd h hslash
      · exact .inl h
      · exact .inl h
      · exact .inl h
      · exact .inr (.inr (.inr (ih h)))
  | case2 d tail hfence ih =>
      rcases List.mem_cons.mp h with h | h
      · exact List.mem_cons.mpr (.inl h)
      · exact List.mem_cons_of_mem d (ih h)
  | case3 => cases h

theorem all_isBlank_escapeFences (line : List Char) :
    (escapeFences line).all isBlank = line.all isBlank := by
  fun_induction escapeFences line with
  | case1 tail ih => rfl
  | case2 c tail hfence ih => rw [List.all_cons, List.all_cons, ih]
  | case3 => rfl

theorem takeWhile_escapeFences {c : Char} {rest : List Char} (h : isBlank c = false) :
    (escapeFences (c :: rest)).takeWhile isBlank = [] := by
  rw [escapeFences.eq_def]
  split
  · rfl
  · rename_i d tail heq
    cases heq
    rw [List.takeWhile_cons, h]
    rfl
  · rename_i heq
    cases heq

theorem escapeFences_pad {pad : List Char} (h : isPad pad = true) (line : List Char) :
    escapeFences (pad ++ line) = pad ++ escapeFences line := by
  induction pad with
  | nil => rfl
  | cons c pad ih =>
      unfold isPad at h
      rw [List.all_cons, Bool.and_eq_true, Bool.or_eq_true, decide_eq_true_eq,
        decide_eq_true_eq] at h
      rw [List.cons_append, escapeFences, ih h.2, List.cons_append]
      rintro tail rfl
      rcases h.1 with h | h <;> cases h

/-! ### Indentation -/

theorem dropWidth_byteLength (a b : List Char) : dropWidth (byteLength a) (a ++ b) = b := by
  induction a with
  | nil => rw [byteLength, List.nil_append, dropWidth]
  | cons c a ih =>
      have hpos := c.utf8Size_pos
      rw [byteLength, List.cons_append]
      obtain ⟨n, hn⟩ : ∃ n, c.utf8Size + byteLength a = n + 1 :=
        ⟨c.utf8Size + byteLength a - 1, by omega⟩
      rw [hn, dropWidth, ← hn, Nat.add_sub_cancel_left, ih]

theorem byteLength_append (a b : List Char) :
    byteLength (a ++ b) = byteLength a + byteLength b := by
  induction a with
  | nil => simp [byteLength]
  | cons c a ih =>
      rw [List.cons_append, byteLength, byteLength, ih]
      omega

theorem outdent_append (a b : List Char) : outdent (byteLength a) (a ++ b) = b := by
  unfold outdent
  rw [if_pos (by rw [byteLength_append]; omega), dropWidth_byteLength]

theorem isBlank_of_isPad {pad : List Char} (h : isPad pad = true) : pad.all isBlank = true := by
  unfold isPad at h
  rw [List.all_eq_true] at h ⊢
  intro c hc
  have := h c hc
  rw [Bool.or_eq_true, decide_eq_true_eq, decide_eq_true_eq] at this
  rcases this with rfl | rfl <;> rfl

/-- A line behind a pad is indented by the pad and by its own blanks. -/
theorem indentation?_append {pad : List Char} (h : isPad pad = true) (line : List Char) :
    indentation? (pad ++ line) = (indentation? line).map (byteLength pad + ·) := by
  have hpad := List.all_eq_true.mp (isBlank_of_isPad h)
  unfold indentation?
  rw [List.all_append, isBlank_of_isPad h, Bool.true_and,
    List.takeWhile_append_of_pos hpad, byteLength_append]
  split <;> rfl

/-! ### Padded blocks -/

/-- How a line stands in an indented block; an empty one stays empty. -/
def paddedLine (pad line : List Char) : List Char := if line.isEmpty then [] else pad ++ line

theorem mem_splitOnChar {separator : Char} {cs part : List Char}
    (h : part ∈ splitOnChar separator cs) :
    separator ∉ part ∧ ∀ c ∈ part, c ∈ cs := by
  induction cs generalizing part with
  | nil =>
      rw [splitOnChar, List.mem_singleton] at h
      subst h
      exact ⟨List.not_mem_nil, fun c hc => hc⟩
  | cons c rest ih =>
      obtain ⟨first, parts, hsplit⟩ :=
        List.exists_cons_of_ne_nil (splitOnChar_ne_nil separator rest)
      rw [splitOnChar, hsplit] at h
      rw [hsplit] at ih
      have hother : part ∈ first :: parts → separator ∉ part ∧ ∀ d ∈ part, d ∈ c :: rest :=
        fun hmem => ⟨(ih hmem).1, fun d hd => List.mem_cons_of_mem c ((ih hmem).2 d hd)⟩
      dsimp only at h
      split at h
      · rcases List.mem_cons.mp h with rfl | h
        · exact ⟨List.not_mem_nil, List.forall_mem_nil _⟩
        · exact hother h
      · rename_i hc
        rcases List.mem_cons.mp h with rfl | h
        · obtain ⟨hfirst, hmem⟩ := ih List.mem_cons_self
          refine ⟨?_, fun d hd => ?_⟩
          · rw [List.mem_cons, not_or]
            exact ⟨Ne.symm hc, hfirst⟩
          · rcases List.mem_cons.mp hd with rfl | hd
            · exact List.mem_cons_self
            · exact List.mem_cons_of_mem c (hmem d hd)
        · exact hother (List.mem_cons_of_mem first h)

theorem lineChars_blockLines {lines : List (List Char)}
    (h : ∀ line ∈ lines, '\n' ∉ line ∧ '\r' ∉ line) (rest : List Char) :
    lineChars (blockLines lines ++ rest) = lines.map escapeFences ++ lineChars rest := by
  induction lines with
  | nil => rfl
  | cons line lines ih =>
      obtain ⟨hline, hreturn⟩ := h line List.mem_cons_self
      unfold blockLines at ih ⊢
      rw [List.flatMap_cons, List.append_assoc, List.append_assoc, List.singleton_append,
        lineChars_line (fun hc => hline (mem_of_mem_escapeFences (by decide) hc))
          (fun hc => hreturn (mem_of_mem_escapeFences (by decide) hc)),
        ih fun l hl => h l (List.mem_cons_of_mem line hl)]
      rfl

theorem trimLines_eq {before lines after : List (List Char)}
    (hbefore : ∀ line ∈ before, line.all isBlank = true)
    (hafter : ∀ line ∈ after, line.all isBlank = true)
    (hfirst : ∀ line, lines.head? = some line → line.all isBlank = false)
    (hlast : ∀ line, lines.getLast? = some line → line.all isBlank = false)
    (hne : lines ≠ []) : trimLines (before ++ (lines ++ after)) = lines := by
  have hdrop : ∀ ls : List (List Char), ls ≠ [] →
      (∀ line, ls.head? = some line → line.all isBlank = false) → ∀ more,
      (ls ++ more).dropWhile (·.all isBlank) = ls ++ more := by
    intro ls hls hhead more
    cases ls with
    | nil => exact absurd rfl hls
    | cons line ls =>
        rw [List.cons_append, List.dropWhile_cons, hhead line rfl]
        rfl
  unfold trimLines
  dsimp only
  rw [List.dropWhile_append_of_pos hbefore, hdrop lines hne hfirst, List.reverse_append,
    List.dropWhile_append_of_pos fun line hline => hafter line (List.mem_reverse.mp hline)]
  have hreverse := hdrop lines.reverse (by simpa using hne)
    (fun line hline => hlast line (by rwa [List.head?_reverse] at hline)) []
  rw [List.append_nil] at hreverse
  rw [hreverse, List.reverse_reverse]

section

variable {pad : List Char} {text : List Char}

theorem le_of_indentation?_padded (hpad : isPad pad = true) {line : List Char} {n : Nat}
    (h : indentation? (escapeFences (paddedLine pad line)) = some n) : byteLength pad ≤ n := by
  unfold paddedLine at h
  split at h
  · cases h
  · rw [escapeFences_pad hpad, indentation?_append hpad] at h
    obtain ⟨m, -, rfl⟩ := Option.map_eq_some_iff.mp h
    exact Nat.le_add_right _ m

theorem indentation?_flush (hpad : isPad pad = true) {c : Char} {rest : List Char}
    (h : isBlank c = false) :
    indentation? (escapeFences (paddedLine pad (c :: rest))) = some (byteLength pad) := by
  have hblank : (escapeFences (c :: rest)).all isBlank = false := by
    rw [all_isBlank_escapeFences, List.all_cons, h]
    rfl
  have hown : indentation? (escapeFences (c :: rest)) = some 0 := by
    unfold indentation?
    rw [hblank, takeWhile_escapeFences h]
    rfl
  show indentation? (escapeFences (pad ++ c :: rest)) = _
  rw [escapeFences_pad hpad, indentation?_append hpad, hown]
  rfl

theorem commonIndentation_padded (hpad : isPad pad = true) {lines after : List (List Char)}
    (hflush : ∃ c rest, c :: rest ∈ lines ∧ isBlank c = false)
    (hafter : ∀ line ∈ after, line.all isBlank = true) :
    commonIndentation (lines.map (fun line => escapeFences (paddedLine pad line)) ++ after) =
      byteLength pad := by
  obtain ⟨c, rest, hmem, hc⟩ := hflush
  have hmin : ((lines.map (fun line => escapeFences (paddedLine pad line)) ++
      after).filterMap indentation?).min? = some (byteLength pad) := by
    rw [List.min?_eq_some_iff]
    refine ⟨?_, fun n hn => ?_⟩
    · rw [List.mem_filterMap]
      refine ⟨_, List.mem_append_left _ (List.mem_map_of_mem hmem), indentation?_flush hpad hc⟩
    · obtain ⟨line, hline, hn⟩ := List.mem_filterMap.mp hn
      rcases List.mem_append.mp hline with hline | hline
      · obtain ⟨l, -, rfl⟩ := List.mem_map.mp hline
        exact le_of_indentation?_padded hpad hn
      · unfold indentation? at hn
        rw [hafter line hline] at hn
        cases hn
  unfold commonIndentation
  rw [hmin]
  rfl

theorem outdent_padded (hpad : isPad pad = true) (line : List Char) :
    outdent (byteLength pad) (escapeFences (paddedLine pad line)) = escapeFences line := by
  unfold paddedLine
  split
  · rename_i hempty
    rw [List.isEmpty_iff.mp hempty]
    unfold outdent
    split
    · rename_i hle
      have hzero : byteLength pad = 0 := Nat.le_zero.mp hle
      rw [hzero]
      rfl
    · rfl
  · rw [escapeFences_pad hpad, outdent_append]

theorem not_mem_of_isPad (hpad : isPad pad = true) : '\n' ∉ pad ∧ '\r' ∉ pad := by
  have hall := List.all_eq_true.mp hpad
  constructor
  · intro hmem
    exact absurd (hall _ hmem) (by decide)
  · intro hmem
    exact absurd (hall _ hmem) (by decide)

theorem lineChars_pad (hpad : isPad pad = true) : lineChars pad = [] ∨ lineChars pad = [pad] := by
  cases pad with
  | nil => exact .inl rfl
  | cons c pad =>
      obtain ⟨hline, hreturn⟩ := not_mem_of_isPad hpad
      exact .inr (lineChars_single (List.cons_ne_nil c pad) hline hreturn)

theorem mem_allLines_of_mem_lineChars (hreturn : '\r' ∉ text) {line : List Char}
    (h : line ∈ lineChars text) : line ∈ allLines text := by
  rcases allLines_eq hreturn with ⟨heq, -⟩ | heq
  · rwa [heq]
  · rw [heq]
    exact List.mem_append_left _ h

theorem lines_padded (hpad : isPad pad = true) (hreturn : '\r' ∉ text) :
    ∀ line ∈ [] :: (lineChars text).map (paddedLine pad), '\n' ∉ line ∧ '\r' ∉ line := by
  intro line hline
  rcases List.mem_cons.mp hline with rfl | hline
  · exact ⟨List.not_mem_nil, List.not_mem_nil⟩
  · obtain ⟨l, hl, rfl⟩ := List.mem_map.mp hline
    obtain ⟨hnone, hmem⟩ := mem_splitOnChar (mem_allLines_of_mem_lineChars hreturn hl)
    obtain ⟨hpadLine, hpadReturn⟩ := not_mem_of_isPad hpad
    unfold paddedLine
    split
    · exact ⟨List.not_mem_nil, List.not_mem_nil⟩
    · rw [List.mem_append, not_or, List.mem_append, not_or]
      exact ⟨⟨hpadLine, hnone⟩, hpadReturn, fun hc => hreturn (hmem _ hc)⟩

theorem eq_of_mem_lineChars_pad (hpad : isPad pad = true) {line : List Char}
    (h : line ∈ lineChars pad) : line = pad := by
  rcases lineChars_pad hpad with hpads | hpads
  · rw [hpads] at h
    cases h
  · rw [hpads] at h
    exact List.mem_singleton.mp h

/-- The lines of a text that has `BlockNormal`, between fences that are indented by `pad`, read as
the text. -/
theorem readBlock_padded (hpad : isPad pad = true) (h : BlockNormal text) :
    readBlock (blockLines ([] :: (lineChars text).map (paddedLine pad)) ++ pad) = text := by
  have hchars : lineChars (blockLines ([] :: (lineChars text).map (paddedLine pad)) ++ pad) =
      [] :: ((allLines text).map (fun line => escapeFences (paddedLine pad line)) ++
        lineChars pad) := by
    rw [lineChars_blockLines (lines_padded hpad h.no_return), h.lineChars_eq, List.map_cons, List.map_map]
    rfl
  have hne : allLines text ≠ [] := splitOnChar_ne_nil '\n' text
  have hblank : ∀ line ∈ lineChars pad, line.all isBlank = true := by
    intro line hline
    rw [eq_of_mem_lineChars_pad hpad hline]
    exact isBlank_of_isPad hpad
  have hescaped : (allLines text).map escapeFences ≠ [] := by simpa using hne
  have hfirst : ∀ line, ((allLines text).map escapeFences).head? = some line →
      line.all isBlank = false := by
    intro line hline
    rw [List.head?_map] at hline
    obtain ⟨l, hl, rfl⟩ := Option.map_eq_some_iff.mp hline
    rw [all_isBlank_escapeFences]
    exact h.first l hl
  have hlast : ∀ line, ((allLines text).map escapeFences).getLast? = some line →
      line.all isBlank = false := by
    intro line hline
    rw [List.getLast?_map] at hline
    obtain ⟨l, hl, rfl⟩ := Option.map_eq_some_iff.mp hline
    rw [all_isBlank_escapeFences]
    exact h.last l hl
  have houtdented : ((allLines text).map fun line => escapeFences (paddedLine pad line)).map
      (outdent (byteLength pad)) = (allLines text).map escapeFences := by
    rw [List.map_map]
    exact List.map_congr_left fun line _ => outdent_padded hpad line
  have hafter : ∀ line ∈ (lineChars pad).map (outdent (byteLength pad)),
      line.all isBlank = true := by
    intro line hline
    obtain ⟨l, hl, rfl⟩ := List.mem_map.mp hline
    have hempty := outdent_append pad []
    rw [List.append_nil] at hempty
    rw [eq_of_mem_lineChars_pad hpad hl, hempty]
    rfl
  unfold readBlock
  rw [hchars, outdentLines, commonIndentation_padded hpad h.flush hblank, List.map_append,
    houtdented, ← List.singleton_append, trimLines_eq (by simp) hafter hfirst hlast hescaped,
    List.map_map]
  have hid : (allLines text).map (unescapeFences ∘ escapeFences) = (allLines text).map id :=
    List.map_congr_left fun line _ => unescapeFences_escapeFences line
  rw [hid, List.map_id]
  exact intercalate_splitOnChar '\n' text

end

end QueryBindings

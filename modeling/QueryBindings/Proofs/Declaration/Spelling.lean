import QueryBindings.Declaration.OfType
import QueryBindings.Proofs.Grammar.Lexing

/-! # Respelled names

What names come to in snake case and in camel case, and which names come to a given word.  A name
has characters below 128 only, so a fact about one of its characters is checked for all of them
(`forall_isNamePart`).

Main statements: `snakeChars_eq_iff` and `camelName_eq_iff`. -/

namespace QueryBindings

open Grammar Text

/-! ### Characters of names -/

@[elab_as_elim]
theorem forall_isNamePart {P : Char → Prop} {c : Char} (hc : isNamePart c = true)
    (h : ∀ n < 128, isNamePart (Char.ofNat n) = true → P (Char.ofNat n)) : P c := by
  have hcode := code_of_isNamePart hc
  have hall := h c.toNat (by omega)
  rw [Char.ofNat_toNat] at hall
  exact hall hc

/-- The case of a character of a name does not need the tables of Unicode. -/
theorem case_of_isNamePart {c : Char} (h : isNamePart c = true) :
    isUpper c = isAsciiUpper c ∧ isLower c = isAsciiLower c ∧ toUpper c = [asciiUpper c] ∧
      toLower c = [asciiLower c] := forall_isNamePart h (by decide)

theorem isNamePart_asciiLower {c : Char} (h : isNamePart c = true) :
    isNamePart (asciiLower c) = true ∧ isAsciiUpper (asciiLower c) = false ∧
      (asciiLower c = '_' ↔ c = '_') ∧ isAsciiDigit (asciiLower c) = isAsciiDigit c :=
  forall_isNamePart h (by decide)

theorem isNamePart_asciiUpper {c : Char} (h : isNamePart c = true) :
    isNamePart (asciiUpper c) = true ∧ isAsciiLower (asciiUpper c) = false ∧
      (asciiUpper c = '_' ↔ c = '_') ∧ isAsciiDigit (asciiUpper c) = isAsciiDigit c :=
  forall_isNamePart h (by decide)

theorem ne_hyphen_of_isNamePart {c : Char} (h : isNamePart c = true) : c ≠ '-' :=
  forall_isNamePart h (by decide)

theorem isNamePart_of_isAsciiLower {c : Char} (h : isAsciiLower c = true) :
    isNamePart c = true := by
  simp [isNamePart, isNameStart, isAsciiLetter, h]

theorem asciiLower_asciiUpper {c : Char} (h : isAsciiLower c = true) :
    isAsciiUpper c = false ∧ isAsciiUpper (asciiUpper c) = true ∧
      asciiLower (asciiUpper c) = c := by
  have hpart := isNamePart_of_isAsciiLower h
  revert h
  exact forall_isNamePart hpart (by decide)

theorem asciiUpper_asciiLower {c : Char} (hpart : isNamePart c = true)
    (h : isAsciiUpper c = true) : asciiUpper (asciiLower c) = c := by
  revert h
  exact forall_isNamePart hpart (by decide)

theorem asciiUpper_eq_iff {c first : Char} (hc : isNamePart c = true)
    (hpart : isNamePart first = true) (hfirst : isAsciiUpper first = true) :
    asciiUpper c = first ↔ c = first ∨ c = asciiLower first := by
  constructor
  · intro hupper
    cases hlower : isAsciiLower c with
    | true => exact .inr (by rw [← hupper, (asciiLower_asciiUpper hlower).2.2])
    | false => exact .inl (by rw [← hupper, asciiUpper, hlower]; rfl)
  · rintro (rfl | rfl)
    · have hlower : isAsciiLower c = false := by
        rw [Bool.eq_false_iff]
        intro hlower
        rw [(asciiLower_asciiUpper hlower).1] at hfirst
        cases hfirst
      rw [asciiUpper, hlower]
      rfl
    · exact asciiUpper_asciiLower hpart hfirst

/-! ### The start of a name -/

/-- `cs` without the underscores at its start. -/
def trimmed (cs : List Char) : List Char := cs.dropWhile (· = '_')

theorem isNamePart_of_mem_trimmed {cs : List Char} (h : ∀ c ∈ cs, isNamePart c = true) :
    ∀ c ∈ trimmed cs, isNamePart c = true :=
  fun c hc => h c ((List.dropWhile_suffix _).mem hc)

theorem ne_underscore_of_trimmed {cs rest : List Char} {c : Char} (h : trimmed cs = c :: rest) :
    c ≠ '_' := by
  rintro rfl
  have hhead := List.head?_dropWhile_not (· = '_') cs
  unfold trimmed at h
  rw [h] at hhead
  cases hhead

theorem exists_replicate_of_trimmed {cs rest : List Char} (h : trimmed cs = rest) :
    ∃ n, cs = List.replicate n '_' ++ rest := by
  have hall : ∀ c ∈ cs.takeWhile (· = '_'), c = '_' := fun c hc =>
    of_decide_eq_true (List.all_eq_true.mp List.all_takeWhile c hc)
  refine ⟨(cs.takeWhile (· = '_')).length, ?_⟩
  rw [← List.eq_replicate_of_mem hall, ← h]
  exact (List.takeWhile_append_dropWhile).symm

/-! ### Snake case -/

theorem snakeChars_cons {c : Char} (h : isNamePart c = true) (afterSmall : Bool)
    (rest : List Char) :
    snakeChars afterSmall (c :: rest) =
      if isAsciiUpper c then
        (if afterSmall then ['_'] else []) ++ asciiLower c :: snakeChars false rest
      else c :: snakeChars (isAsciiLower c || isAsciiDigit c) rest := by
  obtain ⟨hupper, hlower, -, hsmall⟩ := case_of_isNamePart h
  rw [snakeChars, hupper, hlower, hsmall, List.append_assoc]
  rfl

theorem exists_snakeChars_cons {c : Char} (h : isNamePart c = true) (rest : List Char) :
    ∃ more, snakeChars false (c :: rest) = asciiLower c :: more := by
  rw [snakeChars_cons h]
  split
  · exact ⟨_, rfl⟩
  · rename_i hupper
    rw [asciiLower, if_neg hupper]
    exact ⟨_, rfl⟩

/-- No capital is left by `snakeChars`. -/
theorem of_mem_snakeChars {afterSmall : Bool} {cs : List Char} {d : Char}
    (h : ∀ c ∈ cs, isNamePart c = true) (hd : d ∈ snakeChars afterSmall cs) :
    isNamePart d = true ∧ isAsciiUpper d = false := by
  induction cs generalizing afterSmall with
  | nil => cases hd
  | cons c cs ih =>
      rw [List.forall_mem_cons] at h
      rw [snakeChars_cons h.1] at hd
      split at hd
      · rcases List.mem_append.mp hd with hd | hd
        · split at hd
          · rw [List.mem_singleton.mp hd]
            decide
          · cases hd
        · rcases List.mem_cons.mp hd with rfl | hd
          · have := isNamePart_asciiLower h.1
            exact ⟨this.1, this.2.1⟩
          · exact ih h.2 hd
      · rename_i hupper
        rcases List.mem_cons.mp hd with rfl | hd
        · exact ⟨h.1, Bool.eq_false_iff.mpr hupper⟩
        · exact ih h.2 hd

/-- The characters of `word`, some at its front in capitals. -/
def IsCapitalized (word cs : List Char) : Prop :=
  ∃ front back, word = front ++ back ∧ cs = front.map asciiUpper ++ back

theorem snakeChars_of_small {word : List Char} (h : ∀ w ∈ word, isAsciiLower w = true)
    (afterSmall : Bool) : snakeChars afterSmall word = word := by
  induction word generalizing afterSmall with
  | nil => rfl
  | cons w word ih =>
      rw [List.forall_mem_cons] at h
      rw [snakeChars_cons (isNamePart_of_isAsciiLower h.1), (asciiLower_asciiUpper h.1).1,
        if_neg Bool.false_ne_true, ih h.2]

theorem snakeChars_of_capitals {front back : List Char}
    (h : ∀ w ∈ front ++ back, isAsciiLower w = true) :
    snakeChars false (front.map asciiUpper ++ back) = front ++ back := by
  induction front with
  | nil => exact snakeChars_of_small h false
  | cons w front ih =>
      rw [List.cons_append, List.forall_mem_cons] at h
      obtain ⟨-, hupper, hlower⟩ := asciiLower_asciiUpper h.1
      have hpart := (isNamePart_asciiUpper (isNamePart_of_isAsciiLower h.1)).1
      rw [List.map_cons, List.cons_append, snakeChars_cons hpart, if_pos hupper, hlower, ih h.2]
      rfl

theorem snakeChars_true_of_small {cs : List Char} (hcs : ∀ c ∈ cs, isNamePart c = true)
    (h : ∀ w ∈ snakeChars true cs, isAsciiLower w = true) : snakeChars true cs = cs := by
  induction cs with
  | nil => rfl
  | cons c cs ih =>
      rw [List.forall_mem_cons] at hcs
      rw [snakeChars_cons hcs.1] at h ⊢
      split at h
      · exact absurd (h '_' List.mem_cons_self) (by decide)
      · rename_i hupper
        have hc := h c List.mem_cons_self
        rw [hc, Bool.true_or, List.forall_mem_cons] at h
        rw [if_neg hupper, hc, Bool.true_or, ih hcs.2 h.2]

theorem isCapitalized_of_small {cs : List Char} (hcs : ∀ c ∈ cs, isNamePart c = true)
    (h : ∀ w ∈ snakeChars false cs, isAsciiLower w = true) :
    IsCapitalized (snakeChars false cs) cs := by
  induction cs with
  | nil => exact ⟨[], [], rfl, rfl⟩
  | cons c cs ih =>
      rw [List.forall_mem_cons] at hcs
      rw [snakeChars_cons hcs.1] at h ⊢
      split at h
      · rename_i hupper
        rw [if_neg Bool.false_ne_true, List.nil_append, List.forall_mem_cons] at h
        obtain ⟨front, back, hword, hsplit⟩ := ih hcs.2 h.2
        refine ⟨asciiLower c :: front, back, ?_, ?_⟩
        · rw [if_pos hupper, hword]
          rfl
        · rw [List.map_cons, asciiUpper_asciiLower hcs.1 hupper, List.cons_append, ← hsplit]
      · rename_i hupper
        have hc := h c List.mem_cons_self
        rw [hc, Bool.true_or, List.forall_mem_cons] at h
        rw [if_neg hupper, hc, Bool.true_or, snakeChars_true_of_small hcs.2 h.2]
        exact ⟨[], c :: cs, rfl, rfl⟩

/-- What `snakeChars` turns into a word of small letters is the word itself, with capitals at its
front. -/
theorem snakeChars_eq_iff {cs word : List Char} (hcs : ∀ c ∈ cs, isNamePart c = true)
    (hword : ∀ w ∈ word, isAsciiLower w = true) :
    snakeChars false cs = word ↔ IsCapitalized word cs := by
  constructor
  · rintro rfl
    exact isCapitalized_of_small hcs hword
  · rintro ⟨front, back, rfl, rfl⟩
    exact snakeChars_of_capitals hword

/-! ### Camel case -/

theorem camelChars_cons {c : Char} (h : isNamePart c = true) (capital : Bool) (rest : List Char) :
    camelChars capital (c :: rest) =
      if c = '_' then camelChars true rest
      else (if capital then asciiUpper c else c) :: camelChars false rest := by
  obtain ⟨-, -, hupper, -⟩ := case_of_isNamePart h
  have hline : (c = '_' ∨ c = '-') ↔ c = '_' :=
    ⟨fun hc => hc.resolve_right (ne_hyphen_of_isNamePart h), .inl⟩
  rw [camelChars, hupper]
  simp only [hline]
  cases capital <;> rfl

theorem camelChars_trimmed {cs : List Char} (h : ∀ c ∈ cs, isNamePart c = true) :
    camelChars true cs = camelChars true (trimmed cs) := by
  induction cs with
  | nil => rfl
  | cons c cs ih =>
      rw [List.forall_mem_cons] at h
      unfold trimmed at ih ⊢
      rw [List.dropWhile_cons]
      by_cases hline : c = '_'
      · rw [camelChars_cons h.1, if_pos hline, if_pos (decide_eq_true hline), ih h.2]
      · rw [if_neg (by simp [hline])]

/-- No underscore is left by `camelChars`. -/
theorem of_mem_camelChars {capital : Bool} {cs : List Char} {d : Char}
    (h : ∀ c ∈ cs, isNamePart c = true) (hd : d ∈ camelChars capital cs) :
    isNamePart d = true ∧ d ≠ '_' := by
  induction cs generalizing capital with
  | nil => cases hd
  | cons c cs ih =>
      rw [List.forall_mem_cons] at h
      rw [camelChars_cons h.1] at hd
      split at hd
      · exact ih h.2 hd
      · rename_i hline
        rcases List.mem_cons.mp hd with rfl | hd
        · have hupper := isNamePart_asciiUpper h.1
          cases capital with
          | true => exact ⟨hupper.1, fun hc => hline (hupper.2.2.1.mp hc)⟩
          | false => exact ⟨h.1, hline⟩
        · exact ih h.2 hd

def camelName (name : String) : String := String.ofList (camelChars true name.toList)

/-- A name of underscores leaves nothing; any other begins with a capital or a digit. -/
theorem toList_camelName {name : String} (h : ∀ c ∈ name.toList, isNamePart c = true) :
    (trimmed name.toList = [] ∧ camelName name = "") ∨
      ∃ c rest, trimmed name.toList = c :: rest ∧ isNamePart c = true ∧ c ≠ '_' ∧
        (camelName name).toList = asciiUpper c :: camelChars false rest := by
  unfold camelName
  rw [String.toList_ofList, camelChars_trimmed h]
  cases htrimmed : trimmed name.toList with
  | nil => exact .inl ⟨rfl, rfl⟩
  | cons c rest =>
      have hc : isNamePart c = true :=
        isNamePart_of_mem_trimmed h c (htrimmed ▸ List.mem_cons_self)
      have hline := ne_underscore_of_trimmed htrimmed
      rw [camelChars_cons hc, if_neg hline]
      exact .inr ⟨c, rest, rfl, hc, hline, rfl⟩

/-- `word` with underscores before and behind it. -/
def IsPadded (word cs : List Char) : Prop :=
  ∃ before behind, cs = List.replicate before '_' ++ word ++ List.replicate behind '_'

theorem camelChars_underscores (capital : Bool) (n : Nat) :
    camelChars capital (List.replicate n '_') = [] := by
  induction n generalizing capital with
  | zero => rfl
  | succ n ih => rw [List.replicate_succ, camelChars_cons (by decide), if_pos rfl, ih]

theorem camelChars_padded (n : Nat) (rest : List Char) :
    camelChars true (List.replicate n '_' ++ rest) = camelChars true rest := by
  induction n with
  | zero => rfl
  | succ n ih =>
      rw [List.replicate_succ, List.cons_append, camelChars_cons (by decide), if_pos rfl, ih]

theorem camelChars_of_small {small : List Char} (h : ∀ w ∈ small, isAsciiLower w = true)
    (n : Nat) : camelChars false (small ++ List.replicate n '_') = small := by
  induction small with
  | nil => exact camelChars_underscores false n
  | cons w small ih =>
      rw [List.forall_mem_cons] at h
      have hline : w ≠ '_' := by
        rintro rfl
        exact absurd h.1 (by decide)
      rw [List.cons_append, camelChars_cons (isNamePart_of_isAsciiLower h.1), if_neg hline, ih h.2]
      rfl

theorem exists_replicate_of_small {cs : List Char} (hcs : ∀ c ∈ cs, isNamePart c = true)
    (h : ∀ w ∈ camelChars false cs, isAsciiLower w = true) :
    ∃ n, cs = camelChars false cs ++ List.replicate n '_' := by
  induction cs with
  | nil => exact ⟨0, rfl⟩
  | cons c cs ih =>
      rw [List.forall_mem_cons] at hcs
      rw [camelChars_cons hcs.1] at h ⊢
      by_cases hline : c = '_'
      · -- The next letter would be a capital.
        rw [if_pos hline, camelChars_trimmed hcs.2] at h ⊢
        cases htrimmed : trimmed cs with
        | nil =>
            obtain ⟨n, rfl⟩ := exists_replicate_of_trimmed htrimmed
            exact ⟨n + 1, by rw [hline, List.append_nil]; rfl⟩
        | cons d rest =>
            have hd := isNamePart_of_mem_trimmed hcs.2 d (htrimmed ▸ List.mem_cons_self)
            have hcapital := ne_underscore_of_trimmed htrimmed
            rw [htrimmed, camelChars_cons hd, if_neg hcapital, List.forall_mem_cons] at h
            have hupper := h.1
            rw [if_pos rfl, (isNamePart_asciiUpper hd).2.1] at hupper
            cases hupper
      · rw [if_neg hline, List.forall_mem_cons] at h
        obtain ⟨n, hn⟩ := ih hcs.2 h.2
        rw [if_neg hline]
        exact ⟨n, by rw [List.cons_append, ← hn]; rfl⟩

/-- What `camelName` turns into a capital with small letters is that word or its small form, between
underscores. -/
theorem camelName_eq_iff {name : String} (h : ∀ c ∈ name.toList, isNamePart c = true)
    (first : Char) (small : List Char) (hfirst : isAsciiUpper first = true)
    (hsmall : ∀ w ∈ small, isAsciiLower w = true) :
    camelName name = String.ofList (first :: small) ↔
      IsPadded (first :: small) name.toList ∨ IsPadded (asciiLower first :: small) name.toList := by
  have hpart : isNamePart first = true := by
    simp [isNamePart, isNameStart, isAsciiLetter, hfirst]
  constructor
  · intro hcamel
    rcases toList_camelName h with ⟨-, hempty⟩ | ⟨c, rest, htrimmed, hc, -, htext⟩
    · have hne : String.ofList (first :: small) ≠ "" := by simp
      exact absurd (hcamel.symm.trans hempty) hne
    · rw [hcamel, String.toList_ofList] at htext
      obtain ⟨hcapital, rfl⟩ := List.cons.inj htext
      have hrest : ∀ d ∈ rest, isNamePart d = true := fun d hd =>
        isNamePart_of_mem_trimmed h d (htrimmed ▸ List.mem_cons_of_mem c hd)
      obtain ⟨before, hbefore⟩ := exists_replicate_of_trimmed htrimmed
      obtain ⟨behind, hbehind⟩ := exists_replicate_of_small hrest hsmall
      have hpadded : IsPadded (c :: camelChars false rest) name.toList := by
        refine ⟨before, behind, ?_⟩
        rw [List.append_assoc, List.cons_append, ← hbehind]
        exact hbefore
      rcases (asciiUpper_eq_iff hc hpart hfirst).mp hcapital.symm with rfl | rfl
      · exact .inl hpadded
      · exact .inr hpadded
  · have hpadded : ∀ c, isNamePart c = true → (c = first ∨ c = asciiLower first) →
        IsPadded (c :: small) name.toList → camelName name = String.ofList (first :: small) := by
      rintro c hc hcapital ⟨before, behind, htext⟩
      have hupper := (asciiUpper_eq_iff hc hpart hfirst).mpr hcapital
      have hline : c ≠ '_' := by
        rintro rfl
        rw [← hupper] at hfirst
        exact absurd hfirst (by decide)
      rw [camelName, htext, List.append_assoc, camelChars_padded, List.cons_append,
        camelChars_cons hc, if_neg hline, camelChars_of_small hsmall, if_pos rfl, hupper]
    rintro (hname | hname)
    · exact hpadded first hpart (.inl rfl) hname
    · exact hpadded (asciiLower first) (isNamePart_asciiLower hpart).1 (.inr rfl) hname

/-! ### Small letters -/

theorem lowerChars_eq_map {cs : List Char} (h : ∀ c ∈ cs, isNamePart c = true)
    (before : List Char) : lowerChars before cs = cs.map asciiLower := by
  induction cs generalizing before with
  | nil => rfl
  | cons c cs ih =>
      rw [List.forall_mem_cons] at h
      have hsigma : c ≠ 'Σ' := forall_isNamePart h.1 (by decide)
      rw [lowerChars, if_neg hsigma, (case_of_isNamePart h.1).2.2.2, ih h.2]
      rfl

theorem toList_lower {name : String} (h : ∀ c ∈ name.toList, isNamePart c = true) :
    (lower name).toList = name.toList.map asciiLower := by
  unfold lower
  rw [String.toList_ofList, lowerChars_eq_map h]

end QueryBindings

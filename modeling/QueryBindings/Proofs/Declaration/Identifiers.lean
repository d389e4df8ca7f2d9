import QueryBindings.Proofs.Declaration.Spelling
import QueryBindings.Proofs.Grammar.LiteralLexing
import QueryBindings.Proofs.MemberNames

/-! # Declared identifiers

Which of the names that are declared are identifiers of the generated text, told by the name of the
query language that was respelled.  The words with a meaning in that text, and those that cannot be
written raw, are listed in full; what a respelled name comes to is known from its letters.

Main statement: `isIdentifier_spelled_iff`. -/

namespace QueryBindings

open Grammar Text

/-! ### Words of the generated text -/

/-- Words that have a meaning everywhere. -/
def strictWords : List String := [
  "as", "async", "await", "break", "const", "continue", "crate", "dyn", "else", "enum", "extern",
  "false", "fn", "for", "if", "impl", "in", "let", "loop", "match", "mod", "move", "mut", "pub",
  "ref", "return", "self", "Self", "static", "struct", "super", "trait", "true", "type", "unsafe",
  "use", "where", "while"]

/-- Words that are kept for a meaning to come. -/
def reservedWords : List String := [
  "abstract", "become", "box", "do", "final", "macro", "override", "priv", "try", "typeof",
  "unsized", "virtual", "yield"]

/-- Words that begin paths; they cannot be written raw. -/
def pathWords : List String := ["crate", "self", "super", "Self"]

def isWord (text : String) : Bool := isName text && text ≠ "_"

/-- A word that is neither strict nor reserved. -/
def isIdentifier (text : String) : Bool :=
  isWord text && !(strictWords ++ reservedWords).contains text

/-- `r#` and a word other than `pathWords` and the underscore. -/
def isRawIdentifier (text : String) : Bool :=
  match text.toList with
  | 'r' :: '#' :: rest => isWord (String.ofList rest) && !pathWords.contains (String.ofList rest)
  | _ => false

/-- What can name a member: `isIdentifier` or `isRawIdentifier`. -/
def isMemberIdentifier (text : String) : Bool := isIdentifier text || isRawIdentifier text

/-- The names that the generated text takes from outside. -/
def usedNames : List String := ["Option", "Vec", "Box", "String", "Serialize", "Deserialize"]

theorem isWord_of_head {text : String} {c : Char} {rest : List Char}
    (htext : text.toList = c :: rest) (h : ∀ d ∈ text.toList, isNamePart d = true)
    (hdigit : isAsciiDigit c = false) (hline : c ≠ '_') : isWord text = true := by
  rw [htext, List.forall_mem_cons] at h
  have hstart : isNameStart c = true := by
    have hpart := h.1
    unfold isNamePart at hpart
    rwa [hdigit, Bool.or_false] at hpart
  have hname : isName text = true := by
    unfold isName
    rw [htext]
    exact Bool.and_eq_true_iff.mpr ⟨hstart, List.all_eq_true.mpr h.2⟩
  have hne : text ≠ "_" := by
    rintro rfl
    exact hline (List.cons.inj htext).1.symm
  unfold isWord
  rw [hname, decide_eq_true hne]
  rfl

theorem isName_eq_false_of_digit {text : String} {c : Char} {rest : List Char}
    (htext : text.toList = c :: rest) (hdigit : isAsciiDigit c = true) : isName text = false := by
  unfold isName
  rw [htext]
  simp only [not_isNameStart_of_isAsciiDigit hdigit, Bool.false_and]

theorem isIdentifier_iff {text : String} :
    isIdentifier text = true ↔ isWord text = true ∧ text ∉ strictWords ++ reservedWords := by
  unfold isIdentifier
  rw [Bool.and_eq_true, Bool.not_eq_true', Bool.eq_false_iff, ne_eq, List.contains_iff_mem]

theorem isRawIdentifier_eq_false {text : String} (h : ∀ c ∈ text.toList, isNamePart c = true) :
    isRawIdentifier text = false := by
  unfold isRawIdentifier
  split
  · rename_i rest htext
    have hsign := h '#' (by rw [htext]; simp)
    exact absurd hsign (by decide)
  · rfl

/-! ### Members -/

/-- Words that `memberName` leaves as they are, or writes raw though they must not be. -/
def unfitWords : List String := ["self", "crate", "super"] ++ reservedWords

/-- The name of a member before it is made an identifier. -/
def snakeName (name : String) : String := String.ofList (snakeChars false (trimmed name.toList))

theorem memberName_eq (name : String) :
    memberName name =
      if needsLetter (snakeName name).toList then "field_" ++ snakeName name
      else if keywords.contains (snakeName name) then "r#" ++ snakeName name
      else snakeName name := by
  unfold memberName snakeName trimmed
  rw [String.toList_ofList]

theorem isMemberIdentifier_keyword {word : String} (h : word ∈ keywords) :
    isMemberIdentifier ("r#" ++ word) = !unfitWords.contains word := by
  have hall : ∀ word ∈ keywords,
      isMemberIdentifier ("r#" ++ word) = !unfitWords.contains word := by decide
  exact hall word h

theorem isMemberIdentifier_field {text : String} (h : ∀ c ∈ text.toList, isNamePart c = true) :
    isMemberIdentifier ("field_" ++ text) = true := by
  have hwords : ∀ word ∈ strictWords ++ reservedWords, '_' ∉ word.toList := by decide
  have htext : ("field_" ++ text).toList = 'f' :: ("ield_".toList ++ text.toList) := by
    rw [String.toList_append]
    rfl
  have hparts : ∀ c ∈ ("field_" ++ text).toList, isNamePart c = true := by
    rw [String.toList_append, List.forall_mem_append]
    exact ⟨List.all_eq_true.mp (by decide), h⟩
  have hidentifier : isIdentifier ("field_" ++ text) = true := by
    refine isIdentifier_iff.mpr ⟨isWord_of_head htext hparts rfl (by decide), fun hmem => ?_⟩
    refine hwords _ hmem ?_
    rw [String.toList_append]
    exact List.mem_append_left _ (by decide)
  unfold isMemberIdentifier
  rw [hidentifier, Bool.true_or]

section

variable {name : String} (h : ∀ c ∈ name.toList, isNamePart c = true)
include h

theorem of_mem_snakeName : ∀ d ∈ (snakeName name).toList,
    isNamePart d = true ∧ isAsciiUpper d = false := by
  unfold snakeName
  rw [String.toList_ofList]
  exact fun d hd => of_mem_snakeChars (isNamePart_of_mem_trimmed h) hd

theorem isWord_snakeName (hletter : needsLetter (snakeName name).toList = false) :
    isWord (snakeName name) = true := by
  cases htrimmed : trimmed name.toList with
  | nil =>
      unfold snakeName at hletter
      rw [htrimmed] at hletter
      cases hletter
  | cons c rest =>
      have hc : isNamePart c = true :=
        isNamePart_of_mem_trimmed h c (htrimmed ▸ List.mem_cons_self)
      have hne : asciiLower c ≠ '_' := fun hline =>
        ne_underscore_of_trimmed htrimmed ((isNamePart_asciiLower hc).2.2.1.mp hline)
      obtain ⟨more, hsnake⟩ := exists_snakeChars_cons hc rest
      have htext : (snakeName name).toList = asciiLower c :: more := by
        unfold snakeName
        rw [htrimmed, String.toList_ofList, hsnake]
      rw [htext] at hletter
      exact isWord_of_head htext (fun d hd => (of_mem_snakeName h d hd).1) hletter hne

/-- `memberName` gives an identifier unless `snakeName` comes to an unfit word. -/
theorem isMemberIdentifier_memberName_iff :
    isMemberIdentifier (memberName name) = true ↔ snakeName name ∉ unfitWords := by
  have hfit : ∀ word ∈ unfitWords, needsLetter word.toList = false := by decide
  have hunfit : ∀ word ∈ unfitWords, word ∈ strictWords ++ reservedWords := by decide
  have hwords : ∀ word ∈ strictWords ++ reservedWords, word ∈ keywords ∨ word ∈ unfitWords ∨
      word.toList.any isAsciiUpper = true := by decide
  rw [memberName_eq]
  split
  · rename_i hdigit
    refine iff_of_true ?_ fun hmem => ?_
    · exact isMemberIdentifier_field fun d hd => (of_mem_snakeName h d hd).1
    · rw [hfit _ hmem] at hdigit
      cases hdigit
  · rename_i hletter
    split
    · rename_i hkeyword
      rw [isMemberIdentifier_keyword (List.contains_iff_mem.mp hkeyword), Bool.not_eq_true',
        Bool.eq_false_iff, ne_eq, List.contains_iff_mem]
    · rename_i hfree
      rw [List.contains_iff_mem] at hfree
      have hraw := isRawIdentifier_eq_false fun d hd => (of_mem_snakeName h d hd).1
      have hword := isWord_snakeName h (Bool.eq_false_iff.mpr hletter)
      unfold isMemberIdentifier
      rw [hraw, Bool.or_false, isIdentifier_iff, and_iff_right hword]
      refine not_congr ⟨fun hmem => ?_, hunfit _⟩
      rcases hwords _ hmem with hkeyword | hunfit | hany
      · exact absurd hkeyword hfree
      · exact hunfit
      · obtain ⟨d, hd, hupper⟩ := List.any_eq_true.mp hany
        rw [(of_mem_snakeName h d hd).2] at hupper
        cases hupper

/-- `snakeName` comes to an unfit word if the trimmed name is one, some of it at the front in
capitals. -/
theorem snakeName_mem_unfitWords_iff :
    snakeName name ∈ unfitWords ↔
      ∃ word ∈ unfitWords, IsCapitalized word.toList (trimmed name.toList) := by
  have hsmall : ∀ word ∈ unfitWords, word.toList.all isAsciiLower = true := by decide
  have hiff : ∀ word ∈ unfitWords,
      (IsCapitalized word.toList (trimmed name.toList) ↔ word = snakeName name) := by
    intro word hword
    unfold snakeName
    rw [← snakeChars_eq_iff (isNamePart_of_mem_trimmed h)
      (List.all_eq_true.mp (hsmall word hword)), ← String.toList_inj, String.toList_ofList]
    exact eq_comm
  constructor
  · exact fun hmem => ⟨_, hmem, (hiff _ hmem).mpr rfl⟩
  · rintro ⟨word, hword, hcapitalized⟩
    rw [← (hiff word hword).mp hcapitalized]
    exact hword

end

/-! ### Items -/

theorem itemName_eq (name : String) :
    itemName name =
      if camelName name = "" then "Unnamed"
      else if takenItemNames.contains (camelName name) then camelName name ++ "Type"
      else camelName name := rfl

/-- A digit comes first once the underscores at the start are `trimmed`. -/
def beginsWithDigit (name : String) : Bool := (trimmed name.toList).head?.any isAsciiDigit

theorem isIdentifier_itemName_iff {name : String} (h : ∀ c ∈ name.toList, isNamePart c = true) :
    isIdentifier (itemName name) = true ↔ beginsWithDigit name = false := by
  have htaken : ∀ word ∈ takenItemNames, isIdentifier (word ++ "Type") = true ∧
      word.toList.head?.any isAsciiDigit = false := by decide
  have hwords : ∀ word ∈ strictWords ++ reservedWords,
      word.toList.head?.any isAsciiLower = true ∨ word ∈ takenItemNames := by decide
  rw [itemName_eq]
  unfold beginsWithDigit
  rcases toList_camelName h with ⟨hnil, hempty⟩ | ⟨c, rest, htrimmed, hc, hline, htext⟩
  · rw [if_pos hempty, hnil]
    decide
  · have hupper := isNamePart_asciiUpper hc
    have hhead : (camelName name).toList.head? = some (asciiUpper c) := by
      rw [htext]
      rfl
    have hne : camelName name ≠ "" := by
      intro hempty
      rw [hempty] at htext
      cases htext
    rw [if_neg hne, htrimmed, List.head?_cons, Option.any_some, ← hupper.2.2.2]
    split
    · rename_i hmem
      obtain ⟨hidentifier, hdigit⟩ := htaken _ (List.contains_iff_mem.mp hmem)
      rw [hhead, Option.any_some] at hdigit
      exact iff_of_true hidentifier hdigit
    · rename_i hfree
      rw [List.contains_iff_mem] at hfree
      cases hdigit : isAsciiDigit (asciiUpper c) with
      | true =>
          have hname := isName_eq_false_of_digit htext hdigit
          simp [isIdentifier, isWord, hname]
      | false =>
          have hparts : ∀ d ∈ (camelName name).toList, isNamePart d = true := by
            unfold camelName
            rw [String.toList_ofList]
            exact fun d hd => (of_mem_camelChars h hd).1
          have hword := isWord_of_head htext hparts hdigit fun hd => hline (hupper.2.2.1.mp hd)
          refine iff_of_true (isIdentifier_iff.mpr ⟨hword, fun hmem => ?_⟩) rfl
          rcases hwords _ hmem with hlower | htaken
          · rw [hhead, Option.any_some, hupper.2.1] at hlower
            cases hlower
          · exact hfree htaken

/-! ### Variants -/

theorem beginsWithDigit_lower {name : String} (h : ∀ c ∈ name.toList, isNamePart c = true) :
    beginsWithDigit (lower name) = beginsWithDigit name := by
  unfold beginsWithDigit trimmed
  rw [toList_lower h]
  generalize name.toList = cs at h
  induction cs with
  | nil => rfl
  | cons c cs ih =>
      rw [List.forall_mem_cons] at h
      obtain ⟨-, -, hline, hdigit⟩ := isNamePart_asciiLower h.1
      rw [List.map_cons, List.dropWhile_cons, List.dropWhile_cons]
      by_cases hc : c = '_'
      · rw [if_pos (decide_eq_true (hline.mpr hc)), if_pos (decide_eq_true hc), ih h.2]
      · rw [if_neg (by simp [hline, hc]), if_neg (by simp [hc])]
        exact hdigit

theorem isIdentifier_variantName_iff {name : String}
    (h : ∀ c ∈ name.toList, isNamePart c = true) :
    isIdentifier (variantName name) = true ↔ beginsWithDigit name = false := by
  unfold variantName
  split
  · exact isIdentifier_itemName_iff h
  · have hlower : ∀ c ∈ (lower name).toList, isNamePart c = true := by
      rw [toList_lower h, List.forall_mem_map]
      exact fun c hc => (isNamePart_asciiLower (h c hc)).1
    rw [isIdentifier_itemName_iff hlower, beginsWithDigit_lower h]

/-! ### Names from outside -/

/-- The names of items that are spelled like `usedNames` which are not guarded. -/
def clashingNames : List String := ["Serialize", "serialize", "Deserialize", "deserialize"]

theorem itemName_mem_usedNames_iff {name : String} (h : ∀ c ∈ name.toList, isNamePart c = true) :
    itemName name ∈ usedNames ↔ ∃ word ∈ clashingNames, IsPadded word.toList name.toList := by
  have htaken : ∀ word ∈ takenItemNames,
      word ++ "Type" ∉ usedNames ∧ word ≠ "Serialize" ∧ word ≠ "Deserialize" := by decide
  have hused : ∀ word ∈ usedNames,
      word ∈ takenItemNames ∨ word = "Serialize" ∨ word = "Deserialize" := by decide
  have hcamel : itemName name ∈ usedNames ↔
      camelName name = "Serialize" ∨ camelName name = "Deserialize" := by
    rw [itemName_eq]
    split
    · rename_i hempty
      rw [hempty]
      decide
    · split
      · rename_i hmem
        obtain ⟨hsuffix, hne, hne'⟩ := htaken _ (List.contains_iff_mem.mp hmem)
        exact iff_of_false hsuffix (not_or.mpr ⟨hne, hne'⟩)
      · rename_i hfree
        rw [List.contains_iff_mem] at hfree
        refine ⟨fun hmem => (hused _ hmem).resolve_left hfree, ?_⟩
        rintro (hname | hname)
        · rw [hname]
          decide
        · rw [hname]
          decide
  have hserialize : camelName name = "Serialize" ↔
      IsPadded "Serialize".toList name.toList ∨ IsPadded "serialize".toList name.toList :=
    camelName_eq_iff h 'S' "erialize".toList rfl (List.all_eq_true.mp (by decide))
  have hdeserialize : camelName name = "Deserialize" ↔
      IsPadded "Deserialize".toList name.toList ∨ IsPadded "deserialize".toList name.toList :=
    camelName_eq_iff h 'D' "eserialize".toList rfl (List.all_eq_true.mp (by decide))
  rw [hcamel, hserialize, hdeserialize]
  simp [clashingNames, or_assoc]

/-! ### All declared names -/

/-- Which names are identifiers where they are declared.  `memberName` fails for the `unfitWords`,
some of it at the front in capitals; `itemName` and `variantName` fail for a name that
`beginsWithDigit`; and `itemName` gives one of the `usedNames` exactly for the `clashingNames`
between underscores. -/
theorem isIdentifier_spelled_iff {name : String} (h : isName name = true) :
    (isMemberIdentifier (memberName name) = true ↔
      ¬ ∃ word ∈ unfitWords, IsCapitalized word.toList (trimmed name.toList)) ∧
    (isIdentifier (itemName name) = true ↔ beginsWithDigit name = false) ∧
    (isIdentifier (variantName name) = true ↔ beginsWithDigit name = false) ∧
    (itemName name ∈ usedNames ↔ ∃ word ∈ clashingNames, IsPadded word.toList name.toList) := by
  have hparts := isNamePart_of_mem h
  refine ⟨?_, isIdentifier_itemName_iff hparts, isIdentifier_variantName_iff hparts,
    itemName_mem_usedNames_iff hparts⟩
  rw [isMemberIdentifier_memberName_iff hparts, snakeName_mem_unfitWords_iff hparts]

/-- `type` is written raw as a member, and gets a suffix as an item. -/
theorem isIdentifier_spelled_type :
    isName "type" = true ∧ memberName "type" = "r#type" ∧ itemName "type" = "TypeType" ∧
      (¬ ∃ word ∈ unfitWords, IsCapitalized word.toList (trimmed "type".toList)) ∧
      isIdentifier "TypeType" = true ∧ isIdentifier (variantName "type") = true ∧
      ¬ ∃ word ∈ clashingNames, IsPadded word.toList "type".toList := by
  have hname : isName "type" = true := by decide
  obtain ⟨hmember, hitem, hvariant, hused⟩ := isIdentifier_spelled_iff hname
  exact ⟨hname, by decide, by decide, hmember.mp (by decide), hitem.mpr (by decide),
    hvariant.mpr (by decide), fun hpadded => absurd (hused.mpr hpadded) (by decide)⟩

/-- `self` and `do` are declared as they are, `crate` is written raw, an item and a variant begin
with a digit, and an item is called `Serialize`. -/
theorem not_isIdentifier_selectTexts :
    Schema.ofText "type Query { self: String do: String }" = .ok (twoTexts "self" "do") ∧
    Document.ofText "query Q { self do }" =
      .ok ⟨[queryOf "Q" (selectTexts "self" "do")], []⟩ ∧
    generate .default (twoTexts "self" "do") ⟨[queryOf "Q" (selectTexts "self" "do")], []⟩ =
      .ok (bundleOf (twoTexts "self" "do") "Q" (selectTexts "self" "do")) ∧
    ((bundleOf (twoTexts "self" "do") "Q" (selectTexts "self" "do")).declarations
      .default).toOption.map (·.map Declaration.memberNames) = some [[], ["self", "do"], []] ∧
    isMemberIdentifier "self" = false ∧ isMemberIdentifier "do" = false ∧
    (memberName "crate" = "r#crate" ∧ isMemberIdentifier "r#crate" = false) ∧
    (isName "_1" = true ∧ itemName "_1" = "1" ∧ variantName "_1" = "1" ∧
      isIdentifier "1" = false) ∧
    itemName "serialize" = "Serialize" ∧ "Serialize" ∈ usedNames :=
  ⟨eq_ok_of_toOption (by decide +kernel), eq_ok_of_toOption (by decide +kernel),
    generate_queryOf (by decide +kernel) rfl rfl, by decide +kernel, by decide, by decide,
    by decide, by decide, by decide⟩

end QueryBindings

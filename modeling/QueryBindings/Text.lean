/-! # Text

Characters of texts and what texts are taken apart into: ASCII letters and digits, the numbers that
digits write, blanks, lines, and the parts between separators.

Main statements: `intercalate_splitOnChar` (the parts with the separators between them are the
text) and `splitOnChar_intercalate` (parts without separators are found again). -/

namespace QueryBindings.Text

/-! ## ASCII letters and digits -/

/-- A small letter from `a` to `z`. -/
def isAsciiLower (c : Char) : Bool := 'a' ≤ c && c ≤ 'z'

/-- A capital letter from `A` to `Z`. -/
def isAsciiUpper (c : Char) : Bool := 'A' ≤ c && c ≤ 'Z'

/-- A digit from `0` to `9`. -/
def isAsciiDigit (c : Char) : Bool := '0' ≤ c && c ≤ '9'

def isAsciiLetter (c : Char) : Bool := isAsciiLower c || isAsciiUpper c

/-- A capital letter as its small one; any other character stays. -/
def asciiLower (c : Char) : Char := if isAsciiUpper c then Char.ofNat (c.toNat + 32) else c

/-- A small letter as its capital one; any other character stays. -/
def asciiUpper (c : Char) : Char := if isAsciiLower c then Char.ofNat (c.toNat - 32) else c

/-- The number that decimal digits write. -/
def decimalValue (digits : List Char) : Nat :=
  digits.foldl (fun n c => n * 10 + (c.toNat - 48)) 0

end QueryBindings.Text

/-! ## Digits in bases up to sixteen -/

namespace QueryBindings.Number

open QueryBindings.Text

/-- The value of a digit in bases up to sixteen. -/
def digitValue? (c : Char) : Option Nat :=
  if isAsciiDigit c then some (c.toNat - 48)
  else if 'a' ≤ c && c ≤ 'f' then some (c.toNat - 87)
  else if 'A' ≤ c && c ≤ 'F' then some (c.toNat - 55)
  else none

/-- The number that digits in the base `base` write, each by `digitValue?`. -/
def numberIn? (base : Nat) (digits : List Char) : Option Nat :=
  digits.foldlM (fun n c => (digitValue? c).bind fun d =>
    if d < base then some (n * base + d) else none) 0

/-! ## Bounds of numbers of fixed width -/

/-- Whole numbers of 64 bits without a sign lie below `2 ^ 64`. -/
def unsigned64Bound : Nat := 18446744073709551616

/-- Whole numbers of 64 bits with a sign lie below `2 ^ 63` and not below `-2 ^ 63`. -/
def signed64Bound : Nat := 9223372036854775808

/-- A whole number of 64 bits with a sign. -/
def isSigned64 (n : Int) : Bool := -(signed64Bound : Int) ≤ n && n < (signed64Bound : Int)

end QueryBindings.Number

/-! ## Length in UTF-8 -/

namespace QueryBindings.Text

/-- The length of a text in UTF-8. -/
def byteLength : List Char → Nat
  | [] => 0
  | c :: rest => c.utf8Size + byteLength rest

/-! ## Blank characters

A character is blank if it has the Unicode property White_Space.  `trim` takes blanks off both
ends of a text, `isBlankText` says that nothing else is in it. -/

/-- The Unicode property White_Space. -/
def isBlank (c : Char) : Bool :=
  let n := c.toNat
  (9 ≤ n && n ≤ 13) || n == 0x20 || n == 0x85 || n == 0xA0 || n == 0x1680 ||
    (0x2000 ≤ n && n ≤ 0x200A) || n == 0x2028 || n == 0x2029 || n == 0x202F || n == 0x205F ||
    n == 0x3000

def trimStartChars (cs : List Char) : List Char := cs.dropWhile isBlank

def trimEndChars (cs : List Char) : List Char := (cs.reverse.dropWhile isBlank).reverse

def trimChars (cs : List Char) : List Char := trimEndChars (trimStartChars cs)

/-- `text` without the blanks at either end. -/
def trim (text : String) : String := String.ofList (trimChars text.toList)

/-- `text` without the blanks at its end. -/
def trimEnd (text : String) : String := String.ofList (trimEndChars text.toList)

def isBlankText (text : String) : Bool := text.toList.all isBlank

/-- `text`, unless it holds nothing but blanks. -/
def nonBlank? (text : Option String) : Option String := text.filter fun t => !isBlankText t

/-! ## Lines

A line ends at a line feed; one carriage return just before the line feed belongs to the end of
the line.  Text after the last line feed is a line of its own, and no line follows a line feed
that ends the text. -/

/-- Puts `c` in front of the first line. -/
def consToFirstLine (c : Char) : List (List Char) → List (List Char)
  | [] => [[c]]
  | line :: rest => (c :: line) :: rest

/-- The lines of a text, without their ends; `'\n'` and `"\r\n"` end one. -/
def lineChars : List Char → List (List Char)
  | [] => []
  | '\n' :: rest => [] :: lineChars rest
  | '\r' :: '\n' :: rest => [] :: lineChars rest
  | c :: rest => consToFirstLine c (lineChars rest)

def lines (text : String) : List String := (lineChars text.toList).map String.ofList

/-! ## Splitting at a character -/

/-- The parts of a text between the characters `separator`. -/
def splitOnChar (separator : Char) : List Char → List (List Char)
  | [] => [[]]
  | c :: rest =>
    match splitOnChar separator rest with
    | [] => [[c]]
    | part :: parts => if c = separator then [] :: part :: parts else (c :: part) :: parts

theorem splitOnChar_ne_nil (separator : Char) (cs : List Char) :
    splitOnChar separator cs ≠ [] := by
  induction cs with
  | nil => simp [splitOnChar]
  | cons c rest ih => grind [splitOnChar]

theorem intercalate_cons_cons (separator : List Char) (c : Char) (part : List Char)
    (parts : List (List Char)) :
    separator.intercalate ((c :: part) :: parts) = c :: separator.intercalate (part :: parts) := by
  cases parts <;> simp [List.intercalate]

theorem intercalate_splitOnChar (separator : Char) (cs : List Char) :
    [separator].intercalate (splitOnChar separator cs) = cs := by
  induction cs with
  | nil => simp [splitOnChar, List.intercalate]
  | cons c rest ih =>
    obtain ⟨part, parts, h⟩ := List.exists_cons_of_ne_nil (splitOnChar_ne_nil separator rest)
    rw [h] at ih
    simp only [splitOnChar, h]
    split
    · rename_i hc
      simp [List.intercalate] at ih ⊢
      exact ⟨hc.symm, ih⟩
    · rw [intercalate_cons_cons, ih]

theorem splitOnChar_of_not_mem {separator : Char} {part : List Char} (h : separator ∉ part) :
    splitOnChar separator part = [part] := by
  induction part with
  | nil => rfl
  | cons c rest ih => grind [splitOnChar]

theorem splitOnChar_append {separator : Char} {part : List Char} (h : separator ∉ part)
    (rest : List Char) :
    splitOnChar separator (part ++ separator :: rest) = part :: splitOnChar separator rest := by
  obtain ⟨first, parts, hrest⟩ := List.exists_cons_of_ne_nil (splitOnChar_ne_nil separator rest)
  induction part with
  | nil => simp [splitOnChar, hrest]
  | cons c tail ih => grind [splitOnChar]

theorem splitOnChar_intercalate {separator : Char} {parts : List (List Char)} (hne : parts ≠ [])
    (h : ∀ part ∈ parts, separator ∉ part) :
    splitOnChar separator ([separator].intercalate parts) = parts := by
  induction parts with
  | nil => exact absurd rfl hne
  | cons part rest ih =>
    obtain ⟨hpart, hrest⟩ := List.forall_mem_cons.mp h
    cases rest with
    | nil => simpa [List.intercalate] using splitOnChar_of_not_mem hpart
    | cons next rest =>
      have hjoined : [separator].intercalate (part :: next :: rest) =
          part ++ separator :: [separator].intercalate (next :: rest) := by
        simp [List.intercalate]
      rw [hjoined, splitOnChar_append hpart, ih (List.cons_ne_nil next rest) hrest]

end QueryBindings.Text

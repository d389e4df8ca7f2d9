import QueryBindings.Text

/-! # String literals

Literals between quotes and block strings. -/

namespace QueryBindings.Literal

/-! ## String literals between quotes

`quote` writes a text as a string literal: quotes and backslashes are escaped, line feed,
carriage return and tab have short escapes, and the other controls are written as four
hexadecimal digits.  `unescape` reads what stands between the quotes of a literal. -/

/-- The hexadecimal digit of value `n`, in upper case. -/
def upperHexDigit (n : Nat) : Char :=
  if n < 10 then Char.ofNat (48 + n) else Char.ofNat (55 + n)

/-- `n` as four hexadecimal digits. -/
def fourHexDigits (n : Nat) : List Char :=
  [upperHexDigit (n / 4096 % 16), upperHexDigit (n / 256 % 16), upperHexDigit (n / 16 % 16),
    upperHexDigit (n % 16)]

/-- A character as `quote` writes it. -/
def quoteChar (c : Char) : List Char :=
  if c = '"' then ['\\', '"']
  else if c = '\\' then ['\\', '\\']
  else if c = '\n' then ['\\', 'n']
  else if c = '\r' then ['\\', 'r']
  else if c = '\t' then ['\\', 't']
  else if c.toNat < 0x20 then '\\' :: 'u' :: fourHexDigits c.toNat
  else [c]

/-- `text` between quotes, each character by `quoteChar`. -/
def quote (text : String) : String :=
  String.ofList ('"' :: text.toList.flatMap quoteChar ++ ['"'])

/-- The value of a hexadecimal digit of either case. -/
def hexValue? (c : Char) : Option Nat :=
  if '0' ≤ c && c ≤ '9' then some (c.toNat - 48)
  else if 'a' ≤ c && c ≤ 'f' then some (c.toNat - 87)
  else if 'A' ≤ c && c ≤ 'F' then some (c.toNat - 55)
  else none

/-- The number written by hexadecimal digits after what was read before. -/
def hexNumber? (before : Nat) : List Char → Option Nat
  | [] => some before
  | c :: rest => (hexValue? c).bind fun d => hexNumber? (before * 16 + d) rest

/-- The character whose code point is `n`; surrogates are none. -/
def codePoint? (n : Nat) : Option Char :=
  if n.isValidChar then some (Char.ofNat n) else none

/-- The character of the escape `\u` with these four characters.  A plus sign may stand before the
digits. -/
def escapedCodePoint? (digits : List Char) : Option Char :=
  match digits with
  | '+' :: c :: rest => (hexNumber? 0 (c :: rest)).bind codePoint?
  | digits => (hexNumber? 0 digits).bind codePoint?

/-- The character of a short escape; `b` stands for the data link escape. -/
def shortEscape? (c : Char) : Option Char :=
  if c = '"' ∨ c = '\\' ∨ c = '/' then some c
  else if c = 'b' then some '\x10'
  else if c = 'f' then some '\x0c'
  else if c = 'n' then some '\n'
  else if c = 'r' then some '\r'
  else if c = 't' then some '\t'
  else none

/-- The value of what stands between the quotes of a literal, if every escape is good. -/
def unescape : List Char → Option (List Char)
  | [] => some []
  | '\\' :: 'u' :: a :: b :: c :: d :: rest =>
    (escapedCodePoint? [a, b, c, d]).bind fun e => (unescape rest).map (e :: ·)
  | '\\' :: c :: rest => (shortEscape? c).bind fun e => (unescape rest).map (e :: ·)
  | c :: rest => if c = '\\' then none else (unescape rest).map (c :: ·)

/-! ## Block strings

A block string stands between triple quotes and may run over several lines.  Its value leaves
out blank lines at either end and the indentation that its lines share; a backslash before a
triple quote keeps it from ending the block.  `readBlock` takes the characters between the
fences to the value. -/

open QueryBindings.Text

/-- Every triple quote gets a backslash, from left to right. -/
def escapeFences : List Char → List Char
  | '"' :: '"' :: '"' :: rest => '\\' :: '"' :: '"' :: '"' :: escapeFences rest
  | c :: rest => c :: escapeFences rest
  | [] => []

/-- Takes the backslash from every escaped triple quote; it undoes `escapeFences`. -/
def unescapeFences : List Char → List Char
  | '\\' :: '"' :: '"' :: '"' :: rest => '"' :: '"' :: '"' :: unescapeFences rest
  | c :: rest => c :: unescapeFences rest
  | [] => []

/-- The width of the blanks before the first other character; a blank line has none. -/
def indentation? (line : List Char) : Option Nat :=
  if line.all isBlank then none else some (byteLength (line.takeWhile isBlank))

/-- Drops characters until `width` is used up. -/
def dropWidth : Nat → List Char → List Char
  | 0, cs => cs
  | _, [] => []
  | width + 1, c :: rest => dropWidth (width + 1 - c.utf8Size) rest

/-- The least `indentation?` of the lines, 0 if all are blank. -/
def commonIndentation (lines : List (List Char)) : Nat :=
  ((lines.filterMap indentation?).min?).getD 0

/-- Takes `width` from the start of a line; a shorter line stays. -/
def outdent (width : Nat) (line : List Char) : List Char :=
  if width ≤ byteLength line then dropWidth width line else line

def trimLines (lines : List (List Char)) : List (List Char) :=
  let started := lines.dropWhile (·.all isBlank)
  (started.reverse.dropWhile (·.all isBlank)).reverse

def joinLines (lines : List (List Char)) : List Char := List.intercalate ['\n'] lines

/-- All lines but the first lose their `commonIndentation`. -/
def outdentLines : List (List Char) → List (List Char)
  | [] => []
  | first :: rest => first :: rest.map (outdent (commonIndentation rest))

/-- The value of the characters between the fences of a block string: `outdentLines`, `trimLines`,
`unescapeFences`. -/
def readBlock (content : List Char) : List Char :=
  joinLines ((trimLines (outdentLines (lineChars content))).map unescapeFences)

/-- A block string whose value is `value`: fences on lines of their own, every line that is not
blank indented by two spaces. -/
def writeBlock (value : List Char) : List Char :=
  let body := (lineChars value).flatMap fun line =>
    (if line.all isBlank then [] else ' ' :: ' ' :: escapeFences line) ++ ['\n']
  '"' :: '"' :: '"' :: '\n' :: body ++ ['"', '"', '"']

end QueryBindings.Literal

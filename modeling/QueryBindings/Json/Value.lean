import QueryBindings.Number.Binary64
import QueryBindings.Text.Shown

/-! # JSON values and their text

Values (`Value`) and how they are written (`Value.text`). -/

namespace QueryBindings.Json

/-! ## JSON values

Values as answers carry them.  Integers are exact as far as 64 bits hold them with or without a
sign; every other number is a binary one. -/

open QueryBindings.Number

inductive Number where
  | integer (value : Int)
  | binary (value : Binary64)
deriving DecidableEq, Repr

/-- The text of a decimal: positional from the fifth place after the point up to sixteen digits
before it, and then with a fraction in any case; otherwise with an exponent. -/
def decimalText (d : Decimal) : List Char :=
  if -5 < d.point ∧ d.point ≤ 16 then
    let digits := d.positional
    if digits.contains '.' then digits else digits ++ ['.', '0']
  else d.scientific

/-- The text of a number.  A binary one is written as its shortest decimal, by `decimalText`, a tie
going to the even one; infinity has no text of its own. -/
def Number.text : Number → String
  | integer value => toString value
  | binary value =>
    match value.magnitude with
    | .infinite => "null"
    | .finite 0 _ => value.signed ['0', '.', '0']
    | .finite mantissa exponent =>
      value.signed (decimalText (Magnitude.shortest .even mantissa exponent))

/-- A JSON value. -/
inductive Value where
  | null
  | boolean (value : Bool)
  | number (value : Number)
  | string (text : String)
  | array (items : List Value)
  | object (members : List (String × Value))
deriving Repr, Inhabited

/-- The value of the member `name` of an object. -/
def Value.member? (name : String) : Value → Option Value
  | object members => members.lookup name
  | _ => none

/-- The text of a string value. -/
def Value.string? : Value → Option String
  | string text => some text
  | _ => none

/-! ## JSON text

How values are written: without blanks, members in the order in which they stand. -/

open QueryBindings.Text

/-- A code unit below 256 as an escape of four hexadecimal digits, such as `\u001f`. -/
def smallEscape (n : Nat) : List Char :=
  let digits := hexDigits n
  ['\\', 'u'] ++ List.replicate (4 - digits.length) '0' ++ digits

/-- How one character stands in a string. -/
def stringChar (c : Char) : List Char :=
  if c = '"' then ['\\', '"']
  else if c = '\\' then ['\\', '\\']
  else if c = '\n' then ['\\', 'n']
  else if c = '\r' then ['\\', 'r']
  else if c = '\t' then ['\\', 't']
  else if c.toNat < 0x20 then smallEscape c.toNat
  else [c]

/-- A string between quotes, by `stringChar`. -/
def stringText (text : String) : String :=
  String.ofList ('"' :: text.toList.flatMap stringChar ++ ['"'])

namespace Value

mutual

/-- The text of a value. -/
def text : Value → String
  | null => "null"
  | boolean true => "true"
  | boolean false => "false"
  | number n => n.text
  | string s => stringText s
  | array items => "[" ++ itemTexts items ++ "]"
  | object members => "\x7b" ++ memberTexts members ++ "\x7d"

/-- The items with commas between them. -/
def itemTexts : List Value → String
  | [] => ""
  | [last] => last.text
  | item :: rest => item.text ++ "," ++ itemTexts rest

/-- The members with commas between them. -/
def memberTexts : List (String × Value) → String
  | [] => ""
  | [last] => stringText last.1 ++ ":" ++ last.2.text
  | member :: rest => stringText member.1 ++ ":" ++ member.2.text ++ "," ++ memberTexts rest

end

end Value

end QueryBindings.Json

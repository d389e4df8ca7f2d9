import QueryBindings.Json.Value
import QueryBindings.Literal
import QueryBindings.Text

/-! # Reading JSON text

A text is read into a tree of what was found, in reading order.  Where the text stops being
JSON the tree is broken and nothing follows: so whoever walks the tree in order meets the first
fault first, be it of the text or of the value.  A value that nobody asks for is read less
strictly, and where a name is asked for nothing but a string is even looked at, which is why a
break says how each way of reading meets it. -/

namespace QueryBindings.Json

open QueryBindings.Number QueryBindings.Text

/-- Why a text stops being JSON: it goes on wrongly, or it ends too early. -/
inductive Stop where
  | malformed
  | cutOff
deriving DecidableEq, Repr

/-- A break, as it is met in `passing` over a value, in `reading` it, and where it is to be a name.
-/
structure Break where
  passing : Stop
  reading : Stop
  naming : Stop
deriving DecidableEq, Repr

/-- A break that all ways of reading meet alike. -/
def Break.plain (stop : Stop) : Break := ⟨stop, stop, stop⟩

/-- A text that ends inside a number; one that is passed over is only seen to be `malformed`. -/
def Break.inNumber : Break := ⟨.malformed, .cutOff, .malformed⟩

/-- A text that ends inside a word. -/
def Break.inWord : Break := ⟨.cutOff, .cutOff, .malformed⟩

/-- The parts of a number as written; `exponent` has its sign. -/
structure NumberText where
  negative : Bool
  whole : List Char
  fraction : List Char
  hasFraction : Bool
  exponent : Option (Bool × List Char)
deriving DecidableEq, Repr

/-- What was found in a text.  A `string` whose escapes do not form characters has no text, and a
`broken` value ends all that is around it. -/
inductive Reading where
  | null
  | boolean (value : Bool)
  | number (text : NumberText)
  | string (text : Option String)
  | array (items : List Reading) (ending : Option Break)
  | object (members : List (Option String × Reading)) (ending : Option Break)
  | broken (fault : Break)
deriving Repr, Inhabited

/-! ### Numbers -/

/-- Reads digits into a 64-bit significand after `start`.  From the first digit that does not fit
any more digits are counted only. -/
def significand (start : Nat) : List Char → Nat × Nat
  | [] => (start, 0)
  | c :: rest =>
    let next := start * 10 + (c.toNat - 48)
    if next < unsigned64Bound then significand next rest else (start, rest.length + 1)

/-- The binary number nearest to a power of ten, for `n` up to 308. -/
def powerOfTen (n : Nat) : Magnitude := .ofDecimal 1 n

/-- `size * 10 ^ -exponent`, in steps of at most 308 powers of ten. -/
def scaleDown (size : Magnitude) (exponent : Nat) : Nat → Magnitude
  | 0 => .zero
  | steps + 1 =>
    if exponent ≤ 308 then size.div (powerOfTen exponent)
    else scaleDown (size.div (powerOfTen 308)) (exponent - 308) steps

/-- The binary number for `significand` and a power of ten; none if it is too large. -/
def binary? (negative : Bool) (significand : Nat) (exponent : Int) : Option Number :=
  let size := Magnitude.ofDecimal significand 0
  if exponent < 0 then
    some (.binary ⟨negative, scaleDown size exponent.natAbs 4⟩)
  else if significand = 0 then some (.binary ⟨negative, .zero⟩)
  else if 308 < exponent then none
  else match size.mul (powerOfTen exponent.natAbs) with
    | .infinite => none
    | m => some (.binary ⟨negative, m⟩)

/-- The number that the parts write, by `significand` and `binary?`; none if it is too large. -/
def NumberText.number? (t : NumberText) : Option Number :=
  let (mantissa, dropped) := significand 0 t.whole
  if !t.hasFraction && t.exponent.isNone && dropped = 0 then
    if !t.negative then some (.integer mantissa)
    else if mantissa = 0 ∨ signed64Bound < mantissa then
      some (.binary ⟨true, .ofDecimal mantissa 0⟩)
    else some (.integer (-(mantissa : Int)))
  else
    let (mantissa, skipped) := significand mantissa t.fraction
    let taken := t.fraction.length - skipped
    let shift : Int := match t.exponent with
      | some (negative, digits) =>
        let size : Int := Text.decimalValue digits
        if negative then -size else size
      | none => 0
    binary? t.negative mantissa ((dropped : Int) - taken + shift)

/-! ### Strings -/

/-- The text of a string so far, in reverse; with `awaiting`, an escape of a leading surrogate waits
for the trailing one. -/
inductive Spelled where
  | good (reversed : List Char)
  | awaiting (reversed : List Char) (surrogate : Nat)
  | bad
deriving DecidableEq, Repr

def Spelled.push (c : Char) : Spelled → Spelled
  | good reversed => good (c :: reversed)
  | awaiting _ _ | bad => bad

/-- Adds the code unit `n`, which was written as four hexadecimal digits. -/
def Spelled.pushUnit (n : Nat) : Spelled → Spelled
  | good reversed =>
    if 0xDC00 ≤ n && n ≤ 0xDFFF then bad
    else if 0xD800 ≤ n && n ≤ 0xDBFF then awaiting reversed n
    else good (Char.ofNat n :: reversed)
  | awaiting reversed lead =>
    if 0xDC00 ≤ n && n ≤ 0xDFFF then
      good (Char.ofNat (0x10000 + (lead - 0xD800) * 1024 + (n - 0xDC00)) :: reversed)
    else bad
  | bad => bad

/-- The finished text, unless a surrogate still waits. -/
def Spelled.text? : Spelled → Option String
  | good reversed => some (String.ofList reversed.reverse)
  | awaiting _ _ | bad => none

def Spelled.breakAt (stop : Stop) : Spelled → Break
  | bad => ⟨stop, .malformed, .malformed⟩
  | good _ | awaiting _ _ => .plain stop

/-- A part of a text that was read, with the rest of the text, or the `Break` that was met. -/
abbrev Step (α : Type) := Except Break (α × List Char)

/-- A string after its opening quote, with `s` spelled before it. -/
def spell (s : Spelled) : List Char → Step (Option String)
  | [] => .error (s.breakAt .cutOff)
  | '"' :: rest => .ok (s.text?, rest)
  | '\\' :: 'u' :: a :: b :: c :: d :: rest =>
    match Literal.hexNumber? 0 [a, b, c, d] with
    | some n => spell (s.pushUnit n) rest
    | none => .error (s.breakAt .malformed)
  | '\\' :: 'u' :: rest =>
    .error (s.breakAt (if byteLength rest < 4 then .cutOff else .malformed))
  | ['\\'] => .error (s.breakAt .cutOff)
  | '\\' :: c :: rest =>
    if c = '"' ∨ c = '\\' ∨ c = '/' then spell (s.push c) rest
    else if c = 'b' then spell (s.push '\x08') rest
    else if c = 'f' then spell (s.push '\x0c') rest
    else if c = 'n' then spell (s.push '\n') rest
    else if c = 'r' then spell (s.push '\r') rest
    else if c = 't' then spell (s.push '\t') rest
    else .error (s.breakAt .malformed)
  | c :: rest =>
    if c.toNat < 0x20 then .error (s.breakAt .malformed) else spell (s.push c) rest

/-! ### Values -/

/-- Without white space at the start. -/
def skipSpace (cs : List Char) : List Char :=
  cs.dropWhile fun c => c = ' ' || c = '\n' || c = '\t' || c = '\r'

/-- Reads the letters of a word. -/
def letters : List Char → List Char → Step Unit
  | [], cs => .ok ((), cs)
  | _ :: _, [] => .error .inWord
  | a :: word, c :: rest => if a = c then letters word rest else .error (.plain .malformed)

/-- The digits that follow, at least one. -/
def someDigits (cs : List Char) : Step (List Char) :=
  match cs with
  | [] => .error .inNumber
  | c :: _ =>
    if isAsciiDigit c then .ok (cs.takeWhile isAsciiDigit, cs.dropWhile isAsciiDigit)
    else .error (.plain .malformed)

/-- The digits before the point: no needless zero stands in front. -/
def wholeDigits (cs : List Char) : Step (List Char) :=
  match cs with
  | '0' :: c :: rest =>
    if isAsciiDigit c then .error (.plain .malformed) else .ok (['0'], c :: rest)
  | cs => someDigits cs

/-- A number after its sign. -/
def numberText (negative : Bool) (cs : List Char) : Except Break (NumberText × List Char) := do
  let (whole, cs) ← wholeDigits cs
  let (fraction, cs) ← match cs with
    | '.' :: rest => (fun r => (some r.1, r.2)) <$> someDigits rest
    | cs => pure (none, cs)
  let (exponent, cs) ← match cs with
    | c :: rest =>
      if c = 'e' ∨ c = 'E' then
        let (negative, rest) := match rest with
          | '+' :: rest => (false, rest)
          | '-' :: rest => (true, rest)
          | rest => (false, rest)
        (fun r => (some (negative, r.1), r.2)) <$> someDigits rest
      else pure (none, c :: rest)
    | [] => pure (none, [])
  return (⟨negative, whole, fraction.getD [], fraction.isSome, exponent⟩, cs)

/-- A reading with the rest of the text; no rest follows a `Break`. -/
abbrev Found := Reading × Option (List Char)

/-- A reading of a part that was read or broke. -/
def found {α : Type} (make : α → Reading) : Step α → Found
  | .ok (a, rest) => (make a, some rest)
  | .error b => (.broken b, none)

mutual

/-- The value at the front of a text; the first argument bounds the number of values and parts in
it. -/
def readValue : Nat → List Char → Found
  | 0, _ => (.broken (.plain .cutOff), none)
  | fuel + 1, cs =>
    match skipSpace cs with
    | [] => (.broken (.plain .cutOff), none)
    | '[' :: rest =>
      match skipSpace rest with
      | ']' :: rest => (.array [] none, some rest)
      | rest =>
        let (items, ending, rest) := readItems fuel rest
        (.array items ending, rest)
    | '{' :: rest =>
      match skipSpace rest with
      | '}' :: rest => (.object [] none, some rest)
      | rest =>
        let (members, ending, rest) := readMembers fuel rest
        (.object members ending, rest)
    | '"' :: rest => found .string (spell (.good []) rest)
    | '-' :: rest => found .number (numberText true rest)
    | c :: rest =>
      if isAsciiDigit c then found .number (numberText false (c :: rest))
      else if c = 'n' then found (fun _ => .null) (letters ['u', 'l', 'l'] rest)
      else if c = 't' then found (fun _ => .boolean true) (letters ['r', 'u', 'e'] rest)
      else if c = 'f' then found (fun _ => .boolean false) (letters ['a', 'l', 's', 'e'] rest)
      else (.broken (.plain .malformed), none)

/-- The items of an array from the next one on, up to the closing bracket, by `readValue`. -/
def readItems : Nat → List Char → List Reading × Option Break × Option (List Char)
  | 0, _ => ([], some (.plain .cutOff), none)
  | fuel + 1, cs =>
    match readValue fuel cs with
    | (item, none) => ([item], none, none)
    | (item, some rest) =>
      match skipSpace rest with
      | [] => ([item], some (.plain .cutOff), none)
      | ']' :: rest => ([item], none, some rest)
      | ',' :: rest =>
        match skipSpace rest with
        | ']' :: _ => ([item, .broken (.plain .malformed)], none, none)
        | rest =>
          let (items, ending, rest) := readItems fuel rest
          (item :: items, ending, rest)
      | _ => ([item], some (.plain .malformed), none)

/-- The members of an object from the next one on, up to the closing brace, by `readValue`. -/
def readMembers :
    Nat → List Char → List (Option String × Reading) × Option Break × Option (List Char)
  | 0, _ => ([], some (.plain .cutOff), none)
  | fuel + 1, cs =>
    match skipSpace cs with
    | [] => ([], some (.plain .cutOff), none)
    | '"' :: rest =>
      match spell (.good []) rest with
      | .error b => ([], some b, none)
      | .ok (key, rest) =>
        match skipSpace rest with
        | [] => ([(key, .broken (.plain .cutOff))], none, none)
        | ':' :: rest =>
          match readValue fuel rest with
          | (value, none) => ([(key, value)], none, none)
          | (value, some rest) =>
            match skipSpace rest with
            | [] => ([(key, value)], some (.plain .cutOff), none)
            | '}' :: rest => ([(key, value)], none, some rest)
            | ',' :: rest =>
              let (members, ending, rest) := readMembers fuel rest
              ((key, value) :: members, ending, rest)
            | _ => ([(key, value)], some (.plain .malformed), none)
        | _ => ([(key, .broken (.plain .malformed))], none, none)
    | _ => ([], some (.plain .malformed), none)

end

/-- The reading of `text`, and whether anything but white space follows the value. -/
def read (text : String) : Reading × Bool :=
  let cs := text.toList
  let (reading, rest) := readValue (2 * cs.length + 2) cs
  (reading, rest.any fun cs => !(skipSpace cs).isEmpty)

mutual

/-- The break that ends a reading, if one does. -/
def Reading.break? : Reading → Option Break
  | .broken b => some b
  | .array items ending => lastBreak? items <|> ending
  | .object members ending => lastMemberBreak? members <|> ending
  | _ => none

def lastBreak? : List Reading → Option Break
  | [] => none
  | r :: rest => r.break? <|> lastBreak? rest

def lastMemberBreak? : List (Option String × Reading) → Option Break
  | [] => none
  | (_, r) :: rest => r.break? <|> lastMemberBreak? rest

end

end QueryBindings.Json

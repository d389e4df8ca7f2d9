/-! # Numbers of double precision

Binary numbers, and the shortest decimals that stand for them. -/

namespace QueryBindings.Number

/-! ## Binary numbers of double precision

A binary number of double precision is a sign with a magnitude `mantissa * 2 ^ exponent`, whose
mantissa has at most 53 bits and whose exponent is at least -1074; above `2 ^ 1024` there is only
infinity.  `ofRatio` rounds a fraction to the nearest such number, a tie going to the even
mantissa.  `mul` and `div` round the exact result. -/

inductive Magnitude where
  | finite (mantissa : Nat) (exponent : Int)
  | infinite
deriving DecidableEq, Repr

/-- A number of double precision; `magnitude` is its size without its sign. -/
structure Binary64 where
  negative : Bool
  magnitude : Magnitude
deriving DecidableEq, Repr

namespace Magnitude

def zero : Magnitude := .finite 0 0

/-- The leading bit of a mantissa of full width: `2 ^ 52`. -/
def hiddenBit : Nat := 4503599627370496

/-- `num / den` to the nearest whole number, a tie going to the even one. -/
def divNearestEven (num den : Nat) : Nat :=
  let quotient := num / den
  let twice := 2 * (num % den)
  if twice < den then quotient
  else if den < twice then quotient + 1
  else quotient + quotient % 2

/-- `num / den` times `2 ^ -exponent`, as a fraction. -/
def scaleDown (num den : Nat) (exponent : Int) : Nat × Nat :=
  if exponent < 0 then (num * Nat.pow 2 exponent.natAbs, den)
  else (num, den * Nat.pow 2 exponent.natAbs)

/-- The magnitude nearest to `num / den`, by `divNearestEven` on a mantissa of full width. -/
def ofRatio (num den : Nat) : Magnitude :=
  if num = 0 then zero
  else
    let lowest := max ((Nat.log2 num : Int) - Nat.log2 den - 53) (-1074)
    let (n, d) := scaleDown num den lowest
    let exponent := if 2 * hiddenBit ≤ n / d then lowest + 1 else lowest
    let (n, d) := scaleDown num den exponent
    let mantissa := divNearestEven n d
    let (mantissa, exponent) :=
      if mantissa = 2 * hiddenBit then (hiddenBit, exponent + 1) else (mantissa, exponent)
    if 971 < exponent then infinite else finite mantissa exponent

/-- `mantissa * 2 ^ exponent` as a fraction. -/
def ratio (mantissa : Nat) (exponent : Int) : Nat × Nat :=
  if exponent < 0 then (mantissa, Nat.pow 2 exponent.natAbs)
  else (mantissa * Nat.pow 2 exponent.natAbs, 1)

/-- The product by `ofRatio`; infinity absorbs. -/
def mul : Magnitude → Magnitude → Magnitude
  | finite m q, finite n r =>
    let a := ratio m q
    let b := ratio n r
    ofRatio (a.1 * b.1) (a.2 * b.2)
  | _, _ => infinite

/-- The quotient by a magnitude that is not `zero`. -/
def div : Magnitude → Magnitude → Magnitude
  | finite m q, finite n r =>
    let a := ratio m q
    let b := ratio n r
    ofRatio (a.1 * b.2) (a.2 * b.1)
  | finite _ _, infinite => zero
  | infinite, _ => infinite

/-- The magnitude nearest to `digits * 10 ^ exponent`. -/
def ofDecimal (digits : Nat) (exponent : Int) : Magnitude :=
  let size : Int := (Nat.toDigits 10 digits).length
  if digits = 0 then zero
  else if size + exponent > 310 then infinite
  else if size + exponent < -330 then zero
  else if exponent < 0 then ofRatio digits (Nat.pow 10 exponent.natAbs)
  else ofRatio (digits * Nat.pow 10 exponent.natAbs) 1

end Magnitude

/-! ## Shortest decimals

The shortest decimal that reads back as a given binary number, and of those the nearest; where
two are equally near, the format that writes the number says which one is taken.  Written
positionally there is no exponent, and no point in a whole number; written with an exponent there
is one digit before the point. -/

/-- The decimal `0.d₁d₂… * 10 ^ point` with the digits of `digits`. -/
structure Decimal where
  digits : Nat
  point : Int
deriving DecidableEq, Repr

/-- Which of two equally near decimals is taken: the greater, or the one whose last digit is even.
-/
inductive Tie where
  | greater
  | even
deriving DecidableEq, Repr

namespace Magnitude

/-- The least `p` with `num / den < 10 ^ p`. -/
def decimalPoint (num den : Nat) : Int :=
  if den ≤ num then (Nat.toDigits 10 (num / den)).length
  else
    match (List.range 330).find? fun k => den ≤ num * Nat.pow 10 (k + 1) with
    | some k => -(k : Int)
    | none => -330

/-- The `n`-digit decimal nearest to `num / den` inside the interval from `low` to `high`, both
measured in units of `1 / scale`; the ends count if `closed`. -/
def decimalInside? (tie : Tie) (num den low high scale : Nat) (closed : Bool) (point : Int)
    (n : Nat) : Option Decimal :=
  let step := point - n
  let (up, down) := if step < 0 then (Nat.pow 10 step.natAbs, 1) else (1, Nat.pow 10 step.natAbs)
  let below := num * up / (den * down)
  let inside (d : Nat) : Bool :=
    let value := d * down * scale
    let least := low * up
    let most := high * up
    if closed then least ≤ value && value ≤ most else least < value && value < most
  let remainder := num * up - below * (den * down)
  let upFirst := den * down < 2 * remainder ||
    (2 * remainder = den * down && (tie = .greater || below % 2 = 1))
  let (first, second) := if upFirst then (below + 1, below) else (below, below + 1)
  if inside first then some ⟨first, point⟩
  else if inside second then some ⟨second, point⟩
  else none

/-- The shortest decimal that reads back as `mantissa * 2 ^ exponent`, which is not `zero`.  With
seventeen digits `decimalInside?` always has one. -/
def shortest (tie : Tie) (mantissa : Nat) (exponent : Int) : Decimal :=
  let (num, den) := ratio mantissa exponent
  let (unit, scale) := ratio 1 (exponent - 2)
  let middle := 4 * mantissa * unit
  let atPower := mantissa = hiddenBit && exponent > -1074
  let low := middle - (if atPower then unit else 2 * unit)
  let high := middle + 2 * unit
  let point := decimalPoint num den
  let sizes := (List.range 17).map (· + 1)
  match sizes.findSome? fun n =>
      (decimalInside? tie num den low high scale (mantissa % 2 = 0) point n).map (n, ·) with
  | some (n, d) =>
    -- rounding up may carry to the next power of ten, whose last digit is a zero
    if (Nat.toDigits 10 d.digits).length > n then ⟨d.digits / 10, d.point + 1⟩ else d
  | none => ⟨num / den, point⟩

end Magnitude

/-- The digits of `d` around its `point`. -/
def Decimal.positional (d : Decimal) : List Char :=
  let digits := Nat.toDigits 10 d.digits
  if d.point ≤ 0 then '0' :: '.' :: List.replicate d.point.natAbs '0' ++ digits
  else
    let before := d.point.natAbs
    if digits.length ≤ before then digits ++ List.replicate (before - digits.length) '0'
    else digits.take before ++ '.' :: digits.drop before

/-- The digits of `d` with a point after the first, and the exponent with a sign. -/
def Decimal.scientific (d : Decimal) : List Char :=
  let exponent := d.point - 1
  let sign := if exponent < 0 then '-' else '+'
  (match Nat.toDigits 10 d.digits with
    | first :: second :: rest => first :: '.' :: second :: rest
    | digits => digits) ++ 'e' :: sign :: Nat.toDigits 10 exponent.natAbs

/-- The text of a size after the sign of `b`. -/
def Binary64.signed (b : Binary64) (size : List Char) : String :=
  String.ofList (if b.negative then '-' :: size else size)

/-- A binary number as its `shortest` decimal, without an exponent; a tie goes to the greater. -/
def Binary64.positional (b : Binary64) : String :=
  b.signed <| match b.magnitude with
    | .infinite => ['i', 'n', 'f']
    | .finite 0 _ => ['0']
    | .finite mantissa exponent => (Magnitude.shortest .greater mantissa exponent).positional

end QueryBindings.Number

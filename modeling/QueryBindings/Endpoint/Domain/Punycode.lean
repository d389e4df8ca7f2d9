import QueryBindings.Text

/-! # Punycode

A label of any characters is written in ASCII as its ASCII characters, a hyphen, and the places
of the others.  These are given in increasing order of code points.  Each is written as the
distance from the place before, counted through all places of the label and all code points, in
digits of base 36 whose weights follow the sizes of the distances so far. -/

namespace QueryBindings.Endpoint.Punycode

open QueryBindings.Text

/-- The least code point that is written by its place. -/
def firstCode : Nat := 128

/-- Distances and weights of digits lie below this number. -/
def bound : Nat := 4294967296

/-- A distance ends with a digit below the threshold of the digit's `place`.  Places count in steps
of 36. -/
def threshold (bias place : Nat) : Nat :=
  if place ≤ bias then 1 else if bias + 26 ≤ place then 26 else place - bias

theorem threshold_pos (bias place : Nat) : 0 < threshold bias place := by
  unfold threshold
  split
  · omega
  · split <;> omega

/-- Divides `distance` until it is small, and counts 36 for each division. -/
def shrink (distance : Nat) : Nat × Nat :=
  if _h : 455 < distance then
    let (small, count) := shrink (distance / 35)
    (small, count + 36)
  else (distance, 0)
termination_by distance
decreasing_by omega

/-- The bias after a `distance` with which a label has come to `length`. -/
def adapt (distance length : Nat) (isFirst : Bool) : Nat :=
  let scaled := if isFirst then distance / 700 else distance / 2
  let (small, count) := shrink (scaled + scaled / length)
  count + 36 * small / (small + 38)

def firstBias : Nat := 72

/-! ### Reading -/

/-- The value of a digit: letters come before the figures. -/
def digitValue? (c : Char) : Option Nat :=
  if isAsciiLower c then some (c.toNat - 97)
  else if isAsciiDigit c then some (c.toNat - 22)
  else none

/-- Adds the distance in front of a text to `place`, and leaves what follows it; digits end below
their `threshold`. -/
def readDistance (bias digitPlace weight place : Nat) : List Char → Option (Nat × List Char)
  | [] => none
  | c :: rest => do
    let digit ← digitValue? c
    let reached := place + digit * weight
    let least := threshold bias digitPlace
    if bound ≤ reached || bound ≤ weight then none
    else if digit < least then some (reached, rest)
    else readDistance bias (digitPlace + 36) (weight * (36 - least)) reached rest

theorem readDistance_shorter {bias digitPlace weight place n : Nat} {cs rest : List Char}
    (h : readDistance bias digitPlace weight place cs = some (n, rest)) :
    rest.length < cs.length := by
  induction cs generalizing digitPlace weight place with
  | nil => simp [readDistance] at h
  | cons c cs ih =>
    simp only [readDistance, Option.bind_eq_bind, Option.bind_eq_some_iff] at h
    obtain ⟨digit, -, h⟩ := h
    split at h
    · contradiction
    · split at h
      · simp only [Option.some.injEq, Prod.mk.injEq] at h
        simp [h.2]
      · have := ih h
        simp only [List.length_cons]
        omega

/-- Puts characters into a label by their distances: `code` and `place` are where the next
distance starts. -/
def place? (label : List Char) (code place bias : Nat) (cs : List Char) : Option (List Char) :=
  match cs with
  | [] => some label
  | c :: rest =>
    match _h : readDistance bias 36 1 place (c :: rest) with
    | none => none
    | some (reached, beyond) =>
      let length := label.length + 1
      let next := code + reached / length
      if next.isValidChar then
        let index := reached % length
        place? (label.take index ++ Char.ofNat next :: label.drop index) next (index + 1)
          (adapt (reached - place) length (place == 0)) beyond
      else none
termination_by cs.length
decreasing_by exact readDistance_shorter ‹_›

/-- What stands before the last hyphen and what stands after it.  A hyphen in front of all else
belongs to the distances. -/
def splitBasic (cs : List Char) : List Char × List Char :=
  let distances := (cs.reverse.takeWhile (· ≠ '-')).reverse
  let basic := cs.take (cs.length - distances.length - 1)
  if basic.isEmpty then ([], cs) else (basic, distances)

/-- The label that `cs` writes. -/
def decode? (cs : List Char) : Option (List Char) :=
  let (basic, distances) := splitBasic cs
  place? basic firstCode 0 firstBias distances

/-! ### Writing -/

def digit (value : Nat) : Char := Char.ofNat (if value < 26 then value + 97 else value + 22)

/-- The digits of a distance, least first, as `readDistance` reads them. -/
def writeDistance (bias digitPlace distance : Nat) : List Char :=
  let least := threshold bias digitPlace
  if distance < least then [digit distance]
  else
    digit (least + (distance - least) % (36 - least)) ::
      writeDistance bias (digitPlace + 36) ((distance - least) / (36 - least))
termination_by distance
decreasing_by
  have hpos := threshold_pos bias digitPlace
  have hle : (distance - threshold bias digitPlace) / (36 - threshold bias digitPlace) ≤
      distance - threshold bias digitPlace := Nat.div_le_self _ _
  omega

/-- How far a label is written. -/
structure Progress where
  /-- What is written so far. -/
  written : List Char
  /-- The distance from the last place. -/
  distance : Nat
  bias : Nat
  /-- How many characters of the label are written. -/
  count : Nat

/-- Goes over the character `c` of the label while those of the code point `code` are written. -/
def Progress.pass (basicCount code : Nat) (p : Progress) (c : Char) : Progress :=
  if c.toNat < code then ⟨p.written, p.distance + 1, p.bias, p.count⟩
  else if c.toNat = code then
    ⟨p.written ++ writeDistance p.bias 36 p.distance, 0,
      adapt p.distance (p.count + 1) (p.count == basicCount), p.count + 1⟩
  else p

/-- Writes the characters of `label` with each of some code points in turn; all below `code` are
written. -/
def writeCodes (label : List Char) (basicCount code : Nat) (p : Progress) :
    List Nat → List Char
  | [] => p.written
  | next :: codes =>
    let skipped := (next - code) * (p.count + 1)
    let done := label.foldl (Progress.pass basicCount next)
      ⟨p.written, p.distance + skipped, p.bias, p.count⟩
    writeCodes label basicCount (next + 1)
      ⟨done.written, done.distance + 1, done.bias, done.count⟩ codes

/-- `label` in ASCII: its ASCII characters, then the distances of all others. -/
def encode (label : List Char) : List Char :=
  let basic := label.filter (·.toNat < firstCode)
  let codes := ((label.map Char.toNat).filter (firstCode ≤ ·)).mergeSort.eraseDups
  (if basic.isEmpty then [] else basic ++ ['-']) ++
    writeCodes label basic.length firstCode ⟨[], 0, firstBias, basic.length⟩ codes

end QueryBindings.Endpoint.Punycode

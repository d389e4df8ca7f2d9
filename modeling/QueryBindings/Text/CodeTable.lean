import QueryBindings.Text

/-! # Tables of code points

Tables of characters are lists of runs (`Run`).  A large table is a `CodeTable`, which is written as
text. -/

namespace QueryBindings.Text

/-! ## Runs of code points

Tables of characters are lists of runs.  A run holds every `step`-th code point from `first` to
`last`. -/

/-- Every `step`-th code point from `first` to `last`. -/
structure Run where
  first : Nat
  last : Nat
  step : Nat
deriving DecidableEq, Repr

def Run.holds (r : Run) (n : Nat) : Bool :=
  r.first ≤ n && n ≤ r.last && (n - r.first) % r.step == 0

def inRuns (runs : List Run) (n : Nat) : Bool := runs.any (·.holds n)

/-! ## Tables of code points

A large table is written as text, one word for each run: the first code point of the run, the
last one after a hyphen if there are more, the step after a slash if it is not one, and after a
greater-than sign the code points that the table gives for the run, with dots between them.  All
numbers are hexadecimal. -/

open QueryBindings.Number

/-- A run of code points and what a table gives for it. -/
structure CodeEntry extends Run where
  targets : List Nat
deriving DecidableEq, Repr

/-- What an entry gives for the code point `n` of its run: a single one of the `targets` moves along
with the run, several stand for each of its code points alike. -/
def CodeEntry.image (e : CodeEntry) (n : Nat) : List Nat :=
  match e.targets with
  | [target] => [target + (n - e.first)]
  | targets => targets

/-- The entry that a word such as `41-5A>61` writes. -/
def CodeEntry.ofWord? (word : List Char) : Option CodeEntry := do
  let run := word.takeWhile (· ≠ '>')
  let targets ← match word.dropWhile (· ≠ '>') with
    | [] | ['>'] => some []
    | _ :: targets => (splitOnChar '.' targets).mapM (numberIn? 16)
  let step ← match run.dropWhile (· ≠ '/') with
    | [] => some 1
    | _ :: step => numberIn? 16 step
  match ← (splitOnChar '-' (run.takeWhile (· ≠ '/'))).mapM (numberIn? 16) with
  | [code] => return ⟨⟨code, code, step⟩, targets⟩
  | [first, last] => return ⟨⟨first, last, step⟩, targets⟩
  | _ => none

structure CodeTable where
  entries : List CodeEntry
deriving DecidableEq, Repr

namespace CodeTable

/-- The table that the words in `lines` write, each by `CodeEntry.ofWord?`. -/
def ofText (lines : List String) : CodeTable :=
  ⟨lines.flatMap fun line => (splitOnChar ' ' line.toList).filterMap CodeEntry.ofWord?⟩

def find? (table : CodeTable) (c : Char) : Option CodeEntry :=
  table.entries.find? (·.holds c.toNat)

def holds (table : CodeTable) (c : Char) : Bool := (table.find? c).isSome

end CodeTable

end QueryBindings.Text

import QueryBindings.Grammar.Token

/-! # Rules

A rule reads tokens from the front of a list and hands on the rest.  When a rule fails, it
returns the tokens from the first one with which it could not go on; what it fails at is all
that an error message tells. -/

namespace QueryBindings.Grammar

/-- A reader of tokens.  A failure holds the tokens that could not be read on. -/
abbrev Rule (α : Type) := StateT (List Token) (Except (List Token)) α

namespace Rule

variable {α : Type}

/-- Fails at the next token. -/
def fail : Rule α := fun ts => .error ts

/-- The next token, which stays. -/
def peek : Rule (Option Token) := fun ts => .ok (ts.head?, ts)

/-- Whether the next token is `token`. -/
def isNext (token : Token) : Rule Bool := fun ts => .ok (ts.head? == some token, ts)

/-- Reads the token `token`. -/
def token (token : Token) : Rule Unit := fun ts =>
  match ts with
  | t :: rest => if t = token then .ok ((), rest) else .error ts
  | [] => .error ts

/-- Reads the symbol `c`. -/
def symbol (c : Char) : Rule Unit := token (.symbol c)

/-- Reads the word `text`. -/
def keyword (text : String) : Rule Unit := token (.name text)

/-- Reads a name. -/
def name : Rule String := fun ts =>
  match ts with
  | .name text :: rest => .ok (text, rest)
  | ts => .error ts

/-- Reads `token` if it comes next, and says whether it did. -/
def option (token : Token) : Rule Bool := fun ts =>
  match ts with
  | t :: rest => if t = token then .ok (true, rest) else .ok (false, ts)
  | [] => .ok (false, ts)

/-- Reads items as long as the next token is one with which an item `starts`. -/
def many (starts : Token → Bool) (item : Rule α) (ts : List Token) :
    Except (List Token) (List α × List Token) :=
  match ts with
  | [] => .ok ([], [])
  | t :: rest =>
    if starts t then
      match item (t :: rest) with
      | .error e => .error e
      | .ok (a, after) =>
        if _h : after.length < (t :: rest).length then
          match many starts item after with
          | .error e => .error e
          | .ok (as, final) => .ok (a :: as, final)
        else .error (t :: rest)
    else .ok ([], t :: rest)
termination_by ts.length
decreasing_by exact _h

/-- Reads items up to the symbol `closing`, and that symbol. -/
def manyUntil (closing : Char) (item : Rule α) : Rule (List α) := do
  let items ← many (· ≠ .symbol closing) item
  symbol closing
  return items

/-- Reads one item and any more up to the symbol `closing`, and that symbol. -/
def someUntil (closing : Char) (item : Rule α) : Rule (List α) := do
  let first ← item
  let others ← manyUntil closing item
  return first :: others

/-- Reads an item after the symbol `c`, as often as the symbol comes next. -/
def manyAfter (c : Char) (item : Rule α) : Rule (List α) :=
  many (· = .symbol c) (do symbol c; item)

end Rule

/-- Brackets nest at most fifty deep. -/
def nestingLimit : Nat := 50

/-- Reads an opening bracket and what `inner` reads with one level of nesting less. -/
def bracketed {α : Type} (opening : Char) (inner : Nat → Rule α) : Nat → Rule α
  | 0 => Rule.fail
  | depth + 1 => do
    Rule.symbol opening
    inner depth

/-- The outcome of `rule`, which has to read a whole text: its result, or the position of the first
token with which it could not go on. -/
def readAll {α : Type} (rule : Rule α) (text : String) : Except Position α :=
  let ts := tokens text
  match rule (ts.tokens.map (·.1)) with
  | .ok (a, []) => .ok a
  | .ok (_, rest) => .error (ts.positionOfLast rest.length)
  | .error rest => .error (ts.positionOfLast rest.length)

end QueryBindings.Grammar

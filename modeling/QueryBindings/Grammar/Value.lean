import QueryBindings.Definition
import QueryBindings.Grammar.Rule
import QueryBindings.Table

/-! # Values, types and directives

The rules that operations and schemas share.  A value is read and at once written back in its
canonical text: numbers and strings in one spelling, the fields of an object in name order with
the last of a repeated one kept. -/

namespace QueryBindings.Grammar

open QueryBindings.Number Rule

/-- A literal value; a `reference` is a variable, with its name. -/
inductive Value where
  | reference (name : String)
  | int (value : Int)
  | float (value : Binary64)
  | string (value : String)
  | word (text : String)
  | list (items : List Value)
  | object (fields : List (String × Value))
deriving Repr

namespace Value

/-- Whether a string is written between quotes on one line: it has no line feed, or it has a
control or an astral character. -/
def isInline (cs : List Char) : Bool :=
  !cs.contains '\n' || cs.any fun c =>
    (c.toNat < 0x20 && c ≠ '\n' && c ≠ '\r' && c ≠ '\t') || 0xFFFF < c.toNat

/-- At least four decimal digits of `n`. -/
def fourDecimalDigits (n : Nat) : List Char :=
  let digits := Nat.toDigits 10 n
  List.replicate (4 - digits.length) '0' ++ digits

/-- How an inline string writes `c`.  Controls and astral characters are written by the decimal
digits of their code points. -/
def inlineChar (c : Char) : List Char :=
  if c = '\r' then ['\\', 'r']
  else if c = '\n' then ['\\', 'n']
  else if c = '\t' then ['\\', 't']
  else if c = '"' then ['\\', '"']
  else if c = '\\' then ['\\', '\\']
  else if 0x20 ≤ c.toNat && c.toNat ≤ 0xFFFF then [c]
  else '\\' :: 'u' :: fourDecimalDigits c.toNat

/-- The text of a string: on one line if `isInline`, or as a block. -/
def stringText (text : String) : String :=
  let cs := text.toList
  String.ofList
    (if isInline cs then '"' :: cs.flatMap inlineChar ++ ['"'] else Literal.writeBlock cs)

mutual

/-- The canonical text of a value. -/
def text : Value → String
  | reference name => "$" ++ name
  | int value => toString value
  | float value => value.positional
  | string value => stringText value
  | word text => text
  | list items => "[" ++ ", ".intercalate (texts items) ++ "]"
  | object fields =>
    let members := (Table.ofList (memberTexts fields)).entries
    "\x7b" ++ ", ".intercalate (members.map fun m => m.1 ++ ": " ++ m.2) ++ "\x7d"

/-- The canonical texts of values, by `text` for each. -/
def texts : List Value → List String
  | [] => []
  | v :: rest => v.text :: texts rest

/-- The names and the canonical texts of the fields of an object. -/
def memberTexts : List (String × Value) → List (String × String)
  | [] => []
  | (name, v) :: rest => (name, v.text) :: memberTexts rest

end

end Value

/-- A value without brackets; a variable only if `references` are allowed. -/
def plainValue (references : Bool) : Rule Value := fun ts =>
  match ts with
  | .int n :: rest => .ok (.int n, rest)
  | .float n :: rest => .ok (.float n, rest)
  | .string s :: rest => .ok (.string s, rest)
  | .name n :: rest => .ok (.word n, rest)
  | .symbol '$' :: rest =>
    if references then (do let n ← name; return .reference n : Rule Value) rest else .error ts
  | ts => .error ts

/-- A value; `depth` more levels of brackets may be opened. -/
def value (references : Bool) : Nat → Rule Value
  | 0 => plainValue references
  | depth + 1 => do
    if ← option (.symbol '[') then
      return .list (← manyUntil ']' (value references depth))
    else if ← option (.symbol '{') then
      return .object (← manyUntil '}' do
        let n ← name
        symbol ':'
        return (n, ← value references depth))
    else plainValue references

/-- A `value` as its canonical text. -/
def valueText (references : Bool) (depth : Nat) : Rule String := do
  return (← value references depth).text

/-- Arguments in parentheses, if there are any. -/
def arguments (references : Bool) (depth : Nat) : Rule (List Argument) := do
  if ← isNext (.symbol '(') then
    bracketed '(' (fun depth => someUntil ')' do
      let n ← name
      symbol ':'
      return ⟨n, ← valueText references depth⟩) depth
  else return []

/-- Applied directives, each after an `@`. -/
def directives (references : Bool) (depth : Nat) : Rule (List Directive) :=
  manyAfter '@' do
    let n ← name
    return ⟨n, ← arguments references depth⟩

/-- A type as it is written: a mark is a level of its own, `nonNull`, around what it stands behind.
-/
inductive TypeTree where
  | named (name : String)
  | list (element : TypeTree)
  | nonNull (inner : TypeTree)
deriving DecidableEq, Repr

namespace TypeTree

/-- The type expression that a written type stands for: a mark is one of the level inside it. -/
def typeExpr : TypeTree → TypeExpr
  | named name => .named name false
  | list element => .list element.typeExpr false
  | nonNull inner => inner.typeExpr.withNonNull true

/-- The tree with a mark around it, if `mark` is set. -/
def marked (t : TypeTree) (mark : Bool) : TypeTree := if mark then nonNull t else t

end TypeTree

def nonNullMark : Rule Bool := option (.symbol '!')

/-- What `unmarked` reads, and the mark that may stand behind it. -/
def withMark (unmarked : Rule TypeTree) : Rule TypeTree := do
  let t ← unmarked
  return t.marked (← nonNullMark)

/-- A written type up to the mark at its end; `depth` more levels of brackets may be opened. -/
def unmarkedType : Nat → Rule TypeTree
  | 0 => do return .named (← name)
  | depth + 1 => do
    if ← option (.symbol '[') then
      let element ← withMark (unmarkedType depth)
      symbol ']'
      return .list element
    else return .named (← name)

/-- A written type; `depth` more levels of brackets may be opened. -/
def typeTree (depth : Nat) : Rule TypeTree := withMark (unmarkedType depth)

/-- A type expression, that of a `typeTree`; `depth` more levels of brackets may be opened. -/
def typeExpr (depth : Nat) : Rule TypeExpr := do return (← typeTree depth).typeExpr

/-- A default value after an equals sign, if there is one. -/
def defaultValue (depth : Nat) : Rule (Option String) := do
  if ← option (.symbol '=') then return some (← valueText false depth) else return none

end QueryBindings.Grammar

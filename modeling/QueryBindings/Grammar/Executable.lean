import QueryBindings.Document
import QueryBindings.Grammar.Value

/-! # Reading documents

The rules for operations and fragments.  A text holds at least one definition; `...on` always
begins a fragment in line; variables take no directives, and their defaults are constants. -/

namespace QueryBindings.Grammar

open Rule

/-- What follows `...`: a fragment in line after `on` or in braces, or else a spread. -/
def fragmentEntry (depth : Nat) (inner : Rule SelectionSet) : Rule SelectionSet := do
  if ← option (.name "on") then
    let condition ← name
    let applied ← directives true depth
    return .inline ⟨some condition, applied⟩ (← inner) .nil
  else
    match ← peek with
    | some (.name _) =>
      let fragment ← name
      return .spread ⟨fragment, ← directives true depth⟩ .nil
    | _ =>
      let applied ← directives true depth
      return .inline ⟨none, applied⟩ (← inner) .nil

/-- A field with its alias, arguments and directives, and what `inner` reads in its braces. -/
def fieldEntry (depth : Nat) (inner : Rule SelectionSet) : Rule SelectionSet := do
  let first ← name
  let second ← if ← option (.symbol ':') then some <$> name else pure none
  let given ← arguments true depth
  let applied ← directives true depth
  let selected ← if ← isNext (.symbol '{') then inner else pure .nil
  let field : Field := match second with
    | some n => ⟨some first, n, given, applied⟩
    | none => ⟨none, first, given, applied⟩
  return .field field selected .nil

/-- One entry of a selection set, as a set of its own. -/
def entry (depth : Nat) (inner : Rule SelectionSet) : Rule SelectionSet := do
  if ← option .ellipsis then fragmentEntry depth inner else fieldEntry depth inner

/-- A selection set with at least one entry; `depth` more levels of brackets may be opened. -/
def selectionSet : Nat → Rule SelectionSet
  | 0 => fail
  | depth + 1 => do
    symbol '{'
    let entries ← someUntil '}' (entry depth (selectionSet depth))
    return entries.foldr (· ++ ·) .nil

/-- The declaration of a variable: `$`, a name, a type and perhaps a default value. -/
def variableDefinition (depth : Nat) : Rule VariableDefinition := do
  symbol '$'
  let n ← name
  symbol ':'
  let type ← typeExpr depth
  return ⟨n, type, ← defaultValue depth⟩

/-- Declared variables in parentheses, if there are any. -/
def variableDefinitions (depth : Nat) : Rule (List VariableDefinition) := do
  if ← isNext (.symbol '(') then
    bracketed '(' (fun depth => someUntil ')' (variableDefinition depth)) depth
  else return []

/-- An operation after the word that opens it, which gives its `kind`. -/
def operation (kind : OperationKind) : Rule Operation := do
  let n ← match ← peek with
    | some (.name _) => some <$> name
    | _ => pure none
  let declared ← variableDefinitions nestingLimit
  let applied ← directives true nestingLimit
  return ⟨kind, n, declared, applied, ← selectionSet nestingLimit⟩

/-- A fragment after the word `fragment`. -/
def fragment : Rule Fragment := do
  let n ← name
  keyword "on"
  let condition ← name
  let applied ← directives true nestingLimit
  return ⟨n, condition, applied, ← selectionSet nestingLimit⟩

/-- An operation or a fragment, as a document of its own. -/
def executableDefinition : Rule Document := do
  if ← isNext (.symbol '{') then
    return ⟨[⟨.query, none, [], [], ← selectionSet nestingLimit⟩], []⟩
  else if ← option (.name "query") then return ⟨[← operation .query], []⟩
  else if ← option (.name "mutation") then return ⟨[← operation .mutation], []⟩
  else if ← option (.name "subscription") then return ⟨[← operation .subscription], []⟩
  else
    keyword "fragment"
    return ⟨[], [← fragment]⟩

/-- At least one operation or fragment, up to the end; all parts by `Document.append`. -/
def executableDocument : Rule Document := do
  let first ← executableDefinition
  let others ← many (fun _ => true) executableDefinition
  return Document.merge (first :: others)

/-- The document that `text` holds, or the position at which it stops being one. -/
def readDocument (text : String) : Except Position Document := readAll executableDocument text

end QueryBindings.Grammar

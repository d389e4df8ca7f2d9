import QueryBindings.Document
import QueryBindings.Literal
import QueryBindings.Schema
import QueryBindings.Text

/-! # Canonical text

How text is laid out from pieces (`layout`), and which pieces schemas and documents are made of. -/

namespace QueryBindings

/-! ## Layout

Canonical text is laid out from pieces: words that keep a space between each other, text that
binds to its neighbours, line breaks and changes of indentation.  What to write is a list of
pieces; a `Pen` writes them one after another and remembers whether a line has just begun and
whether the next piece needs a space before it. -/

inductive Piece where
  /-- A token; `advance` keeps the next one apart from it by a space. -/
  | word (text : String)
  /-- Text as it is; the next piece binds to it. -/
  | raw (text : String)
  | newline
  /-- The next piece binds to what stands before it. -/
  | tight
  /-- The next piece is kept apart by a space. -/
  | apart
  /-- One level of indentation more. -/
  | deeper
  | shallower
  /-- A line break, unless nothing has been written. -/
  | separator
deriving DecidableEq, Repr

/-- What has been written, and how the next piece joins it: at the start of a line behind `level`
times `indent`, else after a space if `needsSpace`. -/
structure Pen where
  text : String
  indent : String
  level : Nat
  atLineStart : Bool
  needsSpace : Bool
deriving DecidableEq, Repr

namespace Pen

def fresh (indent : String) : Pen := ⟨"", indent, 0, true, false⟩

/-- `text` repeated `n` times. -/
def repeated (text : String) : Nat → String
  | 0 => ""
  | n + 1 => text ++ repeated text n

/-- Begins a line with its indentation, or puts the space of `needsSpace`. -/
def advance (p : Pen) : Pen :=
  if p.atLineStart then
    { p with
      text := p.text ++ repeated p.indent p.level
      atLineStart := false
      needsSpace := false }
  else if p.needsSpace then { p with text := p.text ++ " " }
  else p

theorem indent_advance (p : Pen) : p.advance.indent = p.indent := by
  unfold advance
  repeat' split
  all_goals rfl

theorem level_advance (p : Pen) : p.advance.level = p.level := by
  unfold advance
  repeat' split
  all_goals rfl

theorem atLineStart_advance (p : Pen) : p.advance.atLineStart = false := by
  unfold advance
  split
  · rfl
  · rename_i hstart
    split <;> exact Bool.eq_false_iff.mpr hstart

def breakLine (p : Pen) : Pen :=
  { p with text := p.text ++ "\n", atLineStart := true, needsSpace := false }

/-- One piece after what `p` has written. -/
def write (p : Pen) : Piece → Pen
  | .word text =>
    let p := p.advance
    { p with text := p.text ++ Text.trim text, needsSpace := true }
  | .raw text =>
    let p := p.advance
    { p with text := p.text ++ text, needsSpace := false }
  | .newline => p.breakLine
  | .tight => { p with needsSpace := false }
  | .apart => { p with needsSpace := true }
  | .deeper => { p with level := p.level + 1 }
  | .shallower => { p with level := p.level - 1 }
  | .separator => if p.text = "" then p else p.breakLine

/-- The pieces from left to right, each by `write`. -/
def writeAll (p : Pen) (pieces : List Piece) : Pen := pieces.foldl write p

@[simp] theorem writeAll_nil (p : Pen) : p.writeAll [] = p := rfl

@[simp] theorem writeAll_cons (p : Pen) (piece : Piece) (rest : List Piece) :
    p.writeAll (piece :: rest) = (p.write piece).writeAll rest := rfl

@[simp] theorem writeAll_append (p : Pen) (a b : List Piece) :
    p.writeAll (a ++ b) = (p.writeAll a).writeAll b := by
  simp [writeAll, List.foldl_append]

end Pen

/-- The pieces written with a `fresh` pen. -/
def layout (indent : String) (pieces : List Piece) : String :=
  ((Pen.fresh indent).writeAll pieces).text

namespace Piece

/-- The pieces between `deeper` and `shallower`. -/
def nested (pieces : List Piece) : List Piece := deeper :: pieces ++ [shallower]

def colon : List Piece := [tight, raw ":", apart]

/-- The closing parenthesis of a list of arguments. -/
def closeArguments : List Piece := [tight, raw ")", apart]

/-- The items in order, all but the first after a comma. -/
def commaSeparated : List (List Piece) → List Piece
  | [] => []
  | first :: rest => first ++ rest.flatMap fun item => tight :: word "," :: item

/-- The words in order, `opening` before the first and `between` before every other. -/
def joinedWords (opening between : String) : List String → List Piece
  | [] => []
  | first :: rest =>
    word opening :: word first :: rest.flatMap fun item => [word between, word item]

end Piece

/-! ## Layout of schemas

The canonical text of a schema: a block that names the root types if any of them has an unusual
name, then directives and types, each in name order with a blank line between two of them.
Builtin types and directives, and fields reserved for introspection, are laid out only on
demand (`builtins`). -/

open Piece

/-- The fence of a block string. -/
def fence : String := "\"\"\""

/-- One line of a description, with `escapeFences`; an empty line stays empty. -/
def descriptionLine (line : List Char) : List Piece :=
  (if line.isEmpty then [] else [raw (String.ofList (Literal.escapeFences line))]) ++ [newline]

/-- A description as a block string between two `fence`s on lines of their own. -/
def descriptionPieces : Option String → List Piece
  | none => []
  | some text =>
    if text = "" then []
    else [raw fence, newline] ++ (Text.lineChars text.toList).flatMap descriptionLine ++
      [raw fence, newline]

def defaultPieces : Option String → List Piece
  | none => []
  | some value => [word "=", raw value]

/-- Arguments in parentheses, by `commaSeparated`; nothing if there are none. -/
def argumentPieces (arguments : List Argument) : List Piece :=
  if arguments.isEmpty then []
  else [tight, raw "("] ++
    commaSeparated (arguments.map fun a => [word a.name] ++ colon ++ [raw a.value]) ++
    closeArguments

def directivePieces (directives : List Directive) : List Piece :=
  directives.flatMap fun d => [apart, raw "@", word d.name] ++ argumentPieces d.arguments

namespace ArgumentDefinition

/-- There is a description that is not empty. -/
def isDescribed (a : ArgumentDefinition) : Bool := a.description.any (· ≠ "")

def declarationPieces (a : ArgumentDefinition) : List Piece :=
  [word a.name] ++ colon ++ [word a.type.text] ++ defaultPieces a.defaultValue ++
    directivePieces a.directives

/-- The declaration by `declarationPieces`; one that `isDescribed` begins an indented line. -/
def pieces (a : ArgumentDefinition) : List Piece :=
  if a.isDescribed then
    newline :: nested (descriptionPieces a.description ++ a.declarationPieces)
  else a.declarationPieces

/-- Declared arguments in parentheses.  Once an argument `isDescribed`, the closing parenthesis
stands on a line of its own. -/
def listPieces (arguments : List ArgumentDefinition) : List Piece :=
  if arguments.isEmpty then []
  else [raw "("] ++ commaSeparated (arguments.map pieces) ++
    (if arguments.any isDescribed then [newline] else []) ++ closeArguments

end ArgumentDefinition

def FieldDefinition.pieces (f : FieldDefinition) : List Piece :=
  descriptionPieces f.description ++ [word f.name, tight] ++
    ArgumentDefinition.listPieces f.arguments ++ colon ++ [word f.type.text] ++
    defaultPieces f.defaultValue ++ directivePieces f.directives ++ [newline]

def EnumValue.pieces (v : EnumValue) : List Piece :=
  descriptionPieces v.description ++ [word v.name] ++ directivePieces v.directives ++ [newline]

/-- Lines between braces; nothing at all if there are none. -/
def bracedPieces (lines : List (List Piece)) : List Piece :=
  if lines.isEmpty then []
  else [raw "\x7b", newline] ++ nested lines.flatten ++ [raw "\x7d"]

/-- A directive definition; a builtin one only with `builtins`. -/
def DirectiveDefinition.pieces (builtins : Bool) (d : DirectiveDefinition) : List Piece :=
  if d.builtin && !builtins then []
  else [separator] ++ descriptionPieces d.description ++ [word "directive", raw "@", word d.name] ++
    (if d.arguments.isEmpty then [] else tight :: ArgumentDefinition.listPieces d.arguments) ++
    (if d.repeatable then [word "repeatable"] else []) ++
    joinedWords "on" "|" d.locations ++ [newline]

namespace Definition

/-- The fields to lay out: reserved ones (`isMetaName`) only with `builtins`. -/
def visibleFields (builtins : Bool) (d : Definition) : List FieldDefinition :=
  d.fields.filter fun f => builtins || !isMetaName f.name

/-- What stands between the braces of a definition, by its `kind`. -/
def bodyPieces (builtins : Bool) (d : Definition) : List Piece :=
  match d.kind with
  | .enum => bracedPieces (d.values.map EnumValue.pieces)
  | _ => bracedPieces ((d.visibleFields builtins).map FieldDefinition.pieces)

/-- A type definition; a builtin or reserved one only with `builtins`. -/
def pieces (builtins : Bool) (d : Definition) : List Piece :=
  if !builtins && (d.builtin || isMetaName d.name) then []
  else [separator] ++ descriptionPieces d.description ++ [word d.kind.keyword, word d.name] ++
    joinedWords "implements" "&" d.interfaces ++ directivePieces d.directives ++
    (if d.kind = .union then joinedWords "=" "|" d.members else []) ++
    d.bodyPieces builtins ++ [newline]

end Definition

namespace Schema

/-- The root types that `rootName?` gives, in the order of `OperationKind.all`. -/
def roots (s : Schema) : List (OperationKind × String) :=
  OperationKind.all.filterMap fun kind => (s.rootName? kind).map (kind, ·)

/-- The block that names the `roots`, unless all of them have their default names. -/
def rootPieces (s : Schema) : List Piece :=
  if s.roots.all fun root => root.2 = root.1.defaultRoot then []
  else [separator, word "schema"] ++
    bracedPieces (s.roots.map fun root =>
      [word root.1.keyword] ++ colon ++ [word root.2, newline]) ++ [newline]

/-- A whole schema.  `values` gives directives and types by their keys, which in a schema that was
built is by their names (`Built.mergeSort_types`, `Built.mergeSort_directives`). -/
def pieces (builtins : Bool) (s : Schema) : List Piece :=
  s.rootPieces ++ s.directives.values.flatMap (·.pieces builtins) ++
    s.types.values.flatMap (·.pieces builtins)

/-- `pieces` as text. -/
def print (indent : String) (builtins : Bool) (s : Schema) : String :=
  layout indent (s.pieces builtins)

end Schema

/-! ## Layout of operations and fragments

The canonical text of a document: operations, then fragments, with a blank line between two of
them and one selected entry a line.  An alias that equals the name of its field is left out. -/

/-- The head of a field: its response key, its name unless they agree, its arguments and directives.
-/
def Field.pieces (f : Field) : List Piece :=
  (match f.aliasName with
    | some a => if a = f.name then [] else [word a] ++ colon
    | none => []) ++
    [word f.name] ++ argumentPieces f.arguments ++ directivePieces f.directives

def Spread.pieces (s : Spread) : List Piece :=
  [raw "...", word s.name] ++ directivePieces s.directives

/-- The head of a fragment in line: its type condition and its directives. -/
def InlineFragment.pieces (i : InlineFragment) : List Piece :=
  [word "..."] ++ (i.condition.toList.flatMap fun c => [word "on", word c]) ++
    directivePieces i.directives

namespace SelectionSet

/-- `bracedPieces` after a space; nothing at all if there are no lines. -/
def block (lines : List Piece) : List Piece :=
  if lines.isEmpty then []
  else [apart, raw "\x7b", newline] ++ nested lines ++ [raw "\x7d"]

/-- One line per entry, with the `block` of what is selected inside it. -/
def linePieces : SelectionSet → List Piece
  | nil => []
  | field f inner rest => f.pieces ++ block inner.linePieces ++ [newline] ++ rest.linePieces
  | spread s rest => s.pieces ++ [newline] ++ rest.linePieces
  | inline i inner rest => i.pieces ++ block inner.linePieces ++ [newline] ++ rest.linePieces

def pieces (s : SelectionSet) : List Piece := block s.linePieces

/-- The entries one after another, without the line breaks of `linePieces`. -/
def entryPieces : SelectionSet → List Piece
  | nil => []
  | field f inner rest => f.pieces ++ inner.pieces ++ rest.entryPieces
  | spread s rest => s.pieces ++ rest.entryPieces
  | inline i inner rest => i.pieces ++ inner.pieces ++ rest.entryPieces

end SelectionSet

def VariableDefinition.pieces (v : VariableDefinition) : List Piece :=
  [raw "$", word v.name] ++ colon ++ [word v.type.text] ++ defaultPieces v.defaultValue

/-- Declared variables in parentheses; nothing if there are none. -/
def variablePieces (parameters : List VariableDefinition) : List Piece :=
  if parameters.isEmpty then []
  else [raw "("] ++ commaSeparated (parameters.map VariableDefinition.pieces) ++ closeArguments

def Operation.pieces (o : Operation) : List Piece :=
  [separator, word o.kind.keyword] ++ (o.name.toList.flatMap fun n => [word n, tight]) ++
    variablePieces o.parameters ++ directivePieces o.directives ++ o.selections.pieces ++ [newline]

def Fragment.pieces (f : Fragment) : List Piece :=
  [separator, word "fragment", word f.name, word "on", word f.condition] ++
    directivePieces f.directives ++ f.selections.pieces ++ [newline]

def Document.pieces (d : Document) : List Piece :=
  d.operations.flatMap Operation.pieces ++ d.fragments.flatMap Fragment.pieces

/-- The operations and then the fragments as text. -/
def Document.print (indent : String) (d : Document) : String := layout indent d.pieces

def Operation.print (indent : String) (o : Operation) : String := layout indent o.pieces

end QueryBindings

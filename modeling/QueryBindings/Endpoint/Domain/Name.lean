import QueryBindings.Endpoint.Domain.Canonical
import QueryBindings.Endpoint.Domain.CharacterTable
import QueryBindings.Endpoint.Domain.MappingTable
import QueryBindings.Endpoint.Domain.Punycode

/-! # Names of domains

Labels, and the names that are made of them. -/

namespace QueryBindings.Endpoint

/-! ## Labels of domain names

Between the dots of a domain name stand labels.  A label holds letters in the form that names
have them in, starts with no mark, has an invisible joiner only where it changes how letters look,
and, in a name with letters written from right to left, keeps to one direction. -/

open QueryBindings.Text

/-! ### Characters -/

/-- What `nameMapping` puts for `c`, or `c` itself if it is allowed in names. -/
def mapChar? (c : Char) : Option (List Char) :=
  match nameMapping.find? c with
  | some entry => some ((entry.image c.toNat).map Char.ofNat)
  | none => if allowedInNames.holds c then some [c] else none

/-- A text with `mapChar?` of each of its characters. -/
def mapName? (cs : List Char) : Option (List Char) := (cs.mapM mapChar?).map List.flatten

/-- Whether `c` may stand in a label: it stands for itself, and parts no labels. -/
def isLabelChar (c : Char) : Bool :=
  c ≠ '.' && allowedInNames.holds c && !nameMapping.holds c

/-! ### Joiners -/

/-- The character that keeps letters apart. -/
def nonJoiner : Char := '\u200C'

/-- The character that joins letters. -/
def joiner : Char := '\u200D'

/-- The `combiningClass` of the marks that silence the vowel of a consonant. -/
def viramaClass : Nat := 9

/-- Whether the last character of a text, `before` in reverse, silences a vowel. -/
def endsInVirama (before : List Char) : Bool :=
  before.head?.map combiningClass == some viramaClass

/-- Whether the first character that letters do not join across `joins`. -/
def meets (joins : Char → Bool) (cs : List Char) : Bool :=
  (cs.dropWhile joinThrough.holds).head?.any joins

def joinsNext (c : Char) : Bool := dualJoining.holds c || leftJoining.holds c

def joinsLast (c : Char) : Bool := dualJoining.holds c || rightJoining.holds c

/-- Whether `joiner` and `nonJoiner` have an effect in the text after `before`, which is held in
reverse. -/
def joinersCount (before : List Char) : List Char → Bool
  | [] => true
  | c :: rest =>
    (if c = joiner then endsInVirama before
    else if c = nonJoiner then
      endsInVirama before || (meets joinsNext before && meets joinsLast rest)
    else true) && joinersCount (c :: before) rest

/-- Whether a label starts with no mark, holds characters of labels only, and all of its joiners
count. -/
def isLabel (label : List Char) : Bool :=
  !label.head?.any marks.holds && label.all isLabelChar && joinersCount [] label

/-! ### Direction -/

/-- How a character takes part in the direction of a text. -/
inductive Direction where
  | leftToRight
  | rightToLeft
  | europeanNumber
  | arabicNumber
  | undirected
  | mark
deriving DecidableEq, Repr

/-- The `Direction` of a character, by the tables of characters. -/
def direction (c : Char) : Direction :=
  if rightToLeftLetters.holds c then .rightToLeft
  else if arabicNumbers.holds c then .arabicNumber
  else if europeanNumbers.holds c then .europeanNumber
  else if undirected.holds c then .undirected
  else if spacelessMarks.holds c then .mark
  else .leftToRight

/-- Whether a character makes its name one of both directions. -/
def Direction.turns (d : Direction) : Bool := d = .rightToLeft || d = .arabicNumber

/-- Whether a label keeps to the direction of its first character. -/
def keepsDirection (label : List Char) : Bool :=
  let directions := label.map direction
  let last := (directions.reverse.dropWhile (· = .mark)).head?
  match directions.head? with
  | none => true
  | some .leftToRight =>
    !directions.any Direction.turns && (last = some .leftToRight || last = some .europeanNumber)
  | some .rightToLeft =>
    !directions.contains .leftToRight &&
      last.any (fun d => d = .rightToLeft || d = .europeanNumber || d = .arabicNumber) &&
      !(directions.contains .europeanNumber && directions.contains .arabicNumber)
  | some _ => false

/-! ## Domain names

A domain name may be written with the letters of any language.  Its form in ASCII has small
letters, and each label with other characters is written in Punycode after a sign. -/

/-- The sign in front of a label in Punycode. -/
def punycodeSign : List Char := ['x', 'n', '-', '-']

/-- The longest text that is read by `Punycode.decode?`. -/
def longestRead : Nat := 2000

/-- The longest label that is written by `Punycode.encode`. -/
def longestWritten : Nat := 1000

def isAscii (cs : List Char) : Bool := cs.all (·.toNat < 128)

/-- The label that is written as `label` in a name.  Punycode is good only for labels that need it,
in `canonical` form. -/
def readLabel? (label : List Char) : Option (List Char) :=
  if punycodeSign.isPrefixOf label then do
    let code := label.drop punycodeSign.length
    if longestRead < code.length || !isAscii code then none
    let meant ← Punycode.decode? code
    if isAscii meant || punycodeSign.isPrefixOf meant || canonical meant ≠ meant then none
    else return meant
  else some label

/-- A label in ASCII, with `punycodeSign` if it has other characters. -/
def writeLabel? (label : List Char) : Option (List Char) :=
  if isAscii label then some label
  else if longestWritten < label.length then none
  else some (punycodeSign ++ Punycode.encode label)

/-- A domain name in ASCII: each label by `readLabel?`, checked, and by `writeLabel?`. -/
def nameInAscii? (cs : List Char) : Option (List Char) :=
  let small := cs.map asciiLower
  if isAscii cs && !(splitOnChar '.' small).any punycodeSign.isPrefixOf then some small
  else do
    let mapped ← mapName? cs
    let labels ← (splitOnChar '.' (canonical mapped)).mapM readLabel?
    let turns := labels.any fun label => label.any fun c => (direction c).turns
    if labels.all isLabel && (!turns || labels.all keepsDirection) then
      return ['.'].intercalate (← labels.mapM writeLabel?)
    else none

end QueryBindings.Endpoint

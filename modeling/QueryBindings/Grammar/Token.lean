import QueryBindings.Literal
import QueryBindings.Number.Binary64
import QueryBindings.Text

/-! # Tokens of a text

Positions in a text, and the tokens that stand there. -/

namespace QueryBindings.Grammar

/-! ## Positions in a text

Lines and columns count from one.  Inside a token every character is one column wide; between
tokens a tab is eight columns wide, and byte order marks and carriage returns take no room. -/

/-- A line and a column, both counted from one. -/
structure Position where
  line : Nat
  column : Nat
deriving DecidableEq, Repr, Inhabited

namespace Position

def start : Position := ⟨1, 1⟩

def nextLine (p : Position) : Position := ⟨p.line + 1, 1⟩

/-- The position after `c` between tokens, where a tab is eight columns wide. -/
def skip (p : Position) (c : Char) : Position :=
  if c = '\n' then p.nextLine
  else if c = '\t' then { p with column := p.column + 8 }
  else if c = '\r' ∨ c = '\uFEFF' then p
  else { p with column := p.column + 1 }

/-- The position after `c` inside a token. -/
def pass (p : Position) (c : Char) : Position :=
  if c = '\n' then p.nextLine else { p with column := p.column + 1 }

/-- The position after the characters of a token, by `pass` for each. -/
def passAll (p : Position) (cs : List Char) : Position := cs.foldl pass p

/-- `line:column`. -/
def text (p : Position) : String := toString p.line ++ ":" ++ toString p.column

end Position

/-! ## Tokens

A text is a list of tokens between ignored characters: symbols, names, numbers and strings.
`scan` reads the token at the front of a text and says how many characters it takes.  A text
that cannot be read any further ends with the token `unreadable`, which no rule accepts. -/

open QueryBindings.Number QueryBindings.Text

/-- A token; `unreadable` stands where a text cannot be read any further. -/
inductive Token where
  | symbol (c : Char)
  | ellipsis
  | name (text : String)
  | int (value : Int)
  | float (value : Binary64)
  | string (value : String)
  | unreadable
deriving DecidableEq, Repr

/-! ### Character classes -/

/-- A character that may begin a name. -/
def isNameStart (c : Char) : Bool := c = '_' || isAsciiLetter c

/-- A character that may continue a name: one that `isNameStart`, or a digit. -/
def isNamePart (c : Char) : Bool := isNameStart c || isAsciiDigit c

/-- A character that is a token of its own. -/
def isSymbol (c : Char) : Bool :=
  ['(', ')', '[', ']', '{', '}', '!', '$', ':', '=', '@', '|', '&'].contains c

/-- A character that is ignored between tokens. -/
def isIgnored (c : Char) : Bool := ['\uFEFF', '\r', '\t', '\n', ' ', ','].contains c

/-- A character that a number cannot run past. -/
def endsNumber (c : Char) : Bool :=
  isSymbol c || c = ' ' || c = '\t' || c = '\n' || c = '\r' || c = ',' || c = '#'

/-! ### Numbers -/

/-- Whole digits without a needless zero in front. -/
def isWhole : List Char → Bool
  | [] => false
  | ['0'] => true
  | c :: rest => c ≠ '0' && (c :: rest).all isAsciiDigit

/-- The exponent of a number after its letter: a sign and digits, or digits that begin with one
from 1 to 8. -/
def exponent? : List Char → Option Int
  | '+' :: c :: rest =>
    if (c :: rest).all isAsciiDigit then some (decimalValue (c :: rest)) else none
  | '-' :: c :: rest =>
    if (c :: rest).all isAsciiDigit then some (-(decimalValue (c :: rest) : Int)) else none
  | c :: rest =>
    if '1' ≤ c && c ≤ '8' && rest.all isAsciiDigit then some (decimalValue (c :: rest)) else none
  | [] => none

/-- The digits of a fraction and the exponent after it. -/
def fraction? (tail : List Char) : Option (List Char × Int) :=
  match tail with
  | '.' :: rest =>
    let digits := rest.takeWhile isAsciiDigit
    if digits.isEmpty then none
    else match rest.dropWhile isAsciiDigit with
      | [] => some (digits, 0)
      | c :: more => if c = 'e' ∨ c = 'E' then (exponent? more).map (digits, ·) else none
  | c :: more => if c = 'e' ∨ c = 'E' then (exponent? more).map ([], ·) else none
  | [] => none

/-- The number token with the characters `cs`, with a minus sign if `negative`. -/
def unsignedToken? (negative : Bool) (cs : List Char) : Option Token :=
  let whole := cs.takeWhile isAsciiDigit
  let tail := cs.dropWhile isAsciiDigit
  if !isWhole whole then none
  else if tail.isEmpty then
    let value : Int := if negative then -(decimalValue whole : Int) else decimalValue whole
    if isSigned64 value then some (.int value) else none
  else
    (fraction? tail).map fun (digits, exponent) =>
      .float ⟨negative, .ofDecimal (decimalValue (whole ++ digits)) (exponent - digits.length)⟩

/-- The number token with these characters, by `unsignedToken?` after a sign. -/
def numberToken? : List Char → Option Token
  | '-' :: cs => unsignedToken? true cs
  | cs => unsignedToken? false cs

/-! ### Strings -/

/-- What stands before the closing quote.  It is not `escaped` by a backslash, and no line ends
inside. -/
def quotedContent? (escaped : Bool) : List Char → Option (List Char)
  | [] => none
  | c :: rest =>
    if c = '"' ∧ escaped = false then some []
    else if c = '\n' then none
    else (quotedContent? (!escaped && c = '\\') rest).map (c :: ·)

/-- What stands before the closing fence, which is not right `afterBackslash`. -/
def blockContent? (afterBackslash : Bool) : List Char → Option (List Char)
  | '"' :: '"' :: '"' :: rest =>
    if afterBackslash then (blockContent? false rest).map ('"' :: '"' :: '"' :: ·) else some []
  | c :: rest => (blockContent? (c = '\\') rest).map (c :: ·)
  | [] => none

/-! ### Scanning -/

/-- A token with the number of characters that it takes after its first, `more`. -/
structure Scanned where
  token : Token
  more : Nat
deriving DecidableEq, Repr

/-- The token that begins with `c` and goes on in `rest`. -/
def scan (c : Char) (rest : List Char) : Scanned :=
  if isSymbol c then ⟨.symbol c, 0⟩
  else if isNameStart c then
    let part := rest.takeWhile isNamePart
    ⟨.name (String.ofList (c :: part)), part.length⟩
  else if c = '-' || isAsciiDigit c then
    let part := rest.takeWhile fun d => !endsNumber d
    ⟨(numberToken? (c :: part)).getD .unreadable, part.length⟩
  else if c = '.' then
    match rest with
    | '.' :: '.' :: _ => ⟨.ellipsis, 2⟩
    | _ => ⟨.unreadable, 0⟩
  else if c = '"' then
    match rest with
    | '"' :: '"' :: body =>
      match blockContent? false body with
      | some content =>
        ⟨.string (String.ofList (Literal.readBlock content)), content.length + 5⟩
      | none => ⟨.unreadable, 0⟩
    | body =>
      match quotedContent? false body with
      | some content =>
        match Literal.unescape content with
        | some value => ⟨.string (String.ofList value), content.length + 1⟩
        | none => ⟨.unreadable, 0⟩
      | none => ⟨.unreadable, 0⟩
  else ⟨.unreadable, 0⟩

/-! ### Texts -/

/-- The tokens of a text, each with the position of its first character; `stop` is where the text
ends. -/
structure Tokens where
  tokens : List (Token × Position)
  stop : Position
deriving DecidableEq, Repr

def Tokens.cons (token : Token) (position : Position) (ts : Tokens) : Tokens :=
  { ts with tokens := (token, position) :: ts.tokens }

/-- What follows a comment: the text after the end of its line, if the line ends. -/
def afterComment? : List Char → Option (List Char)
  | [] => none
  | c :: rest => if c = '\r' ∨ c = '\n' then some rest else afterComment? rest

theorem length_afterComment?_lt {cs rest : List Char} (h : afterComment? cs = some rest) :
    rest.length < cs.length := by
  induction cs with
  | nil => simp [afterComment?] at h
  | cons c cs ih =>
    simp only [afterComment?] at h
    split at h
    · cases h; simp
    · have := ih h; simp; omega

/-- The tokens of the text `cs`, which begins at `p`, by `scan`.  Nothing is read after an
unreadable token. -/
def tokensFrom (p : Position) (cs : List Char) : Tokens :=
  match cs with
  | [] => ⟨[], p⟩
  | c :: rest =>
    if isIgnored c then tokensFrom (p.skip c) rest
    else if c = '#' then
      match _h : afterComment? rest with
      | some after => tokensFrom p.nextLine after
      | none => ⟨[], p⟩
    else
      let scanned := scan c rest
      if scanned.token = .unreadable then ⟨[(.unreadable, p)], p⟩
      else
        (tokensFrom (p.passAll (c :: rest.take scanned.more)) (rest.drop scanned.more)).cons
          scanned.token p
termination_by cs.length
decreasing_by
  · exact Nat.lt_succ_self _
  · exact Nat.lt_succ_of_lt (length_afterComment?_lt _h)
  · rw [List.length_drop, List.length_cons]; omega

def tokens (text : String) : Tokens := tokensFrom .start text.toList

/-- The position of the first of the last `n` tokens of `ts`, or the end of the text. -/
def Tokens.positionOfLast (ts : Tokens) (n : Nat) : Position :=
  match ts.tokens.drop (ts.tokens.length - n) with
  | [] => ts.stop
  | (_, p) :: _ => p

end QueryBindings.Grammar

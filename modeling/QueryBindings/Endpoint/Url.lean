import QueryBindings.Endpoint.Domain.Name
import QueryBindings.Text

/-! # Addresses

Hosts, and the URLs that lead to them. -/

namespace QueryBindings.Endpoint

/-! ## Hosts of URLs

A host is a domain name, an address of four bytes, or one of eight 16-bit pieces in square
brackets.  Names are written in small letters, addresses in their shortest usual form. -/

open QueryBindings.Number QueryBindings.Text

/-! ### Four bytes -/

/-- A part of an address: hexadecimal after `0x`, octal after `0`, or decimal. -/
def addressPart? : List Char → Option Nat
  | [] => none
  | '0' :: 'x' :: digits | '0' :: 'X' :: digits => numberIn? 16 digits
  | '0' :: c :: digits => numberIn? 8 (c :: digits)
  | digits => numberIn? 10 digits

/-- The parts of `host` between dots, without an empty one at the end. -/
def dottedParts (host : List Char) : List (List Char) :=
  let parts := splitOnChar '.' host
  if parts.length > 1 && parts.getLast? = some [] then parts.dropLast else parts

/-- Whether `host` can only be an address: its last part is a number. -/
def endsInNumber (host : List Char) : Bool :=
  match (dottedParts host).getLast? with
  | none | some [] => false
  | some last => last.all isAsciiDigit || (addressPart? last).isSome

/-- The value of an address whose last part fills the bytes that the others leave. -/
def addressValue? : List Nat → Nat → Option Nat
  | [], _ => none
  | [last], room => if last < Nat.pow 256 room then some last else none
  | part :: parts, room =>
    if part < 256 then
      (addressValue? parts (room - 1)).map fun rest => part * Nat.pow 256 (room - 1) + rest
    else none

/-- An address of four bytes in its usual form, by `addressPart?` and `addressValue?`. -/
def address? (host : List Char) : Option (List Char) :=
  let parts := dottedParts host
  if parts.length > 4 then none
  else do
    let numbers ← parts.mapM addressPart?
    let value ← addressValue? numbers 4
    let bytes := [value / 16777216 % 256, value / 65536 % 256, value / 256 % 256, value % 256]
    return (".".intercalate (bytes.map toString)).toList

/-! ### Eight pieces -/

/-- One to four hexadecimal digits. -/
def piece? (digits : List Char) : Option Nat :=
  if digits.isEmpty || digits.length > 4 then none else numberIn? 16 digits

/-- The pieces between colons, each by `piece?`; the last part may be an `address?`. -/
def pieces? : List (List Char) → Option (List Nat)
  | [] => some []
  | [last] =>
    if last.contains '.' then do
      let parts := splitOnChar '.' last
      let bytes ← parts.mapM fun p =>
        if p.isEmpty || p.length > 3 || (p.length > 1 && p.head? = some '0') then none
        else (numberIn? 10 p).bind fun n => if n < 256 then some n else none
      match bytes with
      | [a, b, c, d] => return [a * 256 + b, c * 256 + d]
      | _ => none
    else (piece? last).map fun p => [p]
  | part :: parts => do
    let p ← piece? part
    return p :: (← pieces? parts)

/-- The pieces of a text in which they stand between colons; an empty text has none. -/
def colonPieces? (cs : List Char) : Option (List Nat) :=
  if cs.isEmpty then some [] else pieces? (splitOnChar ':' cs)

/-- The texts before and after the first double colon. -/
def splitDoubleColon : List Char → Option (List Char × List Char)
  | ':' :: ':' :: rest => some ([], rest)
  | c :: rest => (splitDoubleColon rest).map fun p => (c :: p.1, p.2)
  | [] => none

/-- The eight pieces of an address; as many zeros as it takes stand for a double colon. -/
def eightPieces? (cs : List Char) : Option (List Nat) := do
  match splitDoubleColon cs with
  | some (before, after) =>
    if before.contains '.' then none
    let left ← colonPieces? before
    let right ← colonPieces? after
    let missing := 8 - (left.length + right.length)
    if missing = 0 then none else some (left ++ List.replicate missing 0 ++ right)
  | none =>
    let all ← pieces? (splitOnChar ':' cs)
    if all.length = 8 then some all else none

/-- The first longest run of zero pieces, as its start and length. -/
def longestZeroRun (pieces : List Nat) : Nat × Nat :=
  (List.range pieces.length).foldl (fun best start =>
    let run := ((pieces.drop start).takeWhile (· = 0)).length
    if run > best.2 then (start, run) else best) (0, 0)

def joinPieces (pieces : List Nat) : List Char :=
  (":".intercalate (pieces.map fun p => String.ofList (Nat.toDigits 16 p))).toList

/-- Eight pieces in their shortest form: the `longestZeroRun` is left out if it has two zeros or
more. -/
def shortestPieces (pieces : List Nat) : List Char :=
  let (start, run) := longestZeroRun pieces
  if run < 2 then joinPieces pieces
  else joinPieces (pieces.take start) ++ [':', ':'] ++ joinPieces (pieces.drop (start + run))

/-! ### Hosts -/

/-- Characters that no domain name may have. -/
def forbiddenInHost (c : Char) : Bool :=
  c.toNat ≤ 0x20 || c.toNat = 0x7F ||
    ['#', '/', ':', '<', '>', '?', '@', '[', '\\', ']', '^', '|', '%'].contains c

/-- The bytes of a text, each of them as it is or as a percent sign and two hexadecimal digits. -/
def percentDecode : List Char → List UInt8
  | '%' :: a :: b :: rest =>
    match numberIn? 16 [a, b] with
    | some n => n.toUInt8 :: percentDecode rest
    | none => '%'.toNat.toUInt8 :: percentDecode (a :: b :: rest)
  | c :: rest => (String.singleton c).toUTF8.toList ++ percentDecode rest
  | [] => []

/-- The domain name or address of four bytes that `cs` names, after `percentDecode`. -/
def named? (cs : List Char) : Option (List Char) := do
  let text ← String.fromUTF8? ⟨(percentDecode cs).toArray⟩
  let name ← nameInAscii? text.toList
  if name.isEmpty || name.any forbiddenInHost then none
  else if endsInNumber name then address? name
  else return name

/-- The address of eight pieces in front of a closing bracket. -/
def bracketed? (cs : List Char) : Option (List Char) :=
  if cs.getLast? = some ']' then
    (eightPieces? cs.dropLast).map fun pieces => '[' :: shortestPieces pieces ++ [']']
  else none

/-- The host that a text names: `bracketed?` or `named?`. -/
def host? : List Char → Option (List Char)
  | '[' :: rest => bracketed? rest
  | cs => named? cs

/-! ## URLs

A URL is read into its scheme and the normal form of what follows: scheme and host in small
letters, default ports left out, dot segments resolved, and characters that may not stand as
they are written as bytes with percent signs. -/

open QueryBindings.Text

/-- A URL in normal form: its scheme, and all that follows the colon. -/
structure Url where
  scheme : String
  rest : String
deriving DecidableEq, Repr, Inhabited

def Url.text (u : Url) : String := u.scheme ++ ":" ++ u.rest

/-! ### Percent signs -/

/-- A byte as a percent sign and two hexadecimal digits. -/
def percentByte (n : Nat) : List Char :=
  let digit (d : Nat) : Char := if d < 10 then Char.ofNat (48 + d) else Char.ofNat (55 + d)
  ['%', digit (n / 16), digit (n % 16)]

/-- The characters as they are, but controls, characters beyond ASCII and those in `escaped` as
bytes with percent signs. -/
def percentEncode (escaped : List Char) (cs : List Char) : List Char :=
  cs.flatMap fun c =>
    if c.toNat < 0x20 || 0x7E < c.toNat || escaped.contains c then
      (String.singleton c).toUTF8.toList.flatMap fun b => percentByte b.toNat
    else [c]

def fragmentEscapes : List Char := [' ', '"', '<', '>', '`']

def pathEscapes : List Char := fragmentEscapes ++ ['#', '?', '{', '}']

def userEscapes : List Char :=
  pathEscapes ++ ['/', ':', ';', '=', '@', '[', '\\', ']', '^', '|']

def queryEscapes : List Char := [' ', '"', '#', '<', '>']

/-! ### Parts -/

/-- The port that `scheme` has unless another is given, for the schemes that name hosts. -/
def defaultPort? (scheme : String) : Option Nat :=
  [("http", 80), ("https", 443), ("ws", 80), ("wss", 443), ("ftp", 21)].lookup scheme

/-- A character of a scheme after the first. -/
def isSchemePart (c : Char) : Bool :=
  isAsciiLetter c || isAsciiDigit c || c = '+' || c = '-' || c = '.'

/-- The scheme in front of `cs` in small letters, and what follows its colon. -/
def scheme? (cs : List Char) : Option (String × List Char) :=
  match cs with
  | c :: _ =>
    let name := cs.takeWhile isSchemePart
    match cs.dropWhile isSchemePart with
    | ':' :: rest =>
      if isAsciiLetter c then some (String.ofList (name.map asciiLower), rest) else none
    | _ => none
  | [] => none

/-- What stands before and after the last `@` of `authority`. -/
def splitUser (authority : List Char) : List Char × List Char :=
  if authority.contains '@' then
    let back := authority.reverse
    (((back.dropWhile (· ≠ '@')).drop 1).reverse, (back.takeWhile (· ≠ '@')).reverse)
  else ([], authority)

/-- A user name, and a password after a colon, before an `@`; nothing if both are empty. -/
def userText (user : List Char) : List Char :=
  let name := percentEncode userEscapes (user.takeWhile (· ≠ ':'))
  let password := percentEncode userEscapes ((user.dropWhile (· ≠ ':')).drop 1)
  if name.isEmpty && password.isEmpty then []
  else name ++ (if password.isEmpty then [] else ':' :: password) ++ ['@']

/-- What stands before and after the colon of a port; a colon `inBrackets` does not count. -/
def splitPort (inBrackets : Bool) : List Char → List Char × Option (List Char)
  | [] => ([], none)
  | c :: rest =>
    if c = ':' && !inBrackets then ([], some rest)
    else
      let (host, port) := splitPort (c = '[' || (inBrackets && c ≠ ']')) rest
      (c :: host, port)

/-- `port` as written, unless it is the `default` one. -/
def portText? (default : Option Nat) (port : Option (List Char)) : Option (List Char) :=
  match port with
  | none | some [] => some []
  | some digits =>
    if digits.all isAsciiDigit then
      let n := decimalValue digits
      if n > 65535 then none
      else if some n = default then some []
      else some (':' :: Nat.toDigits 10 n)
    else none

def isSingleDot (segment : List Char) : Bool :=
  let s := segment.map asciiLower
  s = ['.'] || s = ['%', '2', 'e']

def isDoubleDot (segment : List Char) : Bool :=
  let s := segment.map asciiLower
  s = ['.', '.'] || s = ['.', '%', '2', 'e'] || s = ['%', '2', 'e', '.'] ||
    s = ['%', '2', 'e', '%', '2', 'e']

/-- The segments of a path after those in `before`, which is held in reverse; `isSingleDot` and
`isDoubleDot` ones are resolved. -/
def resolveSegments (before : List (List Char)) : List (List Char) → List (List Char)
  | [] => before.reverse
  | [last] =>
    if isSingleDot last then (([] : List Char) :: before).reverse
    else if isDoubleDot last then ([] :: before.drop 1).reverse
    else (last :: before).reverse
  | segment :: rest =>
    if isSingleDot segment then resolveSegments before rest
    else if isDoubleDot segment then resolveSegments (before.drop 1) rest
    else resolveSegments (segment :: before) rest

/-- A path from its first slash on, with `pathEscapes`. -/
def pathText (path : List Char) : List Char :=
  let slashed := path.map fun c => if c = '\\' then '/' else c
  let segments := match slashed with
    | '/' :: rest => splitOnChar '/' rest
    | other => splitOnChar '/' other
  (resolveSegments [] (segments.map (percentEncode pathEscapes))).flatMap ('/' :: ·)

/-- The query and the fragment of a URL, with `queryEscapes` and `fragmentEscapes`. -/
def tailText (special : Bool) (tail : List Char) : List Char :=
  let fragment := tail.dropWhile (· ≠ '#')
  let query := tail.takeWhile (· ≠ '#')
  let escapes := if special then '\'' :: queryEscapes else queryEscapes
  (match query with
    | '?' :: rest => '?' :: percentEncode escapes rest
    | _ => []) ++
  match fragment with
    | '#' :: rest => '#' :: percentEncode fragmentEscapes rest
    | _ => []

/-- What follows the scheme of a URL that names a host; `default` is the port of the scheme. -/
def hostedRest? (default : Option Nat) (cs : List Char) : Option (List Char) := do
  let isEnd (c : Char) : Bool := c = '/' || c = '\\' || c = '?' || c = '#'
  let after := cs.dropWhile fun c => c = '/' || c = '\\'
  let (user, address) := splitUser (after.takeWhile fun c => !isEnd c)
  let beyond := after.dropWhile fun c => !isEnd c
  let (hostText, port) := splitPort false address
  let host ← host? hostText
  let portText ← portText? default port
  let isTail (c : Char) : Bool := c = '?' || c = '#'
  let path := pathText (beyond.takeWhile fun c => !isTail c)
  return ['/', '/'] ++ userText user ++ host ++ portText ++ path ++
    tailText true (beyond.dropWhile fun c => !isTail c)

/-! ### Other schemes -/

/-- Characters that no host may have in a URL whose scheme names no hosts. -/
def forbiddenInOther (c : Char) : Bool :=
  c.toNat = 0 || ['\t', '\n', '\r', ' ', '#', '/', ':', '<', '>', '?', '@', '[', '\\', ']', '^',
    '|'].contains c

/-- Whether a text may be the host in a URL whose scheme names no hosts. -/
def isOtherHost : List Char → Bool
  | '[' :: rest => (bracketed? rest).isSome
  | cs => !cs.any forbiddenInOther

/-- Whether `authority` is good in a URL whose scheme names no hosts; `beyond` is what follows it.
The host may be empty, but not beside a user or a port; an empty user counts only where the URL goes
on right after it. -/
def isOtherAuthority (authority beyond : List Char) : Bool :=
  let (user, address) := splitUser authority
  let (host, port) := splitPort false address
  let hasUser :=
    if user.isEmpty then authority.contains '@' && !beyond.isEmpty else !(userText user).isEmpty
  let isPort := (portText? none (port.map fun text => text.takeWhile (· ≠ '\\'))).isSome
  isOtherHost host && isPort && !(host.isEmpty && (hasUser || port.isSome))

/-- Whether what follows a scheme that names no hosts makes a URL; after two slashes stands an
authority. -/
def isOtherRest : List Char → Bool
  | '/' :: '/' :: after =>
    let isEnd (c : Char) : Bool := c = '/' || c = '?' || c = '#'
    isOtherAuthority (after.takeWhile fun c => !isEnd c) (after.dropWhile fun c => !isEnd c)
  | _ => true

/-- Whether a text is the letter of a drive. -/
def isDrive : List Char → Bool
  | [c, d] => isAsciiLetter c && (d = ':' || d = '|')
  | _ => false

/-- Whether what follows the scheme of files makes a URL: a host, if there is one, is good. -/
def isFileRest : List Char → Bool
  | a :: b :: after =>
    let isSlash (c : Char) : Bool := c = '/' || c = '\\'
    let host := after.takeWhile fun c => !isSlash c && c ≠ '?' && c ≠ '#'
    !(isSlash a && isSlash b) || host.isEmpty || isDrive host || (host? host).isSome
  | _ => true

/-! ### All of a URL -/

/-- The URL in `text`.  Controls and spaces around it and line breaks and tabs in it do not count.
A URL of a scheme without `defaultPort?` is kept as it is written. -/
def Url.parse? (text : String) : Option Url := do
  let isEdge (c : Char) : Bool := c.toNat ≤ 0x20
  let trimmed := ((text.toList.dropWhile isEdge).reverse.dropWhile isEdge).reverse
  let cs := trimmed.filter fun c => c ≠ '\t' && c ≠ '\n' && c ≠ '\r'
  let (scheme, rest) ← scheme? cs
  match defaultPort? scheme with
  | some port => return ⟨scheme, String.ofList (← hostedRest? (some port) rest)⟩
  | none =>
    let isGood := if scheme = "file" then isFileRest rest else isOtherRest rest
    if isGood then some ⟨scheme, String.ofList rest⟩ else none

end QueryBindings.Endpoint

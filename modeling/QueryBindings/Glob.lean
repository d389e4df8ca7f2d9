import QueryBindings.Disk
import QueryBindings.Error
import QueryBindings.Text

/-! # Files by pattern

Patterns for names and paths, and the files on a disk that match them. -/

namespace QueryBindings.Glob

/-! ## Patterns for names

`?` stands for any character, `*` for any characters, and a range in brackets for one character
that it holds or, after `!`, does not hold.  `**` is a whole step of a path and stands for any
folders. -/

open QueryBindings.Text

/-- A part of a pattern.  `within` is a list of first and last characters. -/
inductive Token where
  | char (c : Char)
  | anyChar
  | anyChars
  | anyFolders
  | within (ranges : List (Char × Char))
  | without (ranges : List (Char × Char))
deriving DecidableEq, Repr

/-! ### Reading -/

/-- The ranges that stand between brackets. -/
def rangesOf : List Char → List (Char × Char)
  | a :: '-' :: b :: rest => (a, b) :: rangesOf rest
  | c :: rest => (c, c) :: rangesOf rest
  | [] => []

/-- The content of brackets whose opening one has been read, and what follows the closing one.
At least one character stands between them. -/
def splitBrackets : List Char → Option (List Char × List Char)
  | [] => none
  | c :: rest =>
    match rest.dropWhile (· ≠ ']') with
    | _ :: after => some (c :: rest.takeWhile (· ≠ ']'), after)
    | [] => none

theorem length_dropWhile_le {α : Type} (p : α → Bool) (l : List α) :
    (l.dropWhile p).length ≤ l.length :=
  (List.dropWhile_sublist p).length_le

theorem length_splitBrackets_lt {cs content after : List Char}
    (h : splitBrackets cs = some (content, after)) : after.length < cs.length := by
  cases cs with
  | nil => simp [splitBrackets] at h
  | cons c rest =>
    simp only [splitBrackets] at h
    have hle := length_dropWhile_le (· ≠ ']') rest
    split at h
    · rename_i d tail heq
      simp only [Option.some.injEq, Prod.mk.injEq] at h
      rw [heq] at hle
      simp only [List.length_cons] at hle ⊢
      rw [← h.2]
      omega
    · simp at h

/-- The tokens of a pattern from place `i` on, after the character `before`. -/
def tokensFrom (i : Nat) (before : Option Char) (cs : List Char) :
    Except (Nat × PatternFault) (List Token) :=
  match cs with
  | [] => .ok []
  | '?' :: rest => (tokensFrom (i + 1) (some '?') rest).map (.anyChar :: ·)
  | '*' :: rest =>
    have hle := length_dropWhile_le (· = '*') rest
    let count := (rest.takeWhile (· = '*')).length + 1
    if count > 2 then .error (i + 2, .wildcards)
    else if count = 2 then
      if before.any (· ≠ '/') then .error (i - 1, .recursiveWildcards)
      else match h : rest.dropWhile (· = '*') with
        | [] => .ok [.anyFolders]
        | '/' :: beyond =>
          have := congrArg List.length h
          (tokensFrom (i + 3) (some '/') beyond).map (.anyFolders :: ·)
        | _ => .error (i + 2, .recursiveWildcards)
    else (tokensFrom (i + 1) (some '*') (rest.dropWhile (· = '*'))).map (.anyChars :: ·)
  | '[' :: '!' :: rest =>
    match h : splitBrackets rest with
    | some (content, after) =>
      have := length_splitBrackets_lt h
      (tokensFrom (i + content.length + 3) (some ']') after).map (.without (rangesOf content) :: ·)
    | none => .error (i, .range)
  | '[' :: rest =>
    match h : splitBrackets rest with
    | some (content, after) =>
      have := length_splitBrackets_lt h
      (tokensFrom (i + content.length + 2) (some ']') after).map (.within (rangesOf content) :: ·)
    | none => .error (i, .range)
  | c :: rest => (tokensFrom (i + 1) (some c) rest).map (.char c :: ·)
termination_by cs.length
decreasing_by all_goals simp only [List.length_cons] at *; omega

/-- A pattern for one step of a path; `Pattern.accepts` says for which names it stands. -/
structure Pattern where
  tokens : List Token
deriving DecidableEq, Repr

namespace Pattern

def ofChars (cs : List Char) : Except (Nat × PatternFault) Pattern :=
  (tokensFrom 0 none cs).map .mk

/-- Whether the pattern stands for any folders, with `anyFolders`. -/
def isRecursive (p : Pattern) : Bool := p.tokens.contains .anyFolders

/-- The one name that the pattern stands for, if it has no wildcards. -/
def literal? (p : Pattern) : Option String :=
  let single : Token → Option Char
    | .char c => some c
    | _ => none
  (p.tokens.mapM single).map String.ofList

end Pattern

/-! ### Matching -/

/-- Whether `c` lies in one of `ranges`. -/
def inRanges (ranges : List (Char × Char)) (c : Char) : Bool :=
  ranges.any fun r => r.1 ≤ c && c ≤ r.2

def Token.accepts : Token → Char → Bool
  | .char a, c => a = c
  | .anyChar, _ => true
  | .within ranges, c => inRanges ranges c
  | .without ranges, c => !inRanges ranges c
  | .anyChars, _ | .anyFolders, _ => false

/-- For each place in a list of answers, whether one from there on is yes. -/
def anyLater : List Bool → List Bool
  | [] => []
  | answer :: rest =>
    match anyLater rest with
    | [] => [answer]
    | later :: more => (answer || later) :: later :: more

/-- For a text and each of its ends, the longest first, whether the tokens stand for it. -/
def endsMatched : List Token → List Char → List Bool
  | [], cs => cs.map (fun _ => false) ++ [true]
  | .anyChars :: rest, cs | .anyFolders :: rest, cs => anyLater (endsMatched rest cs)
  | token :: rest, cs =>
    List.zipWith (fun c matched => token.accepts c && matched) cs (endsMatched rest cs).tail ++
      [false]

/-- Whether `p` stands for `name`. -/
def Pattern.accepts (p : Pattern) (name : String) : Bool :=
  (endsMatched p.tokens name.toList).head? = some true

/-! ## Files that match a pattern

A pattern for paths is one pattern for each step.  What matches is listed folder by folder, names
ascending, a folder before what lies in it. -/

open QueryBindings.Disk (Path)
open QueryBindings.Text

/-- A pattern for paths: from `start`, one pattern for each step. -/
structure PathPattern where
  start : Path
  steps : List Pattern
  /-- Only folders match. -/
  foldersOnly : Bool
deriving DecidableEq, Repr

namespace PathPattern

/-- The parts of a text between slashes; none follows a slash at the end. -/
def parts (cs : List Char) : List (List Char) :=
  let all := splitOnChar '/' cs
  if all.getLast? = some [] then all.dropLast else all

/-- The pattern that `text` writes: as a whole, then each step. -/
def ofText (text : String) : Except Error PathPattern :=
  let cs := text.toList
  let absolute := cs.head? = some '/'
  let steps := parts (if absolute then cs.drop 1 else cs)
  let pattern (cs : List Char) : Except Error Pattern :=
    (Pattern.ofChars cs).mapError fun e => .config (.pattern text e.1 e.2)
  do
    let _ ← pattern cs
    let patterns ← steps.mapM pattern
    return ⟨if absolute then .root else .here,
      if cs.isEmpty || cs = ['/'] then [⟨[]⟩] else patterns, cs.getLast? = some '/'⟩

end PathPattern

/-! ### Searching -/

/-- A path that matches, or why a folder could not be listed. -/
abbrev Found := Except FileFault Path

/-- How the rest of a search goes on in a folder. -/
abbrev Onward (m : Type → Type) := List Pattern → Path → m (List Found)

variable {m : Type → Type} [Monad m]

/-- The path `p`, which has matched all steps; only a folder is kept if `foldersOnly`. -/
def keep (disk : Disk m) (foldersOnly : Bool) (p : Path) : m (List Found) := do
  if foldersOnly && !(← disk.isFolder p) then return [] else return [.ok p]

/-- What matches at and below `p`, which has matched all but the steps in `rest`. -/
def finish (disk : Disk m) (foldersOnly : Bool) (onward : Onward m) (rest : List Pattern)
    (p : Path) : m (List Found) :=
  if rest.isEmpty then keep disk foldersOnly p else onward rest p

/-- What matches at and below an entry `name` that is to match the first of `steps`. -/
def visitNamed (disk : Disk m) (foldersOnly : Bool) (onward : Onward m) (steps : List Pattern)
    (name : String) (p : Path) : m (List Found) :=
  match steps with
  | [] => return []
  | step :: rest =>
    if step.accepts name then finish disk foldersOnly onward rest p else return []

/-- What matches at and below an entry `name` of a folder.  A recursive step stands for no folder or
for this one and more. -/
def visit (disk : Disk m) (foldersOnly : Bool) (onward : Onward m) (steps : List Pattern)
    (name : String) (p : Path) : m (List Found) :=
  match steps with
  | [] => return []
  | step :: rest =>
    if step.isRecursive then do
      let later := rest.dropWhile (·.isRecursive)
      if ← disk.isFolder p then
        let own ←
          if later.isEmpty then pure [.ok p]
          else visitNamed disk foldersOnly onward later name p
        return own ++ (← onward (step :: later) p)
      else visitNamed disk foldersOnly onward later name p
    else visitNamed disk foldersOnly onward steps name p

/-- Whether the entry `name` that a literal step names is there. -/
def isThere (disk : Disk m) (p : Path) (name : String) : m Bool := do
  if name = "." || name = ".." then disk.isFolder p
  else if name = "" && p = .here then return false
  else return (← disk.kind? (p.child name)).isSome

/-- What matches the steps in a folder, by `visit` for each entry.  The search goes at most `depth`
steps. -/
def searchIn (disk : Disk m) (foldersOnly : Bool) : (depth : Nat) → Onward m
  | 0, _, _ => return []
  | _, [], _ => return []
  | depth + 1, step :: rest, p => do
    let onward := searchIn disk foldersOnly depth
    match step.literal? with
    | some name =>
      if ← isThere disk p name then finish disk foldersOnly onward rest (p.child name)
      else return []
    | none =>
      if !(← disk.isFolder p) then return []
      match ← disk.list p with
      | .error fault => return [.error fault]
      | .ok names =>
        let special :=
          if step.tokens.head? = some (.char '.') then ["..", "."].filter step.accepts else []
        let above ← special.mapM fun name => finish disk foldersOnly onward rest (p.child name)
        let below ← (names.mergeSort (· ≤ ·)).mapM fun name =>
          visit disk foldersOnly onward (step :: rest) name (p.child name)
        return above.flatten ++ below.flatten

/-- No path on a disk has more bytes. -/
def pathLimit : Nat := 4096

/-- What matches `pattern`, in order, by `searchIn`. -/
def search (disk : Disk m) (pattern : PathPattern) : m (List Found) :=
  searchIn disk pattern.foldersOnly (pathLimit + pattern.steps.length) pattern.steps pattern.start

/-- The texts of what has been found, up to the first that cannot be read. -/
def readFound (disk : Disk m) : List Found → m (Except FileFault (List String))
  | [] => return .ok []
  | .error fault :: _ => return .error fault
  | .ok p :: rest => do
    match ← disk.read p with
    | .error fault => return .error fault
    | .ok text => return (← readFound disk rest).map (text :: ·)

end QueryBindings.Glob

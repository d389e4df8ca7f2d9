import QueryBindings.Text

/-! # Declarations

What is generated: type aliases, enumerations, records, wrappers of untyped values, and for every
operation an item that ties its text to the records of its variables and its answer.  A member
keeps its name on the wire beside its name in the declaration.  `Declaration.text` writes a
declaration as Rust source. -/

namespace QueryBindings

/-- The type of a member: a `name` with what stands around it. -/
inductive TargetType where
  | name (text : String)
  | optional (inner : TargetType)
  | list (inner : TargetType)
  | boxed (inner : TargetType)
deriving DecidableEq, Repr, Inhabited

/-- A member of a record, with its `wireName` in answers.  If `skipAbsent`, an absent value is not
sent. -/
structure Member where
  description : Option String
  wireName : String
  name : String
  type : TargetType
  skipAbsent : Bool
deriving DecidableEq, Repr, Inhabited

structure Variant where
  description : Option String
  wireName : String
  name : String
deriving DecidableEq, Repr, Inhabited

/-- A declared item; an `operation` has the text of its request and the names of two records. -/
inductive Declaration where
  | synonym (description : Option String) (name target : String)
  | enumeration (description : Option String) (name : String) (variants : List Variant)
  | record (description : Option String) (name : String) (members : List Member)
  | wrapper (description : Option String) (name : String)
  | operation (name operationName request input response : String)
deriving DecidableEq, Repr, Inhabited

namespace Declaration

def name : Declaration → String
  | synonym _ name _ => name
  | enumeration _ name _ => name
  | record _ name _ => name
  | wrapper _ name => name
  | operation name _ _ _ _ => name

end Declaration

/-! ### Source text -/

def TargetType.text : TargetType → String
  | name text => text
  | optional inner => "Option<" ++ inner.text ++ ">"
  | list inner => "Vec<" ++ inner.text ++ ">"
  | boxed inner => "Box<" ++ inner.text ++ ">"

/-- `description` as comments, one for each of its `Text.lines`. -/
def commentText (indent : String) (description : Option String) : String :=
  String.join <| (description.map Text.lines).getD [] |>.map fun line =>
    let line := Text.trimEnd line
    if line = "" then indent ++ "///\n" else indent ++ "/// " ++ line ++ "\n"

/-- The attribute that keeps `wireName`; none if `name` is the same. -/
def renameText (wireName name : String) : String :=
  if name = wireName then "" else "    #[serde(rename = \"" ++ wireName ++ "\")]\n"

def Member.text (m : Member) : String :=
  commentText "    " m.description ++ renameText m.wireName m.name ++
    (if m.skipAbsent then "    #[serde(skip_serializing_if = \"Option::is_none\")]\n" else "") ++
    "    pub " ++ m.name ++ ": " ++ m.type.text ++ ",\n"

def Variant.text (v : Variant) : String :=
  commentText "    " v.description ++ renameText v.wireName v.name ++ "    " ++ v.name ++ ",\n"

/-- The longest run of number signs just after a quote; `rawString` takes one more. -/
def longestFence : List Char → Nat
  | [] => 0
  | c :: rest =>
    max (if c = '"' then (rest.takeWhile (· = '#')).length else 0) (longestFence rest)

/-- A raw string literal: its fence is one sign longer than any that `text` could close. -/
def rawString (text : String) : String :=
  let signs := String.ofList (List.replicate (longestFence text.toList + 1) '#')
  "r" ++ signs ++ "\"" ++ text ++ "\"" ++ signs

def recordTraits : String := "#[derive(Debug, Clone, Serialize, Deserialize)]\n"

def enumerationTraits : String :=
  "#[derive(Debug, Clone, Copy, PartialEq, Eq, Hash, Serialize, Deserialize)]\n"

def closing : String := "\x7d\n\n"

/-- A declaration as written, with a blank line after it. -/
def Declaration.text : Declaration → String
  | synonym description name target =>
    commentText "" description ++ "pub type " ++ name ++ " = " ++ target ++ ";\n\n"
  | enumeration description name variants =>
    commentText "" description ++ enumerationTraits ++ "pub enum " ++ name ++ " \x7b\n" ++
      String.join (variants.map (·.text)) ++ closing
  | record description name members =>
    commentText "" description ++ recordTraits ++ "pub struct " ++ name ++ " \x7b\n" ++
      String.join (members.map (·.text)) ++ closing
  | wrapper description name =>
    commentText "" description ++ recordTraits ++ "pub struct " ++ name ++
      "(pub serde_json::Value);\n\n"
  | operation name operationName request input response =>
    "pub struct " ++ name ++ ";\n\n" ++ "impl gqlcodegen::Operation for " ++ name ++ " \x7b\n" ++
      "    const QUERY: &'static str = " ++ rawString request ++ ";\n" ++
      "    const NAME: &'static str = \"" ++ operationName ++ "\";\n" ++
      "    type Variables = " ++ input ++ ";\n" ++
      "    type Response = " ++ response ++ ";\n" ++ closing

/-- What stands before the first declaration. -/
def preamble : String :=
  "//! generated by gqlcodegen, do not edit\n\n" ++
  "#![allow(dead_code, unused_imports, non_camel_case_types, non_snake_case, clippy::all)]\n\n" ++
  "use serde::\x7bDeserialize, Serialize\x7d;\n\n"

def declarationsText (declarations : List Declaration) : String :=
  preamble ++ String.join (declarations.map (·.text))

end QueryBindings

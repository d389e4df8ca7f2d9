import QueryBindings.Grammar.Token
import QueryBindings.Response
import QueryBindings.Schema
import QueryBindings.Text.Shown

/-! # Errors

Why a run ends early.  Every constructor is a cause; the wording is `Error.message`. -/

namespace QueryBindings

/-- What is wrong with a pattern for file names; `PatternFault.message` words it. -/
inductive PatternFault where
  | wildcards
  | recursiveWildcards
  | range
deriving DecidableEq, Repr

/-- What is wrong with a setting; `ConfigFault.message` words it. -/
inductive ConfigFault where
  | indent (given : String)
  | headerShape (raw : String)
  | headerName (name : String)
  | headerValue (name : String)
  | endpoint (raw : String)
  | scheme (name : String)
  | pattern (text : String) (position : Nat) (fault : PatternFault)
  | noSource
deriving DecidableEq, Repr

/-- Why a file could not be used; `FileFault.message` words it as the system does. -/
inductive FileFault where
  | missing
  | isDirectory
  | notDirectory
  | busy
  | longName
  | other (text : String)
deriving DecidableEq, Repr

/-- The two kinds of texts that are read. -/
inductive TextKind where
  | query
  | schema
deriving DecidableEq, Repr

/-- Why a document does not fit its schema, or why nothing can be generated from it;
`Invalid.message` words it. -/
inductive Invalid where
  | repeatedFragment (name : String)
  | repeatedOperation (name : String)
  | fragmentOnUnknown (fragment type : String)
  | fragmentOnLeaf (fragment type : String)
  | inlineOnUnknown (type : String)
  | inlineOnLeaf (type : String)
  | selectionOfTypename
  | unknownField (field type : String)
  | selectionNeeded (parent field type : String)
  | selectionRefused (parent field type : String)
  | noRoot (kind : OperationKind)
  | unknownVariableType (variableName type : String)
  | sameItem (owner previous item : String)
  | anonymous (kind : OperationKind)
  | fragmentsLeft
  | conflictingFields (key : String)
deriving DecidableEq, Repr

/-- Why a run ends early.  `json` is for texts that cannot be decoded, `response` for what an
endpoint reports. -/
inductive Error where
  | config (fault : ConfigFault)
  | http (detail : String)
  | json (fault : Json.Fault)
  | file (fault : FileFault)
  | response (status : Option Nat) (errors : List ResponseError) (body message : String)
  | incompleteIntrospection
  | unknownType (definition reference : String)
  | unreadable (kind : TextKind) (position : Grammar.Position)
  | invalid (reason : Invalid)
  | unresolvedFragment (name : String)
  | cyclicFragment (path : List String)
deriving Repr

/-! ### Wording -/

def PatternFault.message : PatternFault → String
  | wildcards => "wildcards are either regular `*` or recursive `**`"
  | recursiveWildcards => "recursive wildcards must form a single path component"
  | range => "invalid range pattern"

def ConfigFault.message : ConfigFault → String
  | indent given => "indent must be non-empty spaces or tabs, got " ++ Text.shown given
  | headerShape raw => "header must be `Name: value`: " ++ raw
  | headerName name => "invalid header name " ++ Text.shown name ++ ": invalid HTTP header name"
  | headerValue name => "invalid header value for " ++ name ++ ": failed to parse header value"
  | endpoint raw => "invalid endpoint url: " ++ raw
  | scheme name => "invalid url scheme: " ++ name ++ ". must be http or https"
  | pattern text position fault =>
    "invalid operations pattern " ++ Text.shown text ++ ": Pattern syntax error near position " ++
      toString position ++ ": " ++ fault.message
  | noSource => "either --endpoint or --schema is required"

def FileFault.message : FileFault → String
  | missing => "No such file or directory (os error 2)"
  | isDirectory => "Is a directory (os error 21)"
  | notDirectory => "Not a directory (os error 20)"
  | busy => "Device or resource busy (os error 16)"
  | longName => "File name too long (os error 36)"
  | other text => text

def TextKind.word : TextKind → String
  | query => "query"
  | schema => "schema"

def Invalid.message : Invalid → String
  | repeatedFragment name => "fragment " ++ name ++ " is defined more than once"
  | repeatedOperation name => "operation " ++ name ++ " is defined more than once"
  | fragmentOnUnknown fragment type => "fragment " ++ fragment ++ " is on unknown type " ++ type
  | fragmentOnLeaf fragment type =>
    "fragment " ++ fragment ++ " is on non-composite type " ++ type
  | inlineOnUnknown type => "inline fragment on unknown type " ++ type
  | inlineOnLeaf type => "inline fragment on non-composite type " ++ type
  | selectionOfTypename => "__typename cannot have a selection set"
  | unknownField field type => "unknown field " ++ field ++ " on type " ++ type
  | selectionNeeded parent field type =>
    "field " ++ parent ++ "." ++ field ++ " of type " ++ type ++ " needs a selection set"
  | selectionRefused parent field type =>
    "field " ++ parent ++ "." ++ field ++ " of type " ++ type ++ " cannot have a selection set"
  | noRoot kind => "schema has no " ++ kind.keyword ++ " root type"
  | unknownVariableType name type => "variable $" ++ name ++ " has unknown type " ++ type
  | sameItem owner previous item =>
    owner ++ " and " ++ previous ++ " both generate the rust item " ++ item
  | anonymous kind => "anonymous " ++ kind.keyword ++ " cannot be emitted, give it a name"
  | fragmentsLeft => "fragments must be inlined before emission"
  | conflictingFields key => "response key " ++ key ++ " selects conflicting fields"

namespace Error

/-- The wording of an error, with `wording` for the faults of JSON texts. -/
def message (wording : Json.Wording) : Error → String
  | config fault => "config error: " ++ fault.message
  | http detail => "http error: " ++ detail
  | json fault => "json error: " ++ wording fault
  | file fault => "io error: " ++ fault.message
  | response _ _ _ text => "graphql error: " ++ text
  | incompleteIntrospection => "introspection response has no __schema node"
  | unknownType definition reference =>
    "malformed type: " ++ definition ++ " references unknown type " ++ reference
  | unreadable kind position =>
    "parse error: " ++ kind.word ++ " parse error: Parse error at " ++ position.text
  | invalid reason => "validation error: " ++ reason.message
  | unresolvedFragment name => "unresolved fragment: " ++ name
  | cyclicFragment path => "cyclic fragment: " ++ " -> ".intercalate path

/-- Whether the error comes from the server or the way to it: `http` or `response`. -/
def isTransport : Error → Bool
  | http _ | response _ _ _ _ => true
  | _ => false

end Error

end QueryBindings

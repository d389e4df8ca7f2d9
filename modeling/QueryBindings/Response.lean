import QueryBindings.Json.Record

/-! # Answers

The envelope of an answer: data, and errors with what they say of their place and cause. -/

namespace QueryBindings

structure ErrorLocation where
  line : Int
  column : Int
deriving DecidableEq, Repr, Inhabited

/-- An error that a server reports. -/
structure ResponseError where
  message : String
  locations : List ErrorLocation
  path : List Json.Value
  extensions : Option Json.Value
deriving Repr, Inhabited

/-- The code among the `extensions`, if it is a text. -/
def ResponseError.code? (e : ResponseError) : Option String :=
  e.extensions.bind fun extensions => (extensions.member? "code").bind (·.string?)

/-- The message after its `code?`. -/
def ResponseError.summary (e : ResponseError) : String :=
  match e.code? with
  | some code => code ++ ": " ++ e.message
  | none => e.message

/-- An answer: what it gives, and the errors that it reports. -/
structure Response (α : Type) where
  data : Option α
  errors : List ResponseError
deriving Repr, Inhabited

namespace Response

variable {α : Type}

def hasErrors (r : Response α) : Bool := !r.errors.isEmpty

/-- All errors on one line, each by `ResponseError.summary`. -/
def summary (r : Response α) : String := "; ".intercalate (r.errors.map (·.summary))

end Response

/-! ### Reading -/

open Json Json.Record

def ErrorLocation.decoder : Decoder ErrorLocation :=
  Record.decoder "GraphQlLocation"
    (ErrorLocation.mk <$> required "line" int64 <*> required "column" int64)

def ResponseError.decoder : Decoder ResponseError :=
  Record.decoder "GraphQlError"
    (ResponseError.mk <$> required "message" string
      <*> withDefault "locations" [] (list ErrorLocation.decoder)
      <*> withDefault "path" [] (list value)
      <*> optional "extensions" value)

/-- Reads an answer whose data `data` reads.  As an array it must give its data. -/
def Response.decoder {α : Type} (data : Decoder α) : Decoder (Response α) :=
  Record.decoder "GraphQlResponse"
    (Response.mk <$> member "data" (some none) none (nullable data)
      <*> withDefault "errors" [] (list ResponseError.decoder))

/-! ### Writing -/

def Json.Value.ofInt (n : Int) : Json.Value := .number (.integer n)

def ErrorLocation.toJson (l : ErrorLocation) : Json.Value :=
  .object [("line", .ofInt l.line), ("column", .ofInt l.column)]

def ResponseError.toJson (e : ResponseError) : Json.Value :=
  .object [("message", .string e.message), ("locations", .array (e.locations.map (·.toJson))),
    ("path", .array e.path), ("extensions", e.extensions.getD .null)]

def Response.toJson (r : Response Json.Value) : Json.Value :=
  .object [("data", r.data.getD .null), ("errors", .array (r.errors.map (·.toJson)))]

end QueryBindings

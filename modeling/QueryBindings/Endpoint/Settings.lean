import QueryBindings.Endpoint.Url
import QueryBindings.Error
import QueryBindings.Text

/-! # Endpoints

Headers, and the settings of an endpoint with them.

Main statement: `Headers.names_put` (which names there are, and in which order, hangs on names
alone). -/

namespace QueryBindings.Endpoint

/-! ## Headers

The headers sent with a request: names in the order in which they came first, each with its
values.  Names are tokens in small letters. -/

open QueryBindings.Text

/-! ### Names and values -/

/-- A character that the name of a header may have. -/
def isTokenChar (c : Char) : Bool :=
  isAsciiLetter c || isAsciiDigit c ||
    ['!', '#', '$', '%', '&', '\'', '*', '+', '-', '.', '^', '_', '`', '|', '~'].contains c

/-- The name of a header in small letters, if `text` is a token that is not too long. -/
def headerName? (text : String) : Option String :=
  let cs := text.toList
  if cs.all isTokenChar && 0 < cs.length && cs.length ≤ 65535 then
    some (String.ofList (cs.map asciiLower))
  else none

/-- Whether `text` can be the value of a header: no control characters but tabs. -/
def isHeaderValue (text : String) : Bool :=
  text.toList.all fun c => c = '\t' || (0x20 ≤ c.toNat && c.toNat ≠ 0x7F)

/-- The header `raw` as its name and value, split at the first colon. -/
def splitHeader (raw : String) : Except Error (String × String) :=
  let cs := raw.toList
  if cs.contains ':' then
    let given := trim (String.ofList (cs.takeWhile (· ≠ ':')))
    let value := trim (String.ofList ((cs.dropWhile (· ≠ ':')).drop 1))
    match headerName? given with
    | none => .error (.config (.headerName given))
    | some name =>
      if isHeaderValue value then .ok (name, value)
      else .error (.config (.headerValue name))
  else .error (.config (.headerShape raw))

/-! ### Collections -/

/-- Puts `values` at `name`, in place of what stood there, or else at the end. -/
def putEntry (name : String) (values : List String) :
    List (String × List String) → List (String × List String)
  | [] => [(name, values)]
  | e :: rest => if e.1 = name then (name, values) :: rest else e :: putEntry name values rest

/-- `name` at the end of a list that does not have it. -/
def addName (names : List String) (name : String) : List String :=
  if name ∈ names then names else names ++ [name]

theorem map_fst_putEntry (name : String) (values : List String)
    (entries : List (String × List String)) :
    (putEntry name values entries).map Prod.fst = addName (entries.map Prod.fst) name := by
  induction entries with
  | nil => simp [putEntry, addName]
  | cons e rest ih => grind [putEntry, addName]

theorem nodup_addName {names : List String} (h : names.Nodup) (name : String) :
    (addName names name).Nodup := by
  unfold addName
  split
  · exact h
  · rename_i hmem
    refine List.nodup_append.mpr ⟨h, by simp, fun a ha b hb => ?_⟩
    rw [List.mem_singleton] at hb
    exact fun e => hmem (hb ▸ e ▸ ha)

/-- Headers: every name once, with its values; `distinct` says so. -/
structure Headers where
  entries : List (String × List String)
  distinct : (entries.map Prod.fst).Nodup

namespace Headers

def empty : Headers := ⟨[], by simp⟩

instance : EmptyCollection Headers := ⟨empty⟩

instance : Inhabited Headers := ⟨empty⟩

def names (h : Headers) : List String := h.entries.map Prod.fst

def values (h : Headers) (name : String) : List String := (h.entries.lookup name).getD []

def pairs (h : Headers) : List (String × String) :=
  h.entries.flatMap fun e => e.2.map (e.1, ·)

/-- Gives the header `name` these values, in place of those it had. -/
def put (h : Headers) (name : String) (values : List String) : Headers :=
  ⟨putEntry name values h.entries, by
    rw [map_fst_putEntry]; exact nodup_addName h.distinct name⟩

/-- Gives the header `name` one value, in place of those it had. -/
def set (h : Headers) (name value : String) : Headers := h.put name [value]

/-- Gives the header `name` one more value. -/
def append (h : Headers) (name value : String) : Headers :=
  h.put name (h.values name ++ [value])

/-- Gives every header of `other` the values it has there. -/
def extend (h other : Headers) : Headers :=
  other.entries.foldl (fun h e => h.put e.1 e.2) h

/-- The headers of `pairs`; a repeated name has several values. -/
def ofPairs (pairs : List (String × String)) : Headers :=
  pairs.foldl (fun h p => h.append p.1 p.2) ∅

@[simp] theorem names_put (h : Headers) (name : String) (values : List String) :
    (h.put name values).names = addName h.names name :=
  map_fst_putEntry name values h.entries

end Headers

/-! ## Settings of an endpoint

Where a schema is asked for, and how: the address, a time limit, headers.  Settings are shown
without the values of headers, which may be secret. -/

/-- A span of time, as its nanoseconds. -/
structure Duration where
  nanoseconds : Nat
deriving DecidableEq, Repr, Inhabited

namespace Duration

def ofMilliseconds (count : Nat) : Duration := ⟨count * 1000000⟩

def ofSeconds (count : Nat) : Duration := ⟨count * 1000000000⟩

/-- The digits of `part / whole` behind the point, without zeros at the end; `whole` is a power of
ten. -/
def fractionDigits (whole part : Nat) : List Char :=
  let digits := (Nat.toDigits 10 (whole + part)).drop 1
  (digits.reverse.dropWhile (· = '0')).reverse

/-- The span in a unit of `size` nanoseconds. -/
def inUnit (d : Duration) (size : Nat) (unit : String) : String :=
  let fraction := fractionDigits size (d.nanoseconds % size)
  toString (d.nanoseconds / size) ++
    (if fraction.isEmpty then "" else "." ++ String.ofList fraction) ++ unit

/-- The span in the largest unit that goes into it: `s`, `ms`, `µs` or `ns`. -/
def shown (d : Duration) : String :=
  if 1000000000 ≤ d.nanoseconds then d.inUnit 1000000000 "s"
  else if 1000000 ≤ d.nanoseconds then d.inUnit 1000000 "ms"
  else if 1000 ≤ d.nanoseconds then d.inUnit 1000 "µs"
  else d.inUnit 1 "ns"

example : (ofMilliseconds 1500).shown = "1.5s" ∧ (⟨20060⟩ : Duration).shown = "20.06µs" ∧
    (⟨0⟩ : Duration).shown = "0ns" := by decide +kernel

end Duration

/-- Where and how to ask. -/
structure Settings where
  /-- The URL as it was given; `url` reads it. -/
  address : String
  timeout : Duration
  userAgent : String
  /-- Certificates are checked. -/
  verify : Bool
  headers : Headers
  /-- Requests go through a connection that the caller has set up; `check` leaves the user agent to
  it. -/
  ownConnection : Bool

namespace Settings

/-- The settings for `address`, all others as usual. -/
def ofAddress (address : String) : Settings :=
  ⟨address, .ofSeconds 30, "gqlcodegen/0.1.0 (Rust)", true, ∅, false⟩

instance : Inhabited Settings := ⟨ofAddress ""⟩

/-- `address` as a URL, of the scheme `http` or `https`. -/
def url (s : Settings) : Except Error Url :=
  match Url.parse? (trim s.address) with
  | none => .error (.config (.endpoint s.address))
  | some u =>
    if u.scheme = "http" || u.scheme = "https" then .ok u
    else .error (.config (.scheme u.scheme))

/-- A connection can be set up: `url` reads the address, and the user agent has `isHeaderValue`. -/
def check (s : Settings) : Except Error Unit := do
  let _ ← s.url
  if s.ownConnection || isHeaderValue s.userAgent then .ok () else .error (.http "builder error")

/-- Adds the header that `splitHeader` finds in `raw`. -/
def withHeaderText (s : Settings) (raw : String) : Except Error Settings := do
  let (name, value) ← splitHeader raw
  return { s with headers := s.headers.set name value }

/-- Adds headers by `Headers.extend`: one that comes with values loses those it had. -/
def withHeaders (s : Settings) (headers : Headers) : Settings :=
  { s with headers := s.headers.extend headers }

end Settings

/-! ### Shown -/

def truthText (b : Bool) : String := if b then "true" else "false"

/-- The settings on one line; of `headers` only the names are shown. -/
def Settings.shown (s : Settings) : String :=
  "ClientConfig \x7b endpoint: " ++ Text.shown s.address ++
    ", timeout: " ++ s.timeout.shown ++
    ", user_agent: " ++ Text.shown s.userAgent ++
    ", verify_ssl: " ++ truthText s.verify ++
    ", extra_headers: [" ++ ", ".intercalate (s.headers.names.map Text.shown) ++
    "], http_client: " ++ truthText s.ownConnection ++ " \x7d"

end QueryBindings.Endpoint

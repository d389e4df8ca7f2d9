import QueryBindings.Endpoint.Settings
import QueryBindings.Proofs.Outcome

/-! # Secrecy of header values

Settings come about by one choice after another (`Choice`, `Settings.chooseAll`), and some choices
give headers values that nobody else should see.  Values can be taken out of choices and of settings
(`withoutValues`).  What is shown of settings is not changed by that, and it does not matter whether
the values are taken out of the choices or of the settings that they lead to.  So two runs that
differ only in values are shown alike.

Main statements: `choose_withoutValues` (one choice), `chooseAll_withoutValues` (a run),
`names_of_chooseAll` (the names that a run leaves) and `shown_eq_of_withoutValues`. -/

namespace QueryBindings.Endpoint

/-! ### Headers without values -/

theorem mem_foldl_addName {names start : List String} {name : String} :
    name ∈ names.foldl addName start ↔ name ∈ start ∨ name ∈ names := by
  induction names generalizing start with
  | nil => simp
  | cons first names ih =>
      rw [List.foldl_cons, ih, List.mem_cons]
      unfold addName
      split
      · rename_i hmem
        constructor
        · exact Or.imp_right .inr
        · rintro (h | rfl | h)
          · exact .inl h
          · exact .inl hmem
          · exact .inr h
      · rw [List.mem_append, List.mem_singleton, or_assoc]

/-- An entry without its values. -/
def nameOnly (e : String × List String) : String × List String := (e.1, [])

theorem map_fst_nameOnly (entries : List (String × List String)) :
    (entries.map nameOnly).map Prod.fst = entries.map Prod.fst := List.map_map ..

theorem map_nameOnly_putEntry (name : String) (values : List String)
    (entries : List (String × List String)) :
    (putEntry name values entries).map nameOnly = putEntry name [] (entries.map nameOnly) := by
  induction entries with
  | nil => rfl
  | cons e rest ih =>
      rw [putEntry, List.map_cons, putEntry, ← ih]
      show List.map nameOnly (if e.1 = name then _ else _) = if e.1 = name then _ else _
      split <;> rfl

namespace Headers

theorem eq_of_entries {h other : Headers} (heq : h.entries = other.entries) : h = other := by
  cases h
  cases heq
  rfl

/-- Every name without its values. -/
def withoutValues (h : Headers) : Headers :=
  ⟨h.entries.map nameOnly, by rw [map_fst_nameOnly]; exact h.distinct⟩

@[simp] theorem names_withoutValues (h : Headers) : h.withoutValues.names = h.names :=
  map_fst_nameOnly h.entries

theorem withoutValues_put (h : Headers) (name : String) (values : List String) :
    (h.put name values).withoutValues = h.withoutValues.put name [] :=
  eq_of_entries (map_nameOnly_putEntry name values h.entries)

theorem withoutValues_extend (h other : Headers) :
    (h.extend other).withoutValues = h.withoutValues.extend other.withoutValues := by
  unfold extend
  show _ = (other.entries.map nameOnly).foldl _ _
  generalize other.entries = entries
  induction entries generalizing h with
  | nil => rfl
  | cons e rest ih =>
      rw [List.foldl_cons, ih, withoutValues_put]
      rfl

theorem names_extend (h other : Headers) :
    (h.extend other).names = other.names.foldl addName h.names := by
  unfold extend
  show _ = (other.entries.map Prod.fst).foldl _ _
  generalize other.entries = entries
  induction entries generalizing h with
  | nil => rfl
  | cons e rest ih =>
      rw [List.foldl_cons, ih, names_put]
      rfl

end Headers

/-! ### Choices -/

/-- What may be chosen for an endpoint. -/
inductive Choice where
  /-- A header as its name, a colon and its value. -/
  | headerText (raw : String)
  | header (name value : String)
  /-- Several headers, each with any number of values. -/
  | headers (given : Headers)
  | timeout (limit : Duration)
  | userAgent (text : String)
  | verify (checked : Bool)
  | ownConnection

namespace Choice

/-- The names of the headers that a choice sets. -/
def names : Choice → List String
  | headerText raw =>
    match splitHeader raw with
    | .ok (name, _) => [name]
    | .error _ => []
  | header name _ => [name]
  | headers given => given.names
  | _ => []

/-- A choice without the values that it gives to headers. -/
def withoutValues : Choice → Choice
  | headerText raw =>
    match splitHeader raw with
    | .ok (name, _) => headers (Headers.empty.put name [])
    | .error _ => headerText raw
  | header name _ => headers (Headers.empty.put name [])
  | headers given => headers given.withoutValues
  | c => c

end Choice

namespace Settings

def choose (s : Settings) : Choice → Except Error Settings
  | .headerText raw => s.withHeaderText raw
  | .header name value => .ok { s with headers := s.headers.set name value }
  | .headers given => .ok (s.withHeaders given)
  | .timeout limit => .ok { s with timeout := limit }
  | .userAgent text => .ok { s with userAgent := text }
  | .verify checked => .ok { s with verify := checked }
  | .ownConnection => .ok { s with ownConnection := true }

def chooseAll (s : Settings) (choices : List Choice) : Except Error Settings :=
  choices.foldlM choose s

def withoutValues (s : Settings) : Settings := { s with headers := s.headers.withoutValues }

theorem exists_of_withHeaderText {s after : Settings} {raw : String}
    (h : s.withHeaderText raw = .ok after) : ∃ name value, splitHeader raw = .ok (name, value) ∧
      after = { s with headers := s.headers.set name value } := by
  obtain ⟨⟨name, value⟩, hsplit, hafter⟩ := bind_eq_ok.mp h
  cases hafter
  exact ⟨name, value, hsplit, rfl⟩

/-! ### Runs without values -/

/-- A choice without values leads to settings without values. -/
theorem choose_withoutValues {s after : Settings} {c : Choice} (h : s.choose c = .ok after) :
    s.withoutValues.choose c.withoutValues = .ok after.withoutValues := by
  have hset : ∀ name value, s.withoutValues.withHeaders (Headers.empty.put name []) =
      withoutValues { s with headers := s.headers.set name value } := fun name value =>
    congrArg (fun headers => ({ s with headers := headers } : Settings))
      (s.headers.withoutValues_put name [value]).symm
  cases c with
  | headerText raw =>
      obtain ⟨name, value, hsplit, rfl⟩ := exists_of_withHeaderText h
      unfold Choice.withoutValues
      simp only [hsplit]
      exact congrArg Except.ok (hset name value)
  | header name value =>
      cases h
      exact congrArg Except.ok (hset name value)
  | headers given =>
      cases h
      refine congrArg (fun headers => Except.ok ({ s with headers := headers } : Settings)) ?_
      exact (s.headers.withoutValues_extend given).symm
  | timeout | userAgent | verify | ownConnection =>
      cases h
      rfl

theorem chooseAll_withoutValues {s after : Settings} {choices : List Choice}
    (h : s.chooseAll choices = .ok after) :
    s.withoutValues.chooseAll (choices.map Choice.withoutValues) = .ok after.withoutValues := by
  unfold chooseAll at h ⊢
  induction choices generalizing s with
  | nil =>
      cases h
      rfl
  | cons c choices ih =>
      obtain ⟨mid, hc, hchoices⟩ := bind_eq_ok.mp h
      exact bind_eq_ok.mpr ⟨mid.withoutValues, choose_withoutValues hc, ih hchoices⟩

/-! ### Names of headers -/

theorem names_of_choose {s after : Settings} {c : Choice} (h : s.choose c = .ok after) :
    after.headers.names = c.names.foldl addName s.headers.names := by
  cases c with
  | headerText raw =>
      obtain ⟨name, value, hsplit, rfl⟩ := exists_of_withHeaderText h
      unfold Choice.names
      simp only [hsplit]
      exact s.headers.names_put name [value]
  | header name value =>
      cases h
      exact s.headers.names_put name [value]
  | headers given =>
      cases h
      exact s.headers.names_extend given
  | timeout | userAgent | verify | ownConnection =>
      cases h
      rfl

/-- The names that `chooseAll` leaves are those that its choices set, in the order in which they
came first. -/
theorem names_of_chooseAll {s after : Settings} {choices : List Choice}
    (h : s.chooseAll choices = .ok after) :
    after.headers.names = (choices.flatMap Choice.names).foldl addName s.headers.names := by
  unfold chooseAll at h
  induction choices generalizing s with
  | nil =>
      cases h
      rfl
  | cons c choices ih =>
      obtain ⟨mid, hc, hchoices⟩ := bind_eq_ok.mp h
      rw [ih hchoices, names_of_choose hc, List.flatMap_cons, List.foldl_append]

/-! ### What is shown -/

/-- Values of headers are not shown. -/
theorem shown_withoutValues (s : Settings) : s.withoutValues.shown = s.shown := by
  unfold shown withoutValues
  rw [Headers.names_withoutValues]

/-- **Secrecy of header values.**  Two runs of `chooseAll` whose choices agree `withoutValues` lead
to settings that are `shown` alike.  What is shown lists every header that was set, and each of them
once. -/
theorem shown_eq_of_withoutValues {address : String} {choices others : List Choice}
    (hsame : choices.map Choice.withoutValues = others.map Choice.withoutValues)
    {s t : Settings} (hs : (ofAddress address).chooseAll choices = .ok s)
    (ht : (ofAddress address).chooseAll others = .ok t) :
    s.shown = t.shown ∧ ∃ names : List String, names.Nodup ∧
      (∀ name, name ∈ names ↔ ∃ c ∈ choices, name ∈ c.names) ∧
      ∃ before behind, s.shown =
        before ++ ", extra_headers: [" ++ ", ".intercalate (names.map Text.shown) ++
          "], http_client: " ++ behind := by
  constructor
  · have hruns : (.ok s.withoutValues : Except Error Settings) = .ok t.withoutValues := by
      rw [← chooseAll_withoutValues hs, ← chooseAll_withoutValues ht, hsame]
    rw [← s.shown_withoutValues, ← t.shown_withoutValues, Except.ok.inj hruns]
  · have hnames : s.headers.names = (choices.flatMap Choice.names).foldl addName [] :=
      names_of_chooseAll hs
    refine ⟨s.headers.names, s.headers.distinct, fun name => ?_, ?_⟩
    · rw [hnames, mem_foldl_addName, List.mem_flatMap]
      exact or_iff_right List.not_mem_nil
    · unfold shown
      exact ⟨_, truthText s.ownConnection ++ " \x7d", String.append_assoc ..⟩

/-- Headers by every way in which they may be set, with `secret` in some of them. -/
def secretChoices (secret : String) : List Choice :=
  [.headerText ("X-Secret: " ++ secret), .userAgent "curl",
    .headers (.ofPairs [("cookie", secret), ("cookie", "b=2")]), .timeout (.ofMilliseconds 1500),
    .header "x-secret" secret, .verify false, .headerText ("authorization:" ++ secret)]

theorem exists_chooseAll (address : String) (choices : List Choice) (name : String)
    {names values : List String}
    (h : ((ofAddress address).chooseAll choices).toOption.map
      (fun s => (s.headers.names, s.headers.values name)) = some (names, values)) :
    ∃ s, (ofAddress address).chooseAll choices = .ok s ∧ s.headers.names = names ∧
      s.headers.values name = values := by
  obtain ⟨s, hs, hleft⟩ := Option.map_eq_some_iff.mp h
  obtain ⟨hnames, hvalues⟩ := Prod.mk.inj hleft
  exact ⟨s, eq_ok_of_toOption hs, hnames, hvalues⟩

theorem shown_eq_secretChoices : ∃ s t,
    (secretChoices "hunter2").map Choice.withoutValues =
      (secretChoices "swordfish").map Choice.withoutValues ∧
    (ofAddress "http://localhost").chooseAll (secretChoices "hunter2") = .ok s ∧
    (ofAddress "http://localhost").chooseAll (secretChoices "swordfish") = .ok t ∧
    s.headers.names = ["x-secret", "cookie", "authorization"] ∧
    s.headers.values "x-secret" = ["hunter2"] ∧ t.headers.values "x-secret" = ["swordfish"] ∧
    s.shown = t.shown := by
  have hsame : (secretChoices "hunter2").map Choice.withoutValues =
      (secretChoices "swordfish").map Choice.withoutValues := by rfl
  obtain ⟨s, hs, hnames, hvalue⟩ : ∃ s,
      (ofAddress "http://localhost").chooseAll (secretChoices "hunter2") = .ok s ∧
      s.headers.names = ["x-secret", "cookie", "authorization"] ∧
      s.headers.values "x-secret" = ["hunter2"] := exists_chooseAll _ _ _ (by decide)
  obtain ⟨t, ht, -, hother⟩ : ∃ t,
      (ofAddress "http://localhost").chooseAll (secretChoices "swordfish") = .ok t ∧
      t.headers.names = ["x-secret", "cookie", "authorization"] ∧
      t.headers.values "x-secret" = ["swordfish"] := exists_chooseAll _ _ _ (by decide)
  exact ⟨s, t, hsame, hs, ht, hnames, hvalue, hother,
    (shown_eq_of_withoutValues hsame hs ht).1⟩

end Settings

end QueryBindings.Endpoint

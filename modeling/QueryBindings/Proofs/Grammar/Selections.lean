import QueryBindings.Grammar.Executable
import QueryBindings.Proofs.Grammar.Parts

/-! # Reading selection sets

The tokens of a selection set in the order of its canonical layout; an alias that equals the name
of its field is left out, and is not there when the tokens are read (`withoutIdleAliases`).

Main statements: `reads_selectionSet` (a legible set is read from its tokens) and
`yields_selectionSet` (a set that is read is legible if its values read back). -/

namespace QueryBindings

open Grammar

/-! ### Fields and fragments -/

def aliasTokens : Option String → List Token
  | none => []
  | some a => [.name a, .symbol ':']

namespace Field

/-- `f` without an alias that equals its name. -/
def withoutIdleAlias (f : Field) : Field :=
  { f with aliasName := f.aliasName.filter (· ≠ f.name) }

/-- The tokens of the head of a field. -/
def tokens (f : Field) : List Token :=
  aliasTokens f.withoutIdleAlias.aliasName ++ .name f.name :: argumentTokens f.arguments ++
    f.directives.flatMap Directive.tokens

/-- Names have `isName`, and values fit their place. -/
structure Legible (depth : Nat) (f : Field) : Prop where
  aliasName : ∀ a, f.aliasName = some a → isName a = true
  name : isName f.name = true
  arguments : ∀ a ∈ f.arguments, a.Legible true depth
  directives : ∀ d ∈ f.directives, d.Legible true depth

def ReadsBack (f : Field) : Prop :=
  (∀ a ∈ f.arguments, Grammar.ReadsBack a.value) ∧ ∀ d ∈ f.directives, d.ReadsBack

end Field

namespace Spread

def tokens (s : Spread) : List Token :=
  .ellipsis :: .name s.name :: s.directives.flatMap Directive.tokens

/-- No fragment named `on` can be spread. -/
structure Legible (depth : Nat) (s : Spread) : Prop where
  name : isName s.name = true
  name_ne : s.name ≠ "on"
  directives : ∀ d ∈ s.directives, d.Legible true depth

end Spread

def conditionTokens : Option String → List Token
  | none => []
  | some c => [.name "on", .name c]

namespace InlineFragment

/-- The tokens of the head of a fragment in line. -/
def tokens (i : InlineFragment) : List Token :=
  .ellipsis :: (conditionTokens i.condition ++ i.directives.flatMap Directive.tokens)

/-- As `Field.Legible`. -/
structure Legible (depth : Nat) (i : InlineFragment) : Prop where
  condition : ∀ c, i.condition = some c → isName c = true
  directives : ∀ d ∈ i.directives, d.Legible true depth

end InlineFragment

/-! ### Selection sets -/

/-- Tokens between braces; nothing if there are none. -/
def bracedTokens (ts : List Token) : List Token :=
  if ts.isEmpty then [] else .symbol '\x7b' :: (ts ++ [.symbol '\x7d'])

namespace SelectionSet

def tokens : SelectionSet → List Token
  | nil => []
  | field f inner rest => f.tokens ++ bracedTokens inner.tokens ++ rest.tokens
  | spread s rest => s.tokens ++ rest.tokens
  | inline i inner rest => i.tokens ++ bracedTokens inner.tokens ++ rest.tokens

/-- The set without aliases that equal the name of their field. -/
def withoutIdleAliases : SelectionSet → SelectionSet
  | nil => nil
  | field f inner rest =>
    field f.withoutIdleAlias inner.withoutIdleAliases rest.withoutIdleAliases
  | spread s rest => spread s rest.withoutIdleAliases
  | inline i inner rest => inline i inner.withoutIdleAliases rest.withoutIdleAliases

/-- Every entry fits between braces that leave `depth` more levels of brackets. -/
def Legible : Nat → SelectionSet → Prop
  | _, nil => True
  | depth, field f inner rest =>
    f.Legible depth ∧ (inner = nil ∨ ∃ d, depth = d + 1 ∧ inner.Legible d) ∧ rest.Legible depth
  | depth, spread s rest => s.Legible depth ∧ rest.Legible depth
  | depth, inline i inner rest =>
    i.Legible depth ∧ (inner ≠ nil ∧ ∃ d, depth = d + 1 ∧ inner.Legible d) ∧ rest.Legible depth

def ReadsBack : SelectionSet → Prop
  | nil => True
  | field f inner rest => f.ReadsBack ∧ inner.ReadsBack ∧ rest.ReadsBack
  | spread s rest => (∀ d ∈ s.directives, d.ReadsBack) ∧ rest.ReadsBack
  | inline i inner rest =>
    (∀ d ∈ i.directives, d.ReadsBack) ∧ inner.ReadsBack ∧ rest.ReadsBack

/-- The entries, each as a set of its own. -/
def entries : SelectionSet → List SelectionSet
  | nil => []
  | field f inner rest => field f inner nil :: rest.entries
  | spread s rest => spread s nil :: rest.entries
  | inline i inner rest => inline i inner nil :: rest.entries

end SelectionSet

namespace Grammar

open Rule

/-! ### Reading selection sets -/

/-- What a rule for the braces behind a field or a fragment makes of `ts`. -/
def ReadsInner (inner : Rule SelectionSet) (ts : List Token) (s : SelectionSet) : Prop :=
  (∃ us, ts = .symbol '\x7b' :: us) ∧ inner.Reads ts s []

theorem reads_fieldTail {depth : Nat} {f : Field} {inner : Rule SelectionSet}
    {ts : List Token} {s : SelectionSet} (hf : f.Legible depth)
    (hinner : ts = [] ∧ s = .nil ∨ ReadsInner inner ts s)
    (k : List Argument → List Directive → SelectionSet → SelectionSet) :
    Reads (do
      let given ← arguments true depth
      let applied ← directives true depth
      let selected ← if ← isNext (.symbol '\x7b') then inner else pure .nil
      return k given applied selected)
      (argumentTokens f.arguments ++ (f.directives.flatMap Directive.tokens ++ ts))
      (k f.arguments f.directives s) [.symbol '(', .symbol '@', .symbol '\x7b'] := by
  intro rest hrest
  have hbraces : ∀ barred, .symbol '\x7b' ∉ barred →
      barred ⊆ [.symbol '(', .symbol '@', .symbol '\x7b'] → Clear barred (ts ++ rest) := by
    intro barred hbarred hsub
    rcases hinner with ⟨rfl, -⟩ | ⟨⟨us, rfl⟩, -⟩
    · exact hrest.mono hsub
    · exact clear_cons hbarred _
  have happlied : Clear [.symbol '('] (f.directives.flatMap Directive.tokens ++ (ts ++ rest)) :=
    clear_directiveTokens _ (by simp) (hbraces _ (by simp) (by simp))
  simp only [List.append_assoc]
  apply (bind_ok (reads_arguments hf.arguments _ happlied)).trans
  apply (bind_ok (reads_directives hf.directives _ (hbraces _ (by simp) (by simp)))).trans
  rcases hinner with ⟨rfl, rfl⟩ | ⟨⟨us, rfl⟩, hreads⟩
  · exact bind_ok (isNext_of_clear (hrest.mono (by simp)))
  · apply (bind_ok (isNext_cons _ _)).trans
    exact bind_ok (hreads rest (clear_nil rest))

theorem reads_fieldEntry {depth : Nat} {f : Field} {inner : Rule SelectionSet}
    {ts : List Token} {s : SelectionSet} (hf : f.Legible depth)
    (hinner : ts = [] ∧ s = .nil ∨ ReadsInner inner ts s) :
    (fieldEntry depth inner).Reads (f.tokens ++ ts) (.field f.withoutIdleAlias s .nil)
      [.symbol ':', .symbol '(', .symbol '@', .symbol '\x7b'] := by
  intro rest hrest
  have hcolon : Clear [.symbol ':'] (argumentTokens f.arguments ++
      (f.directives.flatMap Directive.tokens ++ ts) ++ rest) := by
    rw [List.append_assoc, List.append_assoc]
    refine clear_argumentTokens _ (by simp) (clear_directiveTokens _ (by simp) ?_)
    rcases hinner with ⟨rfl, -⟩ | ⟨⟨us, rfl⟩, -⟩
    · exact hrest.mono (by simp)
    · exact clear_cons (by simp) _
  have htail := fun k => reads_fieldTail hf hinner k rest (hrest.mono (by simp))
  unfold fieldEntry Field.tokens
  simp only [List.append_assoc, List.cons_append] at hcolon htail ⊢
  cases halias : f.withoutIdleAlias.aliasName with
  | none =>
      have hfield : f.withoutIdleAlias = ⟨none, f.name, f.arguments, f.directives⟩ := by
        rw [← halias]
        rfl
      rw [hfield]
      apply (bind_ok (name_cons f.name _)).trans
      apply (bind_ok (option_of_clear hcolon)).trans
      apply (bind_ok (pure_ok none _)).trans
      exact htail fun given applied selected => .field ⟨none, f.name, given, applied⟩ selected .nil
  | some a =>
      have hfield : f.withoutIdleAlias = ⟨some a, f.name, f.arguments, f.directives⟩ := by
        rw [← halias]
        rfl
      rw [hfield]
      apply (bind_ok (name_cons a _)).trans
      apply (bind_ok (option_cons (.symbol ':') _)).trans
      apply (bind_ok (map_ok (name_cons f.name _))).trans
      exact htail fun given applied selected =>
        .field ⟨some a, f.name, given, applied⟩ selected .nil

theorem reads_spreadEntry {depth : Nat} {s : Spread} {inner : Rule SelectionSet}
    (hs : s.Legible depth) :
    (entry depth inner).Reads s.tokens (.spread s .nil) [.symbol '@', .symbol '('] := by
  intro rest hrest
  have hname : Clear [.name "on"]
      (.name s.name :: (s.directives.flatMap Directive.tokens ++ rest)) :=
    clear_cons (by simpa using hs.name_ne) _
  unfold entry Spread.tokens
  simp only [List.cons_append]
  apply (bind_ok (option_cons .ellipsis _)).trans
  unfold fragmentEntry
  apply (bind_ok (option_of_clear hname)).trans
  apply (bind_ok (peek_of_eq_cons rfl)).trans
  apply (bind_ok (name_cons s.name _)).trans
  exact bind_ok (reads_directives hs.directives rest hrest)

theorem reads_inlineEntry {depth : Nat} {i : InlineFragment} {inner : Rule SelectionSet}
    {ts : List Token} {s : SelectionSet} (hi : i.Legible depth) (hinner : ReadsInner inner ts s) :
    (entry depth inner).Reads (i.tokens ++ ts) (.inline i s .nil) [] := by
  intro rest hrest
  obtain ⟨⟨us, hus⟩, hreads⟩ := hinner
  have hdirectives : Clear [.symbol '@', .symbol '('] (ts ++ rest) := by
    rw [hus]
    exact clear_cons (by simp) _
  have happlied := reads_directives hi.directives (ts ++ rest) hdirectives
  unfold entry InlineFragment.tokens
  simp only [List.cons_append, List.append_assoc]
  apply (bind_ok (option_cons .ellipsis _)).trans
  unfold fragmentEntry
  cases hcondition : i.condition with
  | some c =>
      have hi' : i = ⟨some c, i.directives⟩ := by rw [← hcondition]
      apply (bind_ok (option_cons (.name "on") _)).trans
      apply (bind_ok (name_cons c _)).trans
      apply (bind_ok happlied).trans
      rw [hi']
      exact bind_ok (hreads rest (clear_nil rest))
  | none =>
      have hi' : i = ⟨none, i.directives⟩ := by rw [← hcondition]
      -- what comes next is a directive or a brace, and so neither a condition nor a name
      have hhead : ∃ c more, i.directives.flatMap Directive.tokens ++ (ts ++ rest) =
          .symbol c :: more := by
        cases i.directives with
        | nil => exact ⟨'\x7b', us ++ rest, by rw [hus]; rfl⟩
        | cons d ds => exact ⟨'@', _, rfl⟩
      obtain ⟨c, more, hnext⟩ := hhead
      have hclear : Clear [.name "on"] (i.directives.flatMap Directive.tokens ++ (ts ++ rest)) := by
        rw [hnext]
        exact clear_cons (by simp) _
      apply (bind_ok (option_of_clear hclear)).trans
      apply (bind_ok (peek_of_eq_cons hnext)).trans
      apply (bind_ok happlied).trans
      rw [hi']
      exact bind_ok (hreads rest (clear_nil rest))

end Grammar

namespace SelectionSet

theorem tokens_eq_flatMap_entries (s : SelectionSet) :
    s.tokens = s.entries.flatMap tokens := by
  induction s with
  | nil => rfl
  | field f inner rest _ ih =>
      rw [tokens, entries, List.flatMap_cons, ← ih, tokens, tokens, List.append_nil]
  | spread s rest ih =>
      rw [tokens, entries, List.flatMap_cons, ← ih, tokens, tokens, List.append_nil]
  | inline i inner rest _ ih =>
      rw [tokens, entries, List.flatMap_cons, ← ih, tokens, tokens, List.append_nil]

theorem foldr_entries (s : SelectionSet) :
    (s.entries.map withoutIdleAliases).foldr (· ++ ·) nil = s.withoutIdleAliases := by
  induction s with
  | nil => rfl
  | field f inner rest _ ih =>
      rw [entries, List.map_cons, List.foldr_cons, ih]
      rfl
  | spread s rest ih =>
      rw [entries, List.map_cons, List.foldr_cons, ih]
      rfl
  | inline i inner rest _ ih =>
      rw [entries, List.map_cons, List.foldr_cons, ih]
      rfl

theorem tokens_entry {s e : SelectionSet} (h : e ∈ s.entries) :
    ∃ t ts, e.tokens = t :: ts ∧ (t = .ellipsis ∨ ∃ n, t = .name n) := by
  induction s with
  | nil => cases h
  | field f inner rest _ ih =>
      rcases List.mem_cons.mp h with rfl | h
      · rw [tokens, Field.tokens]
        cases f.withoutIdleAlias.aliasName with
        | none => exact ⟨_, _, rfl, .inr ⟨f.name, rfl⟩⟩
        | some a => exact ⟨_, _, rfl, .inr ⟨a, rfl⟩⟩
      · exact ih h
  | spread s rest ih =>
      rcases List.mem_cons.mp h with rfl | h
      · exact ⟨_, _, rfl, .inl rfl⟩
      · exact ih h
  | inline i inner rest _ ih =>
      rcases List.mem_cons.mp h with rfl | h
      · exact ⟨_, _, rfl, .inl rfl⟩
      · exact ih h

theorem bracedTokens_tokens {s : SelectionSet} (h : s ≠ nil) :
    bracedTokens s.tokens = .symbol '\x7b' :: (s.tokens ++ [.symbol '\x7d']) := by
  have hne : s.tokens ≠ [] := by
    cases s with
    | nil => exact absurd rfl h
    | field f inner rest => simp [tokens, Field.tokens]
    | spread s rest => simp [tokens, Spread.tokens]
    | inline i inner rest => simp [tokens, InlineFragment.tokens]
  unfold bracedTokens
  rw [if_neg (by simpa using hne)]

theorem legible_append {depth : Nat} {s t : SelectionSet} :
    (s ++ t).Legible depth ↔ s.Legible depth ∧ t.Legible depth := by
  induction s with
  | nil => simp [Legible]
  | field f inner rest _ ih => simp [Legible, ih, and_assoc]
  | spread s rest ih => simp [Legible, ih, and_assoc]
  | inline i inner rest _ ih => simp [Legible, ih, and_assoc]

theorem readsBack_append {s t : SelectionSet} :
    (s ++ t).ReadsBack ↔ s.ReadsBack ∧ t.ReadsBack := by
  induction s with
  | nil => simp [ReadsBack]
  | field f inner rest _ ih => simp [ReadsBack, ih, and_assoc]
  | spread s rest ih => simp [ReadsBack, ih, and_assoc]
  | inline i inner rest _ ih => simp [ReadsBack, ih, and_assoc]

end SelectionSet

namespace Grammar

open Rule

/-- The tokens that the rule for an entry might go on with. -/
def afterEntry : List Token := [.symbol ':', .symbol '(', .symbol '@', .symbol '\x7b']

theorem readsInner_selectionSet {depth : Nat} {s : SelectionSet} (hne : s ≠ .nil)
    (h : ∀ e ∈ s.entries,
      (entry depth (selectionSet depth)).Reads e.tokens e.withoutIdleAliases afterEntry) :
    ReadsInner (selectionSet (depth + 1)) (bracedTokens s.tokens) s.withoutIdleAliases := by
  rw [SelectionSet.bracedTokens_tokens hne]
  refine ⟨⟨_, rfl⟩, fun rest hrest => ?_⟩
  have hstart : ∀ e ∈ s.entries, ∃ t ts, e.tokens = t :: ts ∧ t ≠ .symbol '\x7d' ∧
      t ∉ afterEntry := by
    intro e he
    obtain ⟨t, ts, htokens, ht⟩ := SelectionSet.tokens_entry he
    refine ⟨t, ts, htokens, ?_⟩
    rcases ht with rfl | ⟨n, rfl⟩
    · decide
    · simp [afterEntry]
  obtain ⟨first, others, hentries⟩ : ∃ first others, s.entries = first :: others := by
    cases s with
    | nil => exact absurd rfl hne
    | field | spread | inline => exact ⟨_, _, rfl⟩
  have hset := SelectionSet.tokens_eq_flatMap_entries s
  have hresult := SelectionSet.foldr_entries s
  rw [hentries] at h hstart hset hresult
  have hall := reads_someUntil (fun e he => hstart e (List.mem_cons_of_mem first he)) h
    (by decide) rest hrest
  unfold selectionSet
  rw [hset, ← hresult]
  apply (bind_ok (symbol_cons '\x7b' _)).trans
  exact bind_ok hall

/-- Every entry of a set that is `Legible` is read from its tokens. -/
theorem reads_entries {depth : Nat} {s : SelectionSet} (h : s.Legible depth) :
    ∀ e ∈ s.entries,
      (entry depth (selectionSet depth)).Reads e.tokens e.withoutIdleAliases afterEntry := by
  induction s generalizing depth with
  | nil => exact nofun
  | field f inner rest ihinner ihrest =>
      obtain ⟨hf, hinner, hrest⟩ := h
      refine List.forall_mem_cons.mpr ⟨?_, ihrest hrest⟩
      have hfield : (fieldEntry depth (selectionSet depth)).Reads
          (f.tokens ++ bracedTokens inner.tokens)
          (.field f.withoutIdleAlias inner.withoutIdleAliases .nil) afterEntry := by
        apply reads_fieldEntry hf
        by_cases hnil : inner = .nil
        · rw [hnil]
          exact .inl ⟨rfl, rfl⟩
        · obtain ⟨d, rfl, hd⟩ := hinner.resolve_left hnil
          exact .inr (readsInner_selectionSet hnil (ihinner hd))
      intro after hafter
      have hname : Clear [.ellipsis] (f.tokens ++ bracedTokens inner.tokens ++ after) := by
        unfold Field.tokens
        cases f.withoutIdleAlias.aliasName with
        | none => exact clear_cons (by simp) _
        | some a => exact clear_cons (by simp) _
      unfold entry
      rw [SelectionSet.tokens, SelectionSet.tokens, List.append_nil]
      apply (bind_ok (option_of_clear hname)).trans
      exact hfield after hafter
  | spread s rest ihrest =>
      obtain ⟨hs, hrest⟩ := h
      refine List.forall_mem_cons.mpr ⟨?_, ihrest hrest⟩
      have hspread : (entry depth (selectionSet depth)).Reads s.tokens (.spread s .nil)
          [.symbol '@', .symbol '('] := reads_spreadEntry hs
      rw [SelectionSet.tokens, SelectionSet.tokens, List.append_nil]
      exact hspread.mono (by decide)
  | inline i inner rest ihinner ihrest =>
      obtain ⟨hi, ⟨hnil, d, rfl, hd⟩, hrest⟩ := h
      refine List.forall_mem_cons.mpr ⟨?_, ihrest hrest⟩
      rw [SelectionSet.tokens, SelectionSet.tokens, List.append_nil]
      exact (reads_inlineEntry hi (readsInner_selectionSet hnil (ihinner hd))).mono nofun

/-- A set that is `Legible`, with an entry, is read from its tokens. -/
theorem reads_selectionSet {depth : Nat} {s : SelectionSet} (hne : s ≠ .nil)
    (h : s.Legible depth) :
    (selectionSet (depth + 1)).Reads (bracedTokens s.tokens) s.withoutIdleAliases [] :=
  (readsInner_selectionSet hne (reads_entries h)).2

/-! ### Legibility of selection sets -/

/-- What is selected between braces inside brackets that leave `depth` more levels. -/
def SelectedWithin (depth : Nat) (s : SelectionSet) : Prop :=
  s ≠ .nil ∧ (s.ReadsBack → ∃ d, depth = d + 1 ∧ s.Legible d)

/-- A single entry inside brackets that leave `depth` more levels. -/
def EntryWithin (depth : Nat) (s : SelectionSet) : Prop :=
  s ≠ .nil ∧ (s.ReadsBack → s.Legible depth)

theorem yields_fieldTail {depth : Nat} (hdepth : depth ≤ nestingLimit)
    {inner : Rule SelectionSet} (hinner : inner.Yields (SelectedWithin depth))
    {aliasName : Option String} {n : String} (halias : ∀ a, aliasName = some a → isName a = true)
    (hn : isName n = true) :
    Yields (do
      let given ← arguments true depth
      let applied ← directives true depth
      let selected ← if ← isNext (.symbol '\x7b') then inner else pure .nil
      return .field ⟨aliasName, n, given, applied⟩ selected .nil) (EntryWithin depth) := by
  refine Yields.bind (yields_arguments true hdepth) fun given hgiven => ?_
  refine Yields.bind (yields_directives true hdepth) fun applied happlied => ?_
  have hfield : ∀ selected, selected = .nil ∨ SelectedWithin depth selected →
      EntryWithin depth (.field ⟨aliasName, n, given, applied⟩ selected .nil) := by
    intro selected hselected
    refine ⟨by simp, fun hback => ?_⟩
    obtain ⟨⟨hvalues, hdirectives⟩, hinside, -⟩ := hback
    refine ⟨⟨halias, hn, fun a ha => hgiven a ha (hvalues a ha),
      fun d hd => happlied d hd (hdirectives d hd)⟩, ?_, trivial⟩
    rcases hselected with rfl | hselected
    · exact .inl rfl
    · exact .inr (hselected.2 hinside)
  refine Yields.bind (yields_isNext _) fun isOpen _ => ?_
  split
  · exact Yields.bind hinner fun selected hselected => yields_pure (hfield _ (.inr hselected))
  · exact Yields.bind (yields_pure rfl) fun selected hselected =>
      yields_pure (hfield _ (.inl hselected.symm))

theorem yields_fieldEntry {depth : Nat} (hdepth : depth ≤ nestingLimit)
    {inner : Rule SelectionSet} (hinner : inner.Yields (SelectedWithin depth)) :
    (fieldEntry depth inner).Yields (EntryWithin depth) := by
  unfold fieldEntry
  refine Yields.bind yields_name fun first hfirst => ?_
  refine Yields.bind (yields_option (by simp)) fun isAlias _ => ?_
  split
  · refine Yields.bind (yields_name.map fun n hn => ⟨n, rfl, hn⟩ :
      Yields _ fun second => ∃ n, second = some n ∧ isName n = true) ?_
    rintro _ ⟨n, rfl, hn⟩
    refine yields_fieldTail hdepth hinner ?_ hn
    rintro _ ⟨⟩
    exact hfirst
  · refine Yields.bind (yields_pure rfl : Yields _ fun second => second = none) ?_
    rintro _ rfl
    exact yields_fieldTail hdepth hinner nofun hfirst

theorem yields_inlineTail {depth : Nat} (hdepth : depth ≤ nestingLimit)
    {inner : Rule SelectionSet} (hinner : inner.Yields (SelectedWithin depth))
    {condition : Option String} (hcondition : ∀ c, condition = some c → isName c = true) :
    Yields (do
      let applied ← directives true depth
      return .inline ⟨condition, applied⟩ (← inner) .nil) (EntryWithin depth) := by
  refine Yields.bind (yields_directives true hdepth) fun applied happlied => ?_
  refine Yields.bind hinner fun selected hselected => yields_pure ⟨by simp, fun hback => ?_⟩
  obtain ⟨hdirectives, hinside, -⟩ := hback
  exact ⟨⟨hcondition, fun d hd => happlied d hd (hdirectives d hd)⟩,
    ⟨hselected.1, hselected.2 hinside⟩, trivial⟩

theorem yields_fragmentEntry {depth : Nat} (hdepth : depth ≤ nestingLimit)
    {inner : Rule SelectionSet} (hinner : inner.Yields (SelectedWithin depth)) :
    (fragmentEntry depth inner).Yields (EntryWithin depth) := by
  have hcondition : Yields (do
      let condition ← name
      let applied ← directives true depth
      return .inline ⟨some condition, applied⟩ (← inner) .nil) (EntryWithin depth) := by
    refine Yields.bind yields_name fun c hc => yields_inlineTail hdepth hinner ?_
    intro other hother
    cases hother
    exact hc
  have hspread : ∀ n, isName n = true → n ≠ "on" → Yields (do
      return .spread ⟨n, ← directives true depth⟩ .nil) (EntryWithin depth) := by
    intro n hn hne
    refine Yields.bind (yields_directives true hdepth) fun applied happlied => ?_
    refine yields_pure ⟨by simp, fun hback => ?_⟩
    exact ⟨⟨hn, hne, fun d hd => happlied d hd (hback.1 d hd)⟩, trivial⟩
  intro ts hnamed s rest hok
  obtain ⟨isOn, mid, hoption, hrest⟩ := of_bind_ok hok
  rcases option_eq_ok hoption with ⟨rfl, rfl⟩ | ⟨rfl, rfl, hclear⟩
  · obtain ⟨hs, used, hsplit, hused⟩ :=
      hcondition mid (fun n hn => hnamed n (List.mem_cons_of_mem _ hn)) s rest hrest
    exact ⟨hs, .name "on" :: used, by rw [hsplit]; rfl, by simp [hused]⟩
  · obtain ⟨next, same, hpeek, hbranch⟩ :=
      of_bind_ok (show (peek >>= _) mid = .ok (s, rest) from hrest)
    cases hpeek
    have hnone : ∀ c, (none : Option String) = some c → isName c = true := nofun
    have hinline := yields_inlineTail hdepth hinner hnone mid hnamed s rest
    cases mid with
    | nil => exact hinline hbranch
    | cons t more =>
        cases t with
        | name n =>
            have hne : n ≠ "on" := by
              rintro rfl
              exact hclear _ List.mem_cons_self rfl
            obtain ⟨hs, used, hsplit, hused⟩ :=
              hspread n (hnamed n List.mem_cons_self) hne more
                (fun m hm => hnamed m (List.mem_cons_of_mem _ hm)) s rest hbranch
            exact ⟨hs, .name n :: used, by rw [hsplit]; rfl, by simp [hused]⟩
        | _ => exact hinline hbranch

theorem yields_entry {depth : Nat} (hdepth : depth ≤ nestingLimit)
    {inner : Rule SelectionSet} (hinner : inner.Yields (SelectedWithin depth)) :
    (entry depth inner).Yields (EntryWithin depth) := by
  unfold entry
  refine Yields.bind (yields_option (by simp)) fun isDots _ => ?_
  split
  · exact yields_fragmentEntry hdepth hinner
  · exact yields_fieldEntry hdepth hinner

theorem EntryWithin.append {depth : Nat} {s t : SelectionSet} (hs : EntryWithin depth s)
    (ht : t = .nil ∨ EntryWithin depth t) : EntryWithin depth (s ++ t) := by
  refine ⟨?_, fun hback => ?_⟩
  · cases s with
    | nil => exact absurd rfl hs.1
    | field | spread | inline => exact nofun
  · rw [SelectionSet.readsBack_append] at hback
    rw [SelectionSet.legible_append]
    refine ⟨hs.2 hback.1, ?_⟩
    rcases ht with rfl | ht
    · exact trivial
    · exact ht.2 hback.2

theorem entryWithin_foldr {depth : Nat} {entries : List SelectionSet}
    (h : ∀ s ∈ entries, EntryWithin depth s) :
    entries.foldr (· ++ ·) .nil = .nil ∨ EntryWithin depth (entries.foldr (· ++ ·) .nil) := by
  induction entries with
  | nil => exact .inl rfl
  | cons s entries ih =>
      have hrest := ih fun t ht => h t (List.mem_cons_of_mem s ht)
      exact .inr ((h s List.mem_cons_self).append hrest)

theorem yields_selectionSet {depth : Nat} (hdepth : depth ≤ nestingLimit) :
    (selectionSet depth).Yields (SelectedWithin depth) := by
  induction depth with
  | zero => exact yields_fail
  | succ depth ih =>
      have hless : depth ≤ nestingLimit := Nat.le_of_succ_le hdepth
      unfold selectionSet
      refine Yields.bind (yields_symbol '\x7b') fun _ _ => ?_
      refine Yields.bind (yields_someUntil (yields_entry hless (ih hless))) fun entries hentries => ?_
      obtain ⟨first, others, rfl⟩ := List.exists_cons_of_ne_nil hentries.1
      obtain ⟨hfirst, hothers⟩ := List.forall_mem_cons.mp hentries.2
      have hset := hfirst.append (entryWithin_foldr hothers)
      exact yields_pure ⟨hset.1, fun hback => ⟨depth, rfl, hset.2 hback⟩⟩

end Grammar

end QueryBindings

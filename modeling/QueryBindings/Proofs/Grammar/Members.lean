import QueryBindings.Grammar.TypeSystem
import QueryBindings.Proofs.Grammar.Parts
import QueryBindings.Proofs.Grammar.TypeTrees
import QueryBindings.Proofs.Literal.BlockText

/-! # Reading members of definitions

The tokens of declared arguments, fields and enum values in the order of their canonical layout.
A member is `Placed` if its parts fit their place, and `Normal` if its values read back and its
descriptions are in the normal form of block strings; if it is both, it is `Legible`.

Main statements: a legible member is read from its tokens (`reads_argumentDefinition`,
`reads_fieldDefinition`, `reads_inputField`, `reads_enumValue`), and a member that is read is
placed (`yields_argumentDefinition` and so on). -/

namespace QueryBindings

open Grammar

/-! ### Descriptions -/

def descriptionTokens (about : Option String) : List Token := about.toList.map .string

/-- The description has the normal form of block strings, `BlockNormal`. -/
def NormalDescription (about : Option String) : Prop :=
  ∀ text, about = some text → BlockNormal text.toList

theorem BlockNormal.ne_empty {text : String} (h : BlockNormal text.toList) : text ≠ "" := by
  rintro rfl
  have hfirst := h.first [] rfl
  cases hfirst

theorem BlockNormal.not_blank {text : String} (h : BlockNormal text.toList) :
    Text.isBlankText text = false := by
  obtain ⟨c, rest, hline, hc⟩ := h.flush
  have hmem : c ∈ text.toList := (mem_splitOnChar hline).2 c List.mem_cons_self
  unfold Text.isBlankText
  rw [Bool.eq_false_iff]
  intro hall
  rw [List.all_eq_true.mp hall c hmem] at hc
  cases hc

theorem NormalDescription.nonBlank? {about : Option String} (h : NormalDescription about) :
    Text.nonBlank? about = about := by
  cases about with
  | none => rfl
  | some text =>
      unfold Text.nonBlank?
      rw [Option.filter_some, (h text rfl).not_blank]
      rfl

/-! ### Members between brackets -/

/-- Members between brackets; nothing if there are none. -/
def bodyTokens {α : Type} (opening closing : Char) (tokens : α → List Token) (members : List α) :
    List Token :=
  if members.isEmpty then []
  else .symbol opening :: (members.flatMap tokens ++ [.symbol closing])

/-- What holds of a member between brackets, one level further in. -/
def Inside {α : Type} (P : Nat → α → Prop) : Nat → α → Prop
  | 0, _ => False
  | depth + 1, a => P depth a

theorem of_inside {α : Type} {P : Nat → α → Prop} {Q : Prop} {depth : Nat} {a : α}
    (h : Inside P depth a) (hPQ : ∀ d, P d a → Q) : Q := by
  cases depth with
  | zero => exact h.elim
  | succ d => exact hPQ d h

theorem inside_mono {α β : Type} {P : Nat → α → Prop} {Q : Nat → β → Prop} {depth : Nat} {a : α}
    {b : β} (h : Inside P depth a) (hPQ : ∀ d, d < depth → P d a → Q d b) : Inside Q depth b := by
  cases depth with
  | zero => exact h.elim
  | succ d => exact hPQ d (Nat.lt_succ_self d) h

/-! ### Arguments, fields and values -/

namespace ArgumentDefinition

def tokens (a : ArgumentDefinition) : List Token :=
  descriptionTokens a.description ++ .name a.name :: .symbol ':' ::
    (a.type.tokens ++ (defaultTokens a.defaultValue ++ a.directives.flatMap Directive.tokens))

/-- Every part fits its place, and the description has `NormalDescription`. -/
structure Legible (depth : Nat) (a : ArgumentDefinition) : Prop where
  description : NormalDescription a.description
  name : isName a.name = true
  type : a.type.Legible depth
  defaultValue : ∀ text, a.defaultValue = some text → Grammar.Legible false depth text
  directives : ∀ d ∈ a.directives, d.Legible true depth

/-- Every part fits its place. -/
structure Placed (depth : Nat) (a : ArgumentDefinition) : Prop where
  name : isName a.name = true
  type : a.type.Legible depth
  defaultValue : ∀ text, a.defaultValue = some text → Grammar.Placed false depth text
  directives : ∀ d ∈ a.directives, d.Placed true depth

/-- The description has `NormalDescription`, and all values read back. -/
structure Normal (a : ArgumentDefinition) : Prop where
  description : NormalDescription a.description
  defaultValue : ∀ text, a.defaultValue = some text → ReadsBack text
  directives : ∀ d ∈ a.directives, d.ReadsBack

theorem Placed.legible {depth : Nat} {a : ArgumentDefinition} (h : a.Placed depth)
    (hdepth : depth ≤ nestingLimit) (hnormal : a.Normal) : a.Legible depth where
  description := hnormal.description
  name := h.name
  type := h.type
  defaultValue := fun text htext =>
    (h.defaultValue text htext).legible hdepth (hnormal.defaultValue text htext)
  directives := fun d hd => (h.directives d hd).legible hdepth (hnormal.directives d hd)

end ArgumentDefinition

namespace FieldDefinition

def tokens (f : FieldDefinition) : List Token :=
  descriptionTokens f.description ++ .name f.name ::
    (bodyTokens '(' ')' ArgumentDefinition.tokens f.arguments ++ .symbol ':' ::
      (f.type.tokens ++ (defaultTokens f.defaultValue ++ f.directives.flatMap Directive.tokens)))

/-- As `ArgumentDefinition.Legible`. -/
structure Legible (depth : Nat) (f : FieldDefinition) : Prop where
  description : NormalDescription f.description
  name : isName f.name = true
  arguments : ∀ a ∈ f.arguments, Inside ArgumentDefinition.Legible depth a
  type : f.type.Legible depth
  defaultValue : ∀ text, f.defaultValue = some text → Grammar.Legible false depth text
  directives : ∀ d ∈ f.directives, d.Legible true depth

/-- As `ArgumentDefinition.Placed`. -/
structure Placed (depth : Nat) (f : FieldDefinition) : Prop where
  name : isName f.name = true
  arguments : ∀ a ∈ f.arguments, Inside ArgumentDefinition.Placed depth a
  type : f.type.Legible depth
  defaultValue : ∀ text, f.defaultValue = some text → Grammar.Placed false depth text
  directives : ∀ d ∈ f.directives, d.Placed true depth

/-- As `ArgumentDefinition.Normal`. -/
structure Normal (f : FieldDefinition) : Prop where
  description : NormalDescription f.description
  arguments : ∀ a ∈ f.arguments, a.Normal
  defaultValue : ∀ text, f.defaultValue = some text → ReadsBack text
  directives : ∀ d ∈ f.directives, d.ReadsBack

theorem Placed.legible {depth : Nat} {f : FieldDefinition} (h : f.Placed depth)
    (hdepth : depth ≤ nestingLimit) (hnormal : f.Normal) : f.Legible depth where
  description := hnormal.description
  name := h.name
  arguments := fun a ha => inside_mono (h.arguments a ha) fun _ hd hplaced =>
    hplaced.legible (Nat.le_trans (Nat.le_of_lt hd) hdepth) (hnormal.arguments a ha)
  type := h.type
  defaultValue := fun text htext =>
    (h.defaultValue text htext).legible hdepth (hnormal.defaultValue text htext)
  directives := fun d hd => (h.directives d hd).legible hdepth (hnormal.directives d hd)

/-- An input field as the argument it is declared like. -/
def asArgument (f : FieldDefinition) : ArgumentDefinition :=
  ⟨f.name, f.description, f.defaultValue, f.type, f.directives⟩

theorem toField_asArgument {f : FieldDefinition} (h : f.arguments = []) :
    f.asArgument.toField = f := by
  unfold asArgument ArgumentDefinition.toField
  rw [← h]

theorem tokens_asArgument {f : FieldDefinition} (h : f.arguments = []) :
    f.asArgument.tokens = f.tokens := by
  unfold tokens
  rw [h]
  rfl

theorem Legible.asArgument {depth : Nat} {f : FieldDefinition} (h : f.Legible depth) :
    f.asArgument.Legible depth :=
  ⟨h.description, h.name, h.type, h.defaultValue, h.directives⟩

end FieldDefinition

theorem ArgumentDefinition.Placed.toField {depth : Nat} {a : ArgumentDefinition}
    (h : a.Placed depth) : a.toField.Placed depth :=
  ⟨h.name, fun _ hb => absurd hb List.not_mem_nil, h.type, h.defaultValue, h.directives⟩

namespace EnumValue

def tokens (v : EnumValue) : List Token :=
  descriptionTokens v.description ++ .name v.name :: v.directives.flatMap Directive.tokens

/-- As `ArgumentDefinition.Legible`. -/
structure Legible (depth : Nat) (v : EnumValue) : Prop where
  description : NormalDescription v.description
  name : isName v.name = true
  directives : ∀ d ∈ v.directives, d.Legible true depth

/-- As `ArgumentDefinition.Placed`. -/
structure Placed (depth : Nat) (v : EnumValue) : Prop where
  name : isName v.name = true
  directives : ∀ d ∈ v.directives, d.Placed true depth

/-- As `ArgumentDefinition.Normal`. -/
structure Normal (v : EnumValue) : Prop where
  description : NormalDescription v.description
  directives : ∀ d ∈ v.directives, d.ReadsBack

theorem Placed.legible {depth : Nat} {v : EnumValue} (h : v.Placed depth)
    (hdepth : depth ≤ nestingLimit) (hnormal : v.Normal) : v.Legible depth where
  description := hnormal.description
  name := h.name
  directives := fun d hd => (h.directives d hd).legible hdepth (hnormal.directives d hd)

end EnumValue

namespace Grammar

open Rule

/-! ### Reading legible members -/

theorem reads_description {about : Option String} {n : String} {rest : List Token} :
    description (descriptionTokens about ++ .name n :: rest) = .ok (about, .name n :: rest) := by
  cases about <;> rfl

theorem reads_argumentDefinition {depth : Nat} {a : ArgumentDefinition} (h : a.Legible depth) :
    (argumentDefinition depth).Reads a.tokens a
      [.symbol '!', .symbol '=', .symbol '@', .symbol '('] := by
  intro rest hrest
  have hgiven : Clear [.symbol '='] (a.directives.flatMap Directive.tokens ++ rest) :=
    clear_directiveTokens _ (by simp) (hrest.mono (by simp))
  have htype : Clear [.symbol '!'] (defaultTokens a.defaultValue ++
      (a.directives.flatMap Directive.tokens ++ rest)) :=
    clear_defaultTokens _ (by simp) (clear_directiveTokens _ (by simp) (hrest.mono (by simp)))
  unfold argumentDefinition ArgumentDefinition.tokens
  simp only [List.append_assoc, List.cons_append]
  apply (bind_ok reads_description).trans
  apply (bind_ok (name_cons a.name _)).trans
  apply (bind_ok (symbol_cons ':' _)).trans
  apply (bind_ok (reads_typeExpr h.type _ htype)).trans
  apply (bind_ok (reads_defaultValue h.defaultValue _ hgiven)).trans
  apply (bind_ok (reads_directives h.directives rest (hrest.mono (by simp)))).trans
  rw [h.description.nonBlank?]
  rfl

theorem begins_described (about : Option String) (n : String) (rest : List Token) :
    ∃ t ts, descriptionTokens about ++ .name n :: rest = t :: ts ∧ ∀ c, t ≠ .symbol c := by
  cases about with
  | none => exact ⟨.name n, rest, rfl, nofun⟩
  | some text => exact ⟨.string text, _, rfl, nofun⟩

/-- Members of `bodyTokens` are read if each of them is, and none begins with a symbol. -/
theorem reads_optionalBody {α β : Type} {opening closing : Char} {member : Nat → Rule α}
    {depth : Nat} {members : List β} {tokens : β → List Token} {value : β → α}
    {P : Nat → β → Prop} (h : ∀ x ∈ members, Inside P depth x)
    (hread : ∀ d, ∀ x ∈ members, P d x → (member d).Reads (tokens x) (value x)
      [.symbol '!', .symbol '=', .symbol '@', .symbol '('])
    (hstart : ∀ x ∈ members, ∃ t ts, tokens x = t :: ts ∧ ∀ c, t ≠ .symbol c)
    (hclosing : closing ∉ ['!', '=', '@', '(']) :
    (optionalBody opening closing member depth).Reads (bodyTokens opening closing tokens members)
      (members.map value) [.symbol opening] := by
  intro rest hrest
  unfold optionalBody
  cases members with
  | nil => exact bind_ok (isNext_of_clear hrest)
  | cons first others =>
      cases depth with
      | zero => exact (h first List.mem_cons_self).elim
      | succ d =>
          have hitem : ∀ x ∈ first :: others, (member d).Reads (tokens x) (value x)
              [.symbol '!', .symbol '=', .symbol '@', .symbol '('] :=
            fun x hx => hread d x hx (h x hx)
          have hbegin : ∀ x ∈ others, ∃ t ts, tokens x = t :: ts ∧ t ≠ .symbol closing ∧
              t ∉ [.symbol '!', .symbol '=', .symbol '@', .symbol '('] := by
            intro x hx
            obtain ⟨t, ts, htokens, ht⟩ := hstart x (List.mem_cons_of_mem first hx)
            exact ⟨t, ts, htokens, ht closing, by simp [ht]⟩
          have hlist := reads_someUntil hbegin hitem (by simpa using hclosing)
          unfold bracketed
          apply (bind_ok (isNext_cons (.symbol opening) _)).trans
          apply (bind_ok (symbol_cons opening _)).trans
          exact hlist rest (clear_nil rest)

theorem reads_argumentDefinitions {depth : Nat} {as : List ArgumentDefinition}
    (h : ∀ a ∈ as, Inside ArgumentDefinition.Legible depth a) :
    (argumentDefinitions depth).Reads (bodyTokens '(' ')' ArgumentDefinition.tokens as) as
      [.symbol '('] := by
  have hbody : (optionalBody '(' ')' argumentDefinition depth).Reads
      (bodyTokens '(' ')' ArgumentDefinition.tokens as) (as.map id) [.symbol '('] :=
    reads_optionalBody h (fun _ _ _ ha => reads_argumentDefinition ha)
      (fun a _ => begins_described a.description a.name _) (by decide)
  rw [List.map_id] at hbody
  exact hbody

theorem reads_fieldDefinition {depth : Nat} {f : FieldDefinition} (h : f.Legible depth)
    (hdefault : f.defaultValue = none) :
    (fieldDefinition depth).Reads f.tokens f
      [.symbol '!', .symbol '=', .symbol '@', .symbol '('] := by
  intro rest hrest
  have htype : Clear [.symbol '!'] (f.directives.flatMap Directive.tokens ++ rest) :=
    clear_directiveTokens _ (by simp) (hrest.mono (by simp))
  have hcolon : Clear [.symbol '('] (.symbol ':' :: (f.type.tokens ++
      (f.directives.flatMap Directive.tokens ++ rest))) := clear_cons (by simp) _
  unfold fieldDefinition FieldDefinition.tokens
  rw [hdefault]
  simp only [List.append_assoc, List.cons_append, defaultTokens, List.nil_append]
  apply (bind_ok reads_description).trans
  apply (bind_ok (name_cons f.name _)).trans
  apply (bind_ok (reads_argumentDefinitions h.arguments _ hcolon)).trans
  apply (bind_ok (symbol_cons ':' _)).trans
  apply (bind_ok (reads_typeExpr h.type _ htype)).trans
  apply (bind_ok (reads_directives h.directives rest (hrest.mono (by simp)))).trans
  rw [h.description.nonBlank?, ← hdefault]
  rfl

/-- A field of an input object is read like `asArgument`. -/
theorem reads_inputField {depth : Nat} {f : FieldDefinition} (h : f.Legible depth)
    (harguments : f.arguments = []) :
    (argumentDefinition depth).Reads f.tokens f.asArgument
      [.symbol '!', .symbol '=', .symbol '@', .symbol '('] := by
  rw [← f.tokens_asArgument harguments]
  exact reads_argumentDefinition h.asArgument

theorem reads_enumValue {depth : Nat} {v : EnumValue} (h : v.Legible depth) :
    (enumValue depth).Reads v.tokens v
      [.symbol '!', .symbol '=', .symbol '@', .symbol '('] := by
  intro rest hrest
  unfold enumValue EnumValue.tokens
  simp only [List.append_assoc, List.cons_append]
  apply (bind_ok reads_description).trans
  apply (bind_ok (name_cons v.name _)).trans
  apply (bind_ok (reads_directives h.directives rest (hrest.mono (by simp)))).trans
  rw [h.description.nonBlank?]
  rfl

/-! ### Places of what is read -/

theorem yields_description : description.Yields fun _ => True := by
  intro ts _ about rest hok
  unfold description at hok
  split at hok
  · cases hok
    exact ⟨trivial, [_], rfl, by simp⟩
  · cases hok
    exact ⟨trivial, [], rfl, List.not_mem_nil⟩

theorem yields_argumentDefinition (depth : Nat) :
    (argumentDefinition depth).Yields (ArgumentDefinition.Placed depth) := by
  unfold argumentDefinition
  refine Yields.bind yields_description fun about _ => ?_
  refine Yields.bind yields_name fun n hn => ?_
  refine Yields.bind (yields_symbol ':') fun _ _ => ?_
  refine Yields.bind (yields_typeExpr depth) fun type htype => ?_
  refine Yields.bind (yields_placedDefault depth) fun given hgiven => ?_
  refine Yields.bind (yields_placedDirectives true depth) fun ds hds => ?_
  exact yields_pure ⟨hn, htype, hgiven, hds⟩

/-- What holds of each member holds of those between brackets. -/
theorem yields_optionalBody {α : Type} {opening closing : Char} {member : Nat → Rule α}
    {P : Nat → α → Prop} (h : ∀ d, (member d).Yields (P d)) (depth : Nat) :
    (optionalBody opening closing member depth).Yields fun as => ∀ a ∈ as, Inside P depth a := by
  unfold optionalBody
  refine Yields.bind (yields_isNext _) fun isOpen _ => ?_
  split
  · cases depth with
    | zero => exact yields_fail
    | succ d =>
        unfold bracketed
        refine Yields.bind (yields_symbol opening) fun _ _ => ?_
        exact (yields_someUntil (h d)).mono fun as has => has.2
  · exact yields_pure (by simp)

theorem yields_fieldDefinition (depth : Nat) :
    (fieldDefinition depth).Yields (FieldDefinition.Placed depth) := by
  unfold fieldDefinition
  refine Yields.bind yields_description fun about _ => ?_
  refine Yields.bind yields_name fun n hn => ?_
  refine Yields.bind (yields_optionalBody yields_argumentDefinition depth) fun as has => ?_
  refine Yields.bind (yields_symbol ':') fun _ _ => ?_
  refine Yields.bind (yields_typeExpr depth) fun type htype => ?_
  refine Yields.bind (yields_placedDirectives true depth) fun ds hds => ?_
  exact yields_pure ⟨hn, has, htype, nofun, hds⟩

theorem yields_enumValue (depth : Nat) : (enumValue depth).Yields (EnumValue.Placed depth) := by
  unfold enumValue
  refine Yields.bind yields_description fun about _ => ?_
  refine Yields.bind yields_name fun n hn => ?_
  refine Yields.bind (yields_placedDirectives true depth) fun ds hds => ?_
  exact yields_pure ⟨hn, hds⟩

end Grammar

end QueryBindings

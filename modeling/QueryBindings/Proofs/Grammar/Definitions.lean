import QueryBindings.Proofs.Grammar.Members

/-! # Reading definitions

The tokens of types, directives and schema blocks in the order of their canonical layout.  A
definition that is read is `Sound`: names are names, and every part of it fits its place.
Extensions keep definitions sound.  A definition that is legible and has the shape of its kind
(`FillsOwnSlots`, `FieldsFit`) is read from its tokens.

Main statements: `reads_schemaText` (legible entries are read from their tokens) and
`yields_schemaText` (every entry of a text is sound). -/

namespace QueryBindings

open Grammar

def joinedTokens (opening between : Token) : List String → List Token
  | [] => []
  | first :: others => opening :: .name first :: others.flatMap fun n => [between, .name n]

/-! ### Types -/

namespace Definition

/-- What stands between the braces of a definition, by its `kind`. -/
def memberTokens (d : Definition) : List Token :=
  match d.kind with
  | .enum => bodyTokens '\x7b' '\x7d' EnumValue.tokens d.values
  | _ => bodyTokens '\x7b' '\x7d' FieldDefinition.tokens d.fields

/-- What follows the name of a definition. -/
def partTokens (d : Definition) : List Token :=
  joinedTokens (.name "implements") (.symbol '&') d.interfaces ++
    (d.directives.flatMap Directive.tokens ++
      ((if d.kind = .union then joinedTokens (.symbol '=') (.symbol '|') d.members else []) ++
        d.memberTokens))

def tokens (d : Definition) : List Token :=
  descriptionTokens d.description ++ .name d.kind.keyword :: .name d.name :: d.partTokens

/-- Fields are on objects, interfaces and input objects only, values on enums, members on unions,
and interfaces on objects and interfaces. -/
structure FillsOwnSlots (d : Definition) : Prop where
  interfaces : d.kind ≠ .object → d.kind ≠ .interface → d.interfaces = []
  members : d.kind ≠ .union → d.members = []
  fields : d.kind ≠ .object → d.kind ≠ .interface → d.kind ≠ .inputObject → d.fields = []
  values : d.kind ≠ .enum → d.values = []

theorem fillsOwnSlots_bare (kind : TypeKind) (n : String) : (bare kind n).FillsOwnSlots :=
  ⟨fun _ _ => rfl, fun _ => rfl, fun _ _ _ => rfl, fun _ => rfl⟩

/-- Only fields of input objects have default values, and only other fields have arguments. -/
structure FieldsFit (d : Definition) : Prop where
  defaultValue : d.kind ≠ .inputObject → ∀ f ∈ d.fields, f.defaultValue = none
  arguments : d.kind = .inputObject → ∀ f ∈ d.fields, f.arguments = []

/-- All descriptions have `NormalDescription`, and all values read back. -/
structure Normal (d : Definition) : Prop where
  description : NormalDescription d.description
  fields : ∀ f ∈ d.fields, f.Normal
  values : ∀ v ∈ d.values, v.Normal
  directives : ∀ e ∈ d.directives, e.ReadsBack

/-- Every part fits its place, and descriptions have `NormalDescription`. -/
structure Legible (d : Definition) : Prop where
  description : NormalDescription d.description
  name : isName d.name = true
  interfaces : ∀ i ∈ d.interfaces, isName i = true
  members : ∀ m ∈ d.members, isName m = true
  fields : ∀ f ∈ d.fields, Inside FieldDefinition.Legible nestingLimit f
  values : ∀ v ∈ d.values, Inside EnumValue.Legible nestingLimit v
  directives : ∀ e ∈ d.directives, e.Legible true nestingLimit
  builtin : d.builtin = isBuiltinType d.name

/-- Names have `isName`, and every part fits its place. -/
structure Sound (d : Definition) : Prop where
  name : isName d.name = true
  interfaces : ∀ i ∈ d.interfaces, isName i = true
  members : ∀ m ∈ d.members, isName m = true
  fields : ∀ f ∈ d.fields, Inside FieldDefinition.Placed nestingLimit f
  values : ∀ v ∈ d.values, Inside EnumValue.Placed nestingLimit v
  directives : ∀ e ∈ d.directives, e.Placed true nestingLimit
  builtin : d.builtin = isBuiltinType d.name

theorem Sound.legible {d : Definition} (h : d.Sound) (hnormal : d.Normal) : d.Legible where
  description := hnormal.description
  name := h.name
  interfaces := h.interfaces
  members := h.members
  fields := fun f hf => inside_mono (h.fields f hf) fun _ hd hplaced =>
    hplaced.legible (Nat.le_of_lt hd) (hnormal.fields f hf)
  values := fun v hv => inside_mono (h.values v hv) fun _ hd hplaced =>
    hplaced.legible (Nat.le_of_lt hd) (hnormal.values v hv)
  directives := fun e he =>
    (h.directives e he).legible (Nat.le_refl _) (hnormal.directives e he)
  builtin := h.builtin

theorem sound_bare {kind : TypeKind} {n : String} (h : isName n = true) :
    (bare kind n).Sound where
  name := h
  interfaces := nofun
  members := nofun
  fields := nofun
  values := nofun
  directives := nofun
  builtin := rfl

end Definition

/-! ### Directives -/

namespace DirectiveDefinition

/-- The tokens behind the word `directive`. -/
def tailTokens (d : DirectiveDefinition) : List Token :=
  .symbol '@' :: .name d.name :: (bodyTokens '(' ')' ArgumentDefinition.tokens d.arguments ++
    ((if d.repeatable then [.name "repeatable"] else []) ++
      joinedTokens (.name "on") (.symbol '|') d.locations))

def tokens (d : DirectiveDefinition) : List Token :=
  descriptionTokens d.description ++ .name "directive" :: d.tailTokens

/-- As `Definition.Normal`. -/
structure Normal (d : DirectiveDefinition) : Prop where
  description : NormalDescription d.description
  arguments : ∀ a ∈ d.arguments, a.Normal

/-- As `Definition.Legible`; there is a location. -/
structure Legible (d : DirectiveDefinition) : Prop where
  description : NormalDescription d.description
  name : isName d.name = true
  arguments : ∀ a ∈ d.arguments, Inside ArgumentDefinition.Legible nestingLimit a
  locations : ∀ l ∈ d.locations, l ∈ directiveLocations
  located : d.locations ≠ []
  builtin : d.builtin = isBuiltinDirective d.name

/-- As `Definition.Sound`. -/
structure Sound (d : DirectiveDefinition) : Prop where
  name : isName d.name = true
  arguments : ∀ a ∈ d.arguments, Inside ArgumentDefinition.Placed nestingLimit a
  locations : ∀ l ∈ d.locations, l ∈ directiveLocations
  builtin : d.builtin = isBuiltinDirective d.name

theorem Sound.legible {d : DirectiveDefinition} (h : d.Sound) (hnormal : d.Normal)
    (hlocated : d.locations ≠ []) : d.Legible where
  description := hnormal.description
  name := h.name
  arguments := fun a ha => inside_mono (h.arguments a ha) fun _ hd hplaced =>
    hplaced.legible (Nat.le_of_lt hd) (hnormal.arguments a ha)
  locations := h.locations
  located := hlocated
  builtin := h.builtin

end DirectiveDefinition

/-! ### Entries -/

namespace Grammar

namespace RootBlock

/-- The root types that a block names, by kind of operation. -/
def roots (b : RootBlock) : List (OperationKind × String) :=
  b.query.toList.map (.query, ·) ++ (b.mutation.toList.map (.mutation, ·) ++
    b.subscription.toList.map (.subscription, ·))

def rootTokens (root : OperationKind × String) : List Token :=
  [.name root.1.keyword, .symbol ':', .name root.2]

def tokens (b : RootBlock) : List Token :=
  .name "schema" :: .symbol '\x7b' :: (b.roots.flatMap rootTokens ++ [.symbol '\x7d'])

theorem mem_roots {b : RootBlock} {kind : OperationKind} {n : String} :
    (kind, n) ∈ b.roots ↔ match kind with
      | .query => b.query = some n
      | .mutation => b.mutation = some n
      | .subscription => b.subscription = some n := by
  unfold roots
  cases kind <;> simp [eq_comm]

theorem ofEntries?_roots (b : RootBlock) :
    ofEntries? (b.roots.map fun r => (r.1.keyword, r.2)) ⟨none, none, none⟩ = some b := by
  obtain ⟨query, mutation, subscription⟩ := b
  cases query <;> cases mutation <;> cases subscription <;> rfl

end RootBlock

namespace SchemaEntry

def tokens : SchemaEntry → List Token
  | roots b => b.tokens
  | type d => d.tokens
  | directive d => d.tokens
  | extension d => .name "extend" :: d.tokens

/-- An entry that may be laid out: not an extension, and legible in the shape of its kind. -/
def Legible : SchemaEntry → Prop
  | roots b => ∀ r ∈ b.roots, isName r.2 = true
  | type d => d.Legible ∧ d.FillsOwnSlots ∧ d.FieldsFit
  | directive d => d.Legible
  | extension _ => False

/-- What holds of every entry that is read. -/
def Sound : SchemaEntry → Prop
  | roots b => ∀ r ∈ b.roots, isName r.2 = true
  | type d => d.Sound
  | directive d => d.Sound
  | extension d => d.Sound

end SchemaEntry

open Rule

/-! ### Reading parts -/

theorem reads_name (n : String) : name.Reads [.name n] n [] := fun rest _ => name_cons n rest

theorem reads_separatedNames {separator : Char} (first : String) (others : List String) :
    (separatedNames separator).Reads
      (.name first :: others.flatMap fun n => [.symbol separator, .name n]) (first :: others)
      [.symbol separator] := by
  intro rest hrest
  have hothers : (manyAfter separator name).Reads
      (others.flatMap fun n => [.symbol separator, .name n]) (others.map id) [.symbol separator] :=
    reads_manyAfter (fun n _ => reads_name n) List.not_mem_nil
  rw [List.map_id] at hothers
  unfold separatedNames
  rw [List.cons_append]
  apply (bind_ok (option_of_clear (clear_cons (by simp) _))).trans
  apply (bind_ok (name_cons first _)).trans
  exact bind_ok (hothers rest hrest)

theorem reads_joinedNames {opening : Token} {separator : Char} (names : List String) :
    Reads (do if ← option opening then separatedNames separator else return [])
      (joinedTokens opening (.symbol separator) names) names [opening, .symbol separator] := by
  intro rest hrest
  cases names with
  | nil => exact bind_ok (option_of_clear (hrest.mono (by simp)))
  | cons first others =>
      apply (bind_ok (option_cons opening _)).trans
      exact reads_separatedNames first others rest (hrest.mono (by simp))

theorem reads_implemented (names : List String) :
    implemented.Reads (joinedTokens (.name "implements") (.symbol '&') names) names
      [.name "implements", .symbol '&'] := reads_joinedNames names

theorem reads_unionMembers (names : List String) :
    unionMembers.Reads (joinedTokens (.symbol '=') (.symbol '|') names) names
      [.symbol '=', .symbol '|'] := reads_joinedNames names

theorem clear_joinedTokens {barred rest : List Token} {opening between : Token}
    (names : List String) (h : opening ∉ barred) (hrest : Clear barred rest) :
    Clear barred (joinedTokens opening between names ++ rest) := by
  cases names with
  | nil => exact hrest
  | cons first others => exact clear_cons h _

theorem clear_bodyTokens {α : Type} {barred rest : List Token} {opening closing : Char}
    {tokens : α → List Token} (members : List α) (h : .symbol opening ∉ barred)
    (hrest : Clear barred rest) :
    Clear barred (bodyTokens opening closing tokens members ++ rest) := by
  unfold bodyTokens
  split
  · exact hrest
  · exact clear_cons h _

theorem reads_fields {depth : Nat} {fields : List FieldDefinition}
    (h : ∀ f ∈ fields, Inside FieldDefinition.Legible depth f)
    (hdefault : ∀ f ∈ fields, f.defaultValue = none) :
    (optionalBody '\x7b' '\x7d' fieldDefinition depth).Reads
      (bodyTokens '\x7b' '\x7d' FieldDefinition.tokens fields) fields [.symbol '\x7b'] := by
  have hbody : (optionalBody '\x7b' '\x7d' fieldDefinition depth).Reads
      (bodyTokens '\x7b' '\x7d' FieldDefinition.tokens fields) (fields.map id) [.symbol '\x7b'] :=
    reads_optionalBody h (fun _ f hf hlegible => reads_fieldDefinition hlegible (hdefault f hf))
      (fun f _ => begins_described f.description f.name _) (by decide)
  rw [List.map_id] at hbody
  exact hbody

theorem reads_inputFields {depth : Nat} {fields : List FieldDefinition}
    (h : ∀ f ∈ fields, Inside FieldDefinition.Legible depth f)
    (harguments : ∀ f ∈ fields, f.arguments = []) :
    (optionalBody '\x7b' '\x7d' argumentDefinition depth).Reads
      (bodyTokens '\x7b' '\x7d' FieldDefinition.tokens fields)
      (fields.map FieldDefinition.asArgument) [.symbol '\x7b'] :=
  reads_optionalBody h (fun _ f hf hlegible => reads_inputField hlegible (harguments f hf))
    (fun f _ => begins_described f.description f.name _) (by decide)

theorem reads_enumValues {depth : Nat} {values : List EnumValue}
    (h : ∀ v ∈ values, Inside EnumValue.Legible depth v) :
    (optionalBody '\x7b' '\x7d' enumValue depth).Reads
      (bodyTokens '\x7b' '\x7d' EnumValue.tokens values) values [.symbol '\x7b'] := by
  have hbody : (optionalBody '\x7b' '\x7d' enumValue depth).Reads
      (bodyTokens '\x7b' '\x7d' EnumValue.tokens values) (values.map id) [.symbol '\x7b'] :=
    reads_optionalBody h (fun _ _ _ => reads_enumValue)
      (fun v _ => begins_described v.description v.name _) (by decide)
  rw [List.map_id] at hbody
  exact hbody

/-! ### Reading legible entries -/

/-- The tokens with which the last part of an entry could go on. -/
def entryBarred : List Token :=
  [.name "implements", .symbol '@', .symbol '(', .symbol '=', .symbol '\x7b', .symbol '&',
    .symbol '|']

theorem bare_with_slots {d : Definition} (h : d.Legible) :
    { Definition.bare d.kind d.name with
      interfaces := d.interfaces
      members := d.members
      fields := d.fields
      values := d.values
      directives := d.directives } = { d with description := none } := by
  unfold Definition.bare
  rw [← h.builtin]

theorem reads_scalarParts {d : Definition} (h : d.Legible) (hslots : d.FillsOwnSlots)
    (hkind : d.kind = .scalar) :
    (typeParts .scalar d.name).Reads d.partTokens { d with description := none } entryBarred := by
  intro rest hrest
  have hinterfaces := hslots.interfaces (by simp [hkind]) (by simp [hkind])
  have hmembers := hslots.members (by simp [hkind])
  have hfields := hslots.fields (by simp [hkind]) (by simp [hkind]) (by simp [hkind])
  have hvalues := hslots.values (by simp [hkind])
  have htokens : d.partTokens = d.directives.flatMap Directive.tokens := by
    simp [Definition.partTokens, Definition.memberTokens, hkind, hinterfaces, hfields,
      joinedTokens, bodyTokens]
  have hdirectives := reads_directives h.directives rest (hrest.mono (by simp [entryBarred]))
  rw [htokens, ← bare_with_slots h, hkind, hinterfaces, hmembers, hfields, hvalues]
  exact bind_ok hdirectives

theorem reads_fieldedParts {d : Definition} (h : d.Legible) (hslots : d.FillsOwnSlots)
    (hfit : d.FieldsFit) (hkind : d.kind = .object ∨ d.kind = .interface) :
    (typeParts d.kind d.name).Reads d.partTokens { d with description := none } entryBarred := by
  intro rest hrest
  have hunion : d.kind ≠ .union := by rcases hkind with hk | hk <;> simp [hk]
  have henum : d.kind ≠ .enum := by rcases hkind with hk | hk <;> simp [hk]
  have hinput : d.kind ≠ .inputObject := by rcases hkind with hk | hk <;> simp [hk]
  have hmembers := hslots.members hunion
  have hvalues := hslots.values henum
  have htokens : d.partTokens = joinedTokens (.name "implements") (.symbol '&') d.interfaces ++
      (d.directives.flatMap Directive.tokens ++
        bodyTokens '\x7b' '\x7d' FieldDefinition.tokens d.fields) := by
    unfold Definition.partTokens Definition.memberTokens
    rw [if_neg hunion]
    rcases hkind with hk | hk <;> rw [hk] <;> rfl
  have hfields := reads_fields h.fields (hfit.defaultValue hinput) rest
    (hrest.mono (by simp [entryBarred]))
  have hdirectives := reads_directives h.directives
    (bodyTokens '\x7b' '\x7d' FieldDefinition.tokens d.fields ++ rest)
    (clear_bodyTokens _ (by simp) (hrest.mono (by simp [entryBarred])))
  have hinterfaces := reads_implemented d.interfaces (d.directives.flatMap Directive.tokens ++
      (bodyTokens '\x7b' '\x7d' FieldDefinition.tokens d.fields ++ rest))
    (clear_directiveTokens _ (by simp) (clear_bodyTokens _ (by simp)
      (hrest.mono (by simp [entryBarred]))))
  rw [htokens, ← bare_with_slots h, hmembers, hvalues]
  simp only [List.append_assoc]
  rcases hkind with hk | hk
  all_goals
    rw [hk]
    apply (bind_ok hinterfaces).trans
    apply (bind_ok hdirectives).trans
    exact bind_ok hfields

theorem reads_unionParts {d : Definition} (h : d.Legible) (hslots : d.FillsOwnSlots)
    (hkind : d.kind = .union) :
    (typeParts .union d.name).Reads d.partTokens { d with description := none } entryBarred := by
  intro rest hrest
  have hinterfaces := hslots.interfaces (by simp [hkind]) (by simp [hkind])
  have hfields := hslots.fields (by simp [hkind]) (by simp [hkind]) (by simp [hkind])
  have hvalues := hslots.values (by simp [hkind])
  have htokens : d.partTokens = d.directives.flatMap Directive.tokens ++
      joinedTokens (.symbol '=') (.symbol '|') d.members := by
    simp [Definition.partTokens, Definition.memberTokens, hkind, hinterfaces, hfields,
      joinedTokens, bodyTokens]
  have hmembers := reads_unionMembers d.members rest (hrest.mono (by simp [entryBarred]))
  have hdirectives := reads_directives h.directives
    (joinedTokens (.symbol '=') (.symbol '|') d.members ++ rest)
    (clear_joinedTokens _ (by simp) (hrest.mono (by simp [entryBarred])))
  rw [htokens, ← bare_with_slots h, hkind, hinterfaces, hfields, hvalues, List.append_assoc]
  apply (bind_ok hdirectives).trans
  exact bind_ok hmembers

theorem reads_enumParts {d : Definition} (h : d.Legible) (hslots : d.FillsOwnSlots)
    (hkind : d.kind = .enum) :
    (typeParts .enum d.name).Reads d.partTokens { d with description := none } entryBarred := by
  intro rest hrest
  have hinterfaces := hslots.interfaces (by simp [hkind]) (by simp [hkind])
  have hmembers := hslots.members (by simp [hkind])
  have hfields := hslots.fields (by simp [hkind]) (by simp [hkind]) (by simp [hkind])
  have htokens : d.partTokens = d.directives.flatMap Directive.tokens ++
      bodyTokens '\x7b' '\x7d' EnumValue.tokens d.values := by
    simp [Definition.partTokens, Definition.memberTokens, hkind, hinterfaces, joinedTokens]
  have hvalues := reads_enumValues h.values rest (hrest.mono (by simp [entryBarred]))
  have hdirectives := reads_directives h.directives
    (bodyTokens '\x7b' '\x7d' EnumValue.tokens d.values ++ rest)
    (clear_bodyTokens _ (by simp) (hrest.mono (by simp [entryBarred])))
  rw [htokens, ← bare_with_slots h, hkind, hinterfaces, hmembers, hfields, List.append_assoc]
  apply (bind_ok hdirectives).trans
  exact bind_ok hvalues

theorem reads_inputParts {d : Definition} (h : d.Legible) (hslots : d.FillsOwnSlots)
    (hfit : d.FieldsFit) (hkind : d.kind = .inputObject) :
    (typeParts .inputObject d.name).Reads d.partTokens { d with description := none }
      entryBarred := by
  intro rest hrest
  have hinterfaces := hslots.interfaces (by simp [hkind]) (by simp [hkind])
  have hmembers := hslots.members (by simp [hkind])
  have hvalues := hslots.values (by simp [hkind])
  have htokens : d.partTokens = d.directives.flatMap Directive.tokens ++
      bodyTokens '\x7b' '\x7d' FieldDefinition.tokens d.fields := by
    simp [Definition.partTokens, Definition.memberTokens, hkind, hinterfaces, joinedTokens]
  have harguments := hfit.arguments hkind
  have hfields := reads_inputFields h.fields harguments rest (hrest.mono (by simp [entryBarred]))
  have hdirectives := reads_directives h.directives
    (bodyTokens '\x7b' '\x7d' FieldDefinition.tokens d.fields ++ rest)
    (clear_bodyTokens _ (by simp) (hrest.mono (by simp [entryBarred])))
  have hback : (d.fields.map FieldDefinition.asArgument).map ArgumentDefinition.toField =
      d.fields := by
    rw [List.map_map, List.map_congr_left fun f hf => f.toField_asArgument (harguments f hf)]
    exact List.map_id'' (fun _ => rfl) d.fields
  rw [htokens, ← bare_with_slots h, hkind, hinterfaces, hmembers, hvalues, List.append_assoc]
  apply (bind_ok hdirectives).trans
  apply (bind_ok hfields).trans
  simp only [hback]
  rfl

theorem reads_typeParts {d : Definition} (h : d.Legible) (hslots : d.FillsOwnSlots)
    (hfit : d.FieldsFit) :
    (typeParts d.kind d.name).Reads d.partTokens { d with description := none } entryBarred := by
  have hparts : ∀ kind, d.kind = kind →
      (typeParts kind d.name).Reads d.partTokens { d with description := none } entryBarred := by
    intro kind hkind
    cases kind with
    | scalar => exact reads_scalarParts h hslots hkind
    | object => exact hkind ▸ reads_fieldedParts h hslots hfit (.inl hkind)
    | interface => exact hkind ▸ reads_fieldedParts h hslots hfit (.inr hkind)
    | union => exact reads_unionParts h hslots hkind
    | enum => exact reads_enumParts h hslots hkind
    | inputObject => exact reads_inputParts h hslots hfit hkind
  exact hparts d.kind rfl

theorem typeKeyword_cons (kind : TypeKind) (rest : List Token) :
    typeKeyword (.name kind.keyword :: rest) = .ok (kind, rest) := by
  cases kind <;> rfl

theorem reads_type {d : Definition} (h : d.Legible) (hslots : d.FillsOwnSlots)
    (hfit : d.FieldsFit) : describedEntry.Reads d.tokens (.type d) entryBarred := by
  intro rest hrest
  have hword : Clear [.name "directive"] (.name d.kind.keyword :: .name d.name ::
      (d.partTokens ++ rest)) := by
    refine clear_cons ?_ _
    cases d.kind <;> decide
  unfold describedEntry Definition.tokens
  simp only [List.append_assoc, List.cons_append]
  apply (bind_ok reads_description).trans
  apply (bind_ok (option_of_clear hword)).trans
  apply (bind_ok (typeKeyword_cons d.kind _)).trans
  apply (bind_ok (name_cons d.name _)).trans
  apply (bind_ok (reads_typeParts h hslots hfit rest hrest)).trans
  rw [h.description.nonBlank?]
  rfl

theorem directiveLocation_cons {l : String} (h : l ∈ directiveLocations) (rest : List Token) :
    directiveLocation (.name l :: rest) = .ok (l, rest) := by
  unfold directiveLocation
  exact if_pos (List.contains_iff_mem.mpr h)

theorem reads_locations {first : String} {others : List String}
    (h : ∀ l ∈ first :: others, l ∈ directiveLocations) :
    locations.Reads (.name first :: others.flatMap fun n => [.symbol '|', .name n])
      (first :: others) [.symbol '|'] := by
  intro rest hrest
  have hothers : (manyAfter '|' directiveLocation).Reads
      (others.flatMap fun n => [.symbol '|', .name n]) (others.map id) [.symbol '|'] :=
    reads_manyAfter (fun n hn rest _ => directiveLocation_cons
      (h n (List.mem_cons_of_mem first hn)) rest) List.not_mem_nil
  rw [List.map_id] at hothers
  unfold locations
  rw [List.cons_append]
  apply (bind_ok (option_of_clear (clear_cons (by simp) _))).trans
  apply (bind_ok (peek_of_eq_cons rfl)).trans
  apply (bind_ok (directiveLocation_cons (h first List.mem_cons_self) _)).trans
  exact bind_ok (hothers rest hrest)

theorem reads_repeatable (repeatable : Bool) :
    (option (.name "repeatable")).Reads (if repeatable then [.name "repeatable"] else [])
      repeatable [.name "repeatable"] := by
  intro rest hrest
  cases repeatable with
  | true => exact option_cons _ rest
  | false => exact option_of_clear hrest

theorem reads_directive {d : DirectiveDefinition} (h : d.Legible) :
    describedEntry.Reads d.tokens (.directive d) entryBarred := by
  intro rest hrest
  obtain ⟨first, others, hlocations⟩ := List.exists_cons_of_ne_nil h.located
  have hplaces := h.locations
  rw [hlocations] at hplaces
  have hread := reads_locations hplaces rest (hrest.mono (by simp [entryBarred]))
  have hrepeatable := reads_repeatable d.repeatable (.name "on" :: .name first ::
    (others.flatMap (fun n => [.symbol '|', .name n]) ++ rest)) (clear_cons (by decide) _)
  have harguments := reads_argumentDefinitions h.arguments
    ((if d.repeatable then [.name "repeatable"] else []) ++ .name "on" :: .name first ::
      (others.flatMap (fun n => [.symbol '|', .name n]) ++ rest)) (by
        cases d.repeatable <;> exact clear_cons (by simp) _)
  unfold describedEntry DirectiveDefinition.tokens DirectiveDefinition.tailTokens
  rw [hlocations]
  simp only [joinedTokens, List.append_assoc, List.cons_append]
  apply (bind_ok reads_description).trans
  apply (bind_ok (option_cons _ _)).trans
  refine (bind_ok (a := d) ?_).trans rfl
  apply (bind_ok (symbol_cons '@' _)).trans
  apply (bind_ok (name_cons d.name _)).trans
  apply (bind_ok harguments).trans
  apply (bind_ok hrepeatable).trans
  apply (bind_ok (keyword_cons "on" _)).trans
  apply (bind_ok hread).trans
  rw [h.description.nonBlank?, ← h.builtin, ← hlocations]
  rfl

theorem reads_rootEntry (root : OperationKind × String) :
    rootEntry.Reads (RootBlock.rootTokens root) (root.1.keyword, root.2) [] := by
  intro rest _
  apply (bind_ok (name_cons root.1.keyword _)).trans
  apply (bind_ok (symbol_cons ':' _)).trans
  exact bind_ok (name_cons root.2 _)

theorem reads_schemaBlock (b : RootBlock) : schemaBlock.Reads b.tokens (.roots b) [] := by
  intro rest _
  have hclear : Clear [.symbol '@', .symbol '('] (.symbol '\x7b' ::
      (b.roots.flatMap RootBlock.rootTokens ++ .symbol '\x7d' :: rest)) := clear_cons (by simp) _
  have hnone : (directives true nestingLimit).Reads ([].flatMap Directive.tokens) [] _ :=
    reads_directives nofun
  have hdirectives := hnone _ hclear
  have hentries : (manyUntil '\x7d' rootEntry).Reads
      (b.roots.flatMap RootBlock.rootTokens ++ [.symbol '\x7d'])
      (b.roots.map fun r => (r.1.keyword, r.2)) [] :=
    reads_manyUntil (fun r _ => ⟨.name r.1.keyword, _, rfl, by simp, by simp⟩)
      (fun r _ => reads_rootEntry r) (by simp)
  have hread := hentries rest (clear_nil rest)
  rw [List.append_assoc] at hread
  have hbraces : bracketed '\x7b' (fun _ => manyUntil '\x7d' rootEntry) nestingLimit
      (.symbol '\x7b' :: (b.roots.flatMap RootBlock.rootTokens ++ .symbol '\x7d' :: rest)) =
      .ok (b.roots.map fun r => (r.1.keyword, r.2), rest) :=
    (bind_ok (symbol_cons '\x7b' _)).trans hread
  unfold schemaBlock RootBlock.tokens
  simp only [List.append_assoc, List.cons_append, List.nil_append]
  apply (bind_ok (a := .name "schema" :: _) rfl).trans
  apply (bind_ok (keyword_cons "schema" _)).trans
  apply (bind_ok hdirectives).trans
  apply (bind_ok hbraces).trans
  rw [b.ofEntries?_roots]
  rfl

/-- Behind a description, and before a word that is neither, there is no block and no extension. -/
theorem schemaEntry_of_described {about : Option String} {word : String} {more : List Token}
    (hschema : word ≠ "schema") (hextend : word ≠ "extend") :
    schemaEntry (descriptionTokens about ++ .name word :: more) =
      describedEntry (descriptionTokens about ++ .name word :: more) := by
  have hclear : ∀ other, word ≠ other →
      Clear [.name other] (descriptionTokens about ++ .name word :: more) := by
    intro other hne
    cases about with
    | none => exact clear_cons (by simpa using hne) _
    | some text => exact clear_cons (by simp) _
  unfold schemaEntry
  apply (bind_ok (isNext_of_clear (hclear "schema" hschema))).trans
  exact bind_ok (isNext_of_clear (hclear "extend" hextend))

/-- An entry that is `Legible` is read from its tokens. -/
theorem reads_schemaEntry {e : SchemaEntry} (h : e.Legible) :
    schemaEntry.Reads e.tokens e entryBarred := by
  intro rest hrest
  cases e with
  | roots b =>
      apply (bind_ok (isNext_cons (.name "schema") _)).trans
      exact reads_schemaBlock b rest (clear_nil rest)
  | type d =>
      obtain ⟨hlegible, hslots, hfit⟩ := h
      have hread := reads_type hlegible hslots hfit rest hrest
      have hne : d.kind.keyword ≠ "schema" ∧ d.kind.keyword ≠ "extend" := by
        cases d.kind <;> decide
      unfold SchemaEntry.tokens
      unfold Definition.tokens at hread ⊢
      rw [List.append_assoc] at hread ⊢
      rw [List.cons_append] at hread ⊢
      rw [schemaEntry_of_described hne.1 hne.2]
      exact hread
  | directive d =>
      have hread := reads_directive h rest hrest
      unfold SchemaEntry.tokens
      unfold DirectiveDefinition.tokens at hread ⊢
      rw [List.append_assoc] at hread ⊢
      rw [List.cons_append] at hread ⊢
      rw [schemaEntry_of_described (by decide) (by decide)]
      exact hread
  | extension d => exact h.elim

theorem begins_entry {e : SchemaEntry} (h : e.Legible) :
    ∃ t ts, e.tokens = t :: ts ∧ t ∉ entryBarred := by
  have hdescribed : ∀ about word more, word ≠ "implements" →
      ∃ t ts, descriptionTokens about ++ .name word :: more = t :: ts ∧ t ∉ entryBarred := by
    intro about word more hword
    cases about with
    | none => exact ⟨.name word, more, rfl, by simp [entryBarred, hword]⟩
    | some text => exact ⟨.string text, _, rfl, by simp [entryBarred]⟩
  cases e with
  | roots b => exact ⟨.name "schema", _, rfl, by simp [entryBarred]⟩
  | type d => exact hdescribed d.description d.kind.keyword _ (by cases d.kind <;> decide)
  | directive d => exact hdescribed d.description "directive" _ (by decide)
  | extension d => exact h.elim

/-- Entries that are `Legible`, of which there is at least one, are read from their tokens. -/
theorem reads_schemaText {entries : List SchemaEntry} (hne : entries ≠ [])
    (h : ∀ e ∈ entries, e.Legible) :
    schemaText (entries.flatMap SchemaEntry.tokens) = .ok (entries, []) := by
  obtain ⟨first, others, rfl⟩ := List.exists_cons_of_ne_nil hne
  have hread : ∀ e ∈ others, schemaEntry.Reads e.tokens (id e) entryBarred :=
    fun e he => reads_schemaEntry (h e (List.mem_cons_of_mem first he))
  have hstart : ∀ e ∈ others, ∃ t ts, e.tokens = t :: ts ∧ true = true ∧ t ∉ entryBarred := by
    intro e he
    obtain ⟨t, ts, htokens, ht⟩ := begins_entry (h e (List.mem_cons_of_mem first he))
    exact ⟨t, ts, htokens, rfl, ht⟩
  have hmany : many (fun _ => true) schemaEntry (others.flatMap SchemaEntry.tokens ++ []) =
      .ok (others.map id, []) := reads_many hstart hread nofun (clear_end entryBarred)
  rw [List.map_id, List.append_nil] at hmany
  have hnext : Clear entryBarred (others.flatMap SchemaEntry.tokens) := by
    cases others with
    | nil => exact clear_end entryBarred
    | cons next more =>
        obtain ⟨t, ts, htokens, -, ht⟩ := hstart next List.mem_cons_self
        rw [List.flatMap_cons, htokens]
        exact clear_cons ht _
  rw [List.flatMap_cons]
  unfold schemaText
  apply (bind_ok (reads_schemaEntry (h first List.mem_cons_self) _ hnext)).trans
  exact bind_ok hmany

/-! ### Soundness of what is read -/

theorem yields_separatedNames (separator : Char) :
    (separatedNames separator).Yields fun ns => ∀ n ∈ ns, isName n = true := by
  unfold separatedNames
  refine Yields.bind (yields_option (by simp)) fun _ _ => ?_
  refine Yields.bind yields_name fun first hfirst => ?_
  refine Yields.bind (yields_manyAfter yields_name) fun others hothers => ?_
  exact yields_pure (List.forall_mem_cons.mpr ⟨hfirst, hothers⟩)

theorem yields_joinedNames {opening : Token} (h : opening ≠ .unreadable) (separator : Char) :
    Yields (do if ← option opening then separatedNames separator else return [])
      fun ns => ∀ n ∈ ns, isName n = true := by
  refine Yields.bind (yields_option h) fun _ _ => ?_
  split
  · exact yields_separatedNames separator
  · exact yields_pure (by simp)

theorem yields_implemented : implemented.Yields fun ns => ∀ n ∈ ns, isName n = true :=
  yields_joinedNames (by simp) '&'

theorem yields_unionMembers : unionMembers.Yields fun ns => ∀ n ∈ ns, isName n = true :=
  yields_joinedNames (by simp) '|'

theorem yields_inputFields :
    (optionalBody '\x7b' '\x7d' argumentDefinition nestingLimit).Yields fun as =>
      ∀ f ∈ as.map ArgumentDefinition.toField, Inside FieldDefinition.Placed nestingLimit f := by
  refine (yields_optionalBody yields_argumentDefinition nestingLimit).mono fun as has => ?_
  intro f hf
  obtain ⟨a, ha, rfl⟩ := List.mem_map.mp hf
  exact inside_mono (has a ha) fun _ _ hplaced => hplaced.toField

theorem yields_typeParts {kind : TypeKind} {n : String} (hn : isName n = true) :
    (typeParts kind n).Yields Definition.Sound := by
  have hbare : (Definition.bare kind n).Sound := Definition.sound_bare hn
  have hdirectives := yields_placedDirectives true nestingLimit
  unfold typeParts
  cases kind with
  | scalar =>
      refine Yields.bind hdirectives fun ds hds => ?_
      exact yields_pure { hbare with directives := hds }
  | object | interface =>
      refine Yields.bind yields_implemented fun ns hns => ?_
      refine Yields.bind hdirectives fun ds hds => ?_
      refine Yields.bind (yields_optionalBody yields_fieldDefinition _) fun fs hfs => ?_
      exact yields_pure { hbare with interfaces := hns, directives := hds, fields := hfs }
  | union =>
      refine Yields.bind hdirectives fun ds hds => ?_
      refine Yields.bind yields_unionMembers fun ns hns => ?_
      exact yields_pure { hbare with directives := hds, members := hns }
  | enum =>
      refine Yields.bind hdirectives fun ds hds => ?_
      refine Yields.bind (yields_optionalBody yields_enumValue _) fun vs hvs => ?_
      exact yields_pure { hbare with directives := hds, values := hvs }
  | inputObject =>
      refine Yields.bind hdirectives fun ds hds => ?_
      refine Yields.bind yields_inputFields fun fs hfs => ?_
      exact yields_pure { hbare with directives := hds, fields := hfs }

theorem yields_typeKeyword : typeKeyword.Yields fun _ => True := by
  intro ts _ kind rest hok
  unfold typeKeyword at hok
  split at hok
  · split at hok
    · cases hok
      exact ⟨trivial, [_], rfl, by simp⟩
    · cases hok
  · cases hok

theorem yields_directiveLocation :
    directiveLocation.Yields fun l => l ∈ directiveLocations := by
  intro ts _ l rest hok
  unfold directiveLocation at hok
  split at hok
  · split at hok
    · rename_i hmem
      cases hok
      exact ⟨List.contains_iff_mem.mp hmem, [_], rfl, by simp⟩
    · cases hok
  · cases hok

theorem yields_locations : locations.Yields fun ls => ∀ l ∈ ls, l ∈ directiveLocations := by
  unfold locations
  refine Yields.bind (yields_option (by simp)) fun _ _ => ?_
  refine Yields.bind yields_peek fun next _ => ?_
  split
  · refine Yields.bind yields_directiveLocation fun first hfirst => ?_
    refine Yields.bind (yields_manyAfter yields_directiveLocation) fun others hothers => ?_
    exact yields_pure (List.forall_mem_cons.mpr ⟨hfirst, hothers⟩)
  · split
    · exact yields_fail
    · exact yields_pure (by simp)

theorem yields_directiveParts (about : Option String) :
    (directiveParts about).Yields DirectiveDefinition.Sound := by
  unfold directiveParts
  refine Yields.bind (yields_symbol '@') fun _ _ => ?_
  refine Yields.bind yields_name fun n hn => ?_
  refine Yields.bind (yields_optionalBody yields_argumentDefinition _) fun as has => ?_
  refine Yields.bind (yields_option (by simp)) fun repeatable _ => ?_
  refine Yields.bind (yields_keyword "on") fun _ _ => ?_
  refine Yields.bind yields_locations fun ls hls => ?_
  exact yields_pure ⟨hn, has, hls, rfl⟩

theorem yields_describedEntry {holds : SchemaEntry → Prop} {parts : Definition → Prop}
    (hparts : ∀ kind n, isName n = true → (typeParts kind n).Yields parts)
    (htype : ∀ d about, parts d → holds (.type { d with description := about }))
    (hdirective : ∀ d : DirectiveDefinition, d.Sound → holds (.directive d)) :
    describedEntry.Yields holds := by
  unfold describedEntry
  refine Yields.bind yields_description fun about _ => ?_
  refine Yields.bind (yields_option (by simp)) fun isDirective _ => ?_
  split
  · refine Yields.bind (yields_directiveParts about) fun d hd => ?_
    exact yields_pure (hdirective d hd)
  · refine Yields.bind yields_typeKeyword fun kind _ => ?_
    refine Yields.bind yields_name fun n hn => ?_
    refine Yields.bind (hparts kind n hn) fun d hd => ?_
    exact yields_pure (htype d _ hd)

theorem yields_rootEntry : rootEntry.Yields fun e => isName e.2 = true := by
  unfold rootEntry
  refine Yields.bind yields_name fun word _ => ?_
  refine Yields.bind (yields_symbol ':') fun _ _ => ?_
  exact Yields.bind yields_name fun n hn => yields_pure hn

theorem RootBlock.mem_roots_ofEntries? {entries : List (String × String)} {start b : RootBlock}
    (h : ofEntries? entries start = some b) {kind : OperationKind} {n : String}
    (hn : (kind, n) ∈ b.roots) : (kind, n) ∈ start.roots ∨ n ∈ entries.map Prod.snd := by
  fun_induction ofEntries? entries start with
  | case1 start =>
      cases h
      exact .inl hn
  | case2 word type rest start _ ih | case3 word type rest start _ _ ih
  | case4 word type rest start _ _ _ ih =>
      rcases ih h with hold | hnew
      · cases kind <;> simp_all [mem_roots]
      · exact .inr (List.mem_cons_of_mem type hnew)
  | case5 => cases h

theorem yields_schemaBlock :
    schemaBlock.Yields fun e => ∃ b, e = .roots b ∧ (SchemaEntry.roots b).Sound := by
  unfold schemaBlock
  refine Yields.bind yields_get fun start _ => ?_
  refine Yields.bind (yields_keyword "schema") fun _ _ => ?_
  refine Yields.bind (yields_placedDirectives true nestingLimit) fun _ _ => ?_
  have hentries : (bracketed '\x7b' (fun _ => manyUntil '\x7d' rootEntry) nestingLimit).Yields
      fun es => ∀ e ∈ es, isName e.2 = true :=
    Yields.bind (yields_symbol '\x7b') fun _ _ => yields_manyUntil yields_rootEntry
  refine Yields.bind hentries fun es hes => ?_
  split
  · rename_i b hb
    refine yields_pure ⟨b, rfl, fun root hroot => ?_⟩
    rcases RootBlock.mem_roots_ofEntries? hb hroot with hold | hnew
    · cases hold
    · obtain ⟨e, he, heq⟩ := List.mem_map.mp hnew
      exact heq ▸ hes e he
  · exact yields_throw start

theorem yields_typeExtension {holds : SchemaEntry → Prop} {parts : Definition → Prop}
    (hparts : ∀ kind n, isName n = true → (typeParts kind n).Yields parts)
    (hextension : ∀ d, parts d → holds (.extension d)) : typeExtension.Yields holds := by
  unfold typeExtension
  refine Yields.bind (yields_keyword "extend") fun _ _ => ?_
  refine Yields.bind yields_get fun start _ => ?_
  refine Yields.bind yields_typeKeyword fun kind _ => ?_
  refine Yields.bind yields_name fun n hn => ?_
  refine Yields.bind (hparts kind n hn) fun d hd => ?_
  split
  · exact yields_pure (hextension d hd)
  · exact yields_throw start

theorem yields_schemaText_of {holds : SchemaEntry → Prop} (hblock : schemaBlock.Yields holds)
    (hextension : typeExtension.Yields holds) (hdescribed : describedEntry.Yields holds) :
    schemaText.Yields fun es => ∀ e ∈ es, holds e := by
  have hentry : schemaEntry.Yields holds := by
    unfold schemaEntry
    refine Yields.bind (yields_isNext _) fun _ _ => ?_
    split
    · exact hblock
    · refine Yields.bind (yields_isNext _) fun _ _ => ?_
      split
      · exact hextension
      · exact hdescribed
  unfold schemaText
  refine Yields.bind hentry fun first hfirst => ?_
  refine Yields.bind (yields_many hentry) fun others hothers => ?_
  exact yields_pure (List.forall_mem_cons.mpr ⟨hfirst, hothers⟩)

/-- Every entry that `schemaText` reads is `Sound`. -/
theorem yields_schemaText : schemaText.Yields fun es => ∀ e ∈ es, e.Sound :=
  yields_schemaText_of (yields_schemaBlock.mono fun _ ⟨_, he, hb⟩ => he ▸ hb)
    (yields_typeExtension (fun _ _ => yields_typeParts) fun _ hd => hd)
    (yields_describedEntry (fun _ _ => yields_typeParts) (fun _ _ hd => { hd with })
      fun _ hd => hd)

/-! ### Slots of what is read -/

/-- What follows the name of a type fills the slots of its kind only. -/
theorem fillsOwnSlots_typeParts {kind : TypeKind} {n : String} :
    (typeParts kind n).Yields Definition.FillsOwnSlots := by
  have hbare := Definition.fillsOwnSlots_bare kind n
  have hdirectives := yields_placedDirectives true nestingLimit
  unfold typeParts
  cases kind with
  | scalar =>
      refine Yields.bind hdirectives fun ds _ => ?_
      exact yields_pure { hbare with }
  | object =>
      refine Yields.bind yields_implemented fun ns _ => ?_
      refine Yields.bind hdirectives fun ds _ => ?_
      refine Yields.bind (yields_optionalBody yields_fieldDefinition _) fun fs _ => ?_
      exact yields_pure { hbare with
        interfaces := fun hobject _ => absurd rfl hobject
        fields := fun hobject _ _ => absurd rfl hobject }
  | interface =>
      refine Yields.bind yields_implemented fun ns _ => ?_
      refine Yields.bind hdirectives fun ds _ => ?_
      refine Yields.bind (yields_optionalBody yields_fieldDefinition _) fun fs _ => ?_
      exact yields_pure { hbare with
        interfaces := fun _ hinterface => absurd rfl hinterface
        fields := fun _ hinterface _ => absurd rfl hinterface }
  | union =>
      refine Yields.bind hdirectives fun ds _ => ?_
      refine Yields.bind yields_unionMembers fun ns _ => ?_
      exact yields_pure { hbare with members := fun hunion => absurd rfl hunion }
  | enum =>
      refine Yields.bind hdirectives fun ds _ => ?_
      refine Yields.bind (yields_optionalBody yields_enumValue _) fun vs _ => ?_
      exact yields_pure { hbare with values := fun henum => absurd rfl henum }
  | inputObject =>
      refine Yields.bind hdirectives fun ds _ => ?_
      refine Yields.bind yields_inputFields fun fs _ => ?_
      exact yields_pure { hbare with fields := fun _ _ hinput => absurd rfl hinput }

/-- A type or an addition to one fills the slots of its own keyword only. -/
def SchemaEntry.FillsOwnSlots : SchemaEntry → Prop
  | type d | extension d => d.FillsOwnSlots
  | roots _ | directive _ => True

theorem fillsOwnSlots_schemaText : schemaText.Yields fun es => ∀ e ∈ es, e.FillsOwnSlots :=
  yields_schemaText_of (yields_schemaBlock.mono fun _ ⟨_, he, _⟩ => he ▸ trivial)
    (yields_typeExtension (fun _ _ _ => fillsOwnSlots_typeParts) fun _ hd => hd)
    (yields_describedEntry (fun _ _ _ => fillsOwnSlots_typeParts) (fun _ _ hd => { hd with })
      fun _ _ => trivial)

end Grammar

end QueryBindings

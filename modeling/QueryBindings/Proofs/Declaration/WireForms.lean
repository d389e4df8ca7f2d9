import QueryBindings.Proofs.Declaration.Items
import QueryBindings.Proofs.Declaration.Paths
import QueryBindings.Proofs.Grammar.Lexing
import QueryBindings.Proofs.NameClosure

/-! # Wire forms

What is sent has the names and the types of the schema, though the source text respells the names
and writes the types in its own terms.  This is read off the text.  A member is called on the wire
what its rename attribute says, or what it is called itself (`sentName?`).  A written type is read
level by level down to its leaf (`TargetType.read?`), and a type of the schema is read off it with
`Option` for what may be null (`TargetType.typeExpr?`).

Main statements: `read?_text` (a written type is read as what was written), `mirrors_member` and
`mirrorsValue_variant` (one member, one variant) and `mirrors_of_source` (a bundle). -/

namespace QueryBindings

/-! ### Reading names -/

/-- What stands between an opening and a closing text. -/
def between? (start stop : String) (cs : List Char) : Option (List Char) :=
  (start.toList.isPrefixOf? cs).bind stop.toList.isSuffixOf?

theorem between?_eq_some_iff {start stop : String} {cs inside : List Char} :
    between? start stop cs = some inside ↔ start.toList ++ (inside ++ stop.toList) = cs := by
  unfold between?
  rw [Option.bind_eq_some_iff]
  simp only [List.isPrefixOf?_eq_some_iff_append_eq, List.isSuffixOf?_eq_some_iff_append_eq]
  constructor
  · rintro ⟨_, rfl, rfl⟩
    rfl
  · rintro rfl
    exact ⟨_, rfl, rfl⟩

theorem between?_wrapped (start inside stop : String) :
    between? start stop (start ++ inside ++ stop).toList = some inside.toList := by
  rw [between?_eq_some_iff, String.toList_append, String.toList_append, List.append_assoc]

/-- The name of a member without the mark `r#` of a raw one. -/
def plainName (ident : String) : String :=
  match "r#".toList.isPrefixOf? ident.toList with
  | some rest => String.ofList rest
  | none => ident

/-- The name that serde sends for a member: that of the `rename` attribute in front of it, or else
its own.  A literal stands for its own text only if there is nothing to escape in it. -/
def sentName? (line ident : String) : Option String :=
  if line = "" then some (plainName ident)
  else
    (between? "    #[serde(rename = \"" "\")]\n" line.toList).bind fun literal =>
      if literal.all fun c => c ≠ '"' ∧ c ≠ '\\' then some (String.ofList literal) else none

theorem plainName_of_isName {name : String} (h : Grammar.isName name = true) :
    plainName name = name := by
  unfold plainName
  split
  · rename_i rest hmark
    have hsign : '#' ∈ name.toList := by
      rw [← List.append_eq_of_isPrefixOf?_eq_some hmark]
      simp
    exact absurd (Grammar.isNamePart_of_mem h '#' hsign) (by decide)
  · rfl

/-- Whatever a member is called in the source text, its GraphQL name is sent. -/
theorem sentName?_renameText {name : String} (h : Grammar.isName name = true) (ident : String) :
    sentName? (renameText name ident) ident = some name := by
  unfold renameText
  split
  · rename_i hsame
    rw [hsame, sentName?, if_pos rfl, plainName_of_isName h]
  · have hbetween := between?_wrapped "    #[serde(rename = \"" name "\")]\n"
    have hliteral : (name.toList.all fun c => c ≠ '"' ∧ c ≠ '\\') = true := by
      refine List.all_eq_true.mpr fun c hc => decide_eq_true ⟨?_, ?_⟩
      · rintro rfl
        exact absurd (Grammar.isNamePart_of_mem h _ hc) (by decide)
      · rintro rfl
        exact absurd (Grammar.isNamePart_of_mem h _ hc) (by decide)
    have hne : "    #[serde(rename = \"" ++ name ++ "\")]\n" ≠ "" := by
      intro hempty
      rw [hempty] at hbetween
      cases hbetween
    rw [sentName?, if_neg hne, hbetween, Option.bind_some, if_pos hliteral, String.ofList_toList]

/-! ### Reading types -/

namespace TargetType

/-- The levels around a leaf, each with the text that opens it. -/
def levels : List (String × (TargetType → TargetType)) :=
  [("Option<", optional), ("Vec<", list), ("Box<", boxed)]

/-- The outermost of the `levels` of a written type, and what is written inside it. -/
def opened? (cs : List Char) : Option ((TargetType → TargetType) × List Char) :=
  levels.findSome? fun (start, wrap) => (between? start ">" cs).map (wrap, ·)

theorem length_lt_of_opened? {cs inside : List Char} {wrap : TargetType → TargetType}
    (h : opened? cs = some (wrap, inside)) : inside.length < cs.length := by
  obtain ⟨⟨start, level⟩, -, hfound⟩ := List.exists_of_findSome?_eq_some h
  obtain ⟨inner, hbetween, hpair⟩ := Option.map_eq_some_iff.mp hfound
  cases hpair
  have hlength := congrArg List.length (between?_eq_some_iff.mp hbetween)
  have hstop : (">" : String).toList.length = 1 := rfl
  rw [List.length_append, List.length_append, hstop] at hlength
  omega

/-- Reads a type as it is written around `leaf`. -/
def read? (leaf cs : List Char) : Option TargetType :=
  if cs = leaf then some (name (String.ofList leaf))
  else
    match _h : opened? cs with
    | some (wrap, inside) => (read? leaf inside).map wrap
    | none => none
termination_by cs.length
decreasing_by exact length_lt_of_opened? _h

section

variable {start : String} {wrap : TargetType → TargetType}

/-- No two `levels` open alike, so the outermost one is found whatever is inside it. -/
theorem opened?_wrapped (h : (start, wrap) ∈ levels) (inside : String) :
    opened? (start ++ inside ++ ">").toList = some (wrap, inside.toList) := by
  have hown := between?_wrapped start inside ">"
  have hopen : (start ++ inside ++ ">").toList = start.toList ++ (inside ++ ">").toList := by
    rw [String.append_assoc, String.toList_append]
  simp only [levels, List.mem_cons, Prod.mk.injEq, List.not_mem_nil, or_false] at h
  unfold opened? levels
  simp only [List.findSome?_cons]
  obtain ⟨rfl, rfl⟩ | ⟨rfl, rfl⟩ | ⟨rfl, rfl⟩ := h
  · rw [hown]
    rfl
  · have hoptional : between? "Option<" ">" ("Vec<" ++ inside ++ ">").toList = none := by
      rw [hopen]
      rfl
    rw [hoptional, hown]
    rfl
  · have hoptional : between? "Option<" ">" ("Box<" ++ inside ++ ">").toList = none := by
      rw [hopen]
      rfl
    have hlist : between? "Vec<" ">" ("Box<" ++ inside ++ ">").toList = none := by
      rw [hopen]
      rfl
    rw [hoptional, hlist, hown]
    rfl

theorem length_leaf_le (t : TargetType) : t.leaf.toList.length ≤ t.text.toList.length := by
  induction t with
  | name text => exact Nat.le_refl _
  | optional inner ih | list inner ih | boxed inner ih =>
      simp only [leaf, text, String.toList_append, List.length_append]
      omega

/-- What stands around a type is longer than the leaf, so `read?` does not take it for the leaf. -/
theorem read?_wrapped (h : (start, wrap) ∈ levels) (inner : TargetType) :
    read? inner.leaf.toList (start ++ inner.text ++ ">").toList =
      (read? inner.leaf.toList inner.text.toList).map wrap := by
  have hopened := opened?_wrapped h inner.text
  have hne : (start ++ inner.text ++ ">").toList ≠ inner.leaf.toList := by
    intro heq
    have hlt := length_lt_of_opened? hopened
    have hle := length_leaf_le inner
    rw [heq] at hlt
    omega
  rw [read?, if_neg hne]
  split
  · rename_i found inside hfound
    rw [hopened] at hfound
    cases hfound
    rfl
  · rename_i hfound
    rw [hopened] at hfound
    cases hfound

end

/-- A written type is read as what was written, even if its leaf is itself like a type. -/
theorem read?_text (t : TargetType) : read? t.leaf.toList t.text.toList = some t := by
  induction t with
  | name text =>
      rw [read?]
      exact (if_pos rfl).trans (congrArg (some ∘ name) String.ofList_toList)
  | optional inner ih =>
      have hlevel : ("Option<", optional) ∈ levels := by simp [levels]
      have hread := read?_wrapped hlevel inner
      rwa [ih] at hread
  | list inner ih =>
      have hlevel : ("Vec<", list) ∈ levels := by simp [levels]
      have hread := read?_wrapped hlevel inner
      rwa [ih] at hread
  | boxed inner ih =>
      have hlevel : ("Box<", boxed) ∈ levels := by simp [levels]
      have hread := read?_wrapped hlevel inner
      rwa [ih] at hread

/-! ### What a type stands for -/

/-- The type expression over `base` that a written type stands for: `Option` may be null, `Vec` is a
list, and `Box` is not seen.  No type expression may be null twice. -/
def typeExpr? (base : String) : TargetType → Option TypeExpr
  | name _ => some (.named base true)
  | list inner => (inner.typeExpr? base).map (.list · true)
  | boxed inner => inner.typeExpr? base
  | optional inner => (inner.typeExpr? base).bind fun t =>
    if t.nonNull then some (t.withNonNull false) else none

def isOptional : TargetType → Bool
  | optional _ => true
  | _ => false

/-- What is put into boxes, at any level. -/
def boxedParts : TargetType → List TargetType
  | name _ => []
  | optional inner | list inner => inner.boxedParts
  | boxed inner => inner :: inner.boxedParts

variable (leaf : String) (isBoxed : Bool)

/-- A written type stands for the type that it is written for, at every level. -/
theorem typeExpr?_ofTypeExpr (t : TypeExpr) :
    (ofTypeExpr leaf isBoxed t).typeExpr? t.baseName = some t := by
  induction t generalizing isBoxed with
  | named n mark => cases isBoxed <;> cases mark <;> rfl
  | list element mark ih =>
      have helement : (list (ofTypeExpr leaf false element)).typeExpr? element.baseName =
          some (.list element true) := by
        rw [typeExpr?, ih, Option.map_some]
      cases mark with
      | true => exact helement
      | false =>
          show ((list (ofTypeExpr leaf false element)).typeExpr? element.baseName).bind _ = _
          rw [helement]
          rfl

theorem isOptional_ofTypeExpr (t : TypeExpr) :
    (ofTypeExpr leaf isBoxed t).isOptional = !t.nonNull := by
  cases t with
  | named n mark => cases isBoxed <;> cases mark <;> rfl
  | list element mark => cases mark <;> rfl

theorem boxedParts_ofTypeExpr (t : TypeExpr) :
    (ofTypeExpr leaf isBoxed t).boxedParts =
      if isBoxed && !t.isList then [name leaf] else [] := by
  induction t generalizing isBoxed with
  | named n mark => cases isBoxed <;> cases mark <;> rfl
  | list element mark ih =>
      have helement : (ofTypeExpr leaf false element).boxedParts = [] := ih false
      rw [TypeExpr.isList, Bool.not_true, Bool.and_false]
      cases mark <;> exact helement

end TargetType

/-! ### Members and variants -/

def skipLine : String := "    #[serde(skip_serializing_if = \"Option::is_none\")]\n"

/-- The text of a member that is sent as `name`, and whose type is `type` over `leaf`, with the
parts `boxes` of it in boxes.  What an introspection answer calls a field without keeping to the
grammar of names may be sent otherwise. -/
inductive Mirrors (about : Option String) (name : String) (type : TypeExpr) (leaf : String)
    (boxes : List TargetType) : String → Prop where
  | intro {line skip written : String} {target : TargetType}
      (hname : Grammar.isName name = true → sentName? line (memberName name) = some name)
      (hskip : skip = if target.isOptional then skipLine else "")
      (hread : TargetType.read? leaf.toList written.toList = some target)
      (htype : target.typeExpr? type.baseName = some type)
      (hboxes : target.boxedParts = boxes) :
      Mirrors about name type leaf boxes
        (commentText "    " about ++ line ++ skip ++ "    pub " ++ memberName name ++ ": " ++
          written ++ ",\n")

/-- The text of a variant that is sent as the value `v` of an enum. -/
inductive MirrorsValue (v : EnumValue) : String → Prop where
  | intro {line : String}
      (hname : Grammar.isName v.name = true → sentName? line (variantName v.name) = some v.name) :
      MirrorsValue v
        (commentText "    " v.description ++ line ++ "    " ++ variantName v.name ++ ",\n")

section

variable (schema : Schema) (options : Options)

/-- The text of a member for the field `f` of an input object. -/
def MirrorsField (f : FieldDefinition) : String → Prop :=
  Mirrors f.description f.name f.type (schema.targetName options f.type.baseName)
    (if schema.hasKind f.type.baseName .inputObject && !f.type.isList then
      [.name (schema.targetName options f.type.baseName)] else [])

/-- The text of a member for the variable `v`. -/
def MirrorsVariable (v : VariableDefinition) : String → Prop :=
  Mirrors none v.name v.type (schema.targetName options v.type.baseName) []

theorem mirrors_member (about : Option String) (name leaf : String) (isBoxed : Bool)
    (type : TypeExpr) :
    Mirrors about name type leaf (if isBoxed && !type.isList then [.name leaf] else [])
      (Member.mk about name (memberName name) (.ofTypeExpr leaf isBoxed type)
        (!type.nonNull)).text := by
  have hread := TargetType.read?_text (.ofTypeExpr leaf isBoxed type)
  rw [leaf_ofTypeExpr_boxed] at hread
  refine .intro (fun h => sentName?_renameText h _) ?_ hread
    (TargetType.typeExpr?_ofTypeExpr leaf isBoxed type)
    (TargetType.boxedParts_ofTypeExpr leaf isBoxed type)
  rw [TargetType.isOptional_ofTypeExpr]
  rfl

theorem mirrorsField_member (f : FieldDefinition) :
    MirrorsField schema options f (f.member schema options .inputObject true).text :=
  mirrors_member _ _ _ _ _

example : (FieldDefinition.member .empty .default .inputObject true
      ⟨"type", none, [], none, .list (.named "Paint" true) false, []⟩).text =
    "    #[serde(rename = \"type\")]\n" ++
    "    #[serde(skip_serializing_if = \"Option::is_none\")]\n" ++
    "    pub r#type: Option<Vec<serde_json::Value>>,\n" := by decide +kernel

theorem mirrorsVariable_member (v : VariableDefinition) :
    MirrorsVariable schema options v (v.member schema options).text :=
  mirrors_member none v.name _ false v.type

theorem mirrorsValue_variant (v : EnumValue) : MirrorsValue v v.variant.text :=
  .intro fun h => sentName?_renameText h _

end

/-! ### Items in the text -/

/-- `item` stands in `text`, after a blank line. -/
def Stands (item text : String) : Prop :=
  ∃ before behind, text = before ++ "\n\n" ++ item ++ behind

/-- A record as it is written, from the texts of its members. -/
def recordText (about : Option String) (name : String) (members : List String) : String :=
  commentText "" about ++ "#[derive(Debug, Clone, Serialize, Deserialize)]\n" ++ "pub struct " ++
    name ++ " \x7b\n" ++ String.join members ++ "\x7d\n\n"

/-- An enumeration as it is written, from the texts of its variants. -/
def enumerationText (about : Option String) (name : String) (variants : List String) : String :=
  commentText "" about ++
    "#[derive(Debug, Clone, Copy, PartialEq, Eq, Hash, Serialize, Deserialize)]\n" ++ "pub enum " ++
    name ++ " \x7b\n" ++ String.join variants ++ "\x7d\n\n"

/-- The item of an operation as it is written, with the record of its variables by name. -/
def operationText (item name request : String) : String :=
  "pub struct " ++ item ++ ";\n\n" ++ "impl gqlcodegen::Operation for " ++ item ++ " \x7b\n" ++
    "    const QUERY: &'static str = " ++ rawString request ++ ";\n" ++
    "    const NAME: &'static str = \"" ++ name ++ "\";\n" ++
    "    type Variables = " ++ (item ++ "Variables") ++ ";\n" ++
    "    type Response = " ++ (item ++ "Response") ++ ";\n" ++ "\x7d\n\n"

theorem Declaration.exists_text_eq (d : Declaration) : ∃ start, d.text = start ++ "\n\n" := by
  cases d with
  | synonym about name target =>
      refine ⟨commentText "" about ++ "pub type " ++ name ++ " = " ++ target ++ ";", ?_⟩
      rw [String.append_assoc]
      rfl
  | enumeration about name variants =>
      refine ⟨commentText "" about ++ enumerationTraits ++ "pub enum " ++ name ++ " \x7b\n" ++
        String.join (variants.map (·.text)) ++ "\x7d", ?_⟩
      rw [String.append_assoc]
      rfl
  | record about name members =>
      refine ⟨commentText "" about ++ recordTraits ++ "pub struct " ++ name ++ " \x7b\n" ++
        String.join (members.map (·.text)) ++ "\x7d", ?_⟩
      rw [String.append_assoc]
      rfl
  | wrapper about name =>
      refine ⟨commentText "" about ++ recordTraits ++ "pub struct " ++ name ++
        "(pub serde_json::Value);", ?_⟩
      rw [String.append_assoc]
      rfl
  | operation name operationName request input response =>
      refine ⟨"pub struct " ++ name ++ ";\n\n" ++ "impl gqlcodegen::Operation for " ++ name ++
        " \x7b\n" ++ "    const QUERY: &'static str = " ++ rawString request ++ ";\n" ++
        "    const NAME: &'static str = \"" ++ operationName ++ "\";\n" ++
        "    type Variables = " ++ input ++ ";\n" ++
        "    type Response = " ++ response ++ ";\n" ++ "\x7d", ?_⟩
      rw [String.append_assoc]
      rfl

theorem exists_declarationsText_eq (declarations : List Declaration) :
    ∃ start, declarationsText declarations = start ++ "\n\n" := by
  unfold declarationsText
  rcases List.eq_nil_or_concat declarations with rfl | ⟨first, last, rfl⟩
  · refine ⟨"//! generated by gqlcodegen, do not edit\n\n" ++
      "#![allow(dead_code, unused_imports, non_camel_case_types, non_snake_case, clippy::all)]" ++
      "\n\n" ++ "use serde::\x7bDeserialize, Serialize\x7d;", ?_⟩
    decide +kernel
  · obtain ⟨start, hstart⟩ := last.exists_text_eq
    refine ⟨preamble ++ String.join (first.map (·.text)) ++ start, ?_⟩
    rw [List.concat_eq_append, List.map_append, String.join_append, List.map_singleton,
      String.join_cons, hstart, String.join_nil, String.append_empty]
    simp only [String.append_assoc]

/-- Every declaration stands in the text of all. -/
theorem stands_of_mem {d : Declaration} {declarations : List Declaration} (h : d ∈ declarations) :
    Stands d.text (declarationsText declarations) := by
  obtain ⟨first, rest, rfl⟩ := List.append_of_mem h
  obtain ⟨start, hstart⟩ := exists_declarationsText_eq first
  refine ⟨start, String.join (rest.map (·.text)), ?_⟩
  rw [← hstart]
  unfold declarationsText
  rw [List.map_append, String.join_append, List.map_cons, String.join_cons]
  simp only [String.append_assoc]

section

variable {declarations : List Declaration} {about : Option String} {name : String}

theorem stands_record {members : List Member} (h : .record about name members ∈ declarations) :
    Stands (recordText about name (members.map Member.text)) (declarationsText declarations) := by
  have hstands := stands_of_mem h
  unfold Declaration.text recordTraits closing at hstands
  unfold recordText
  exact hstands

theorem stands_enumeration {variants : List Variant}
    (h : .enumeration about name variants ∈ declarations) :
    Stands (enumerationText about name (variants.map Variant.text))
      (declarationsText declarations) := by
  have hstands := stands_of_mem h
  unfold Declaration.text enumerationTraits closing at hstands
  unfold enumerationText
  exact hstands

theorem stands_operation {item request : String}
    (h : .operation item name request (item ++ "Variables") (item ++ "Response") ∈ declarations) :
    Stands (operationText item name request) (declarationsText declarations) := by
  have hstands := stands_of_mem h
  unfold Declaration.text closing at hstands
  unfold operationText
  exact hstands

end

/-! ### Bundles -/

/-- What a bundle declares, and writes in `text`, for what is sent: a `recordText` for every input
object in use, with a member for each of its fields; an `enumerationText` for every enum in use,
with a variant for each of its values; and for every operation a `recordText` of its variables, to
which its `operationText` refers. -/
structure MirrorsInput (g : Generation) (options : Options) (text : String)
    (declarations : List Declaration) : Prop where
  inputs : ∀ n ∈ g.referenced.keys, ∀ d, g.schema.type? n = some d → d.kind = .inputObject →
    ∃ members, .record d.description (itemName d.name) members ∈ declarations ∧
      Stands (recordText d.description (itemName d.name) (members.map Member.text)) text ∧
      List.Forall₂ (MirrorsField g.schema options) d.fields (members.map Member.text)
  enums : ∀ n ∈ g.referenced.keys, ∀ d, g.schema.type? n = some d → d.kind = .enum →
    ∃ variants, .enumeration d.description (itemName d.name) variants ∈ declarations ∧
      Stands (enumerationText d.description (itemName d.name) (variants.map Variant.text)) text ∧
      List.Forall₂ MirrorsValue d.values (variants.map Variant.text)
  parameters : ∀ r ∈ g.operations, ∃ name item members, r.operation.name = some name ∧
    .operation item name r.text (item ++ "Variables") (item ++ "Response") ∈ declarations ∧
    Stands (operationText item name r.text) text ∧
    .record none (item ++ "Variables") members ∈ declarations ∧
    Stands (recordText none (item ++ "Variables") (members.map Member.text)) text ∧
    List.Forall₂ (MirrorsVariable g.schema options) r.operation.parameters
      (members.map Member.text)

theorem forall₂_map_text {α β : Type} {R : α → String → Prop} {f : α → β} {text : β → String}
    (h : ∀ a, R a (text (f a))) (as : List α) : List.Forall₂ R as ((as.map f).map text) := by
  rw [List.map_map, List.forall₂_map_right_iff]
  exact List.forall₂_same.mpr fun a _ => h a

/-- **Wire forms.**  The source of any bundle `MirrorsInput`: in its text stands a record for every
input object in use and for the variables of every operation, and an enumeration for every enum in
use.  In that order one member is written for each field, and it has the name and the type on the
wire that the schema or the operation gives it. -/
theorem mirrors_of_source {g : Generation} {options : Options} {text : String}
    (h : g.source options = .ok text) :
    ∃ declarations, text = declarationsText declarations ∧
      (declarations.map Declaration.name).Nodup ∧ MirrorsInput g options text declarations := by
  obtain ⟨declarations, hdeclarations, rfl⟩ := map_eq_ok.mp h
  obtain ⟨parts, hparts, rfl, hnodup⟩ := declarations_eq_ok hdeclarations
  have htype {n : String} {d : Definition} (hn : n ∈ g.referenced.keys)
      (hd : g.schema.type? n = some d) (hkind : d.kind = .enum ∨ d.kind = .inputObject) :
      d.declaration g.schema options ∈ g.typeDeclarations options ++ parts.flatten := by
    refine List.mem_append_left _ (List.mem_map_of_mem (Schema.mem_declaredTypes_iff.mpr ?_))
    exact ⟨⟨n, hn, hd⟩, hkind.elim (fun h => .inr (.inl h)) fun h => .inr (.inr (.inl h))⟩
  refine ⟨_, rfl, hnodup, ?_, ?_, ?_⟩
  · intro n hn d hd hkind
    have hmem := htype hn hd (.inr hkind)
    simp only [Definition.declaration, hkind] at hmem
    exact ⟨_, hmem, stands_record hmem,
      forall₂_map_text (mirrorsField_member g.schema options) d.fields⟩
  · intro n hn d hd hkind
    have hmem := htype hn hd (.inl hkind)
    simp only [Definition.declaration, hkind] at hmem
    exact ⟨_, hmem, stands_enumeration hmem, forall₂_map_text mirrorsValue_variant d.values⟩
  · intro r hr
    obtain ⟨part, hpart, hitems⟩ := exists_of_forall₂ hparts hr
    have hsub : ∀ d ∈ part, d ∈ g.typeDeclarations options ++ parts.flatten :=
      fun d hd => List.mem_append_right _ (List.mem_flatten_of_mem hpart hd)
    cases hitems with
    | @intro name root item owner names after records hname hroot hitem hrecords =>
        have hvariables := hsub _ List.mem_cons_self
        have hoperation := hsub _ (List.mem_append_right _ List.mem_cons_self)
        exact ⟨name, item, _, hname, hoperation, stands_operation hoperation, hvariables,
          stands_record hvariables,
          forall₂_map_text (mirrorsVariable_member g.schema options) r.operation.parameters⟩

theorem mirrors_of_source_brushBundle :
    ∃ text declarations, brushBundle.source .default = .ok text ∧
      text = declarationsText declarations ∧ (declarations.map Declaration.name).Nodup ∧
      MirrorsInput brushBundle .default text declarations ∧
      (∃ members, Stands (recordText none "Brush" members) text ∧
        List.Forall₂ (MirrorsField brushBundle.schema .default) brush.fields members) ∧
      ∃ variants, Stands (enumerationText none "Paint" variants) text ∧
        List.Forall₂ MirrorsValue paint.values variants := by
  have hsome : (brushBundle.source .default).toOption.isSome := by decide +kernel
  obtain ⟨text, htext⟩ := Option.isSome_iff_exists.mp hsome
  have hsource := eq_ok_of_toOption htext
  obtain ⟨declarations, hwritten, hnodup, hmirrors⟩ := mirrors_of_source hsource
  obtain ⟨members, -, hrecord, hfields⟩ :=
    hmirrors.inputs "Brush" (by decide +kernel) brush (by decide +kernel) rfl
  obtain ⟨variants, -, henumeration, hvalues⟩ :=
    hmirrors.enums "Paint" (by decide +kernel) paint (by decide +kernel) rfl
  have hbrushName : itemName brush.name = "Brush" := by decide +kernel
  have hpaintName : itemName paint.name = "Paint" := by decide +kernel
  rw [hbrushName] at hrecord
  rw [hpaintName] at henumeration
  exact ⟨text, declarations, hsource, hwritten, hnodup, hmirrors, ⟨_, hrecord, hfields⟩, _,
    henumeration, hvalues⟩

end QueryBindings

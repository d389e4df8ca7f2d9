import QueryBindings.Proofs.FieldLookup
import QueryBindings.Proofs.ResponseTypes

/-! # Keys that are absent for some types

An object has a response key only if the key is written outside the conditions for which the type of
the object does not stand.  A record is declared once for all types that can stand in for its
parent, so a member whose key some of them lack has to be optional.  Whether it is does not depend
on the conditions: it is optional unless the parent itself declares the field with a mark on the
outside.

Main statements: `optional_memberAt_iff` (which members are optional) and
`optionalIfAbsent_iff` (when the members for absent keys are). -/

namespace QueryBindings

/-! ### What an object carries -/

namespace FragmentTable

/-- An object of the type `type` that is reached through the fields of `path` has the field `g`:
where `g` is written, `type` meets all conditions below the path.  Those further out are about other
objects. -/
inductive Carries (table : FragmentTable) (schema : Schema) (type : String) :
    SelectionSet → List Field → Field → Prop where
  | here {f : Field} {inner rest : SelectionSet} :
      Carries table schema type (.field f inner rest) [] f
  | inside {f g : Field} {inner rest : SelectionSet} {path : List Field}
      (h : Carries table schema type inner path g) :
      Carries table schema type (.field f inner rest) (f :: path) g
  | afterField {f g : Field} {inner rest : SelectionSet} {path : List Field}
      (h : Carries table schema type rest path g) :
      Carries table schema type (.field f inner rest) path g
  | spread {s : Spread} {fragment : Fragment} {rest : SelectionSet} {path : List Field} {g : Field}
      (hget : table.get? s.name = some fragment)
      (hcondition : path = [] → schema.StandsFor type fragment.condition)
      (h : Carries table schema type fragment.selections path g) :
      Carries table schema type (.spread s rest) path g
  | afterSpread {s : Spread} {rest : SelectionSet} {path : List Field} {g : Field}
      (h : Carries table schema type rest path g) :
      Carries table schema type (.spread s rest) path g
  | inline {i : InlineFragment} {inner rest : SelectionSet} {path : List Field} {g : Field}
      (hcondition : path = [] → ∀ c, i.condition = some c → schema.StandsFor type c)
      (h : Carries table schema type inner path g) :
      Carries table schema type (.inline i inner rest) path g
  | afterInline {i : InlineFragment} {inner rest : SelectionSet} {path : List Field} {g : Field}
      (h : Carries table schema type rest path g) :
      Carries table schema type (.inline i inner rest) path g

/-- An object of the type `type` that is reached through the response keys `keys` has `key`, by a
field that it `Carries`. -/
def CarriesKey (table : FragmentTable) (schema : Schema) (type : String) (set : SelectionSet)
    (keys : List String) (key : String) : Prop :=
  ∃ path f, table.Carries schema type set path f ∧ path.map Field.responseKey = keys ∧
    f.responseKey = key

variable {table : FragmentTable} {schema : Schema} {type : String} {set : SelectionSet}

theorem Carries.writes {path : List Field} {g : Field} (h : table.Carries schema type set path g)
    (scope : Option String) : ∃ site, table.Writes schema scope set path site ∧ site.field = g := by
  induction h generalizing scope with
  | here => exact ⟨_, .here, rfl⟩
  | inside _ ih =>
      obtain ⟨site, hwrites, hfield⟩ := ih _
      exact ⟨site, .inside hwrites, hfield⟩
  | afterField _ ih =>
      obtain ⟨site, hwrites, hfield⟩ := ih scope
      exact ⟨site, .afterField hwrites, hfield⟩
  | spread hget _ _ ih =>
      obtain ⟨site, hwrites, hfield⟩ := ih _
      exact ⟨site, .spread hget hwrites, hfield⟩
  | afterSpread _ ih =>
      obtain ⟨site, hwrites, hfield⟩ := ih scope
      exact ⟨site, .afterSpread hwrites, hfield⟩
  | inline _ _ ih =>
      obtain ⟨site, hwrites, hfield⟩ := ih _
      exact ⟨site, .inline hwrites, hfield⟩
  | afterInline _ ih =>
      obtain ⟨site, hwrites, hfield⟩ := ih scope
      exact ⟨site, .afterInline hwrites, hfield⟩

theorem CarriesKey.mem_fields {flat : SelectionSet} {keys : List String} {key : String}
    (h : table.CarriesKey schema type set keys key) (he : table.Expansion set flat) :
    ∃ f inner, (f, inner) ∈ (flat.underAll keys).fields ∧ f.responseKey = key := by
  obtain ⟨path, f, hcarries, rfl, rfl⟩ := h
  obtain ⟨site, hwrites, rfl⟩ := hcarries.writes none
  obtain ⟨inner, -, hholds⟩ := hwrites.holds he
  rw [← List.append_nil path] at hholds
  exact ⟨site.field, inner, SelectionSet.holds_underAll_iff.mpr ⟨path, rfl, hholds⟩, rfl⟩

end FragmentTable

/-! ### Optional members -/

theorem optional_ofTypeExpr_iff {leaf : String} {t : TypeExpr} :
    (∃ inner, TargetType.ofTypeExpr leaf false t = .optional inner) ↔ t.nonNull = false := by
  cases t with
  | named n mark => cases mark <;> simp [TargetType.ofTypeExpr, TypeExpr.nonNull]
  | list element mark => cases mark <;> simp [TargetType.ofTypeExpr, TypeExpr.nonNull]

theorem nonNull_selectedType_iff {schema : Schema} {parent name : String} {f : FieldDefinition}
    (h : schema.findField? parent name = some f) :
    (selectedType schema parent f).nonNull = false ↔
      ∀ own, schema.ownField? parent name = some own → own.type.nonNull = false := by
  unfold selectedType
  rw [Schema.name_of_findField? h]
  unfold Schema.findField? at h
  cases hown : schema.ownField? parent name with
  | none => exact iff_of_true (TypeExpr.nonNull_withNonNull false f.type) nofun
  | some own =>
      rw [hown] at h
      cases h
      simp

section

variable {c : RecordContext} {name parent : String} {set : SelectionSet} {names after : ItemNames}
  {records declarations : List Declaration}

/-- The member for a field is optional unless the field is `__typename`, or `parent` declares it
with a mark on the outside. -/
theorem optional_memberAt_iff
    (h : responseRecords c name parent set names = .ok (records, after))
    (hsub : ∀ r ∈ records, r ∈ declarations)
    (hnodup : (declarations.map Declaration.name).Nodup) {f : Field} {below : SelectionSet}
    (hf : (f, below) ∈ set.fields) :
    ∃ member, memberAt? declarations name f.responseKey = some member ∧
      ((∃ inner, member.type = .optional inner) ↔ f.name ≠ "__typename" ∧
        ∀ own, c.schema.ownField? parent f.name = some own → own.type.nonNull = false) := by
  obtain ⟨s, member, here, before, mid, hmember, hat, -, hsame, -, -⟩ :=
    exists_memberAt h hsub hnodup hf
  refine ⟨member, hat, ?_⟩
  rw [← hsame]
  cases hmember with
  | typename htypename =>
      exact iff_of_false (fun ⟨_, htext⟩ => nomatch htext) fun hne => hne.1 htypename
  | leaf hname hfind =>
      rw [and_iff_right hname, ← nonNull_selectedType_iff hfind]
      exact optional_ofTypeExpr_iff
  | nested hname hfind =>
      rw [and_iff_right hname, ← nonNull_selectedType_iff hfind]
      exact optional_ofTypeExpr_iff

end

/-! ### Absent keys -/

/-- If some type that can stand in for `parent` does not carry a key (`CarriesKey`), the member for
the key is optional. -/
def OptionalIfAbsent (table : FragmentTable) (schema : Schema) (declarations : List Declaration)
    (o : Operation) (response parent : String) (keys : List String) (key : String) : Prop :=
  ∀ type ∈ schema.possibleNames parent, ¬ table.CarriesKey schema type o.selections keys key →
    ∃ inner, typeAt? declarations response keys key = some (.optional inner)

section

variable {options emitting : Options} {schema : Schema} {document : Document} {g : Generation}
  {declarations : List Declaration} {table : FragmentTable} {o : Operation} {path : List Field}
  {site : Site} {parent : String}

/-- The record to which a response path leads has a member for every key that an object of some type
carries there.  `OptionalIfAbsent` holds exactly if, of each key, all of them carry it, or the field
is not `__typename` and `parent` does not declare it with a mark on the outside. -/
theorem optionalIfAbsent_iff (hgenerate : generate options schema document = .ok g)
    (hdeclarations : g.declarations emitting = .ok declarations)
    (htable : document.fragmentTable = .ok table) (ho : o ∈ document.operations)
    (hwrites : table.Writes schema (schema.rootName? o.kind) o.selections path site)
    (hparent : ((schema.rootName? o.kind).bind fun root => schema.responseParent? root path) =
      some parent) :
    ∃ name response, o.name = some name ∧ responseItem? declarations name = some response ∧
      (∀ type key, table.CarriesKey schema type o.selections (path.map Field.responseKey) key →
        ∃ t, typeAt? declarations response (path.map Field.responseKey) key = some t) ∧
      (OptionalIfAbsent table schema declarations o response parent (path.map Field.responseKey)
          site.field.responseKey ↔
        (∀ type ∈ schema.possibleNames parent, table.CarriesKey schema type o.selections
          (path.map Field.responseKey) site.field.responseKey) ∨
        (site.field.name ≠ "__typename" ∧ ∀ own,
          schema.ownField? parent site.field.name = some own → own.type.nonNull = false)) := by
  obtain ⟨name, response, owner, flat, records, before, after, hname, hitem, hexpansion, hrecords,
    hsub, hnodup, htype⟩ :=
    exists_record_of_writes hgenerate hdeclarations htable ho hwrites hparent
  refine ⟨name, response, hname, hitem, fun type key hcarries => ?_, ?_⟩
  -- Carried keys may be written elsewhere than at the site, but they share its record.
  · obtain ⟨f, below, hf, rfl⟩ := hcarries.mem_fields hexpansion
    obtain ⟨member, hat, -⟩ := optional_memberAt_iff hrecords hsub hnodup hf
    exact ⟨member.type, by rw [htype, hat, Option.map_some]⟩
  · obtain ⟨inner, -, hholds⟩ := hwrites.holds hexpansion
    rw [← List.append_nil path] at hholds
    obtain ⟨member, hat, hoptional⟩ := optional_memberAt_iff hrecords hsub hnodup
      (SelectionSet.holds_underAll_iff.mpr ⟨path, rfl, hholds⟩)
    unfold OptionalIfAbsent
    rw [← hoptional, htype, hat, Option.map_some]
    simp only [Option.some_inj]
    constructor
    · intro habsent
      by_cases hall : ∀ type ∈ schema.possibleNames parent, table.CarriesKey schema type
          o.selections (path.map Field.responseKey) site.field.responseKey
      · exact .inl hall
      · push Not at hall
        obtain ⟨type, hpossible, hlacks⟩ := hall
        exact .inr (habsent type hpossible hlacks)
    · rintro (hall | hmember) type hpossible hlacks
      · exact absurd (hall type hpossible) hlacks
      · exact hmember

end

/-! ### A key that one of two types carries -/

/-- `User` and `Bot` with the interface `Node`, whose field `id` has this type. -/
def nodes (type : TypeExpr) : Schema :=
  let field (name : String) (type : TypeExpr) : FieldDefinition := ⟨name, none, [], none, type, []⟩
  let object (name : String) : Definition := { Definition.bare .object name with
    fields := [field "id" (.named "ID" true)]
    interfaces := ["Node"] }
  let types := [
    { Definition.bare .object "Query" with fields := [field "node" (.named "Node" false)] },
    { Definition.bare .interface "Node" with fields := [field "id" type] },
    object "User", object "Bot"]
  { types.foldl Schema.addType .builtin with
    queryRoot := some "Query"
    possible := .ofList [("Bot", ["Bot"]), ("Node", ["Bot", "User"]), ("Query", ["Query"]),
      ("User", ["User"])] }

def nodeSite : Site := ⟨some "User", ⟨none, "id", [], []⟩, .nil⟩

def nodeField : Field := ⟨none, "node", [], []⟩

/-- `node` with `id` selected of `User` only. -/
def nodeOperation : Operation :=
  ⟨.query, some "Q", [], [],
    .field nodeField (.inline ⟨some "User", []⟩ (.field nodeSite.field .nil .nil) .nil) .nil⟩

theorem not_carriesKey_bot (type : TypeExpr) :
    ¬ (∅ : FragmentTable).CarriesKey (nodes type) "Bot" nodeOperation.selections ["node"] "id" := by
  rintro ⟨path, f, hcarries, hpath, -⟩
  cases hcarries with
  | here => cases hpath
  | afterField h => cases h
  | inside h =>
      cases h with
      | afterInline h => cases h
      | inline hcondition =>
          have hnil := List.map_eq_nil_iff.mp (List.cons.inj hpath).2
          rcases hcondition hnil "User" rfl with heq | hmem
          · exact absurd heq (by decide)
          · exact absurd (show "Bot" ∈ ["User"] from hmem) (by decide)

def nodesGeneration (type : TypeExpr) : Generation :=
  let flat : SelectionSet := .field nodeField (.field nodeSite.field .nil .nil) .nil
  let o := { nodeOperation with selections := flat }
  ⟨nodes type, (nodes type).print "  " false, [⟨o, nodeOperation.requestText .default []⟩],
    (nodes type).referencedTypes [o]⟩

theorem bot_mem_possibleNames (type : TypeExpr) : "Bot" ∈ (nodes type).possibleNames "Node" :=
  List.mem_cons_self

/-- With `id: ID` on the interface the member is optional, as it has to be for `Bot`. -/
theorem optionalIfAbsent_nodes :
    generate .default (nodes (.named "ID" false)) ⟨[nodeOperation], []⟩ =
      .ok (nodesGeneration (.named "ID" false)) ∧
    ∃ declarations,
      (nodesGeneration (.named "ID" false)).declarations .default = .ok declarations ∧
      ∃ response, responseItem? declarations "Q" = some response ∧
        OptionalIfAbsent ∅ (nodes (.named "ID" false)) declarations nodeOperation response "Node"
          ["node"] "id" ∧
        ∃ inner, typeAt? declarations response ["node"] "id" = some (.optional inner) := by
  have hgenerate : generate .default (nodes (.named "ID" false)) ⟨[nodeOperation], []⟩ =
      .ok (nodesGeneration (.named "ID" false)) :=
    generate_of_spreads_eq_nil (eq_ok_of_toOption (by decide +kernel)) rfl rfl
  have hsome : ((nodesGeneration (.named "ID" false)).declarations .default).toOption.isSome =
      true := by decide +kernel
  obtain ⟨declarations, hdeclarations⟩ := Option.isSome_iff_exists.mp hsome
  have hok := eq_ok_of_toOption hdeclarations
  have hwrites : (∅ : FragmentTable).Writes (nodes (.named "ID" false)) (some "Query")
      nodeOperation.selections [nodeField] nodeSite := .inside (.inline .here)
  have hparent : (nodes (.named "ID" false)).responseParent? "Query" [nodeField] = some "Node" := by
    decide +kernel
  obtain ⟨name, response, hname, hitem, -, hiff⟩ :=
    optionalIfAbsent_iff hgenerate hok rfl List.mem_cons_self hwrites hparent
  cases hname
  have hnullable : ∀ own, (nodes (.named "ID" false)).ownField? "Node" "id" = some own →
      own.type.nonNull = false := by
    intro own hown
    have hid : (nodes (.named "ID" false)).ownField? "Node" "id" =
        some ⟨"id", none, [], none, .named "ID" false, []⟩ := by decide +kernel
    cases hid.symm.trans hown
    rfl
  have hoptional := hiff.mpr (.inr ⟨by decide, hnullable⟩)
  exact ⟨hgenerate, declarations, hok, response, hitem, hoptional,
    hoptional "Bot" (bot_mem_possibleNames _) (not_carriesKey_bot _)⟩

/-- With `id: ID!` on the interface the member is not optional, though `Bot` does not carry it. -/
theorem not_optionalIfAbsent_nodes :
    Schema.ofText
        ("type Query { node: Node } interface Node { id: ID! } " ++
          "type User implements Node { id: ID! } type Bot implements Node { id: ID! }") =
      .ok (nodes (.named "ID" true)) ∧
    Document.ofText "query Q { node { ... on User { id } } }" = .ok ⟨[nodeOperation], []⟩ ∧
    generate .default (nodes (.named "ID" true)) ⟨[nodeOperation], []⟩ =
      .ok (nodesGeneration (.named "ID" true)) ∧
    ∃ declarations,
      (nodesGeneration (.named "ID" true)).declarations .default = .ok declarations ∧
      responseItem? declarations "Q" = some "QResponse" ∧
      typeAt? declarations "QResponse" ["node"] "id" = some (.name "String") ∧
        ¬ OptionalIfAbsent ∅ (nodes (.named "ID" true)) declarations nodeOperation "QResponse"
          "Node" ["node"] "id" := by
  have htype : (((nodesGeneration (.named "ID" true)).declarations .default).toOption.map
      fun declarations => (responseItem? declarations "Q",
        typeAt? declarations "QResponse" ["node"] "id")) =
      some (some "QResponse", some (.name "String")) := by decide +kernel
  obtain ⟨declarations, hdeclarations, htype⟩ := Option.map_eq_some_iff.mp htype
  rw [Prod.mk.injEq] at htype
  refine ⟨eq_ok_of_toOption (by decide +kernel), eq_ok_of_toOption (by decide +kernel),
    generate_of_spreads_eq_nil (eq_ok_of_toOption (by decide +kernel)) rfl rfl, declarations,
    eq_ok_of_toOption hdeclarations, htype.1, htype.2, fun hoptional => ?_⟩
  obtain ⟨inner, hinner⟩ := hoptional "Bot" (bot_mem_possibleNames _) (not_carriesKey_bot _)
  cases htype.2.symm.trans hinner

end QueryBindings

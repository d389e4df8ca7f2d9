import QueryBindings.Proofs.Declaration.Bundles
import QueryBindings.Schema.Assembly

/-! # Types of answers and scopes of fields

A field is validated against the type in whose scope it is written, but the type of its member is
found again, from the type to which its response path leads.  The two agree only if what is found
there is built like what the scope declares.

Main statement: `followsScope_iff_agrees` (when the type at a response path is built from the
declaration that the field was validated against). -/

namespace QueryBindings

namespace FragmentTable

variable {table : FragmentTable} {schema : Schema}

/-- No field that is written at the response keys `keys` selects anything. -/
def Bare (table : FragmentTable) (schema : Schema) (scope : Option String) (set : SelectionSet)
    (keys : List String) (key : String) : Prop :=
  ∀ path site, table.Writes schema scope set path site → path.map Field.responseKey = keys →
    site.field.responseKey = key → table.Expansion site.inner .nil

theorem Expansion.under_eq_nil_iff {set flat : SelectionSet} (he : table.Expansion set flat)
    (scope : Option String) (keys : List String) (key : String) :
    (flat.underAll keys).under key = .nil ↔ table.Bare schema scope set keys key := by
  rw [SelectionSet.under_eq_nil_iff (SelectionSet.isFlat_underAll keys he.flat)]
  constructor
  · rintro hnil path site hwrites rfl hkey
    obtain ⟨inner, hinner, hholds⟩ := hwrites.holds he
    have hmem : (flat.underAll (path.map Field.responseKey)).Holds [] site.field inner :=
      SelectionSet.holds_underAll_iff.mpr ⟨path, rfl, by rwa [List.append_nil]⟩
    rwa [hnil _ _ hmem hkey] at hinner
  · intro hbare f inner hmem hkey
    obtain ⟨above, habove, hholds⟩ := SelectionSet.holds_underAll_iff.mp
      (show (flat.underAll keys).Holds [] f inner from hmem)
    rw [List.append_nil] at hholds
    obtain ⟨site, hwrites, rfl, hinner⟩ := he.writes scope hholds
    exact hinner.unique (hbare above site hwrites habove hkey)

end FragmentTable

theorem IsLeaf.unique {bare : Prop} {nested target leaf leaf' : String}
    (h : IsLeaf bare nested target leaf) (h' : IsLeaf bare nested target leaf') : leaf = leaf' := by
  rcases h with ⟨hbare, rfl⟩ | ⟨hsome, rfl⟩
  · rcases h' with ⟨-, rfl⟩ | ⟨hsome, -⟩
    · rfl
    · exact absurd hbare hsome
  · rcases h' with ⟨hbare, -⟩ | ⟨-, rfl⟩
    · exact absurd hbare hsome
    · rfl

/-! ### What is written at a site -/

/-- A field is written at `site` in an operation of a document, and declarations are made for the
document. -/
structure Occurs (options : Options) (schema : Schema) (document : Document)
    (declarations : List Declaration) (table : FragmentTable) (o : Operation) (path : List Field)
    (site : Site) : Prop where
  declared : ∃ g, generate options schema document = .ok g ∧
    g.declarations options = .ok declarations
  fragments : document.fragmentTable = .ok table
  operation : o ∈ document.operations
  written : table.Writes schema (schema.rootName? o.kind) o.selections path site
  named : site.field.name ≠ "__typename"

namespace Site

variable (table : FragmentTable) (schema : Schema) (options : Options)

/-- The name of the record for what is selected at a response path. -/
def record (site : Site) (response : String) (path : List Field) : String :=
  structName response (path.map Field.responseKey ++ [site.field.responseKey])

/-- The leaf that is due at a site: the `record` for what is selected there, or the target of the
base that its scope declares if nothing is. -/
def IsDue (site : Site) (response : String) (path : List Field) (declared : FieldDefinition)
    (leaf : String) : Prop :=
  IsLeaf (table.Expansion site.inner .nil) (site.record response path)
    (schema.targetName options declared.type.baseName) leaf

/-- At the response path of a site stands a type that is built from what its scope declares for the
field: its lists and its marks, of which the outermost may be dropped, around the leaf that `IsDue`.
-/
def FollowsScope (site : Site) (declarations : List Declaration) (response : String)
    (path : List Field) : Prop :=
  ∃ t declared leaf,
    typeAt? declarations response (path.map Field.responseKey) site.field.responseKey = some t ∧
    schema.declared? site.scope site.field.name = some declared ∧
    site.IsDue table schema options response path declared leaf ∧
    (t = .ofTypeExpr leaf false declared.type ∨
      t = .ofTypeExpr leaf false (declared.type.withNonNull false))

/-- The field found from the type to which the response path of a site leads is built like the one
that its scope declares, and the leaf for all that is written at the path is the one that `IsDue`.
-/
def Agrees (site : Site) (o : Operation) (response : String) (path : List Field) : Prop :=
  ∃ declared last found leaf, schema.declared? site.scope site.field.name = some declared ∧
    ((schema.rootName? o.kind).bind fun root => schema.responseParent? root path) = some last ∧
    schema.findField? last site.field.name = some found ∧
    site.IsDue table schema options response path declared leaf ∧
    IsLeaf (table.Bare schema (schema.rootName? o.kind) o.selections (path.map Field.responseKey)
      site.field.responseKey) (site.record response path)
      (schema.targetName options found.type.baseName) leaf ∧
    ((selectedType schema last found).SameShape declared.type ∨
      (selectedType schema last found).SameShape (declared.type.withNonNull false))

end Site

/-! ### The type at the path of a site -/

section

variable {table : FragmentTable} {c : RecordContext} {response root : String}
  {flat : SelectionSet} {names after : ItemNames} {records declarations : List Declaration}
  {o : Operation} {path : List Field} {site : Site}

theorem followsScope_iff_agrees_of_typename
    (hrecords : responseRecords c response root flat names = .ok (records, after))
    (hsub : ∀ d ∈ records, d ∈ declarations)
    (hnodup : (declarations.map Declaration.name).Nodup)
    (hstring : ∀ about members, .record about "String" members ∉ declarations)
    (hroot : c.schema.rootName? o.kind = some root) {inner : SelectionSet}
    (hholds : flat.Holds path site.field inner) (hpath : ∃ e ∈ path, e.name = "__typename") :
    site.FollowsScope table c.schema c.options declarations response path ↔
      site.Agrees table c.schema c.options o response path := by
  obtain ⟨hlast, htype⟩ := typeAt?_of_typename hrecords hsub hnodup hstring hholds hpath
  constructor
  · rintro ⟨t, declared, leaf, ht, -⟩
    rw [htype] at ht
    cases ht
  · rintro ⟨declared, last, found, leaf, -, hlast', -⟩
    rw [hroot, Option.bind_some, hlast] at hlast'
    cases hlast'

/-- Elsewhere than below `__typename` the field that is found and the leaf for all that is selected
decide, since a written type tells both its shape and its leaf. -/
theorem followsScope_iff_agrees_of_forall_ne
    (hrecords : responseRecords c response root flat names = .ok (records, after))
    (hsub : ∀ d ∈ records, d ∈ declarations)
    (hnodup : (declarations.map Declaration.name).Nodup)
    (hroot : c.schema.rootName? o.kind = some root)
    (hexpansion : table.Expansion o.selections flat) {inner : SelectionSet}
    (hholds : flat.Holds path site.field inner) (hname : site.field.name ≠ "__typename")
    (hpath : ∀ e ∈ path, e.name ≠ "__typename") :
    site.FollowsScope table c.schema c.options declarations response path ↔
      site.Agrees table c.schema c.options o response path := by
  obtain ⟨last, found, leaf, hlast, hfound, hleaf, htype⟩ :=
    typeAt?_of_holds hrecords hsub hnodup hholds hname hpath
  rw [hexpansion.under_eq_nil_iff (some root), ← hroot] at hleaf
  constructor
  · rintro ⟨t, declared, due, ht, hdeclares, hdue, hbuilt⟩
    rw [htype, Option.some.injEq] at ht
    subst ht
    rw [ofTypeExpr_eq_iff, ofTypeExpr_eq_iff] at hbuilt
    have hsame : leaf = due := hbuilt.elim And.left And.left
    subst hsame
    refine ⟨declared, last, found, leaf, hdeclares, ?_, hfound, hdue, hleaf,
      hbuilt.imp And.right And.right⟩
    rw [hroot]
    exact hlast
  · rintro ⟨declared, last', found', due, hdeclares, hlast', hfound', hdue, hleaf', hshape⟩
    -- What `Agrees` speaks of is what was found while the records were made.
    rw [hroot] at hlast'
    cases hlast.symm.trans hlast'
    cases hfound.symm.trans hfound'
    cases hleaf.unique hleaf'
    refine ⟨_, declared, leaf, htype, hdeclares, hdue, ?_⟩
    rw [ofTypeExpr_eq_iff, ofTypeExpr_eq_iff]
    exact hshape.imp (fun h => ⟨rfl, h⟩) fun h => ⟨rfl, h⟩

end

/-- The type at the response path of a field `FollowsScope` exactly if the field that is found at
that path `Agrees` with what the scope declares. -/
theorem followsScope_iff_agrees {options : Options} {schema : Schema} {document : Document}
    {declarations : List Declaration} {table : FragmentTable} {o : Operation} {path : List Field}
    {site : Site} (h : Occurs options schema document declarations table o path site) :
    ∃ name response, o.name = some name ∧ responseItem? declarations name = some response ∧
      (site.FollowsScope table schema options declarations response path ↔
        site.Agrees table schema options o response path) := by
  obtain ⟨g, hgenerate, hdeclarations⟩ := h.declared
  obtain ⟨hnodup, hstring, name, response, root, owner, names, records, after, flat, hname, hitem,
    hroot, hexpansion, hrecords, hsub⟩ :=
    exists_records_of_generate hgenerate hdeclarations h.fragments h.operation
  obtain ⟨inner, -, hholds⟩ := h.written.holds hexpansion
  refine ⟨name, response, hname, hitem, ?_⟩
  by_cases hpath : ∃ e ∈ path, e.name = "__typename"
  · exact followsScope_iff_agrees_of_typename hrecords hsub hnodup hstring hroot hholds hpath
  · exact followsScope_iff_agrees_of_forall_ne hrecords hsub hnodup hroot hexpansion hholds h.named
      fun e he htypename => hpath ⟨e, he, htypename⟩

/-! ### A field found on another member -/

/-- The union of `A` and `B`, each with a field `x`. -/
def pair (second : TypeExpr) : Schema :=
  let field (name : String) (type : TypeExpr) : FieldDefinition := ⟨name, none, [], none, type, []⟩
  let types := [
    { Definition.bare .object "Query" with fields := [field "u" (.named "U" false)] },
    { Definition.bare .union "U" with members := ["A", "B"] },
    { Definition.bare .object "A" with fields := [field "x" (.named "Int" false)] },
    { Definition.bare .object "B" with fields := [field "x" second] }]
  { types.foldl Schema.addType .builtin with
    queryRoot := some "Query"
    possible := .ofList [("A", ["A"]), ("B", ["B"]), ("Query", ["Query"]), ("U", ["A", "B"])] }

def pairSite : Site := ⟨some "B", ⟨none, "x", [], []⟩, .nil⟩

def pairField : Field := ⟨none, "u", [], []⟩

/-- `x` is selected of `B` only. -/
def pairOperation : Operation :=
  ⟨.query, some "Q", [], [],
    .field pairField (.inline ⟨some "B", []⟩ (.field pairSite.field .nil .nil) .nil) .nil⟩

/-- `pairOperation` with its selections expanded, and the text to send for it. -/
def pairRendered : RenderedOperation where
  operation := { pairOperation with
    selections := .field pairField (.field pairSite.field .nil .nil) .nil }
  text := pairOperation.requestText .default []

theorem generate_pair {second : TypeExpr}
    (h : (Document.validate ⟨[pairOperation], []⟩ (pair second)).toOption = some ()) :
    generate .default (pair second) ⟨[pairOperation], []⟩ =
      .ok ⟨pair second, (pair second).print "  " false, [pairRendered],
        (pair second).referencedTypes [pairRendered.operation]⟩ :=
  generate_of_spreads_eq_nil (eq_ok_of_toOption h) rfl rfl

theorem exists_occurs_pair (second : TypeExpr) (t : TargetType)
    (hvalid : (Document.validate ⟨[pairOperation], []⟩ (pair second)).toOption = some ())
    (htype : ((Generation.declarations ⟨pair second, (pair second).print "  " false,
      [pairRendered], (pair second).referencedTypes [pairRendered.operation]⟩
        .default).toOption.map fun declarations =>
          (responseItem? declarations "Q", typeAt? declarations "QResponse" ["u"] "x")) =
      some (some "QResponse", some t)) :
    ∃ declarations, Occurs .default (pair second) ⟨[pairOperation], []⟩ declarations ∅
        pairOperation [pairField] pairSite ∧
      responseItem? declarations "Q" = some "QResponse" ∧
        typeAt? declarations "QResponse" ["u"] "x" = some t := by
  obtain ⟨declarations, hdeclarations, htype⟩ := Option.map_eq_some_iff.mp htype
  rw [Prod.mk.injEq] at htype
  exact ⟨declarations,
    ⟨⟨_, generate_pair hvalid, eq_ok_of_toOption hdeclarations⟩, rfl, List.mem_singleton_self _,
      .inside (.inline .here), by decide⟩, htype.1, htype.2⟩

/-- `x` is found on `A`, where its type is nullable; on `B` it has a mark on the outside. -/
theorem followsScope_pair :
    ∃ declarations, Occurs .default (pair (.named "Int" true)) ⟨[pairOperation], []⟩ declarations ∅
        pairOperation [pairField] pairSite ∧
      ∃ response, responseItem? declarations "Q" = some response ∧
        pairSite.FollowsScope ∅ (pair (.named "Int" true)) .default declarations response
          [pairField] := by
  obtain ⟨declarations, hoccurs, hresponse, -⟩ :=
    exists_occurs_pair (.named "Int" true) (.optional (.name "i64"))
      (by decide +kernel) (by decide +kernel)
  obtain ⟨name, response, hname, hitem, hiff⟩ := followsScope_iff_agrees hoccurs
  cases hname
  refine ⟨declarations, hoccurs, response, hitem, hiff.mpr ?_⟩
  have hexpansion : (∅ : FragmentTable).Expansion pairOperation.selections
      pairRendered.operation.selections := SelectionSet.expansion_of_inlined rfl
  have hbare : (∅ : FragmentTable).Bare (pair (.named "Int" true)) (some "Query")
      pairOperation.selections ["u"] "x" := (hexpansion.under_eq_nil_iff _ _ _).mp rfl
  exact ⟨⟨"x", none, [], none, .named "Int" true, []⟩, "U",
    ⟨"x", none, [], none, .named "Int" false, []⟩, "i64", by decide +kernel, by decide +kernel,
    by decide +kernel, .inl ⟨.nil, by decide +kernel⟩, .inl ⟨hbare, by decide +kernel⟩,
    .inr rfl⟩

/-- `B` declares `x: String`, but the number of `A` is written. -/
theorem not_followsScope_pair :
    Schema.ofText
        "type Query { u: U } union U = A | B type A { x: Int } type B { x: String }" =
      .ok (pair (.named "String" false)) ∧
    Document.ofText "query Q { u { ... on B { x } } }" = .ok ⟨[pairOperation], []⟩ ∧
    ∃ declarations, Occurs .default (pair (.named "String" false)) ⟨[pairOperation], []⟩
        declarations ∅ pairOperation [pairField] pairSite ∧
      responseItem? declarations "Q" = some "QResponse" ∧
        ¬ pairSite.FollowsScope ∅ (pair (.named "String" false)) .default declarations "QResponse"
          [pairField] := by
  obtain ⟨declarations, hoccurs, hresponse, htype⟩ :=
    exists_occurs_pair (.named "String" false) (.optional (.name "i64"))
      (by decide +kernel) (by decide +kernel)
  refine ⟨eq_ok_of_toOption (by decide +kernel), eq_ok_of_toOption (by decide +kernel),
    declarations, hoccurs, hresponse, ?_⟩
  rintro ⟨t, declared, leaf, ht, hdeclares, hdue, hbuilt⟩
  cases htype.symm.trans ht
  have htext : (pair (.named "String" false)).declared? (some "B") "x" =
      some ⟨"x", none, [], none, .named "String" false, []⟩ := by decide +kernel
  cases htext.symm.trans hdeclares
  have hleaf : leaf = "String" := by
    rcases hdue with ⟨-, rfl⟩ | ⟨hsome, -⟩
    · decide +kernel
    · exact absurd .nil hsome
  subst hleaf
  exact hbuilt.elim (by decide) (by decide)

end QueryBindings

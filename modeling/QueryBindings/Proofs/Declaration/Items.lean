import QueryBindings.Proofs.Declaration.Records

/-! # Items of bundles

A bundle declares its types and then its operations.  What an operation declares are a record of
its variables, the records of its answer and an item of its own.  The names of all of them go
through one table, which passes from the types to the first operation and on from each operation to
the next, so no name is claimed twice.

Main statements: `declarations_eq_ok` and `operationItems_of_declarations` (one operation),
`operationItems_of_operationDeclarations` (several) and `names_nodup_of_source` (a bundle). -/

namespace QueryBindings

/-! ### One operation -/

/-- What an operation declares.  Its item is named by `itemName`, perhaps with its kind as a suffix,
and the records are named after the item. -/
inductive OperationItems (schema : Schema) (options : Options) (r : RenderedOperation) :
    List Declaration → Prop where
  | intro {name root item owner : String} {names after : ItemNames} {records : List Declaration}
      (hname : r.operation.name = some name)
      (hroot : schema.rootName? r.operation.kind = some root)
      (hitem : item = itemName name ∨ item = itemName name ++ itemName r.operation.kind.keyword)
      (hrecords : responseRecords ⟨schema, options, owner⟩ (item ++ "Response") root
        r.operation.selections names = .ok (records, after)) :
      OperationItems schema options r
        (.record none (item ++ "Variables") (r.operation.parameters.map (·.member schema options)) ::
          records ++ [.operation item name r.text (item ++ "Variables") (item ++ "Response")])

theorem operationItem_eq_or (names : ItemNames) (kind : OperationKind) (name : String) :
    operationItem names kind name = itemName name ∨
      operationItem names kind name = itemName name ++ itemName kind.keyword := by
  unfold operationItem
  dsimp only
  split
  · exact .inr rfl
  · exact .inl rfl

theorem operationItems_of_declarations {schema : Schema} {options : Options}
    {names after : ItemNames} {r : RenderedOperation} {declarations : List Declaration}
    (h : r.declarations schema options names = .ok (declarations, after)) :
    OperationItems schema options r declarations ∧
      Claims names (declarations.map Declaration.name) after := by
  unfold RenderedOperation.declarations at h
  dsimp only at h
  split at h
  · cases h
  · rename_i name hname
    split at h
    · cases h
    · rename_i root hroot
      obtain ⟨first, hfirst, h⟩ := bind_eq_ok.mp h
      obtain ⟨second, hsecond, h⟩ := bind_eq_ok.mp h
      obtain ⟨⟨records, last⟩, hrecords, h⟩ := bind_eq_ok.mp h
      cases h
      refine ⟨.intro hname hroot (operationItem_eq_or names r.operation.kind name) hrecords, ?_⟩
      have hclaims := ((Claims.of_claim hfirst).append (Claims.of_claim hsecond)).append
        (claims_responseRecords hrecords)
      -- The item is claimed first, but declared last.
      apply hclaims.perm
      rw [List.map_append, List.map_cons]
      show ([_] ++ (_ :: records.map Declaration.name)).Perm
        (_ :: records.map Declaration.name ++ [_])
      exact List.perm_append_comm

/-! ### Several operations -/

theorem operationItems_of_operationDeclarations {schema : Schema} {options : Options}
    {names : ItemNames} {rs : List RenderedOperation} {declarations : List Declaration}
    (h : operationDeclarations schema options names rs = .ok declarations) :
    ∃ parts after, List.Forall₂ (OperationItems schema options) rs parts ∧
      declarations = parts.flatten ∧ Claims names (declarations.map Declaration.name) after := by
  induction rs generalizing names declarations with
  | nil =>
      cases h
      exact ⟨[], names, .nil, rfl, .nil names⟩
  | cons r rest ih =>
      unfold operationDeclarations at h
      obtain ⟨⟨part, mid⟩, hpart, h⟩ := bind_eq_ok.mp h
      obtain ⟨others, hothers, h⟩ := bind_eq_ok.mp h
      cases h
      obtain ⟨hitems, hclaims⟩ := operationItems_of_declarations hpart
      obtain ⟨parts, after, hparts, rfl, hafter⟩ := ih hothers
      refine ⟨part :: parts, after, .cons hitems hparts, rfl, ?_⟩
      rw [List.map_append]
      exact hclaims.append hafter

/-! ### Types -/

theorem name_declaration (schema : Schema) (options : Options) (d : Definition) :
    (d.declaration schema options).name = itemName d.name := by
  unfold Definition.declaration
  cases d.kind <;> rfl

theorem claims_types (schema : Schema) (options : Options) {ds : List Definition}
    {names after : ItemNames} (h : ds.foldlM ItemNames.claimType names = .ok after) :
    Claims names ((ds.map (·.declaration schema options)).map Declaration.name) after := by
  induction ds generalizing names with
  | nil =>
      cases h
      exact .nil _
  | cons d rest ih =>
      rw [List.foldlM_cons] at h
      obtain ⟨mid, hfirst, hrest⟩ := bind_eq_ok.mp h
      rw [List.map_cons, List.map_cons, name_declaration]
      exact (Claims.of_claim hfirst).append (ih hrest)

/-! ### Bundles -/

def Generation.typeDeclarations (g : Generation) (options : Options) : List Declaration :=
  (g.schema.declaredTypes options g.referenced.keys).map (·.declaration g.schema options)

/-- What `Generation.declarations` gives: the types, then `OperationItems` of each operation, and no
name twice. -/
theorem declarations_eq_ok {g : Generation} {options : Options} {declarations : List Declaration}
    (h : g.declarations options = .ok declarations) :
    ∃ parts, List.Forall₂ (OperationItems g.schema options) g.operations parts ∧
      declarations = g.typeDeclarations options ++ parts.flatten ∧
      (declarations.map Declaration.name).Nodup := by
  unfold Generation.declarations at h
  dsimp only at h
  obtain ⟨names, htypes, h⟩ := bind_eq_ok.mp h
  obtain ⟨operations, hoperations, h⟩ := bind_eq_ok.mp h
  cases h
  obtain ⟨parts, after, hparts, rfl, hclaims⟩ :=
    operationItems_of_operationDeclarations hoperations
  refine ⟨parts, hparts, rfl, ?_⟩
  rw [List.map_append]
  exact ((claims_types _ _ htypes).append hclaims).distinct

/-- The items in the source of any bundle, whatever its operations are called: those of
`typeDeclarations` and `OperationItems` of each operation, no two of them with one name. -/
theorem names_nodup_of_source {g : Generation} {options : Options} {text : String}
    (h : g.source options = .ok text) :
    ∃ parts, List.Forall₂ (OperationItems g.schema options) g.operations parts ∧
      text = declarationsText (g.typeDeclarations options ++ parts.flatten) ∧
      ((g.typeDeclarations options ++ parts.flatten).map Declaration.name).Nodup := by
  obtain ⟨declarations, hdeclarations, rfl⟩ := map_eq_ok.mp h
  obtain ⟨parts, hparts, rfl, hnodup⟩ := declarations_eq_ok hdeclarations
  exact ⟨parts, hparts, rfl, hnodup⟩

/-- The operation `Color` uses the enum `Color`. -/
def colorBundle : Generation where
  schema :=
    let color : Definition := { Definition.bare .enum "Color" with values := [⟨"RED", none, []⟩] }
    let query : Definition := { Definition.bare .object "Query" with
      fields := [⟨"color", none, [], none, .named "Color" false, []⟩] }
    { ([color, query].foldl Schema.addType .empty) with queryRoot := some "Query" }
  schemaText := ""
  operations :=
    [⟨⟨.query, some "Color", [], [], .field ⟨none, "color", [], []⟩ .nil .nil⟩, "query Color {color}"⟩]
  referenced := .ofList [("Color", ())]

theorem names_nodup_of_source_colorBundle :
    ∃ text parts, colorBundle.source .default = .ok text ∧
      List.Forall₂ (OperationItems colorBundle.schema .default) colorBundle.operations parts ∧
      text = declarationsText (colorBundle.typeDeclarations .default ++ parts.flatten) ∧
      ((colorBundle.typeDeclarations .default ++ parts.flatten).map Declaration.name).Nodup ∧
      (colorBundle.declarations .default).toOption.map (·.map Declaration.name) =
        some ["Color", "ColorQueryVariables", "ColorQueryResponse", "ColorQuery"] := by
  have hsome : (colorBundle.source .default).toOption.isSome := by decide +kernel
  obtain ⟨text, htext⟩ := Option.isSome_iff_exists.mp hsome
  have hsource := eq_ok_of_toOption htext
  obtain ⟨parts, hparts, hwritten, hnodup⟩ := names_nodup_of_source hsource
  exact ⟨text, parts, hsource, hparts, hwritten, hnodup, by decide +kernel⟩

end QueryBindings

import QueryBindings.Proofs.Declaration.Failures
import QueryBindings.Proofs.Declaration.Items

/-! # Names of operations

An operation is declared under its own name, or with its kind after it where the name is taken: by
a type, or by anything that an operation before it declares.  So the name depends on the schema and
on the operations that come first, but on them only in this way.

Main statements: `declarations_withOperations` (a run up to an operation, and from there on),
`namesAt?_withOperations` (what an operation is declared under), `invalid_of_source` (every failure
is one of the document) and `namesAt?_eq_iff` (how the names of an operation depend on the
others). -/

namespace QueryBindings

/-! ### Runs over several operations -/

theorem operationDeclarations_append {schema : Schema} {options : Options} {names : ItemNames}
    {before rest : List RenderedOperation} {ds : List Declaration}
    (h : operationDeclarations schema options names (before ++ rest) = .ok ds) :
    ∃ earlier mid later, operationDeclarations schema options names before = .ok earlier ∧
      Claims names (earlier.map Declaration.name) mid ∧
      operationDeclarations schema options mid rest = .ok later ∧ ds = earlier ++ later := by
  induction before generalizing names ds with
  | nil => exact ⟨[], names, ds, rfl, .nil names, h, rfl⟩
  | cons r before ih =>
      rw [List.cons_append] at h
      unfold operationDeclarations at h
      obtain ⟨⟨part, next⟩, hpart, h⟩ := bind_eq_ok.mp h
      obtain ⟨others, hothers, h⟩ := bind_eq_ok.mp h
      cases h
      obtain ⟨earlier, mid, later, hearlier, hclaims, hlater, rfl⟩ := ih hothers
      refine ⟨part ++ earlier, mid, later, ?_, ?_, hlater, (List.append_assoc ..).symm⟩
      · unfold operationDeclarations
        exact bind_eq_ok.mpr ⟨(part, next), hpart, bind_eq_ok.mpr ⟨earlier, hearlier, rfl⟩⟩
      · rw [List.map_append]
        exact (operationItems_of_declarations hpart).2.append hclaims

namespace Generation

variable {g : Generation} {options : Options}

def withOperations (g : Generation) (operations : List RenderedOperation) : Generation :=
  { g with operations := operations }

/-- A type of the bundle is declared as `item`. -/
def TypesTake (g : Generation) (options : Options) (item : String) : Prop :=
  item ∈ (g.typeDeclarations options).map Declaration.name

/-- Something is declared as `item` for the operations of the bundle. -/
def OperationsTake (g : Generation) (options : Options) (item : String) : Prop :=
  ∃ ds, g.declarations options = .ok (g.typeDeclarations options ++ ds) ∧
    item ∈ ds.map Declaration.name

theorem declarations_withOperations {before after : List RenderedOperation} {r : RenderedOperation}
    {ds : List Declaration}
    (h : (g.withOperations (before ++ r :: after)).declarations options = .ok ds) :
    ∃ start earlier names part mid later,
      operationDeclarations g.schema options start before = .ok earlier ∧
      (g.withOperations before).declarations options =
        .ok (g.typeDeclarations options ++ earlier) ∧
      (∀ item, names.contains item = true ↔
        item ∈ (g.typeDeclarations options ++ earlier).map Declaration.name) ∧
      r.declarations g.schema options names = .ok (part, mid) ∧
      ds = g.typeDeclarations options ++ (earlier ++ (part ++ later)) := by
  unfold declarations at h
  dsimp only at h
  obtain ⟨start, hstart, h⟩ := bind_eq_ok.mp h
  obtain ⟨operations, hoperations, h⟩ := bind_eq_ok.mp h
  cases h
  obtain ⟨earlier, names, rest, hearlier, hclaims, hrest, rfl⟩ :=
    operationDeclarations_append hoperations
  unfold operationDeclarations at hrest
  obtain ⟨⟨part, mid⟩, hpart, hrest⟩ := bind_eq_ok.mp hrest
  obtain ⟨later, hlater, hrest⟩ := bind_eq_ok.mp hrest
  cases hrest
  refine ⟨start, earlier, names, part, mid, later, hearlier, ?_, fun item => ?_, hpart, rfl⟩
  · unfold declarations
    exact bind_eq_ok.mpr ⟨start, hstart, bind_eq_ok.mpr ⟨earlier, hearlier, rfl⟩⟩
  · have htypes := (claims_types g.schema options hstart).append hclaims
    rw [htypes.contains, List.map_append]
    exact or_iff_right Bool.false_ne_true

end Generation

/-! ### What an operation is declared under -/

/-- The names of an operation's item, of the record of its variables and of that of its answer. -/
structure OperationNames where
  item : String
  input : String
  response : String
deriving DecidableEq, Repr

namespace OperationNames

def ofItem (item : String) : OperationNames := ⟨item, item ++ "Variables", item ++ "Response"⟩

theorem ofItem_inj {a b : String} : ofItem a = ofItem b ↔ a = b :=
  ⟨fun h => congrArg item h, fun h => congrArg ofItem h⟩

end OperationNames

/-- The names of the operations among declarations, in order. -/
def operationNames (ds : List Declaration) : List OperationNames :=
  ds.filterMap fun
    | .operation item _ _ input response => some ⟨item, input, response⟩
    | _ => none

theorem operationNames_append (ds es : List Declaration) :
    operationNames (ds ++ es) = operationNames ds ++ operationNames es :=
  List.filterMap_append

theorem operationNames_typeDeclarations (g : Generation) (options : Options) :
    operationNames (g.typeDeclarations options) = [] := by
  unfold operationNames Generation.typeDeclarations
  rw [List.filterMap_eq_nil_iff, List.forall_mem_map]
  intro d _
  unfold Definition.declaration
  cases d.kind <;> rfl

theorem operationNames_declarations {schema : Schema} {options : Options}
    {names after : ItemNames} {r : RenderedOperation} {part : List Declaration}
    (h : r.declarations schema options names = .ok (part, after)) :
    ∃ name, r.operation.name = some name ∧
      operationNames part = [.ofItem (operationItem names r.operation.kind name)] := by
  unfold RenderedOperation.declarations at h
  dsimp only at h
  split at h
  · cases h
  · rename_i name hname
    split at h
    · cases h
    · rename_i root hroot
      obtain ⟨first, -, h⟩ := bind_eq_ok.mp h
      obtain ⟨second, -, h⟩ := bind_eq_ok.mp h
      obtain ⟨⟨records, last⟩, hrecords, h⟩ := bind_eq_ok.mp h
      cases h
      refine ⟨name, hname, ?_⟩
      have hnone : operationNames records = [] := List.filterMap_eq_nil_iff.mpr fun d hd => by
        obtain ⟨suffix, held, rfl⟩ := record_of_mem_responseRecords hrecords d hd
        rfl
      rw [operationNames_append]
      show operationNames records ++ _ = _
      rw [hnone]
      rfl

theorem length_operationNames {schema : Schema} {options : Options} {names : ItemNames}
    {rs : List RenderedOperation} {ds : List Declaration}
    (h : operationDeclarations schema options names rs = .ok ds) :
    (operationNames ds).length = rs.length := by
  induction rs generalizing names ds with
  | nil =>
      cases h
      rfl
  | cons r rest ih =>
      unfold operationDeclarations at h
      obtain ⟨⟨part, mid⟩, hpart, h⟩ := bind_eq_ok.mp h
      obtain ⟨others, hothers, h⟩ := bind_eq_ok.mp h
      cases h
      obtain ⟨name, -, hnames⟩ := operationNames_declarations hpart
      rw [operationNames_append, List.length_append, hnames, ih hothers, List.length_singleton,
        List.length_cons, Nat.add_comm]

namespace Generation

variable {g : Generation} {options : Options}

/-- The names of the operation at `position` in all that is declared for a bundle. -/
def namesAt? (g : Generation) (options : Options) (position : Nat) : Option OperationNames :=
  (g.declarations options).toOption.bind fun ds => (operationNames ds)[position]?

theorem namesAt?_withOperations {before after : List RenderedOperation} {r : RenderedOperation}
    {name : String} {ds : List Declaration} (hname : r.operation.name = some name)
    (h : (g.withOperations (before ++ r :: after)).declarations options = .ok ds) :
    ∃ names : ItemNames,
      (∀ item, names.contains item = true ↔
        g.TypesTake options item ∨ (g.withOperations before).OperationsTake options item) ∧
      (g.withOperations (before ++ r :: after)).namesAt? options before.length =
        some (.ofItem (operationItem names r.operation.kind name)) := by
  obtain ⟨start, earlier, names, part, mid, later, hearlier, hbefore, hnames, hpart, hds⟩ :=
    declarations_withOperations h
  refine ⟨names, fun item => ?_, ?_⟩
  · rw [hnames, List.map_append, List.mem_append]
    refine or_congr Iff.rfl ⟨fun hitem => ⟨earlier, hbefore, hitem⟩, ?_⟩
    rintro ⟨es, hes, hitem⟩
    rw [hbefore] at hes
    rw [List.append_cancel_left (Except.ok.inj hes)]
    exact hitem
  · obtain ⟨other, hother, hpartNames⟩ := operationNames_declarations hpart
    rw [hname] at hother
    cases hother
    unfold namesAt?
    rw [h, hds]
    show (operationNames _)[before.length]? = _
    rw [operationNames_append, operationNames_typeDeclarations, List.nil_append,
      operationNames_append, ← length_operationNames hearlier,
      List.getElem?_append_right (Nat.le_refl _), Nat.sub_self, operationNames_append, hpartNames]
    rfl

end Generation

/-! ### Failures -/

theorem invalid_of_mergeFields {set : SelectionSet} {before : List Selected} {e : Error}
    (h : mergeFields before set = .error e) : ∃ reason, e = .invalid reason := by
  induction set generalizing before with
  | nil => cases h
  | field f inner rest _ ih =>
      unfold mergeFields at h
      split at h
      · rename_i hfirst
        cases h
        exact ⟨_, (mergeField_eq_error hfirst).1⟩
      · exact ih h
  | spread s rest _ =>
      cases h
      exact ⟨_, rfl⟩
  | inline i inner rest _ _ =>
      cases h
      exact ⟨_, rfl⟩

/-- `responseRecords` fails only for a reason that lies in the document.  The induction is on the
size of the set. -/
theorem invalid_of_responseRecords {c : RecordContext} {name parent : String} {set : SelectionSet}
    {names : ItemNames} {e : Error} (h : responseRecords c name parent set names = .error e) :
    ∃ reason, e = .invalid reason := by
  induction hsize : set.size using Nat.strongRecOn generalizing name parent set names with
  | _ n ih =>
      rcases responseRecords_eq_error h with h | h | ⟨fields, start, hfields, h⟩
      · obtain ⟨previous, rfl⟩ := claim_eq_error h
        exact ⟨_, rfl⟩
      · exact invalid_of_mergeFields h
      · obtain ⟨s, hs, hfails⟩ := responseMembers_eq_error h
        cases hfails with
        | missing _ _ he => exact ⟨_, he⟩
        | nested _ _ hrecords =>
            exact ih _ (hsize ▸ size_lt_of_mergeFields hfields hs) hrecords rfl

theorem invalid_of_declarations {schema : Schema} {options : Options} {names : ItemNames}
    {r : RenderedOperation} {e : Error} (h : r.declarations schema options names = .error e) :
    ∃ reason, e = .invalid reason := by
  unfold RenderedOperation.declarations at h
  dsimp only at h
  split at h
  · cases h
    exact ⟨_, rfl⟩
  · split at h
    · cases h
      exact ⟨_, rfl⟩
    · rcases bind_eq_error.mp h with h | ⟨first, -, h⟩
      · obtain ⟨previous, rfl⟩ := claim_eq_error h
        exact ⟨_, rfl⟩
      · rcases bind_eq_error.mp h with h | ⟨second, -, h⟩
        · obtain ⟨previous, rfl⟩ := claim_eq_error h
          exact ⟨_, rfl⟩
        · rcases bind_eq_error.mp h with h | ⟨records, -, h⟩
          · exact invalid_of_responseRecords h
          · cases h

/-- Whatever goes wrong with `source` is a fault of the document. -/
theorem invalid_of_source {g : Generation} {options : Options} {e : Error}
    (h : g.source options = .error e) : ∃ reason, e = .invalid reason := by
  have hdeclarations : g.declarations options = .error e := by
    unfold Generation.source at h
    cases hd : g.declarations options with
    | error e' =>
        rw [hd] at h
        cases h
        rfl
    | ok ds =>
        rw [hd] at h
        cases h
  rcases declarations_eq_error hdeclarations with ⟨owner, previous, item, rfl⟩ | ⟨r, -, names, h⟩
  · exact ⟨_, rfl⟩
  · exact invalid_of_declarations h

/-! ### Two runs -/

theorem itemName_ne_empty (name : String) : itemName name ≠ "" := by
  unfold itemName
  dsimp only
  split
  · decide
  · rename_i hne
    split
    · intro h
      have hlength := congrArg String.length h
      rw [String.length_append] at hlength
      have htype : "Type".length = 4 := rfl
      have hempty : "".length = 0 := rfl
      omega
    · exact hne

theorem append_itemName_ne (item kind : String) : item ++ itemName kind ≠ item := by
  intro h
  have hlength := congrArg String.length h
  rw [String.length_append] at hlength
  exact itemName_ne_empty kind (String.length_eq_zero_iff.mp (by omega))

/-- The kind is appended exactly if `itemName name` is taken. -/
theorem operationItem_eq_append_iff (names : ItemNames) (kind : OperationKind) (name : String) :
    operationItem names kind name = itemName name ++ itemName kind.keyword ↔
      names.contains (itemName name) = true := by
  unfold operationItem
  dsimp only
  split
  · rename_i h
    exact iff_of_true rfl h
  · rename_i h
    exact iff_of_false (append_itemName_ne _ _).symm h

theorem operationItem_eq_iff {names names' : ItemNames} {kind : OperationKind} {name : String} :
    operationItem names kind name = operationItem names' kind name ↔
      (names.contains (itemName name) = true ↔ names'.contains (itemName name) = true) := by
  rw [← operationItem_eq_append_iff names kind, ← operationItem_eq_append_iff names' kind]
  constructor
  · intro h
    rw [h]
  · intro h
    rcases operationItem_eq_or names kind name with hplain | hkind
    · rcases operationItem_eq_or names' kind name with hplain' | hkind'
      · rw [hplain, hplain']
      · exact (h.mpr hkind').trans hkind'.symm
    · exact hkind.trans (h.mp hkind).symm

/-- In two bundles that differ in their operations only, an operation of both has the same
`namesAt?` exactly if its name is that of a declared type, or is taken by the operations before it
in both bundles or in neither.  Its kind is appended exactly if its name is taken in one of these
ways (`TypesTake`, `OperationsTake`).  No name is declared twice, and all that can go wrong is a
fault of the document. -/
theorem Generation.namesAt?_eq_iff {g : Generation} {options : Options}
    {before after before' after' : List RenderedOperation} {r : RenderedOperation}
    {name text text' : String} (hname : r.operation.name = some name)
    (h : (g.withOperations (before ++ r :: after)).source options = .ok text)
    (h' : (g.withOperations (before' ++ r :: after')).source options = .ok text') :
    ((g.withOperations (before ++ r :: after)).namesAt? options before.length =
        (g.withOperations (before' ++ r :: after')).namesAt? options before'.length ↔
      g.TypesTake options (itemName name) ∨
        ((g.withOperations before).OperationsTake options (itemName name) ↔
          (g.withOperations before').OperationsTake options (itemName name))) ∧
    ((g.withOperations (before ++ r :: after)).namesAt? options before.length =
        some (.ofItem (itemName name ++ itemName r.operation.kind.keyword)) ↔
      g.TypesTake options (itemName name) ∨
        (g.withOperations before).OperationsTake options (itemName name)) ∧
    ((g.withOperations (before ++ r :: after)).namesAt? options before.length =
        some (.ofItem (itemName name)) ↔
      ¬ (g.TypesTake options (itemName name) ∨
        (g.withOperations before).OperationsTake options (itemName name))) ∧
    (∃ ds, text = declarationsText ds ∧ (ds.map Declaration.name).Nodup) ∧
    ∀ operations e, (g.withOperations operations).source options = .error e →
      ∃ reason, e = .invalid reason := by
  obtain ⟨ds, hds, rfl⟩ := map_eq_ok.mp h
  obtain ⟨ds', hds', rfl⟩ := map_eq_ok.mp h'
  obtain ⟨names, hnames, hat⟩ := namesAt?_withOperations hname hds
  obtain ⟨names', hnames', hat'⟩ := namesAt?_withOperations hname hds'
  obtain ⟨-, -, -, hdistinct⟩ := declarations_eq_ok hds
  rw [hat, hat']
  simp only [Option.some.injEq, OperationNames.ofItem_inj]
  refine ⟨?_, ?_, ?_, ⟨ds, rfl, hdistinct⟩, fun operations e he => invalid_of_source he⟩
  · rw [operationItem_eq_iff, hnames, hnames']
    by_cases htypes : g.TypesTake options (itemName name)
    · simp only [htypes, true_or]
    · simp only [htypes, false_or]
  · rw [operationItem_eq_append_iff, hnames]
  · rw [← hnames, ← operationItem_eq_append_iff names r.operation.kind]
    rcases operationItem_eq_or names r.operation.kind name with hplain | hkind
    · rw [hplain]
      exact iff_of_true rfl (append_itemName_ne _ _).symm
    · rw [hkind]
      exact iff_of_false (append_itemName_ne _ _) fun hne => hne rfl

/-- The query `Color` beside the type `Color`, and a query called otherwise. -/
def colorOperations : RenderedOperation × RenderedOperation :=
  (⟨⟨.query, some "Color", [], [], .field ⟨none, "color", [], []⟩ .nil .nil⟩,
      "query Color {color}"⟩,
    ⟨⟨.query, some "Pick", [], [], .field ⟨none, "color", [], []⟩ .nil .nil⟩,
      "query Pick {color}"⟩)

/-- The operation gets its kind whether it comes first or last. -/
theorem Generation.namesAt?_eq_colorOperations :
    ∃ text text', colorOperations.1.operation.name = some "Color" ∧
      (colorBundle.withOperations
        ([colorOperations.2] ++ colorOperations.1 :: [])).source .default = .ok text ∧
      (colorBundle.withOperations
        ([] ++ colorOperations.1 :: [colorOperations.2])).source .default = .ok text' ∧
      colorBundle.TypesTake .default "Color" ∧
      (colorBundle.withOperations
          ([colorOperations.2] ++ colorOperations.1 :: [])).namesAt? .default 1 =
        (colorBundle.withOperations
          ([] ++ colorOperations.1 :: [colorOperations.2])).namesAt? .default 0 ∧
      (colorBundle.withOperations
          ([colorOperations.2] ++ colorOperations.1 :: [])).namesAt? .default 1 =
        some ⟨"ColorQuery", "ColorQueryVariables", "ColorQueryResponse"⟩ := by
  have hname : colorOperations.1.operation.name = some "Color" := rfl
  have hlast : ((colorBundle.withOperations
      ([colorOperations.2] ++ colorOperations.1 :: [])).source .default).toOption.isSome := by
    decide +kernel
  have hfirst : ((colorBundle.withOperations
      ([] ++ colorOperations.1 :: [colorOperations.2])).source .default).toOption.isSome := by
    decide +kernel
  obtain ⟨text, htext⟩ := Option.isSome_iff_exists.mp hlast
  obtain ⟨text', htext'⟩ := Option.isSome_iff_exists.mp hfirst
  have hitem : itemName "Color" = "Color" := by decide +kernel
  have htype : colorBundle.TypesTake .default (itemName "Color") := by
    rw [hitem]
    show "Color" ∈ _
    decide +kernel
  obtain ⟨hsame, hkind, -⟩ :=
    namesAt?_eq_iff hname (eq_ok_of_toOption htext) (eq_ok_of_toOption htext')
  refine ⟨text, text', hname, eq_ok_of_toOption htext, eq_ok_of_toOption htext', hitem ▸ htype,
    hsame.mpr (.inl htype), ?_⟩
  have hsuffix : OperationNames.ofItem (itemName "Color" ++ itemName OperationKind.query.keyword) =
      ⟨"ColorQuery", "ColorQueryVariables", "ColorQueryResponse"⟩ := by decide +kernel
  rw [← hsuffix]
  exact hkind.mpr (.inl htype)

def plainBundle : Generation where
  schema :=
    let query : Definition := { Definition.bare .object "Query" with
      fields := [⟨"a", none, [], none, .named "Int" false, []⟩] }
    { Schema.addType .empty query with queryRoot := some "Query" }
  schemaText := ""
  operations := []
  referenced := ∅

/-- The second operation, `GetResponse`, is called like the record of the answer to the first,
`Get`. -/
def responseOperations : RenderedOperation × RenderedOperation :=
  (⟨⟨.query, some "Get", [], [], .field ⟨none, "a", [], []⟩ .nil .nil⟩, "query Get {a}"⟩,
    ⟨⟨.query, some "GetResponse", [], [], .field ⟨none, "a", [], []⟩ .nil .nil⟩,
      "query GetResponse {a}"⟩)

/-- An operation that clashes with what another one declares is not refused but renamed, though no
type is called like it. -/
theorem Generation.namesAt?_ne_responseOperations :
    (∃ text, (plainBundle.withOperations [responseOperations.1, responseOperations.2]).source
      .default = .ok text) ∧
    (∃ text, (plainBundle.withOperations [responseOperations.2]).source .default = .ok text) ∧
    ¬ plainBundle.TypesTake .default "GetResponse" ∧
    (plainBundle.withOperations [responseOperations.1, responseOperations.2]).namesAt? .default 1 =
      some ⟨"GetResponseQuery", "GetResponseQueryVariables", "GetResponseQueryResponse"⟩ ∧
    (plainBundle.withOperations [responseOperations.2]).namesAt? .default 0 =
      some ⟨"GetResponse", "GetResponseVariables", "GetResponseResponse"⟩ := by
  have hboth : ((plainBundle.withOperations
      [responseOperations.1, responseOperations.2]).source .default).toOption.isSome := by
    decide +kernel
  have halone : ((plainBundle.withOperations
      [responseOperations.2]).source .default).toOption.isSome := by decide +kernel
  obtain ⟨text, htext⟩ := Option.isSome_iff_exists.mp hboth
  obtain ⟨text', htext'⟩ := Option.isSome_iff_exists.mp halone
  refine ⟨⟨text, eq_ok_of_toOption htext⟩, ⟨text', eq_ok_of_toOption htext'⟩, ?_, ?_, ?_⟩
  · show "GetResponse" ∉ _
    decide +kernel
  · decide +kernel
  · decide +kernel

end QueryBindings

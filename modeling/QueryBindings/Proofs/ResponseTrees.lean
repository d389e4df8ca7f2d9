import QueryBindings.Proofs.Declaration.Bundles
import QueryBindings.Proofs.Declaration.Tree
import QueryBindings.Proofs.ValidFields

/-! # Trees of answers

The records that a bundle declares for the answer of an operation are the tree of its pruned
selections.  They are the tree of the selections themselves exactly if nothing is selected of
`__typename`; validation sees to that only outside reserved fields.

Main statements: `exists_treeOf_iff` (when the records are the tree of the whole set) and
`operationTrees_of_generate` (the operations of a bundle). -/

namespace QueryBindings

/-! ### Trees of sets that are not pruned -/

namespace SelectionSet

theorem Opens.of_pruned {set : SelectionSet} {keys : List String} (h : set.pruned.Opens keys) :
    set.Opens keys := by
  obtain ⟨path, f, inner, hholds, hinner, hkeys⟩ := h
  obtain ⟨-, below, hbelow, rfl⟩ := holds_pruned_iff.mp hholds
  refine ⟨path, f, below, hbelow, fun hnil => hinner ?_, hkeys⟩
  rw [hnil]
  exact ite_self nil

/-- If something is selected of `__typename`, it is so of one that no other lies above. -/
theorem exists_outermost_typename {path : List Field} {set : SelectionSet} {f : Field}
    {inner : SelectionSet} (h : set.Holds path f inner) (hname : f.name = "__typename")
    (hinner : inner ≠ nil) :
    ∃ path f inner, (∀ e ∈ path, e.name ≠ "__typename") ∧ set.Holds path f inner ∧
      f.name = "__typename" ∧ inner ≠ nil := by
  induction path generalizing set with
  | nil => exact ⟨[], f, inner, List.forall_mem_nil _, h, hname, hinner⟩
  | cons e path ih =>
      obtain ⟨below, hmem, hbelow⟩ := h
      by_cases he : e.name = "__typename"
      · refine ⟨[], e, below, List.forall_mem_nil _, hmem, he, fun hnil => ?_⟩
        rw [hnil] at hbelow
        exact not_holds_nil path f inner hbelow
      · obtain ⟨path, g, inside, hpath, hholds, hg⟩ := ih hbelow
        exact ⟨e :: path, g, inside, List.forall_mem_cons.mpr ⟨he, hpath⟩, ⟨below, hmem, hholds⟩, hg⟩

end SelectionSet

theorem RecordsAt.nodup {name : String} {set : SelectionSet} {paths : List (List String)}
    {records : List Declaration} (h : RecordsAt name set paths records) : paths.Nodup := by
  refine h.order.imp fun {a b} hab heq => hab ?_
  cases heq
  exact List.prefix_rfl

theorem opens_pruned_of_treeOf {name : String} {set : SelectionSet}
    {paths pruned : List (List String)} {records : List Declaration}
    (h : TreeOf name set paths records) (h' : TreeOf name set.pruned pruned records)
    {keys : List String} (hkeys : set.Opens keys) : set.pruned.Opens keys := by
  have hsub : pruned ⊆ paths := by
    intro k hk
    rw [h.mem_iff]
    exact ((h'.mem_iff k).mp hk).imp_right SelectionSet.Opens.of_pruned
  have hlength : paths.length ≤ pruned.length :=
    Nat.le_of_eq (h.records.length_eq.trans h'.records.length_eq.symm)
  have hperm : pruned.Perm paths :=
    (List.subperm_of_subset h'.nodup hsub).perm_of_length_le hlength
  have hmem : keys ∈ pruned := hperm.mem_iff.mpr ((h.mem_iff keys).mpr (.inr hkeys))
  refine ((h'.mem_iff keys).mp hmem).resolve_left ?_
  rintro rfl
  exact SelectionSet.not_opens_nil set hkeys

/-- The records for a set are its `TreeOf` exactly if nothing is selected of `__typename`. -/
theorem exists_treeOf_iff {c : RecordContext} {name parent : String} {set : SelectionSet}
    (hflat : set.isFlat = true) {names after : ItemNames} {records : List Declaration}
    (h : responseRecords c name parent set names = .ok (records, after)) :
    (∃ paths, TreeOf name set paths records) ↔ set.TypenamesBare := by
  constructor
  · rintro ⟨paths, htree⟩ path f inner hholds hname
    by_contra hinner
    obtain ⟨pruned, htree'⟩ := exists_treeOf_pruned hflat h
    have hflat' := SelectionSet.isFlat_pruned hflat
    have hbare := SelectionSet.typenamesBare_pruned set
    rw [← responseRecords_pruned] at h
    obtain ⟨path, f, inner, hpath, hholds, hname, hinner⟩ :=
      SelectionSet.exists_outermost_typename hholds hname hinner
    obtain ⟨path', g, below, hg, hbelow, hkeys⟩ :=
      opens_pruned_of_treeOf htree htree' ⟨path, f, inner, hholds, hinner, rfl⟩
    -- The pruned set has the field too, but selects nothing of it, and so another one with its key.
    have hf := SelectionSet.holds_pruned_iff.mpr ⟨hpath, inner, hholds, rfl⟩
    rw [List.map_append, List.map_append] at hkeys
    obtain ⟨hpaths, hkey⟩ := List.append_inj' hkeys rfl
    obtain ⟨hsame, -⟩ := same_of_holds hflat' hbare h hg hf hpaths (List.singleton_inj.mp hkey)
    exact hbelow (hbare path' g below hg (hsame.trans hname))
  · exact fun hbare => exists_treeOf hflat hbare h

/-! ### Operations -/

/-- What an operation declares, with the records of its answer as a `TreeOf`. -/
inductive OperationTree (r : RenderedOperation) : List Declaration → Prop where
  | intro {name item : String} {members : List Member} {paths : List (List String)}
      {records : List Declaration} (hname : r.operation.name = some name)
      (htree : TreeOf (item ++ "Response") r.operation.selections.pruned paths records)
      (hexact : (∃ all, TreeOf (item ++ "Response") r.operation.selections all records) ↔
        r.operation.selections.TypenamesBare) :
      OperationTree r (.record none (item ++ "Variables") members :: records ++
        [.operation item name r.text (item ++ "Variables") (item ++ "Response")])

theorem OperationItems.tree {schema : Schema} {options : Options} {r : RenderedOperation}
    {declarations : List Declaration} (h : OperationItems schema options r declarations)
    (hflat : r.operation.selections.isFlat = true) : OperationTree r declarations := by
  cases h with
  | intro hname _ _ hrecords =>
      obtain ⟨paths, htree⟩ := exists_treeOf_pruned hflat hrecords
      exact .intro hname htree (exists_treeOf_iff hflat hrecords)

theorem OperationItems.not_conflictsAt {schema : Schema} {options : Options}
    {r : RenderedOperation} {declarations : List Declaration}
    (h : OperationItems schema options r declarations)
    (hflat : r.operation.selections.isFlat = true) (key : String) :
    ¬ r.operation.selections.pruned.ConflictsAt key := by
  cases h with
  | intro _ _ _ hrecords =>
      rw [← responseRecords_pruned] at hrecords
      exact not_conflictsAt_of_responseRecords (SelectionSet.isFlat_pruned hflat)
        (SelectionSet.typenamesBare_pruned _) hrecords key

theorem conflictsAt_of_declarations {schema : Schema} {options : Options} {names : ItemNames}
    {r : RenderedOperation} {key : String} (hflat : r.operation.selections.isFlat = true)
    (h : r.declarations schema options names = .error (.invalid (.conflictingFields key))) :
    r.operation.selections.pruned.ConflictsAt key := by
  rw [← declarations_pruned] at h
  cases operationFails_of_declarations
    (show r.pruned.operation.selections.isFlat = true from SelectionSet.isFlat_pruned hflat) h with
  | records _ hfails =>
      cases hfails with
      | fields hf hg hkeys hconflict => exact ⟨_, _, _, _, _, _, hf, hg, hkeys, hconflict, rfl⟩

/-! ### Bundles -/

variable {options emitting : Options} {schema : Schema} {d : Document} {g : Generation}

theorem isFlat_of_generate (h : generate options schema d = .ok g) {r : RenderedOperation}
    (hr : r ∈ g.operations) : r.operation.selections.isFlat = true := by
  obtain ⟨table, o, -, -, -, hrendered⟩ := exists_operation_of_generate h hr
  exact hrendered.expansion.flat

theorem operationTrees_of_declarations (h : generate options schema d = .ok g)
    {declarations : List Declaration} (hdeclarations : g.declarations emitting = .ok declarations) :
    (declarations.map Declaration.name).Nodup ∧ ∃ parts,
      declarations = g.typeDeclarations emitting ++ parts.flatten ∧
      List.Forall₂ OperationTree g.operations parts := by
  obtain ⟨parts, hparts, hall, hnodup⟩ := declarations_eq_ok hdeclarations
  have hflat : ∀ r ∈ g.operations, r.operation.selections.isFlat = true :=
    fun r hr => isFlat_of_generate h hr
  have hboth := (List.forall₂_and_left ..).mpr ⟨hflat, hparts⟩
  exact ⟨hnodup, parts, hall, hboth.imp fun r part hr => hr.2.tree hr.1⟩

theorem exists_error_of_conflictsAt (h : generate options schema d = .ok g) {r : RenderedOperation}
    (hr : r ∈ g.operations) {key : String}
    (hconflict : r.operation.selections.pruned.ConflictsAt key) :
    ∃ e, g.declarations emitting = .error e := by
  cases hdeclarations : g.declarations emitting with
  | error e => exact ⟨e, rfl⟩
  | ok declarations =>
      obtain ⟨parts, hparts, -⟩ := declarations_eq_ok hdeclarations
      obtain ⟨part, -, hpart⟩ := exists_of_forall₂ hparts hr
      exact absurd hconflict (hpart.not_conflictsAt (isFlat_of_generate h hr) key)

/-- Declarations fail for a conflict only if there is one in an answer. -/
theorem exists_conflictsAt (h : generate options schema d = .ok g) {key : String}
    (hkey : g.declarations emitting = .error (.invalid (.conflictingFields key))) :
    ∃ r ∈ g.operations, r.operation.selections.pruned.ConflictsAt key := by
  rcases declarations_eq_error hkey with ⟨owner, previous, item, he⟩ | ⟨r, hr, names, hfails⟩
  · cases he
  · exact ⟨r, hr, conflictsAt_of_declarations (isFlat_of_generate h hr) hfails⟩

/-- Only below reserved fields is anything cut from the selections of an operation. -/
theorem pruned_eq_or_exists_reserved (h : generate options schema d = .ok g) {r : RenderedOperation}
    (hr : r ∈ g.operations) :
    r.operation.selections.pruned = r.operation.selections ∨
      ∃ path f inner, r.operation.selections.Holds path f inner ∧ f.name = "__typename" ∧
        inner ≠ .nil ∧ ∃ e ∈ path, isMetaName e.name = true := by
  obtain ⟨table, o, hvalid, htable, ho, hrendered⟩ := exists_operation_of_generate h hr
  by_cases hbare : r.operation.selections.TypenamesBare
  · exact .inl (hbare.pruned_eq hrendered.expansion.flat)
  · unfold SelectionSet.TypenamesBare at hbare
    push Not at hbare
    obtain ⟨path, f, inner, hholds, hname, hinner⟩ := hbare
    exact .inr ⟨path, f, inner, hholds, hname, hinner,
      exists_reserved_of_typename hvalid htable ho hrendered.expansion hholds hname hinner⟩

/-- The records for the answer of each operation are the `TreeOf` its selections, merged by response
key, but without what is selected of `__typename`.  There are no declarations if fields conflict
anywhere in such a tree, and they fail for a conflict only then.  Nothing is cut from the selections
of an operation but for those of a `__typename` below a reserved field. -/
theorem operationTrees_of_generate (h : generate options schema d = .ok g) :
    (∀ declarations, g.declarations emitting = .ok declarations →
      (declarations.map Declaration.name).Nodup ∧ ∃ parts,
        declarations = g.typeDeclarations emitting ++ parts.flatten ∧
        List.Forall₂ OperationTree g.operations parts) ∧
    (∀ r ∈ g.operations, ∀ key, r.operation.selections.pruned.ConflictsAt key →
      ∃ e, g.declarations emitting = .error e) ∧
    (∀ key, g.declarations emitting = .error (.invalid (.conflictingFields key)) →
      ∃ r ∈ g.operations, r.operation.selections.pruned.ConflictsAt key) ∧
    ∀ r ∈ g.operations, r.operation.selections.pruned = r.operation.selections ∨
      ∃ path f inner, r.operation.selections.Holds path f inner ∧ f.name = "__typename" ∧
        inner ≠ .nil ∧ ∃ e ∈ path, isMetaName e.name = true :=
  ⟨fun _ hdeclarations => operationTrees_of_declarations h hdeclarations,
    fun _ hr _ hconflict => exists_error_of_conflictsAt h hr hconflict,
    fun _ hkey => exists_conflictsAt h hkey,
    fun _ hr => pruned_eq_or_exists_reserved h hr⟩

/-! ### One object behind one field -/

def queryOf (name : String) (set : SelectionSet) : Operation := ⟨.query, some name, [], [], set⟩

def bundleOf (schema : Schema) (name : String) (set : SelectionSet) : Generation :=
  ⟨schema, schema.print "  " false,
    [⟨queryOf name set, (queryOf name set).requestText .default []⟩],
    schema.referencedTypes [queryOf name set]⟩

theorem generate_queryOf {schema : Schema} {name : String} {set : SelectionSet}
    (hvalid : (Document.validate ⟨[queryOf name set], []⟩ schema).toOption = some ())
    (hspreads : set.spreads = []) (hflat : set.inlined ∅ = .ok set) :
    generate .default schema ⟨[queryOf name set], []⟩ = .ok (bundleOf schema name set) :=
  generate_of_spreads_eq_nil (eq_ok_of_toOption hvalid) hspreads hflat

/-- `Query` has the one field `outer`, to an object with two fields. -/
def objectBehind (outer : String) : Schema :=
  let field (name type : String) : FieldDefinition :=
    ⟨name, none, [], none, .named type false, []⟩
  let types := [
    { Definition.bare .object "Query" with fields := [field outer "X"] },
    { Definition.bare .object "X" with fields := [field "a" "Int", field "b" "Int"] }]
  { types.foldl Schema.addType .builtin with
    queryRoot := some "Query"
    possible := .ofList [("Query", ["Query"]), ("X", ["X"])] }

/-- The object selected twice, each time with another set. -/
def repeatedSelections : SelectionSet :=
  let a : Field := ⟨none, "a", [], []⟩
  let b : Field := ⟨none, "b", [], []⟩
  let x : Field := ⟨none, "x", [], []⟩
  .field x (.field b .nil .nil) (.field x (.field a .nil (.field b .nil .nil)) .nil)

theorem operationTrees_repeatedSelections :
    generate .default (objectBehind "x") ⟨[queryOf "Q" repeatedSelections], []⟩ =
      .ok (bundleOf (objectBehind "x") "Q" repeatedSelections) ∧
    ∃ declarations parts,
      (bundleOf (objectBehind "x") "Q" repeatedSelections).declarations .default =
        .ok declarations ∧
      List.Forall₂ OperationTree (bundleOf (objectBehind "x") "Q" repeatedSelections).operations
        parts ∧
      declarations = parts.flatten ∧
      declarations.map Declaration.name = ["QVariables", "QResponse", "QResponseX", "Q"] ∧
      (membersOf? declarations "QResponseX").map (·.map Member.wireName) = some ["b", "a"] := by
  have hgenerate : generate .default (objectBehind "x") ⟨[queryOf "Q" repeatedSelections], []⟩ =
      .ok (bundleOf (objectBehind "x") "Q" repeatedSelections) :=
    generate_queryOf (by decide +kernel) rfl rfl
  have hsome : ((bundleOf (objectBehind "x") "Q" repeatedSelections).declarations
      .default).toOption.map (fun ds => (ds.map Declaration.name,
        (membersOf? ds "QResponseX").map (·.map Member.wireName))) =
      some (["QVariables", "QResponse", "QResponseX", "Q"], some ["b", "a"]) := by decide +kernel
  obtain ⟨declarations, hoption, heq⟩ := Option.map_eq_some_iff.mp hsome
  rw [Prod.mk.injEq] at heq
  have hdeclarations := eq_ok_of_toOption hoption
  obtain ⟨-, parts, hparts, hall⟩ := (operationTrees_of_generate hgenerate).1 _ hdeclarations
  have htypes : (bundleOf (objectBehind "x") "Q" repeatedSelections).typeDeclarations .default =
      [] := by decide +kernel
  rw [htypes] at hparts
  exact ⟨hgenerate, declarations, parts, hdeclarations, hall, hparts, heq.1, heq.2⟩

/-- Conflicting fields below a `__typename` that lies below a reserved field. -/
def hiddenConflict : SelectionSet :=
  .field ⟨none, "__schema", [], []⟩ (.field ⟨none, "__typename", [], []⟩
    (.field ⟨none, "a", [], []⟩ .nil (.field ⟨some "a", "b", [], []⟩ .nil .nil)) .nil) .nil

theorem TreeOf.exists_record {name : String} {set : SelectionSet} {paths : List (List String)}
    {records : List Declaration} (h : TreeOf name set paths records) {keys : List String}
    (hopens : set.Opens keys) : ∃ members, .record none (structName name keys) members ∈ records := by
  obtain ⟨r, hr, members, rfl, -⟩ :=
    exists_of_forall₂ h.records ((h.mem_iff keys).mpr (.inr hopens))
  exact ⟨members, hr⟩

/-- The declarations are made in spite of the conflict, and lack the record below `__typename`. -/
theorem not_treeOf_hiddenConflict :
    Schema.ofText "type Query { __schema: X } type X { a: Int b: Int }" =
      .ok (objectBehind "__schema") ∧
    Document.ofText "query Q { __schema { __typename { a a: b } } }" =
      .ok ⟨[queryOf "Q" hiddenConflict], []⟩ ∧
    generate .default (objectBehind "__schema") ⟨[queryOf "Q" hiddenConflict], []⟩ =
      .ok (bundleOf (objectBehind "__schema") "Q" hiddenConflict) ∧
    hiddenConflict.ConflictsAt "a" ∧
    ∃ declarations, (bundleOf (objectBehind "__schema") "Q" hiddenConflict).declarations .default =
        .ok declarations ∧
      ¬ ∃ paths records, (∀ r ∈ records, r ∈ declarations) ∧
        TreeOf "QResponse" hiddenConflict paths records := by
  have hsome : ((bundleOf (objectBehind "__schema") "Q" hiddenConflict).declarations
      .default).toOption.map (·.map Declaration.name) =
      some ["QVariables", "QResponse", "QResponseSchema", "Q"] := by decide +kernel
  obtain ⟨declarations, hoption, hnames⟩ := Option.map_eq_some_iff.mp hsome
  refine ⟨eq_ok_of_toOption (by decide +kernel), eq_ok_of_toOption (by decide +kernel),
    generate_queryOf (by decide +kernel) rfl rfl, ?_, declarations, eq_ok_of_toOption hoption, ?_⟩
  · have hholds : ∀ f, (f, .nil) ∈ (SelectionSet.field ⟨none, "a", [], []⟩ .nil
        (.field ⟨some "a", "b", [], []⟩ .nil .nil)).fields →
        hiddenConflict.Holds [⟨none, "__schema", [], []⟩, ⟨none, "__typename", [], []⟩] f .nil :=
      fun f hf => ⟨_, List.mem_cons_self, _, List.mem_cons_self, hf⟩
    exact ⟨_, _, _, _, _, _, hholds _ List.mem_cons_self,
      hholds _ (List.mem_cons_of_mem _ List.mem_cons_self), rfl, ⟨rfl, by decide⟩, rfl⟩
  · rintro ⟨paths, records, hsub, htree⟩
    have hopens : hiddenConflict.Opens ["__schema", "__typename"] :=
      ⟨[⟨none, "__schema", [], []⟩], ⟨none, "__typename", [], []⟩, _,
        ⟨_, List.mem_cons_self, List.mem_cons_self⟩, nofun, rfl⟩
    obtain ⟨members, hrecord⟩ := htree.exists_record hopens
    have hname : structName "QResponse" ["__schema", "__typename"] ∈
        ["QVariables", "QResponse", "QResponseSchema", "Q"] := by
      rw [← hnames]
      exact List.mem_map_of_mem (hsub _ hrecord)
    exact absurd hname (by decide +kernel)

end QueryBindings

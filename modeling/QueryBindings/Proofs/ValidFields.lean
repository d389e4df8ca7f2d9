import QueryBindings.Proofs.Bodies
import QueryBindings.Proofs.FragmentResolution

/-! # Fields of valid documents

Validation checks every fragment once, on its own, and never follows a spread.  Still every field
that an operation comes to fits the type in whose scope it is written, as long as no reserved field
lies above it, and so does the field in the expansion.

Main statements: `fits_of_validate` (a written field), `admitted_of_validate` (all of them, and those
of the expansion) and `exists_reserved_of_typename` (where `__typename` can have selections). -/

namespace QueryBindings

/-- No field of the path is reserved. -/
def Unreserved (path : List Field) : Prop := ∀ f ∈ path, isMetaName f.name = false

/-- A field fits its scope: `__typename` selects nothing, any other reserved field is let through,
and a field without a reserved name is declared by the type of the scope and selects something
exactly if its own type is composite. -/
inductive Admitted (schema : Schema) (scope : Option String) (f : Field) (inner : SelectionSet) :
    Prop where
  | typename (hname : f.name = "__typename") (hinner : inner = .nil)
  | reserved (hname : f.name ≠ "__typename") (hreserved : isMetaName f.name = true)
  | declared {type : String} {d : FieldDefinition} (hscope : scope = some type)
      (hown : schema.ownField? type f.name = some d)
      (hcomposite : inner ≠ .nil ↔ schema.isComposite d.type.baseName = true)

variable {schema : Schema} {table : FragmentTable} {d : Document} {o : Operation}
  {root : Definition}

theorem Admitted.of_eq_nil_iff {scope : Option String} {f : Field} {inner inner' : SelectionSet}
    (h : Admitted schema scope f inner) (hnil : inner' = .nil ↔ inner = .nil) :
    Admitted schema scope f inner' := by
  cases h with
  | typename hname hinner => exact .typename hname (hnil.mpr hinner)
  | reserved hname hreserved => exact .reserved hname hreserved
  | declared hscope hown hcomposite =>
      exact .declared hscope hown (hnil.not.trans hcomposite)

theorem FieldFits.admitted {scope : String} {f : Field} {inner : SelectionSet}
    (h : FieldFits schema table scope f inner) : Admitted schema (some scope) f inner := by
  cases h with
  | typename hname hinner => exact .typename hname hinner
  | reserved hname hreserved => exact .reserved hname hreserved
  | declared _ hown hcomposite _ =>
      refine .declared rfl hown ?_
      rw [hcomposite, Bool.not_eq_true', ← Bool.not_eq_true, inner.isEmpty_iff]

/-- A field that an operation comes to outside reserved fields is `Admitted` in its scope. -/
theorem fits_of_validate (hvalid : d.validate schema = .ok ()) (htable : d.fragmentTable = .ok table)
    (ho : o ∈ d.operations) (hroot : schema.root? o.kind = some root) {path : List Field}
    {site : Site} (h : table.Writes schema (some root.name) o.selections path site)
    (hpath : Unreserved path) :
    ∃ scope, site.scope = some scope ∧ FieldFits schema table scope site.field site.inner := by
  obtain ⟨table', htable', hfragments⟩ := fragmentsValid_of_validate hvalid
  cases htable.symm.trans htable'
  obtain ⟨root', hroot', -, hselections⟩ :=
    checkOperation_eq_ok.mp (checkOperation_of_validate hvalid htable ho)
  cases hroot.symm.trans hroot'
  exact h.fits hfragments.checked rfl hselections hpath

theorem admitted_of_writes (hvalid : d.validate schema = .ok ())
    (htable : d.fragmentTable = .ok table) (ho : o ∈ d.operations)
    (hroot : schema.root? o.kind = some root) {path : List Field} {site : Site}
    (h : table.Writes schema (some root.name) o.selections path site) (hpath : Unreserved path) :
    Admitted schema site.scope site.field site.inner := by
  obtain ⟨scope, hscope, hfits⟩ := fits_of_validate hvalid htable ho hroot h hpath
  rw [hscope]
  exact hfits.admitted

/-- Without empty bodies, what a field selects once it is expanded fits as well. -/
theorem admitted_of_expansion (hvalid : d.validate schema = .ok ())
    (htable : d.fragmentTable = .ok table) (ho : o ∈ d.operations)
    (hroot : schema.root? o.kind = some root) (hfilled : d.Filled) {path : List Field} {site : Site}
    (h : table.Writes schema (some root.name) o.selections path site) (hpath : Unreserved path)
    {inner : SelectionSet} (hinner : table.Expansion site.inner inner) :
    Admitted schema site.scope site.field inner := by
  have hbodies : table.Filled := FragmentTable.filled_of_ofFragments htable hfilled.fragments
  have hsite : site.inner.Filled := h.filled hbodies (hfilled.operations o ho)
  exact (admitted_of_writes hvalid htable ho hroot h hpath).of_eq_nil_iff
    (hinner.eq_nil_iff hbodies hsite)

/-- After `validate` every field that an operation comes to outside reserved fields (`Writes`) is
`Admitted` in the scope where it is written.  If the document is `Filled`, as all are that `ofTexts`
reads, the same holds of the fields of the inlined operation: each is a written one, and fits the
scope of that one. -/
theorem admitted_of_validate (h : d.validate schema = .ok ()) :
    (∀ texts, Document.ofTexts texts = .ok d → d.Filled) ∧
    ∃ table, d.fragmentTable = .ok table ∧ ∀ o ∈ d.operations, ∃ root,
      schema.root? o.kind = some root ∧
      (∀ path site, table.Writes schema (some root.name) o.selections path site →
        Unreserved path → Admitted schema site.scope site.field site.inner) ∧
      (d.Filled → ∀ flat, ((Inliner.fresh table).inlineOperation o).1 = .ok flat →
        (∀ path site, table.Writes schema (some root.name) o.selections path site →
          Unreserved path → ∃ inner, flat.selections.Holds path site.field inner ∧
            table.Expansion site.inner inner ∧ Admitted schema site.scope site.field inner) ∧
        ∀ path f inner, flat.selections.Holds path f inner → Unreserved path →
          ∃ site, table.Writes schema (some root.name) o.selections path site ∧ site.field = f ∧
            table.Expansion site.inner inner ∧ Admitted schema site.scope f inner) := by
  obtain ⟨table, htable, -⟩ := fragmentsValid_of_validate h
  refine ⟨fun texts hread => filled_of_ofTexts hread, table, htable, fun o ho => ?_⟩
  obtain ⟨root, hroot, -⟩ := checkOperation_eq_ok.mp (checkOperation_of_validate h htable ho)
  refine ⟨root, hroot, fun path site => admitted_of_writes h htable ho hroot,
    fun hfilled flat hflat => ?_⟩
  have hexpansion : table.Expansion o.selections flat.selections := by
    rw [inlineOperation_fresh] at hflat
    obtain ⟨set, hset, rfl⟩ := map_eq_ok.mp hflat
    exact SelectionSet.expansion_of_inlined hset
  refine ⟨fun path site hwrites hpath => ?_, fun path f inner hholds hpath => ?_⟩
  · obtain ⟨inner, hinner, hholds⟩ := hwrites.holds hexpansion
    exact ⟨inner, hholds, hinner,
      admitted_of_expansion h htable ho hroot hfilled hwrites hpath hinner⟩
  · obtain ⟨site, hwrites, rfl, hinner⟩ := hexpansion.writes (some root.name) hholds
    exact ⟨site, hwrites, rfl, hinner,
      admitted_of_expansion h htable ho hroot hfilled hwrites hpath hinner⟩

/-- Two objects behind the interface `Node`, one of which leads to itself. -/
def household : Schema :=
  let field (name type : String) : FieldDefinition :=
    ⟨name, none, [], none, .named type false, []⟩
  let types := [
    { Definition.bare .object "Query" with fields := [field "node" "Node"] },
    { Definition.bare .interface "Node" with fields := [field "id" "ID"] },
    { Definition.bare .object "User" with
      interfaces := ["Node"]
      fields := [field "id" "ID", field "friend" "User", field "name" "String"] }]
  { types.foldl Schema.addType .builtin with
    queryRoot := some "Query"
    possible := .ofList [("Node", ["User"]), ("Query", ["Query"]), ("User", ["User"])] }

/-- `Person` is on `Node`, with a fragment in line on `User`. -/
def personFragment : Fragment :=
  ⟨"Person", "Node", [], .field ⟨none, "id", [], []⟩ .nil (.inline ⟨some "User", []⟩
    (.field ⟨none, "friend", [], []⟩ (.field ⟨none, "name", [], []⟩ .nil .nil) .nil) .nil)⟩

def personOperation : Operation :=
  ⟨.query, some "Q", [], [],
    .field ⟨none, "node", [], []⟩ (.spread ⟨"Person", []⟩ .nil) .nil⟩

/-- The innermost field of the fragment is in the inlined operation, and fits the type of the field
around it. -/
theorem admitted_person :
    Document.validate ⟨[personOperation], [personFragment]⟩ household = .ok () ∧
    ∃ table flat inner,
      Document.fragmentTable ⟨[personOperation], [personFragment]⟩ = .ok table ∧
      ((Inliner.fresh table).inlineOperation personOperation).1 = .ok flat ∧
      flat.selections.Holds [⟨none, "node", [], []⟩, ⟨none, "friend", [], []⟩]
        ⟨none, "name", [], []⟩ inner ∧
      Admitted household (some "User") ⟨none, "name", [], []⟩ inner := by
  have hvalid : Document.validate ⟨[personOperation], [personFragment]⟩ household = .ok () :=
    eq_ok_of_toOption (by decide +kernel)
  have hread : Document.ofTexts ["query Q { node { ...Person } }",
      "fragment Person on Node { id ... on User { friend { name } } }"] =
      .ok ⟨[personOperation], [personFragment]⟩ := eq_ok_of_toOption (by decide +kernel)
  obtain ⟨hfilled, table, htable, hall⟩ := admitted_of_validate hvalid
  obtain ⟨root, hroot, -, hflat⟩ := hall personOperation List.mem_cons_self
  have hget : table.get? "Person" = some personFragment :=
    ((FragmentTable.ofFragments_eq_ok htable).2 _ _).mpr ⟨List.mem_cons_self, rfl⟩
  have hinlined : ∃ flat, ((Inliner.fresh table).inlineOperation personOperation).1 = .ok flat := by
    obtain rfl : table = .ofList [("Person", personFragment)] := by cases htable; rfl
    exact ⟨_, rfl⟩
  obtain ⟨flat, hok⟩ := hinlined
  have hfriend : (household.declared? (some "User") "friend").map (·.type.baseName) =
      some "User" := by decide +kernel
  have hwrites : table.Writes household (some root.name) personOperation.selections
      [⟨none, "node", [], []⟩, ⟨none, "friend", [], []⟩]
      ⟨(household.declared? (some "User") "friend").map (·.type.baseName),
        ⟨none, "name", [], []⟩, .nil⟩ :=
    .inside (.spread hget (.afterField (.inline (.inside .here))))
  have hpath : Unreserved [⟨none, "node", [], []⟩, ⟨none, "friend", [], []⟩] := by
    unfold Unreserved
    decide
  obtain ⟨inner, hholds, -, hadmitted⟩ := (hflat (hfilled _ hread) flat hok).1 _ _ hwrites hpath
  rw [hfriend] at hadmitted
  exact ⟨hvalid, table, flat, inner, htable, hok, hholds, hadmitted⟩

/-! ### Selections of `__typename` -/

/-- In the expansion of a valid operation something is selected of `__typename` only below a
reserved field. -/
theorem exists_reserved_of_typename (hvalid : d.validate schema = .ok ())
    (htable : d.fragmentTable = .ok table) (ho : o ∈ d.operations) {flat : SelectionSet}
    (hexpansion : table.Expansion o.selections flat) {path : List Field} {f : Field}
    {inner : SelectionSet} (h : flat.Holds path f inner) (hname : f.name = "__typename")
    (hinner : inner ≠ .nil) : ∃ e ∈ path, isMetaName e.name = true := by
  by_contra hnone
  have hpath : Unreserved path := by
    intro e he
    rw [← Bool.not_eq_true]
    exact fun hreserved => hnone ⟨e, he, hreserved⟩
  obtain ⟨root, hroot, -⟩ := checkOperation_eq_ok.mp (checkOperation_of_validate hvalid htable ho)
  obtain ⟨site, hwrites, rfl, hbelow⟩ := hexpansion.writes (some root.name) h
  obtain ⟨scope, -, hfits⟩ := fits_of_validate hvalid htable ho hroot hwrites hpath
  cases hfits with
  | typename _ hnil =>
      rw [hnil] at hbelow
      cases hbelow
      exact hinner rfl
  | reserved hne => exact hne hname
  | declared hplain =>
      rw [hname] at hplain
      exact absurd hplain (by decide)

end QueryBindings

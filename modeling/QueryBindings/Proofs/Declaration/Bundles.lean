import QueryBindings.Proofs.Declaration.Items
import QueryBindings.Proofs.Declaration.Paths
import QueryBindings.Proofs.Rendering
import QueryBindings.Proofs.Validation

/-! # Declarations of bundles

What a generated bundle holds, and what is declared for it.  Names of types are claimed first,
then those of each operation, so all names of declarations differ; names of operations differ
because the document was checked.

Main statements: `rendered_of_generate` (the operations of a bundle are expansions),
`declared_of_generation` (what is declared for each of them), `exists_records_of_generate` (the
records of an operation's answer) and `exists_record_of_writes` (the one for a written field). -/

namespace QueryBindings

/-! ### Names of items -/

theorem ne_string_of_append {name suffix : String}
    (h : suffix.toList.getLast? ≠ some 'g') (hne : suffix ≠ "") : name ++ suffix ≠ "String" := by
  intro heq
  have hlast := congrArg (fun text => text.toList.getLast?) heq
  simp only [String.toList_append] at hlast
  have hnil : suffix.toList ≠ [] := by simpa using hne
  rw [List.getLast?_append_of_ne_nil _ hnil] at hlast
  exact h hlast

theorem itemName_ne_string (name : String) : itemName name ≠ "String" := by
  unfold itemName
  dsimp only
  split
  · decide
  · split
    · exact ne_string_of_append (by decide) (by decide)
    · rename_i hfree
      intro heq
      rw [heq] at hfree
      exact hfree (by decide)

theorem ne_string_of_response (item suffix : String) : item ++ "Response" ++ suffix ≠ "String" := by
  intro heq
  have hlength := congrArg String.length heq
  rw [String.length_append, String.length_append] at hlength
  have hresponse : "Response".length = 8 := rfl
  have hstring : "String".length = 6 := rfl
  omega

/-! ### One operation -/

/-- What is declared for the operation `r`, called `name`: a record of its variables, the records of
its answer, and its item. -/
structure Declared (schema : Schema) (options : Options) (r : RenderedOperation) (name : String)
    (response : String) (declarations : List Declaration) : Prop where
  named : r.operation.name = some name
  records : ∃ root owner names records after item members,
    schema.rootName? r.operation.kind = some root ∧
    response = item ++ "Response" ∧
    responseRecords ⟨schema, options, owner⟩ response root r.operation.selections names =
      .ok (records, after) ∧
    declarations = .record none (item ++ "Variables") members :: records ++
      [.operation item name r.text (item ++ "Variables") response]

theorem declared_of_declarations {schema : Schema} {options : Options} {names after : ItemNames}
    {r : RenderedOperation} {declarations : List Declaration}
    (h : r.declarations schema options names = .ok (declarations, after)) :
    (∃ name response, Declared schema options r name response declarations) ∧
      Claims names (declarations.map Declaration.name) after := by
  obtain ⟨hitems, hclaims⟩ := operationItems_of_declarations h
  cases hitems with
  | intro hname hroot _ hrecords =>
      exact ⟨⟨_, _, hname, _, _, _, _, _, _, _, hroot, rfl, hrecords, rfl⟩, hclaims⟩

/-- The record that the operation of this name declares for its answer. -/
def responseItem? (declarations : List Declaration) (operation : String) : Option String :=
  declarations.findSome? fun
    | .operation _ name _ _ response => if name = operation then some response else none
    | _ => none

theorem responseItem?_append (a b : List Declaration) (operation : String) :
    responseItem? (a ++ b) operation =
      (responseItem? a operation).or (responseItem? b operation) := by
  unfold responseItem?
  exact List.findSome?_append

theorem responseItem?_of_forall_record {declarations : List Declaration}
    (h : ∀ d ∈ declarations, ∃ about name members, d = .record about name members)
    (operation : String) : responseItem? declarations operation = none := by
  unfold responseItem?
  rw [List.findSome?_eq_none_iff]
  intro d hd
  obtain ⟨about, name, members, rfl⟩ := h d hd
  rfl

namespace Declared

variable {schema : Schema} {options : Options} {r : RenderedOperation} {name response : String}
  {declarations : List Declaration}

theorem responseItem?_eq (h : Declared schema options r name response declarations)
    (operation : String) :
    responseItem? declarations operation = if name = operation then some response else none := by
  obtain ⟨root, owner, names, records, after, item, members, -, -, hrecords, rfl⟩ := h.records
  have hnone : responseItem? (.record none (item ++ "Variables") members :: records) operation =
      none := by
    refine responseItem?_of_forall_record (List.forall_mem_cons.mpr ⟨⟨_, _, _, rfl⟩, ?_⟩) operation
    intro d hd
    obtain ⟨suffix, held, rfl⟩ := record_of_mem_responseRecords hrecords d hd
    exact ⟨_, _, _, rfl⟩
  rw [responseItem?_append, hnone]
  unfold responseItem?
  by_cases hname : name = operation <;> simp [hname]

theorem not_string (h : Declared schema options r name response declarations)
    (about : Option String) (members : List Member) :
    .record about "String" members ∉ declarations := by
  obtain ⟨root, owner, names, records, after, item, held, -, rfl, hrecords, rfl⟩ := h.records
  intro hmem
  rw [List.cons_append, List.mem_cons, List.mem_append, List.mem_singleton] at hmem
  rcases hmem with heq | hmem | heq
  · rw [Declaration.record.injEq] at heq
    exact ne_string_of_append (by decide) (by decide) heq.2.1.symm
  · obtain ⟨suffix, inside, heq⟩ := record_of_mem_responseRecords hrecords _ hmem
    rw [Declaration.record.injEq] at heq
    exact ne_string_of_response item suffix heq.2.1.symm
  · cases heq

end Declared

/-! ### Several operations -/

def DifferentNames (a b : Option String) : Prop := ∀ n, a = some n → b ≠ some n

theorem differentNames_of_check {seen : List String} {os : List Operation}
    (h : checkOperationNames seen os = .ok ()) :
    (os.map Operation.name).Pairwise DifferentNames ∧
      ∀ o ∈ os, ∀ n, o.name = some n → n ∉ seen := by
  induction os generalizing seen with
  | nil => exact ⟨.nil, nofun⟩
  | cons o rest ih =>
      unfold checkOperationNames at h
      rw [List.map_cons, List.pairwise_cons, List.forall_mem_cons]
      cases hname : o.name with
      | none =>
          rw [hname] at h
          obtain ⟨hrest, hseen⟩ := ih h
          exact ⟨⟨fun _ _ => nofun, hrest⟩, nofun, hseen⟩
      | some name =>
          rw [hname] at h
          dsimp only at h
          split at h
          · cases h
          · rename_i hnew
            obtain ⟨hrest, hseen⟩ := ih h
            refine ⟨⟨fun other hother n hn heq => ?_, hrest⟩, fun n hn hmem => ?_,
              fun p hp n hn hmem => hseen p hp n hn (List.mem_cons_of_mem name hmem)⟩
            · cases hn
              obtain ⟨p, hp, rfl⟩ := List.mem_map.mp hother
              exact hseen p hp name heq List.mem_cons_self
            · cases hn
              exact hnew (List.contains_iff_mem.mpr hmem)

theorem check_of_differentNames {seen : List String} {os : List Operation}
    (hdistinct : (os.map Operation.name).Pairwise DifferentNames)
    (hfresh : ∀ o ∈ os, ∀ n, o.name = some n → n ∉ seen) :
    checkOperationNames seen os = .ok () := by
  induction os generalizing seen with
  | nil => rfl
  | cons o rest ih =>
      rw [List.map_cons, List.pairwise_cons] at hdistinct
      rw [List.forall_mem_cons] at hfresh
      unfold checkOperationNames
      cases hname : o.name with
      | none => exact ih hdistinct.2 hfresh.2
      | some name =>
          have hnew : ¬ seen.contains name = true := fun hmem =>
            hfresh.1 name hname (List.contains_iff_mem.mp hmem)
          dsimp only
          rw [if_neg hnew]
          refine ih hdistinct.2 fun p hp n hn hmem => ?_
          rcases List.mem_cons.mp hmem with rfl | hmem
          · exact hdistinct.1 p.name (List.mem_map_of_mem hp) n hname hn
          · exact hfresh.2 p hp n hn hmem

/-- `checkOperationNames` does not depend on the order of the operations. -/
theorem checkOperationNames_of_perm {os ps : List Operation} (h : os.Perm ps)
    (hcheck : checkOperationNames [] os = .ok ()) : checkOperationNames [] ps = .ok () := by
  have hsymm : ∀ {a b : Option String}, DifferentNames a b → DifferentNames b a :=
    fun hab n hb ha => hab n ha hb
  have hdistinct := (differentNames_of_check hcheck).1
  exact check_of_differentNames (((h.map Operation.name).pairwise_iff hsymm).mp hdistinct)
    fun _ _ _ _ => List.not_mem_nil

/-- Every operation has its declarations (`Declared`), found by its name, and all names of items
differ. -/
theorem declared_of_operationDeclarations {schema : Schema} {options : Options}
    {names : ItemNames} {rs : List RenderedOperation} {declarations : List Declaration}
    (hdistinct : (rs.map (·.operation.name)).Pairwise DifferentNames)
    (h : operationDeclarations schema options names rs = .ok declarations) :
    (∃ after, Claims names (declarations.map Declaration.name) after) ∧
      (∀ r ∈ rs, ∃ name response part, Declared schema options r name response part ∧
        (∀ d ∈ part, d ∈ declarations) ∧ responseItem? declarations name = some response) ∧
      ∀ about members, .record about "String" members ∉ declarations := by
  -- The names in use pass from one operation to the next, so what they are is left open.
  induction rs generalizing names declarations with
  | nil =>
      cases h
      exact ⟨⟨names, .nil names⟩, nofun, fun _ _ => List.not_mem_nil⟩
  | cons r rest ih =>
      unfold operationDeclarations at h
      obtain ⟨⟨part, mid⟩, hpart, h⟩ := bind_eq_ok.mp h
      obtain ⟨others, hothers, h⟩ := bind_eq_ok.mp h
      cases h
      rw [List.map_cons, List.pairwise_cons] at hdistinct
      obtain ⟨⟨name, response, hdeclared⟩, hclaims⟩ := declared_of_declarations hpart
      obtain ⟨⟨after, hafter⟩, hall, hstring⟩ := ih hdistinct.2 hothers
      refine ⟨⟨after, ?_⟩, List.forall_mem_cons.mpr ⟨?_, ?_⟩, fun about members hmem => ?_⟩
      · rw [List.map_append]
        exact hclaims.append hafter
      · refine ⟨name, response, part, hdeclared, fun d hd => List.mem_append_left _ hd, ?_⟩
        rw [responseItem?_append, hdeclared.responseItem?_eq, if_pos rfl]
        rfl
      · intro s hs
        obtain ⟨other, found, inside, hother, hsub, hitem⟩ := hall s hs
        refine ⟨other, found, inside, hother, fun d hd => List.mem_append_right _ (hsub d hd), ?_⟩
        have hne : name ≠ other := by
          intro heq
          apply hdistinct.1 _ (List.mem_map_of_mem hs) name hdeclared.named
          rw [hother.named, heq]
        rw [responseItem?_append, hdeclared.responseItem?_eq, if_neg hne]
        exact hitem
      · rcases List.mem_append.mp hmem with hmem | hmem
        · exact hdeclared.not_string about members hmem
        · exact hstring about members hmem

/-! ### Bundles -/

/-- `r` is `o` with the `Expansion` of its selections. -/
structure Rendered (table : FragmentTable) (o : Operation) (r : RenderedOperation) : Prop where
  same : r.operation = { o with selections := r.operation.selections }
  expansion : table.Expansion o.selections r.operation.selections

theorem Rendered.of_rendered {options : Options} {table : FragmentTable} {o : Operation}
    {r : RenderedOperation} (h : o.rendered options table = .ok r) : Rendered table o r := by
  obtain ⟨flat, used, hflat, -, rfl⟩ := combine_eq_ok.mp h
  exact ⟨rfl, SelectionSet.expansion_of_inlined hflat⟩

theorem names_of_rendered {table : FragmentTable} {os : List Operation}
    {rs : List RenderedOperation} (h : List.Forall₂ (Rendered table) os rs) :
    rs.map (·.operation.name) = os.map Operation.name := by
  induction h with
  | nil => rfl
  | cons hsame _ ih => rw [List.map_cons, List.map_cons, hsame.same, ih]

theorem exists_of_forall₂ {α β : Type} {R : α → β → Prop} {as : List α} {bs : List β}
    (h : List.Forall₂ R as bs) {a : α} (ha : a ∈ as) : ∃ b ∈ bs, R a b := by
  induction h with
  | nil => cases ha
  | @cons _ b _ _ hfirst _ ih =>
      rcases List.mem_cons.mp ha with rfl | ha
      · exact ⟨b, List.mem_cons_self, hfirst⟩
      · obtain ⟨c, hc, hrest⟩ := ih ha
        exact ⟨c, List.mem_cons_of_mem b hc, hrest⟩

theorem rendered_of_generate {options : Options} {schema : Schema} {document : Document}
    {g : Generation} {table : FragmentTable} (h : generate options schema document = .ok g)
    (htable : document.fragmentTable = .ok table) :
    g.schema = schema ∧ (g.operations.map (·.operation.name)).Pairwise DifferentNames ∧
      List.Forall₂ (Rendered table) document.operations g.operations := by
  obtain ⟨table', hvalid, htable', hschema, hrendered⟩ := generate_eq_ok h
  rw [htable] at htable'
  cases htable'
  have hall := hrendered.imp fun _ _ hr => Rendered.of_rendered hr
  refine ⟨hschema, ?_, hall⟩
  obtain ⟨_, -, hcheck, -⟩ := validate_eq_ok_iff.mp hvalid
  rw [names_of_rendered hall]
  exact (differentNames_of_check hcheck).1

theorem exists_operation_of_generate {options : Options} {schema : Schema} {document : Document}
    {g : Generation} (h : generate options schema document = .ok g) {r : RenderedOperation}
    (hr : r ∈ g.operations) :
    ∃ table o, document.validate schema = .ok () ∧ document.fragmentTable = .ok table ∧
      o ∈ document.operations ∧ Rendered table o r := by
  obtain ⟨table, hvalid, htable, -⟩ := generate_eq_ok h
  obtain ⟨-, -, hall⟩ := rendered_of_generate h htable
  obtain ⟨o, ho, hrendered⟩ := exists_of_forall₂ hall.flip hr
  exact ⟨table, o, hvalid, htable, ho, hrendered⟩

/-! ### Types -/

theorem declaration_ne_operation {schema : Schema} {options : Options} {d : Definition}
    (operation : String) :
    responseItem? [d.declaration schema options] operation = none := by
  unfold Definition.declaration
  cases d.kind <;> rfl

theorem responseItem?_types (schema : Schema) (options : Options) (ds : List Definition)
    (operation : String) :
    responseItem? (ds.map (·.declaration schema options)) operation = none := by
  induction ds with
  | nil => rfl
  | cons d rest ih =>
      have hcons := responseItem?_append [d.declaration schema options]
        (rest.map (·.declaration schema options)) operation
      rw [declaration_ne_operation, ih] at hcons
      exact hcons

theorem declared_of_generation {g : Generation} {options : Options}
    {declarations : List Declaration}
    (hdistinct : (g.operations.map (·.operation.name)).Pairwise DifferentNames)
    (h : g.declarations options = .ok declarations) :
    (declarations.map Declaration.name).Nodup ∧
      (∀ r ∈ g.operations, ∃ name response part, Declared g.schema options r name response part ∧
        (∀ d ∈ part, d ∈ declarations) ∧ responseItem? declarations name = some response) ∧
      ∀ about members, .record about "String" members ∉ declarations := by
  unfold Generation.declarations at h
  dsimp only at h
  obtain ⟨names, htypes, h⟩ := bind_eq_ok.mp h
  obtain ⟨operations, hoperations, h⟩ := bind_eq_ok.mp h
  cases h
  obtain ⟨⟨after, hafter⟩, hall, hstring⟩ :=
    declared_of_operationDeclarations hdistinct hoperations
  have hclaims := (claims_types g.schema options htypes).append hafter
  refine ⟨?_, fun r hr => ?_, fun about members hmem => ?_⟩
  · rw [List.map_append]
    exact hclaims.distinct
  · obtain ⟨name, response, part, hdeclared, hsub, hitem⟩ := hall r hr
    refine ⟨name, response, part, hdeclared, fun d hd => List.mem_append_right _ (hsub d hd), ?_⟩
    rw [responseItem?_append, responseItem?_types]
    exact hitem
  · rcases List.mem_append.mp hmem with hmem | hmem
    · obtain ⟨d, -, hd⟩ := List.mem_map.mp hmem
      have hname := name_declaration g.schema options d
      rw [hd] at hname
      exact itemName_ne_string d.name hname.symm
    · exact hstring about members hmem

/-- `generate` and `declarations` make, for every operation of the document, the records of its
answer for the `Expansion` of what it selects. -/
theorem exists_records_of_generate {options emitting : Options} {schema : Schema}
    {document : Document} {g : Generation} {declarations : List Declaration} {table : FragmentTable}
    {o : Operation} (hgenerate : generate options schema document = .ok g)
    (hdeclarations : g.declarations emitting = .ok declarations)
    (htable : document.fragmentTable = .ok table) (ho : o ∈ document.operations) :
    (declarations.map Declaration.name).Nodup ∧
      (∀ about members, .record about "String" members ∉ declarations) ∧
      ∃ name response root owner names records after flat, o.name = some name ∧
        responseItem? declarations name = some response ∧ schema.rootName? o.kind = some root ∧
        table.Expansion o.selections flat ∧
        responseRecords ⟨schema, emitting, owner⟩ response root flat names = .ok (records, after) ∧
        ∀ d ∈ records, d ∈ declarations := by
  obtain ⟨rfl, hdistinct, hall⟩ := rendered_of_generate hgenerate htable
  obtain ⟨r, hr, hrendered⟩ := exists_of_forall₂ hall ho
  obtain ⟨hnodup, hdeclared, hstring⟩ := declared_of_generation hdistinct hdeclarations
  obtain ⟨name, response, part, hpart, hsub, hitem⟩ := hdeclared r hr
  obtain ⟨root, owner, names, records, after, item, members, hroot, -, hrecords, rfl⟩ :=
    hpart.records
  have hnamed := hpart.named
  rw [hrendered.same] at hnamed hroot
  exact ⟨hnodup, hstring, name, response, root, owner, names, records, after, _, hnamed, hitem,
    hroot, hrendered.expansion, hrecords,
    fun d hd => hsub d (List.mem_append_left _ (List.mem_cons_of_mem _ hd))⟩

/-- The record in which a written field (`Writes`) has its member is made for all that the operation
selects under the keys of its path. -/
theorem exists_record_of_writes {options emitting : Options} {schema : Schema}
    {document : Document} {g : Generation} {declarations : List Declaration} {table : FragmentTable}
    {o : Operation} {path : List Field} {site : Site} {parent : String}
    (hgenerate : generate options schema document = .ok g)
    (hdeclarations : g.declarations emitting = .ok declarations)
    (htable : document.fragmentTable = .ok table) (ho : o ∈ document.operations)
    (hwrites : table.Writes schema (schema.rootName? o.kind) o.selections path site)
    (hparent : ((schema.rootName? o.kind).bind fun root => schema.responseParent? root path) =
      some parent) :
    ∃ name response owner flat records before after, o.name = some name ∧
      responseItem? declarations name = some response ∧ table.Expansion o.selections flat ∧
      responseRecords ⟨schema, emitting, owner⟩
        (structName response (path.map Field.responseKey)) parent
        (flat.underAll (path.map Field.responseKey)) before = .ok (records, after) ∧
      (∀ r ∈ records, r ∈ declarations) ∧ (declarations.map Declaration.name).Nodup ∧
      ∀ key, typeAt? declarations response (path.map Field.responseKey) key =
        (memberAt? declarations (structName response (path.map Field.responseKey)) key).map
          (·.type) := by
  obtain ⟨hnodup, -, name, response, root, owner, names, records, after, flat, hname, hitem, hroot,
    hexpansion, hrecords, hsub⟩ :=
    exists_records_of_generate hgenerate hdeclarations htable ho
  rw [hroot, Option.bind_some] at hparent
  obtain ⟨inner, -, hholds⟩ := hwrites.holds hexpansion
  obtain ⟨last, here, before, mid, hlast, hhere, hmem, htype⟩ :=
    exists_records_at hrecords hsub hnodup hholds (ne_typename_of_responseParent? hparent)
  cases hlast.symm.trans hparent
  exact ⟨name, response, owner, flat, here, before, mid, hname, hitem, hexpansion, hhere, hmem,
    hnodup, htype⟩

end QueryBindings

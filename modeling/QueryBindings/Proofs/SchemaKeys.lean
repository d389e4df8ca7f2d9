import QueryBindings.Proofs.SchemaAssembly
import QueryBindings.Schema.Assembly

/-! # Names of types in schemas

A schema that was built, from a text or from what a server tells, holds every type and every
directive under its own name.  So `Table.values`, which goes by keys, has them sorted by names.

Main statements: `Built.keyed`, `Built.mergeSort_types` and `Built.mergeSort_directives`. -/

namespace QueryBindings

namespace Table

variable {α : Type} {name : α → String}

/-- Values that stand under their own names are in the order of their names. -/
theorem mergeSort_values {t : Table α} (h : ∀ key a, t.get? key = some a → name a = key) :
    t.values.mergeSort (fun a b => decide (name a ≤ name b)) = t.values := by
  refine List.mergeSort_of_pairwise (List.pairwise_map.mpr ?_)
  refine t.ascending.imp_of_mem fun {a b} ha hb hlt => decide_eq_true ?_
  rw [h a.1 a.2 (get?_of_mem_entries ha), h b.1 b.2 (get?_of_mem_entries hb)]
  exact Std.le_of_lt hlt

/-- Of items that are inserted by their names the last of each name stays. -/
theorem get?_foldl_insert_name (name : α → String) (items : List α) (t : Table α) (key : String) :
    (items.foldl (fun t a => t.insert (name a) a) t).get? key =
      (items.findRev? fun a => name a = key).or (t.get? key) := by
  induction items generalizing t with
  | nil => rfl
  | cons a rest ih =>
      rw [List.foldl_cons, ih, get?_insert, List.findRev?_eq_find?_reverse,
        List.findRev?_eq_find?_reverse, List.reverse_cons, List.find?_append, Option.or_assoc]
      by_cases hkey : key = name a
      · simp [hkey]
      · simp [hkey, Ne.symm hkey]

theorem name_of_get?_foldl_insert {items : List α} {key : String} {a : α}
    (h : (items.foldl (fun t a => t.insert (name a) a) (∅ : Table α)).get? key = some a) :
    name a = key := by
  have hlast := Option.or_none.symm.trans ((get?_foldl_insert_name name items ∅ key).symm.trans h)
  rw [List.findRev?_eq_find?_reverse] at hlast
  simpa using List.find?_some hlast

end Table

namespace Schema

/-- The schemas that are built, from a text or from an answer. -/
inductive Built : Schema → Prop where
  | ofText {text : String} {s : Schema} (h : ofText text = .ok s) : Built s
  | ofPayload {options : Options} {payload : Introspection.Payload} {s : Schema}
      (h : ofPayload options payload = .ok s) : Built s
  | ofAnswer {options : Options} {text : String} {s : Schema} (h : ofAnswer options text = .ok s) :
      Built s

/-- Every type stands under its own name. -/
def Keyed (s : Schema) : Prop := ∀ name d, s.type? name = some d → d.name = name

theorem foldl_addType_eq (s : Schema) (ds : List Definition) :
    ds.foldl addType s = { s with types := ds.foldl (fun t d => t.insert d.name d) s.types } := by
  induction ds generalizing s with
  | nil => rfl
  | cons d rest ih => exact ih (s.addType d)

theorem foldl_addDirective_eq (s : Schema) (ds : List DirectiveDefinition) :
    ds.foldl addDirective s =
      { s with directives := ds.foldl (fun t d => t.insert d.name d) s.directives } := by
  induction ds generalizing s with
  | nil => rfl
  | cons d rest ih => exact ih (s.addDirective d)

theorem type?_indexPossible (s : Schema) (name : String) :
    s.indexPossible.type? name = s.type? name := by
  rw [s.indexPossible_eq]
  rfl

theorem keyed_of_ofText {text : String} {s : Schema} (h : ofText text = .ok s) : s.Keyed := by
  obtain ⟨base, hbase, -, rfl, -⟩ := wellRead_of_ofText h
  intro name d hd
  rw [type?_indexPossible] at hd
  exact (hbase.types name d hd).1

theorem keyed_of_ofPayload {options : Options} {payload : Introspection.Payload} {s : Schema}
    (h : ofPayload options payload = .ok s) : s.Keyed := by
  unfold ofPayload at h
  obtain ⟨rfl, -⟩ := assemble_eq_ok.mp h
  intro name d hd
  rw [type?_indexPossible, foldl_addDirective_eq, foldl_addType_eq] at hd
  exact Table.name_of_get?_foldl_insert hd

theorem exists_ofPayload_of_ofAnswer {options : Options} {text : String} {s : Schema}
    (h : ofAnswer options text = .ok s) : ∃ payload, ofPayload options payload = .ok s := by
  unfold ofAnswer at h
  split at h
  · cases h
  · split at h
    · cases h
    · split at h
      · exact ⟨_, h⟩
      · cases h

/-- A schema that was built is `Keyed`. -/
theorem Built.keyed {s : Schema} (h : s.Built) : s.Keyed := by
  cases h with
  | ofText h => exact keyed_of_ofText h
  | ofPayload h => exact keyed_of_ofPayload h
  | ofAnswer h =>
      obtain ⟨payload, h⟩ := exists_ofPayload_of_ofAnswer h
      exact keyed_of_ofPayload h

/-- The types that `pieces` lays out are sorted by their names. -/
theorem Built.mergeSort_types {s : Schema} (h : s.Built) :
    s.types.values.mergeSort (fun d e => decide (d.name ≤ e.name)) = s.types.values :=
  Table.mergeSort_values h.keyed

theorem keyed_directives_of_ofPayload {options : Options} {payload : Introspection.Payload}
    {s : Schema} (h : ofPayload options payload = .ok s) :
    ∀ name d, s.directives.get? name = some d → d.name = name := by
  unfold ofPayload at h
  obtain ⟨rfl, -⟩ := assemble_eq_ok.mp h
  intro name d hd
  rw [indexPossible_eq, foldl_addDirective_eq, foldl_addType_eq] at hd
  exact Table.name_of_get?_foldl_insert hd

theorem Built.keyed_directives {s : Schema} (h : s.Built) :
    ∀ name d, s.directives.get? name = some d → d.name = name := by
  cases h with
  | ofText h =>
      obtain ⟨base, hbase, -, rfl, -⟩ := wellRead_of_ofText h
      rw [indexPossible_eq]
      exact fun name d hd => (hbase.directives name d hd).1
  | ofPayload h => exact keyed_directives_of_ofPayload h
  | ofAnswer h =>
      obtain ⟨payload, h⟩ := exists_ofPayload_of_ofAnswer h
      exact keyed_directives_of_ofPayload h

/-- The directives that `pieces` lays out are sorted by their names. -/
theorem Built.mergeSort_directives {s : Schema} (h : s.Built) :
    s.directives.values.mergeSort (fun d e => decide (d.name ≤ e.name)) = s.directives.values :=
  Table.mergeSort_values h.keyed_directives

theorem Built.exists_base {s : Schema} (h : s.Built) :
    ∃ base : Schema, s = base.indexPossible ∧
      ∀ r ∈ base.references, base.types.contains r.2 = true := by
  cases h with
  | ofText h =>
      obtain ⟨base, -, -, hindex, hreferences⟩ := wellRead_of_ofText h
      exact ⟨base, hindex, hreferences⟩
  | ofPayload h => exact ⟨_, assemble_eq_ok.mp h⟩
  | ofAnswer h =>
      obtain ⟨payload, h⟩ := exists_ofPayload_of_ofAnswer h
      exact ⟨_, assemble_eq_ok.mp h⟩

/-- The types of all fields of a schema that was built are defined. -/
theorem Built.exists_type {s : Schema} (h : s.Built) {name : String} {d : Definition}
    (htype : s.type? name = some d) {f : FieldDefinition} (hf : f ∈ d.fields) :
    ∃ e, s.type? f.type.baseName = some e := by
  obtain ⟨base, rfl, hreferences⟩ := h.exists_base
  rw [type?_indexPossible] at htype
  have hname : f.type.baseName ∈ d.references :=
    List.mem_append_right _ (List.mem_flatMap.mpr ⟨f, hf, List.mem_cons_self⟩)
  have hreference : (d.name, f.type.baseName) ∈ base.references := by
    refine List.mem_append_left _ (List.mem_append_right _ (List.mem_flatMap.mpr ⟨d, ?_, ?_⟩))
    · exact Table.mem_values_iff.mpr ⟨name, htype⟩
    · exact List.mem_map_of_mem hname
  obtain ⟨e, he⟩ := (Table.contains_iff _ _).mp (hreferences _ hreference)
  exact ⟨e, (type?_indexPossible base _).trans he⟩

theorem Keyed.rootName?_eq {s : Schema} (h : s.Keyed) {kind : OperationKind} {root : Definition}
    (hroot : s.root? kind = some root) : s.rootName? kind = some root.name := by
  obtain ⟨name, hname, htype⟩ := Option.bind_eq_some_iff.mp hroot
  rw [h name root htype]
  exact hname

end Schema

end QueryBindings

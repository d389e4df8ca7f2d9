import QueryBindings.Proofs.Collected

/-! # Places where types are named

A schema names types at many places: as root types, as interfaces and members of a type, as types
of its fields and of their arguments, and as types of arguments of directives.  Places have an
order (`Place.Before`), and the references of a schema are listed in it.

Main statements: `Schema.Shows.mem_placed` (what is listed) and `Schema.pairwise_placed` (in which
order). -/

namespace QueryBindings

/-- A place where a type is named. -/
inductive Place where
  | root (kind : OperationKind)
  | interface (type : String) (i : Nat)
  | member (type : String) (i : Nat)
  | field (type : String) (i : Nat)
  | argument (type : String) (i j : Nat)
  | directiveArgument (directive : String) (i : Nat)
deriving DecidableEq, Repr

namespace Place

/-- What holds the place, as the error `unknownType` calls it. -/
def holder : Place → String
  | root kind => "schema." ++ kind.keyword
  | interface type _ | member type _ | field type _ | argument type _ _ => type
  | directiveArgument directive _ => "@" ++ directive

/-- Where the place stands: root types come first, then types by name, with interfaces, members and
fields, each field before its arguments, and then directives by name. -/
def rank : Place → Nat × String × Nat × Nat × Nat
  | root .query => (0, "", 0, 0, 0)
  | root .mutation => (0, "", 0, 1, 0)
  | root .subscription => (0, "", 0, 2, 0)
  | interface type i => (1, type, 0, i, 0)
  | member type i => (1, type, 1, i, 0)
  | field type i => (1, type, 2, i, 0)
  | argument type i j => (1, type, 2, i, j + 1)
  | directiveArgument directive i => (2, directive, 0, i, 0)

/-- `p` has the smaller `rank`. -/
def Before (p q : Place) : Prop :=
  Prod.Lex (· < ·) (Prod.Lex (· < ·) (Prod.Lex (· < ·) (Prod.Lex (· < ·) (· < ·)))) p.rank q.rank

theorem before_of_rank {p q : Place} {a b : Nat × String × Nat × Nat × Nat} (hp : p.rank = a)
    (hq : q.rank = b)
    (h : Prod.Lex (· < ·) (Prod.Lex (· < ·) (Prod.Lex (· < ·) (Prod.Lex (· < ·) (· < ·)))) a b) :
    p.Before q := by
  unfold Before
  rwa [hp, hq]

theorem Before.asymm {p q : Place} (h : p.Before q) : ¬ q.Before p :=
  Std.Asymm.asymm p.rank q.rank h

/-- The name at a place, if there is such a place in what was collected. -/
def name? (c : Collected) : Place → Option String
  | root kind => c.root? kind
  | interface type i => (c.type? type).bind (·.interfaces[i]?)
  | member type i => (c.type? type).bind (·.members[i]?)
  | field type i => (c.type? type).bind fun d => d.fields[i]?.map (·.type.baseName)
  | argument type i j => (c.type? type).bind fun d =>
    d.fields[i]?.bind fun f => f.arguments[j]?.map (·.type.baseName)
  | directiveArgument directive i => (c.directive? directive).bind fun d =>
    d.arguments[i]?.map (·.type.baseName)

end Place

/-! ### Places in order -/

section lists

variable {α β : Type}

theorem find?_eq_some_iff_of_pairwise {before : α → α → Prop} {l : List α}
    (hasymm : ∀ a b, before a b → ¬ before b a) (h : l.Pairwise before) {p : α → Bool} {a : α} :
    l.find? p = some a ↔ a ∈ l ∧ p a = true ∧ ∀ b ∈ l, before b a → p b = false := by
  induction h with
  | nil => simp
  | @cons first rest hfirst _ ih =>
      rw [List.find?_cons]
      cases hp : p first with
      | true =>
          constructor
          · intro heq
            cases heq
            refine ⟨List.mem_cons_self, hp, fun b hb hbefore => ?_⟩
            rcases List.mem_cons.mp hb with rfl | hb
            · exact absurd hbefore (hasymm _ _ hbefore)
            · exact absurd (hfirst b hb) (hasymm _ _ hbefore)
          · rintro ⟨ha, -, hnone⟩
            rcases List.mem_cons.mp ha with rfl | ha
            · rfl
            · rw [hnone first List.mem_cons_self (hfirst a ha)] at hp
              cases hp
      | false =>
          dsimp only
          rw [ih]
          constructor
          · rintro ⟨ha, hpa, hnone⟩
            exact ⟨List.mem_cons_of_mem _ ha, hpa, List.forall_mem_cons.mpr ⟨fun _ => hp, hnone⟩⟩
          · rintro ⟨ha, hpa, hnone⟩
            rcases List.mem_cons.mp ha with rfl | ha
            · rw [hp] at hpa
              cases hpa
            · exact ⟨ha, hpa, fun b hb => hnone b (List.mem_cons_of_mem _ hb)⟩

theorem mem_mapIdx_iff {f : Nat → α → β} {l : List α} {b : β} :
    b ∈ l.mapIdx f ↔ ∃ i a, l[i]? = some a ∧ f i a = b := by
  rw [List.mem_mapIdx]
  constructor
  · rintro ⟨i, hi, rfl⟩
    exact ⟨i, l[i], List.getElem?_eq_getElem hi, rfl⟩
  · rintro ⟨i, a, ha, rfl⟩
    obtain ⟨hi, rfl⟩ := List.getElem?_eq_some_iff.mp ha
    exact ⟨i, hi, rfl⟩

theorem pairwise_mapIdx {r : β → β → Prop} {f : Nat → α → β} {l : List α}
    (h : ∀ i j a b, i < j → r (f i a) (f j b)) : (l.mapIdx f).Pairwise r := by
  rw [List.pairwise_iff_getElem]
  intro i j hi hj hij
  rw [List.getElem_mapIdx, List.getElem_mapIdx]
  exact h i j _ _ hij

theorem map_mapIdx {γ : Type} (g : β → γ) (f : Nat → α → β) (l : List α) :
    (l.mapIdx f).map g = l.mapIdx fun i a => g (f i a) := by
  refine List.ext_getElem (by simp) fun i hi hi' => ?_
  simp

theorem mapIdx_eq_map (f : α → β) (l : List α) : (l.mapIdx fun _ a => f a) = l.map f := by
  refine List.ext_getElem (by simp) fun i hi hi' => ?_
  simp

end lists

/-- The places of the field `f` of `type`, in order, with the names there. -/
def FieldDefinition.placed (type : String) (i : Nat) (f : FieldDefinition) :
    List (Place × String) :=
  (.field type i, f.type.baseName) ::
    f.arguments.mapIdx fun j a => (.argument type i j, a.type.baseName)

/-- The places of a definition under `key`. -/
def Definition.placed (key : String) (d : Definition) : List (Place × String) :=
  d.interfaces.mapIdx (fun i n => (.interface key i, n)) ++
  d.members.mapIdx (fun i n => (.member key i, n)) ++
  (d.fields.mapIdx (FieldDefinition.placed key)).flatten

/-- The places of a directive under `key`. -/
def DirectiveDefinition.placed (key : String) (d : DirectiveDefinition) : List (Place × String) :=
  d.arguments.mapIdx fun i a => (.directiveArgument key i, a.type.baseName)

/-- All places of a schema, in order, with the names there. -/
def Schema.placed (s : Schema) : List (Place × String) :=
  (OperationKind.all.filterMap fun kind => (s.rootName? kind).map fun n => (.root kind, n)) ++
  (s.types.entries.flatMap fun e => e.2.placed e.1) ++
  s.directives.entries.flatMap fun e => e.2.placed e.1

theorem Definition.map_placed (key : String) (d : Definition) :
    (d.placed key).map (fun r => (r.1.holder, r.2)) = d.references.map (key, ·) := by
  unfold placed references FieldDefinition.placed
  simp only [List.map_append, map_mapIdx, Place.holder, mapIdx_eq_map, List.map_flatten,
    List.map_cons, List.map_map, List.flatMap_def, Function.comp_def]

theorem DirectiveDefinition.map_placed (key : String) (d : DirectiveDefinition) :
    (d.placed key).map (fun r => (r.1.holder, r.2)) =
      d.arguments.map fun a => ("@" ++ key, a.type.baseName) := by
  unfold placed
  simp only [map_mapIdx, Place.holder, mapIdx_eq_map]

/-! ### What stands at a place -/

theorem Definition.mem_placed_iff {key : String} {d : Definition} {p : Place} {n : String} :
    (p, n) ∈ d.placed key ↔
      (∃ i, p = .interface key i ∧ d.interfaces[i]? = some n) ∨
      (∃ i, p = .member key i ∧ d.members[i]? = some n) ∨
      ∃ i f, d.fields[i]? = some f ∧
        ((p = .field key i ∧ f.type.baseName = n) ∨
          ∃ j a, f.arguments[j]? = some a ∧ p = .argument key i j ∧ a.type.baseName = n) := by
  unfold placed
  simp only [List.mem_append, List.mem_flatten, mem_mapIdx_iff, Prod.mk.injEq, or_assoc]
  refine or_congr ?_ (or_congr ?_ ?_)
  · exact exists_congr fun i => ⟨fun ⟨a, ha, hp, hn⟩ => ⟨hp.symm, hn ▸ ha⟩,
      fun ⟨hp, hn⟩ => ⟨n, hn, hp.symm, rfl⟩⟩
  · exact exists_congr fun i => ⟨fun ⟨a, ha, hp, hn⟩ => ⟨hp.symm, hn ▸ ha⟩,
      fun ⟨hp, hn⟩ => ⟨n, hn, hp.symm, rfl⟩⟩
  · constructor
    · rintro ⟨l, ⟨i, f, hf, rfl⟩, hmem⟩
      refine ⟨i, f, hf, ?_⟩
      rcases List.mem_cons.mp hmem with heq | hmem
      · cases heq
        exact .inl ⟨rfl, rfl⟩
      · obtain ⟨j, a, ha, heq⟩ := mem_mapIdx_iff.mp hmem
        cases heq
        exact .inr ⟨j, a, ha, rfl, rfl⟩
    · rintro ⟨i, f, hf, h⟩
      refine ⟨_, ⟨i, f, hf, rfl⟩, ?_⟩
      rcases h with ⟨rfl, rfl⟩ | ⟨j, a, ha, rfl, rfl⟩
      · exact List.mem_cons_self
      · exact List.mem_cons_of_mem _ (mem_mapIdx_iff.mpr ⟨j, a, ha, rfl⟩)

theorem DirectiveDefinition.mem_placed_iff {key : String} {d : DirectiveDefinition} {p : Place}
    {n : String} :
    (p, n) ∈ d.placed key ↔
      ∃ i a, d.arguments[i]? = some a ∧ p = .directiveArgument key i ∧ a.type.baseName = n := by
  unfold placed
  simp only [mem_mapIdx_iff, Prod.mk.injEq, eq_comm]

namespace Schema

theorem mem_placed_iff {s : Schema} {p : Place} {n : String} :
    (p, n) ∈ s.placed ↔
      (∃ kind, p = .root kind ∧ s.rootName? kind = some n) ∨
      (∃ key d, s.type? key = some d ∧ (p, n) ∈ d.placed key) ∨
      ∃ key d, s.directives.get? key = some d ∧ (p, n) ∈ d.placed key := by
  unfold placed
  rw [List.mem_append, List.mem_append, or_assoc]
  refine or_congr ?_ (or_congr Table.mem_flatMap_entries Table.mem_flatMap_entries)
  rw [List.mem_filterMap]
  constructor
  · rintro ⟨kind, -, hkind⟩
    obtain ⟨m, hm, heq⟩ := Option.map_eq_some_iff.mp hkind
    cases heq
    exact ⟨kind, rfl, hm⟩
  · rintro ⟨kind, rfl, hkind⟩
    exact ⟨kind, by cases kind <;> decide, by rw [hkind]; rfl⟩

/-- The places of a schema are those of what was collected for it. -/
theorem Shows.mem_placed {s : Schema} {c : Collected} (h : s.Shows c) {p : Place} {n : String} :
    (p, n) ∈ s.placed ↔ p.name? c = some n := by
  rw [mem_placed_iff]
  simp only [Definition.mem_placed_iff, DirectiveDefinition.mem_placed_iff, h.types, h.directives,
    h.roots]
  cases p with
  | root kind => simp [Place.name?]
  | interface type i => simp [Place.name?, Option.bind_eq_some_iff]
  | member type i => simp [Place.name?, Option.bind_eq_some_iff]
  | field type i => simp [Place.name?, Option.bind_eq_some_iff]
  | argument type i j => simp [Place.name?, Option.bind_eq_some_iff]
  | directiveArgument directive i => simp [Place.name?, Option.bind_eq_some_iff]

end Schema

/-! ### The order of places -/

theorem FieldDefinition.rank_of_mem_placed {type : String} {i : Nat} {f : FieldDefinition}
    {r : Place × String} (h : r ∈ f.placed type i) : ∃ t, r.1.rank = (1, type, 2, i, t) := by
  rcases List.mem_cons.mp h with rfl | h
  · exact ⟨_, rfl⟩
  · obtain ⟨j, a, -, rfl⟩ := mem_mapIdx_iff.mp h
    exact ⟨_, rfl⟩

theorem Definition.rank_of_mem_placed {key : String} {d : Definition} {r : Place × String}
    (h : r ∈ d.placed key) : ∃ t, r.1.rank = (1, key, t) := by
  rcases Definition.mem_placed_iff.mp h with ⟨i, hp, -⟩ | ⟨i, hp, -⟩ |
    ⟨i, f, -, ⟨hp, -⟩ | ⟨j, a, -, hp, -⟩⟩
  all_goals
    rw [hp]
    exact ⟨_, rfl⟩

theorem DirectiveDefinition.rank_of_mem_placed {key : String} {d : DirectiveDefinition}
    {r : Place × String} (h : r ∈ d.placed key) : ∃ t, r.1.rank = (2, key, t) := by
  obtain ⟨i, a, -, hp, -⟩ := DirectiveDefinition.mem_placed_iff.mp h
  rw [hp]
  exact ⟨_, rfl⟩

theorem Definition.pairwise_placed (key : String) (d : Definition) :
    (d.placed key).Pairwise fun a b => a.1.Before b.1 := by
  unfold placed
  rw [List.pairwise_append, List.pairwise_append, List.pairwise_flatten]
  refine ⟨⟨?interfaces, ?members, ?membersAfter⟩, ⟨?inside, ?fields⟩, ?fieldsAfter⟩
  case interfaces =>
    exact pairwise_mapIdx fun i j _ _ hij => .right _ (.right _ (.right _ (.left _ _ hij)))
  case members =>
    exact pairwise_mapIdx fun i j _ _ hij => .right _ (.right _ (.right _ (.left _ _ hij)))
  case membersAfter =>
    intro a ha b hb
    obtain ⟨i, _, -, rfl⟩ := mem_mapIdx_iff.mp ha
    obtain ⟨j, _, -, rfl⟩ := mem_mapIdx_iff.mp hb
    exact .right _ (.right _ (.left _ _ Nat.zero_lt_one))
  case inside =>
    intro l hl
    obtain ⟨i, f, -, rfl⟩ := mem_mapIdx_iff.mp hl
    refine List.pairwise_cons.mpr ⟨fun b hb => ?_, pairwise_mapIdx fun j k _ _ hjk => ?_⟩
    · obtain ⟨j, _, -, rfl⟩ := mem_mapIdx_iff.mp hb
      exact .right _ (.right _ (.right _ (.right _ (Nat.succ_pos j))))
    · exact .right _ (.right _ (.right _ (.right _ (Nat.succ_lt_succ hjk))))
  case fields =>
    refine pairwise_mapIdx fun i j f g hij a ha b hb => ?_
    obtain ⟨t, ht⟩ := FieldDefinition.rank_of_mem_placed ha
    obtain ⟨u, hu⟩ := FieldDefinition.rank_of_mem_placed hb
    exact Place.before_of_rank ht hu (.right _ (.right _ (.right _ (.left _ _ hij))))
  case fieldsAfter =>
    intro a ha b hb
    obtain ⟨l, hl, hb⟩ := List.mem_flatten.mp hb
    obtain ⟨j, g, -, rfl⟩ := mem_mapIdx_iff.mp hl
    obtain ⟨u, hu⟩ := FieldDefinition.rank_of_mem_placed hb
    rcases List.mem_append.mp ha with ha | ha
    · obtain ⟨i, _, -, rfl⟩ := mem_mapIdx_iff.mp ha
      exact Place.before_of_rank rfl hu (.right _ (.right _ (.left _ _ Nat.zero_lt_two)))
    · obtain ⟨i, _, -, rfl⟩ := mem_mapIdx_iff.mp ha
      exact Place.before_of_rank rfl hu (.right _ (.right _ (.left _ _ Nat.one_lt_two)))

theorem DirectiveDefinition.pairwise_placed (key : String) (d : DirectiveDefinition) :
    (d.placed key).Pairwise fun a b => a.1.Before b.1 :=
  pairwise_mapIdx fun _ _ _ _ hij => .right _ (.right _ (.right _ (.left _ _ hij)))

theorem pairwise_flatMap_entries {α : Type} {t : Table α}
    {places : String → α → List (Place × String)} {group : Nat}
    (hrank : ∀ key a, ∀ r ∈ places key a, ∃ u, r.1.rank = (group, key, u))
    (hinside : ∀ key a, (places key a).Pairwise fun x y => x.1.Before y.1) :
    (t.entries.flatMap fun e => places e.1 e.2).Pairwise fun x y => x.1.Before y.1 := by
  rw [List.pairwise_flatMap]
  refine ⟨fun e _ => hinside e.1 e.2, t.ascending.imp fun hlt x hx y hy => ?_⟩
  obtain ⟨u, hu⟩ := hrank _ _ x hx
  obtain ⟨v, hv⟩ := hrank _ _ y hy
  exact Place.before_of_rank hu hv (.right _ (.left _ _ hlt))

/-- `placed` lists the places in the order of `Before`. -/
theorem Schema.pairwise_placed (s : Schema) : s.placed.Pairwise fun a b => a.1.Before b.1 := by
  have hroot : ∀ r ∈ OperationKind.all.filterMap fun kind =>
      (s.rootName? kind).map fun n => (Place.root kind, n), ∃ u, r.1.rank = (0, u) := by
    intro r hr
    obtain ⟨kind, -, hkind⟩ := List.mem_filterMap.mp hr
    obtain ⟨n, -, rfl⟩ := Option.map_eq_some_iff.mp hkind
    cases kind <;> exact ⟨_, rfl⟩
  have htype : ∀ r ∈ s.types.entries.flatMap fun e => e.2.placed e.1,
      ∃ u, r.1.rank = (1, u) := by
    intro r hr
    obtain ⟨e, -, hr⟩ := List.mem_flatMap.mp hr
    obtain ⟨u, hu⟩ := Definition.rank_of_mem_placed hr
    exact ⟨_, hu⟩
  have hdirective : ∀ r ∈ s.directives.entries.flatMap fun e => e.2.placed e.1,
      ∃ u, r.1.rank = (2, u) := by
    intro r hr
    obtain ⟨e, -, hr⟩ := List.mem_flatMap.mp hr
    obtain ⟨u, hu⟩ := DirectiveDefinition.rank_of_mem_placed hr
    exact ⟨_, hu⟩
  have hbefore : ∀ {a b : Place × String} {i j : Nat}, i < j → (∃ u, a.1.rank = (i, u)) →
      (∃ v, b.1.rank = (j, v)) → a.1.Before b.1 := by
    rintro a b i j hij ⟨u, hu⟩ ⟨v, hv⟩
    exact Place.before_of_rank hu hv (.left _ _ hij)
  unfold placed
  rw [List.pairwise_append, List.pairwise_append]
  refine ⟨⟨?roots, ?types, ?typesAfter⟩, ?directives, ?directivesAfter⟩
  case roots =>
    refine List.Pairwise.filterMap _ ?_ (?_ : OperationKind.all.Pairwise
      fun k l => (Place.root k).Before (Place.root l))
    · rintro k l hkl a ha b hb
      obtain ⟨n, -, rfl⟩ := Option.map_eq_some_iff.mp ha
      obtain ⟨m, -, rfl⟩ := Option.map_eq_some_iff.mp hb
      exact hkl
    · simp [OperationKind.all, Place.Before, Place.rank, Prod.lex_def]
  case types =>
    exact pairwise_flatMap_entries (fun _ _ _ => Definition.rank_of_mem_placed)
      Definition.pairwise_placed
  case typesAfter => exact fun a ha b hb => hbefore Nat.zero_lt_one (hroot a ha) (htype b hb)
  case directives =>
    exact pairwise_flatMap_entries (fun _ _ _ => DirectiveDefinition.rank_of_mem_placed)
      DirectiveDefinition.pairwise_placed
  case directivesAfter =>
    intro a ha b hb
    rcases List.mem_append.mp ha with ha | ha
    · exact hbefore Nat.zero_lt_two (hroot a ha) (hdirective b hb)
    · exact hbefore Nat.one_lt_two (htype a ha) (hdirective b hb)

end QueryBindings

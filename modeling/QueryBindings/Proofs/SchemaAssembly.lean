import Mathlib.Data.List.Nodup
import QueryBindings.Proofs.Grammar.Definitions
import QueryBindings.Proofs.Tables
import QueryBindings.Schema.Assembly

/-! # Schemas that are read

What holds of every schema that comes from text (`WellRead`): its tables are keyed by the names of
what they hold, all it holds is sound, and the builtin scalars are among its types.  Each entry
and each extension keeps that.

Main statement: `wellRead_of_ofText` (a schema that is read is the index of a well read one without
dangling references). -/

namespace QueryBindings

open Grammar

namespace Definition

theorem Sound.extend {d addition : Definition} (h : d.Sound) (hadd : addition.Sound) :
    (d.extend addition).Sound where
  name := h.name
  interfaces := List.forall_mem_append.mpr ⟨h.interfaces, hadd.interfaces⟩
  members := List.forall_mem_append.mpr ⟨h.members, hadd.members⟩
  fields := List.forall_mem_append.mpr ⟨h.fields, hadd.fields⟩
  values := List.forall_mem_append.mpr ⟨h.values, hadd.values⟩
  directives := List.forall_mem_append.mpr ⟨h.directives, hadd.directives⟩
  builtin := h.builtin

end Definition

namespace Schema

/-- Tables are keyed by the names of what they hold, everything is `Sound`, and the builtin scalars
are there. -/
structure WellRead (s : Schema) : Prop where
  types : ∀ key d, s.types.get? key = some d → d.name = key ∧ d.Sound
  directives : ∀ key d, s.directives.get? key = some d → d.name = key ∧ d.Sound
  roots : ∀ kind n, s.rootName? kind = some n → isName n = true
  scalars : ∀ n ∈ builtinScalars, s.types.contains n = true

/-! ### Entries and extensions -/

theorem contains_insert {α : Type} (t : Table α) (key : String) (value : α) (other : String) :
    (t.insert key value).contains other = (decide (other = key) || t.contains other) := by
  unfold Table.contains
  rw [Table.get?_insert]
  split <;> rename_i h <;> simp [h]

theorem WellRead.addType {s : Schema} (h : s.WellRead) {d : Definition} (hd : d.Sound) :
    (s.addType d).WellRead := by
  refine ⟨?_, h.directives, h.roots, ?_⟩
  · intro key e he
    unfold Schema.addType at he
    rw [Table.get?_insert] at he
    split at he
    · rename_i hkey
      cases he
      exact ⟨hkey.symm, hd⟩
    · exact h.types key e he
  · intro n hn
    unfold Schema.addType
    rw [contains_insert, h.scalars n hn, Bool.or_true]

theorem wellRead_builtin : builtin.WellRead := by
  have htypes : ∀ (names : List String) (s : Schema), (∀ n ∈ names, isName n = true) →
      (∀ key d, s.types.get? key = some d → d.name = key ∧ d.Sound) →
      ∀ key d, (names.foldl (fun s n => s.addType (.bare .scalar n)) s).types.get? key = some d →
        d.name = key ∧ d.Sound := by
    intro names
    induction names with
    | nil => exact fun s _ h => h
    | cons n names ih =>
        intro s hnames h
        apply ih _ (fun m hm => hnames m (List.mem_cons_of_mem n hm))
        intro key e he
        unfold Schema.addType at he
        rw [Table.get?_insert] at he
        split at he
        · rename_i hkey
          cases he
          exact ⟨hkey.symm, Definition.sound_bare (hnames n List.mem_cons_self)⟩
        · exact h key e he
  refine ⟨htypes builtinScalars empty (by decide) nofun, ?_, ?_, ?_⟩
  · intro key d hd
    cases hd
  · intro kind n hn
    cases kind <;> cases hn
  · decide

theorem WellRead.addEntry {s : Schema} (h : s.WellRead) {e : SchemaEntry} (he : e.Sound) :
    (s.addEntry e).WellRead := by
  cases e with
  | roots b =>
      refine { h with roots := fun kind n hn => ?_ }
      apply he (kind, n)
      rw [RootBlock.mem_roots]
      cases kind <;> exact hn
  | type d => exact h.addType he
  | directive d =>
      refine { h with directives := fun key e hd => ?_ }
      have hget : (s.directives.insert d.name d).get? key = some e := hd
      rw [Table.get?_insert] at hget
      split at hget
      · rename_i hkey
        cases hget
        exact ⟨hkey.symm, he⟩
      · exact h.directives key e hget
  | extension d => exact h

theorem WellRead.extendType {s t : Schema} (h : s.WellRead) {addition : Definition}
    (hadd : addition.Sound) (hok : s.extendType addition = .ok t) : t.WellRead := by
  unfold Schema.extendType at hok
  split at hok
  · rename_i d hd
    cases hok
    obtain ⟨hname, hsound⟩ := h.types _ d hd
    have hall := h.addType (hsound.extend hadd)
    unfold Schema.addType at hall
    rw [show (d.extend addition).name = addition.name from hname] at hall
    exact hall
  · cases hok

theorem WellRead.foldl_addEntry {s : Schema} (h : s.WellRead) {es : List SchemaEntry}
    (hes : ∀ e ∈ es, e.Sound) : (es.foldl Schema.addEntry s).WellRead := by
  induction es generalizing s with
  | nil => exact h
  | cons e es ih =>
      exact ih (h.addEntry (hes e List.mem_cons_self))
        fun x hx => hes x (List.mem_cons_of_mem e hx)

theorem WellRead.foldlM_extendType {s t : Schema} (h : s.WellRead) {additions : List Definition}
    (hadd : ∀ d ∈ additions, d.Sound) (hok : additions.foldlM Schema.extendType s = .ok t) :
    t.WellRead := by
  induction additions generalizing s with
  | nil =>
      cases hok
      exact h
  | cons d additions ih =>
      rw [List.foldlM_cons, bind_eq_ok] at hok
      obtain ⟨mid, hfirst, hrest⟩ := hok
      exact ih (h.extendType (hadd d List.mem_cons_self) hfirst)
        (fun x hx => hadd x (List.mem_cons_of_mem d hx)) hrest

/-! ### Root types -/

/-- `t` is `s` with some root types set by their default names. -/
structure Rooted (s t : Schema) : Prop where
  types : t.types = s.types
  directives : t.directives = s.directives
  possible : t.possible = s.possible
  roots : ∀ kind n, t.rootName? kind = some n →
    s.rootName? kind = some n ∨ (n = kind.defaultRoot ∧ s.types.contains n = true)

theorem Rooted.refl (s : Schema) : Rooted s s := ⟨rfl, rfl, rfl, fun _ _ h => .inl h⟩

theorem Rooted.trans {s t u : Schema} (h : Rooted s t) (h' : Rooted t u) : Rooted s u := by
  refine ⟨h'.types.trans h.types, h'.directives.trans h.directives,
    h'.possible.trans h.possible, fun kind n hn => ?_⟩
  rcases h'.roots kind n hn with hn | ⟨hn, hcontains⟩
  · exact h.roots kind n hn
  · exact .inr ⟨hn, h.types ▸ hcontains⟩

theorem rooted_setRoot {s : Schema} {kind : OperationKind}
    (h : s.types.contains kind.defaultRoot = true) :
    Rooted s (s.setRoot kind (some kind.defaultRoot)) := by
  refine ⟨?_, ?_, ?_, fun other n hn => ?_⟩
  · cases kind <;> rfl
  · cases kind <;> rfl
  · cases kind <;> rfl
  · by_cases hsame : other = kind
    · subst hsame
      have hdefault : some other.defaultRoot = some n := by
        cases other <;> exact hn
      cases hdefault
      exact .inr ⟨rfl, h⟩
    · refine .inl ?_
      cases other <;> cases kind <;> first | exact hn | exact absurd rfl hsame

theorem rooted_withDefaultRoots (s : Schema) : Rooted s s.withDefaultRoots := by
  have hall : ∀ (kinds : List OperationKind) (t : Schema), Rooted s t →
      Rooted s (kinds.foldl (fun s kind => if s.types.contains kind.defaultRoot
        then s.setRoot kind (some kind.defaultRoot) else s) t) := by
    intro kinds
    induction kinds with
    | nil => exact fun t h => h
    | cons kind kinds ih =>
        intro t h
        apply ih _
        dsimp only
        split
        · rename_i hcontains
          exact h.trans (rooted_setRoot hcontains)
        · exact h
  exact hall OperationKind.all s (Rooted.refl s)

theorem WellRead.of_rooted {s t : Schema} (h : s.WellRead) (hrooted : Rooted s t) :
    t.WellRead := by
  refine ⟨?_, ?_, fun kind n hn => ?_, ?_⟩
  · rw [hrooted.types]
    exact h.types
  · rw [hrooted.directives]
    exact h.directives
  · rcases hrooted.roots kind n hn with hn | ⟨rfl, -⟩
    · exact h.roots kind n hn
    · cases kind <;> decide
  · rw [hrooted.types]
    exact h.scalars

/-! ### Possible types -/

theorem possible_addPossible {s t : Schema} (h : s.possible = t.possible) (n member : String) :
    (s.addPossible n member).possible = (t.addPossible n member).possible := by
  unfold addPossible possibleNames
  dsimp only
  rw [h]

theorem possibleNames_addPossible (s : Schema) (name member n : String) :
    (s.addPossible name member).possibleNames n =
      if n = name ∧ member ∉ s.possibleNames n then s.possibleNames n ++ [member]
      else s.possibleNames n := by
  have hget : (s.addPossible name member).possibleNames n = (if n = name then
      (if (s.possibleNames name).contains member then s.possibleNames name
        else s.possibleNames name ++ [member]) else s.possibleNames n) := by
    unfold addPossible
    dsimp only
    rw [possibleNames, Table.get?_insert]
    split <;> rfl
  rw [hget]
  by_cases hn : n = name
  · subst hn
    by_cases hmember : member ∈ s.possibleNames n <;> simp [hmember]
  · simp [hn]

theorem mem_possibleNames_foldl {s : Schema} {pairs : List (String × String)} {n m : String} :
    m ∈ (pairs.foldl (fun s p => s.addPossible p.1 p.2) s).possibleNames n ↔
      m ∈ s.possibleNames n ∨ (n, m) ∈ pairs := by
  induction pairs generalizing s with
  | nil => simp
  | cons p rest ih =>
      have hstep : m ∈ (s.addPossible p.1 p.2).possibleNames n ↔
          m ∈ s.possibleNames n ∨ (n, m) = p := by
        rw [possibleNames_addPossible, Prod.ext_iff]
        split
        · rename_i hnew
          rw [List.mem_append, List.mem_singleton]
          exact or_congr_right (iff_and_self.mpr fun _ => hnew.1)
        · rename_i hold
          rw [not_and, not_not] at hold
          exact ⟨.inl, fun h => h.elim id fun ⟨hn, hm⟩ => (show m = p.2 from hm) ▸ hold hn⟩
      rw [List.foldl_cons, ih, hstep, List.mem_cons, or_assoc]

/-- No name is recorded twice for another. -/
theorem nodup_possibleNames_foldl {s : Schema} (h : ∀ n, (s.possibleNames n).Nodup)
    (pairs : List (String × String)) (n : String) :
    ((pairs.foldl (fun s p => s.addPossible p.1 p.2) s).possibleNames n).Nodup := by
  induction pairs generalizing s with
  | nil => exact h n
  | cons p rest ih =>
      refine ih fun k => ?_
      rw [possibleNames_addPossible]
      split
      · rename_i hnew
        exact List.concat_eq_append ▸ List.Nodup.concat hnew.2 (h k)
      · exact h k

/-- Recording possible types changes their table only, and depends on that table only. -/
theorem foldl_addPossible (s : Schema) (pairs : List (String × String)) :
    ∃ possible, pairs.foldl (fun s p => s.addPossible p.1 p.2) s = { s with possible := possible } ∧
      ∀ t : Schema, t.possible = s.possible →
        (pairs.foldl (fun s p => s.addPossible p.1 p.2) t).possible = possible := by
  induction pairs generalizing s with
  | nil => exact ⟨s.possible, rfl, fun t h => h⟩
  | cons p pairs ih =>
      obtain ⟨possible, heq, hsame⟩ := ih (s.addPossible p.1 p.2)
      exact ⟨possible, heq, fun t ht => hsame _ (possible_addPossible ht p.1 p.2)⟩

/-- `indexPossible` changes `possible` only. -/
theorem indexPossible_eq (s : Schema) :
    s.indexPossible = { s with possible := s.indexPossible.possible } := by
  obtain ⟨possible, heq, -⟩ := s.foldl_addPossible (s.types.values.flatMap (·.standIns))
  unfold indexPossible
  rw [heq]

theorem possible_indexPossible {s t : Schema} (htypes : s.types = t.types)
    (hpossible : s.possible = t.possible) : s.indexPossible.possible = t.indexPossible.possible := by
  obtain ⟨possible, heq, hsame⟩ := t.foldl_addPossible (t.types.values.flatMap (·.standIns))
  unfold indexPossible
  rw [htypes, hsame s hpossible, heq]

theorem references_indexPossible (s : Schema) : s.indexPossible.references = s.references := by
  rw [s.indexPossible_eq]
  rfl

theorem assemble_eq_ok {s t : Schema} :
    s.assemble = .ok t ↔ t = s.indexPossible ∧ ∀ r ∈ s.references, s.types.contains r.2 = true := by
  have htypes : s.indexPossible.types = s.types := by
    rw [s.indexPossible_eq]
  unfold assemble danglingReference?
  dsimp only
  rw [references_indexPossible, htypes]
  constructor
  · intro h
    split at h
    · cases h
    · rename_i hnone
      cases h
      rw [List.find?_eq_none] at hnone
      exact ⟨rfl, fun r hr => by simpa using hnone r hr⟩
  · rintro ⟨rfl, h⟩
    have hnone : s.references.find? (fun r => !s.types.contains r.2) = none := by
      rw [List.find?_eq_none]
      intro r hr
      simp [h r hr]
    simp only [hnone]

/-! ### Schemas from text -/

theorem foldl_addEntry_possible (s : Schema) (es : List SchemaEntry) :
    (es.foldl addEntry s).possible = s.possible := by
  induction es generalizing s with
  | nil => rfl
  | cons e es ih =>
      rw [List.foldl_cons, ih]
      cases e <;> rfl

theorem foldlM_extendType_possible {s t : Schema} {additions : List Definition}
    (h : additions.foldlM extendType s = .ok t) : t.possible = s.possible := by
  induction additions generalizing s with
  | nil =>
      cases h
      rfl
  | cons d additions ih =>
      rw [List.foldlM_cons, bind_eq_ok] at h
      obtain ⟨mid, hfirst, hrest⟩ := h
      rw [ih hrest]
      unfold extendType at hfirst
      split at hfirst
      · cases hfirst
        rfl
      · cases hfirst

/-- What `ofEntries` gives is the index of a schema that is `WellRead`, without dangling references.
-/
theorem wellRead_of_ofEntries {es : List SchemaEntry} {s : Schema} (hes : ∀ e ∈ es, e.Sound)
    (h : ofEntries es = .ok s) :
    ∃ base : Schema, base.WellRead ∧ base.possible = ∅ ∧ s = base.indexPossible ∧
      ∀ r ∈ base.references, base.types.contains r.2 = true := by
  unfold ofEntries at h
  dsimp only at h
  rw [bind_eq_ok] at h
  obtain ⟨extended, hextended, hassemble⟩ := h
  have hadditions : ∀ d ∈ es.filterMap addition?, d.Sound := by
    intro d hd
    obtain ⟨e, he, heq⟩ := List.mem_filterMap.mp hd
    cases e <;> cases heq
    exact hes _ he
  have hextend := (wellRead_builtin.foldl_addEntry hes).foldlM_extendType hadditions hextended
  have hpossible : extended.possible = ∅ := by
    rw [foldlM_extendType_possible hextended, foldl_addEntry_possible]
    rfl
  have hrooted : Rooted extended
      (if es.any namesRoots then extended else extended.withDefaultRoots) := by
    split
    · exact Rooted.refl extended
    · exact rooted_withDefaultRoots extended
  rw [assemble_eq_ok] at hassemble
  exact ⟨_, hextend.of_rooted hrooted, hrooted.possible.trans hpossible, hassemble⟩

/-- What `ofText` gives is the index of a schema that is `WellRead`. -/
theorem wellRead_of_ofText {text : String} {s : Schema} (h : ofText text = .ok s) :
    ∃ base : Schema, base.WellRead ∧ base.possible = ∅ ∧ s = base.indexPossible ∧
      ∀ r ∈ base.references, base.types.contains r.2 = true := by
  unfold ofText readSchema at h
  split at h
  · cases h
  · rename_i es hread
    rw [readAll_eq_ok] at hread
    exact wellRead_of_ofEntries (yields_schemaText _ (Rule.named_of_lex _) es [] hread).1 h

end Schema

end QueryBindings

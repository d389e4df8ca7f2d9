import Mathlib.Data.List.Perm.Subperm
import QueryBindings.Table

/-! # Entries of tables

What is found in a table is one of its entries, and its entries are what was put into it. -/

namespace QueryBindings

namespace Table

variable {α : Type}

theorem contains_iff (t : Table α) (key : String) :
    t.contains key = true ↔ ∃ value, t.get? key = some value := by
  unfold contains
  rw [Option.isSome_iff_exists]

theorem erase_eq_self {t : Table α} {key : String} (h : t.get? key = none) : t.erase key = t := by
  refine ext fun other => ?_
  rw [get?_erase]
  split
  · rename_i hother
    rw [hother, h]
  · rfl

theorem mem_keys_of_get? {t : Table α} {key : String} {value : α} (h : t.get? key = some value) :
    key ∈ t.keys := by
  unfold get? at h
  unfold keys
  rw [List.lookup_eq_some_iff] at h
  obtain ⟨before, after, hentries, _⟩ := h
  rw [hentries]
  simp

/-- Different keys of a table are at most as many as its entries. -/
theorem length_le_size {t : Table α} {names : List String} (hdistinct : names.Nodup)
    (hkeys : ∀ n ∈ names, n ∈ t.keys) : names.length ≤ t.size := by
  have h : names.length ≤ t.keys.length := (hdistinct.subperm hkeys).length_le
  unfold keys at h
  rw [List.length_map] at h
  exact h

/-- Of the keys that are kept there is one less without one of them. -/
theorem length_filter_keys_lt {t : Table α} {key : String} {value : α}
    (hget : t.get? key = some value) {keep fewer : String → Bool} (hkey : keep key = true)
    (hfewer : ∀ n, fewer n = (decide (n ≠ key) && keep n)) :
    (t.keys.filter fewer).length < (t.keys.filter keep).length := by
  have hsplit : t.keys.filter fewer = (t.keys.filter keep).filter (· ≠ key) := by
    rw [List.filter_filter]
    exact List.filter_congr fun n _ => hfewer n
  have hmem : key ∈ t.keys.filter keep := List.mem_filter.mpr ⟨mem_keys_of_get? hget, hkey⟩
  rw [hsplit, List.length_filter_lt_length_iff_exists]
  exact ⟨key, hmem, by simp⟩

theorem mem_of_mem_foldl_insert {pairs : List (String × α)} {t : Table α} {e : String × α}
    (h : e ∈ (pairs.foldl (fun t e => t.insert e.1 e.2) t).entries) :
    e ∈ t.entries ∨ e ∈ pairs := by
  induction pairs generalizing t with
  | nil => exact .inl h
  | cons p pairs ih =>
      rw [List.foldl_cons] at h
      rcases ih h with h | h
      · rcases mem_insertEntry h with rfl | h
        · exact .inr List.mem_cons_self
        · exact .inl h
      · exact .inr (List.mem_cons_of_mem p h)

theorem mem_of_mem_ofList {pairs : List (String × α)} {e : String × α}
    (h : e ∈ (ofList pairs).entries) : e ∈ pairs := by
  rcases mem_of_mem_foldl_insert h with h | h
  · exact absurd h List.not_mem_nil
  · exact h

theorem mem_entries_of_get? {t : Table α} {key : String} {value : α}
    (h : t.get? key = some value) : (key, value) ∈ t.entries := by
  unfold get? at h
  rw [List.lookup_eq_some_iff] at h
  obtain ⟨before, after, hentries, _⟩ := h
  rw [hentries]
  simp

theorem get?_of_mem_entries {t : Table α} {e : String × α} (h : e ∈ t.entries) :
    t.get? e.1 = some e.2 := by
  obtain ⟨entries, ascending⟩ := t
  unfold get?
  induction entries with
  | nil => exact absurd h List.not_mem_nil
  | cons head rest ih =>
      obtain ⟨hhead, hrest⟩ := List.pairwise_cons.mp ascending
      rcases List.mem_cons.mp h with rfl | h
      · exact List.lookup_cons_self
      · have hne : e.1 ≠ head.1 := fun heq => String.lt_irrefl head.1 (heq ▸ hhead e h)
        have hlookup := ih hrest h
        have hbeq : (e.1 == head.1) = false := by simpa using hne
        show List.lookup e.1 ((head.1, head.2) :: rest) = some e.2
        rw [List.lookup_cons, hbeq]
        exact hlookup

theorem mem_values_iff {t : Table α} {value : α} :
    value ∈ t.values ↔ ∃ key, t.get? key = some value := by
  unfold values
  constructor
  · intro h
    obtain ⟨e, he, rfl⟩ := List.mem_map.mp h
    exact ⟨e.1, get?_of_mem_entries he⟩
  · rintro ⟨key, h⟩
    exact List.mem_map.mpr ⟨(key, value), mem_entries_of_get? h, rfl⟩

theorem mem_flatMap_entries {β : Type} {t : Table α} {places : String → α → List β} {b : β} :
    b ∈ t.entries.flatMap (fun e => places e.1 e.2) ↔
      ∃ key a, t.get? key = some a ∧ b ∈ places key a := by
  rw [List.mem_flatMap]
  exact ⟨fun ⟨e, he, hmem⟩ => ⟨e.1, e.2, get?_of_mem_entries he, hmem⟩,
    fun ⟨key, a, ha, hmem⟩ => ⟨(key, a), mem_entries_of_get? ha, hmem⟩⟩

theorem get?_foldl_insert {pairs : List (String × α)} (h : pairs.Pairwise fun a b => a.1 < b.1)
    (base : Table α) (key : String) :
    (pairs.foldl (fun t e => t.insert e.1 e.2) base).get? key =
      (pairs.lookup key).or (base.get? key) := by
  induction pairs generalizing base with
  | nil => rfl
  | cons head rest ih =>
      obtain ⟨hhead, hrest⟩ := List.pairwise_cons.mp h
      rw [List.foldl_cons, ih hrest, get?_insert]
      show _ = (List.lookup key ((head.1, head.2) :: rest)).or _
      rw [List.lookup_cons]
      by_cases hkey : key = head.1
      · rw [hkey, lookup_eq_none_of_lt hhead, if_pos rfl, beq_self_eq_true]
        rfl
      · have hbeq : (key == head.1) = false := by simpa using hkey
        rw [if_neg hkey, hbeq]

/-- A table is put together again from its `entries`, also on top of a smaller table. -/
theorem foldl_insert_entries {t base : Table α}
    (h : ∀ key, base.contains key = true → t.contains key = true) :
    t.entries.foldl (fun b e => b.insert e.1 e.2) base = t := by
  refine ext fun key => ?_
  rw [get?_foldl_insert t.ascending]
  show (t.get? key).or (base.get? key) = t.get? key
  cases hkey : t.get? key with
  | some value => rfl
  | none =>
      cases hbase : base.get? key with
      | none => rfl
      | some value =>
          have hcontains := h key ((base.contains_iff key).mpr ⟨value, hbase⟩)
          obtain ⟨other, hother⟩ := (t.contains_iff key).mp hcontains
          rw [hkey] at hother
          cases hother

/-- A table is put together again from its `values` alone, if each of them holds its key. -/
theorem foldl_insert_values {t base : Table α} {name : α → String}
    (hname : ∀ key value, t.get? key = some value → name value = key)
    (h : ∀ key, base.contains key = true → t.contains key = true) :
    t.values.foldl (fun b value => b.insert (name value) value) base = t := by
  have hentries : ∀ (pairs : List (String × α)) (b : Table α), (∀ e ∈ pairs, name e.2 = e.1) →
      (pairs.map Prod.snd).foldl (fun b value => b.insert (name value) value) b =
        pairs.foldl (fun b e => b.insert e.1 e.2) b := by
    intro pairs
    induction pairs with
    | nil => exact fun _ _ => rfl
    | cons head rest ih =>
        intro b hpairs
        rw [List.map_cons, List.foldl_cons, List.foldl_cons, hpairs head List.mem_cons_self]
        exact ih _ fun e he => hpairs e (List.mem_cons_of_mem head he)
  unfold values
  rw [hentries t.entries base fun e he => hname e.1 e.2 (get?_of_mem_entries he)]
  exact foldl_insert_entries h

end Table

end QueryBindings

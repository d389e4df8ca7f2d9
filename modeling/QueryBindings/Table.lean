/-! # Tables keyed by name

A finite map from names to values, held as a list in strictly ascending key order
(code points compared left to right).  The order carries no meaning of its own: it makes
two tables with the same look-ups the same value, and it is the order in which tables are
written out.

Main statements: `get?_insert` (an insertion is seen at its key and nowhere else),
`get?_erase`, and `ext` (a table is its look-ups). -/

namespace QueryBindings

/-- A finite map from names, in strictly ascending key order. -/
structure Table (α : Type) where
  entries : List (String × α)
  ascending : entries.Pairwise (fun a b => a.1 < b.1)

namespace Table

variable {α β : Type}

/-- Puts `value` at `key`, in place of what stood there. -/
def insertEntry (key : String) (value : α) : List (String × α) → List (String × α)
  | [] => [(key, value)]
  | (k, v) :: rest =>
    if key < k then (key, value) :: (k, v) :: rest
    else if key = k then (key, value) :: rest
    else (k, v) :: insertEntry key value rest

theorem mem_insertEntry {key : String} {value : α} {entries : List (String × α)}
    {e : String × α} (h : e ∈ insertEntry key value entries) :
    e = (key, value) ∨ e ∈ entries := by
  induction entries with
  | nil => simpa [insertEntry] using h
  | cons head rest ih =>
    simp only [insertEntry] at h
    split at h
    · simpa using h
    · split at h
      · rcases List.mem_cons.mp h with h | h
        · exact .inl h
        · exact .inr (List.mem_cons_of_mem _ h)
      · rcases List.mem_cons.mp h with h | h
        · exact .inr (by simp [h])
        · rcases ih h with h | h
          · exact .inl h
          · exact .inr (List.mem_cons_of_mem _ h)

theorem lt_of_not_lt_of_ne {a b : String} (h : ¬ a < b) (hne : a ≠ b) : b < a :=
  Std.lt_of_le_of_ne (String.not_lt.mp h) (Ne.symm hne)

theorem ascending_insertEntry (key : String) (value : α) {entries : List (String × α)}
    (h : entries.Pairwise (fun a b => a.1 < b.1)) :
    (insertEntry key value entries).Pairwise (fun a b => a.1 < b.1) := by
  induction entries with
  | nil => simp [insertEntry]
  | cons head rest ih =>
    obtain ⟨hhead, hrest⟩ := List.pairwise_cons.mp h
    simp only [insertEntry]
    split
    · rename_i hlt
      refine List.pairwise_cons.mpr ⟨fun e he => ?_, h⟩
      rcases List.mem_cons.mp he with he | he
      · exact he ▸ hlt
      · exact String.lt_trans hlt (hhead e he)
    · split
      · rename_i heq
        exact List.pairwise_cons.mpr ⟨fun e he => heq ▸ hhead e he, hrest⟩
      · rename_i hlt hne
        refine List.pairwise_cons.mpr ⟨fun e he => ?_, ih hrest⟩
        rcases mem_insertEntry he with he | he
        · exact he ▸ lt_of_not_lt_of_ne hlt hne
        · exact hhead e he

def empty : Table α := ⟨[], .nil⟩

instance : EmptyCollection (Table α) := ⟨empty⟩

instance : Inhabited (Table α) := ⟨empty⟩

def get? (t : Table α) (key : String) : Option α := t.entries.lookup key

def contains (t : Table α) (key : String) : Bool := (t.get? key).isSome

/-- Puts `value` at `key` by `insertEntry`. -/
def insert (t : Table α) (key : String) (value : α) : Table α :=
  ⟨insertEntry key value t.entries, ascending_insertEntry key value t.ascending⟩

def erase (t : Table α) (key : String) : Table α :=
  ⟨t.entries.filter (·.1 ≠ key), t.ascending.filter _⟩

/-- Replaces every value by `f`; the keys stay. -/
def map (f : String → α → β) (t : Table α) : Table β :=
  ⟨t.entries.map fun e => (e.1, f e.1 e.2), by
    simpa [List.pairwise_map] using t.ascending⟩

/-- The keys, ascending. -/
def keys (t : Table α) : List String := t.entries.map Prod.fst

/-- The values, in key order. -/
def values (t : Table α) : List α := t.entries.map Prod.snd

def size (t : Table α) : Nat := t.entries.length

/-- Inserts the pairs from left to right, so the last of a repeated key stays. -/
def ofList (pairs : List (String × α)) : Table α :=
  pairs.foldl (fun t e => t.insert e.1 e.2) empty

instance [DecidableEq α] : DecidableEq (Table α) := fun a b =>
  if h : a.entries = b.entries then
    isTrue (by cases a; cases b; simp_all)
  else isFalse (fun e => h (by rw [e]))

instance [Repr α] : Repr (Table α) := ⟨fun t n => reprPrec t.entries n⟩

/-! ### Look-ups -/

theorem lookup_insertEntry (key : String) (value : α) (entries : List (String × α))
    (other : String) :
    (insertEntry key value entries).lookup other =
      if other = key then some value else entries.lookup other := by
  induction entries with
  | nil => grind [insertEntry]
  | cons head rest ih => grind [insertEntry]

@[simp] theorem get?_insert (t : Table α) (key : String) (value : α) (other : String) :
    (t.insert key value).get? other = if other = key then some value else t.get? other :=
  lookup_insertEntry key value t.entries other

theorem lookup_filter_ne (key : String) (entries : List (String × α)) (other : String) :
    (entries.filter (·.1 ≠ key)).lookup other =
      if other = key then none else entries.lookup other := by
  induction entries with
  | nil => grind
  | cons head rest ih => grind

@[simp] theorem get?_erase (t : Table α) (key other : String) :
    (t.erase key).get? other = if other = key then none else t.get? other :=
  lookup_filter_ne key t.entries other

@[simp] theorem get?_empty (key : String) : (empty : Table α).get? key = none := rfl

theorem lookup_eq_none_of_lt {key : String} {entries : List (String × α)}
    (h : ∀ e ∈ entries, key < e.1) : entries.lookup key = none := by
  induction entries with
  | nil => rfl
  | cons head rest ih =>
    have hne : key ≠ head.1 := fun e => String.lt_irrefl key (by
      have := h head List.mem_cons_self; rwa [← e] at this)
    have := ih fun e he => h e (List.mem_cons_of_mem _ he)
    grind

theorem eq_of_lookup_eq {a b : List (String × α)}
    (ha : a.Pairwise (fun x y => x.1 < y.1)) (hb : b.Pairwise (fun x y => x.1 < y.1))
    (h : ∀ key, a.lookup key = b.lookup key) : a = b := by
  induction a generalizing b with
  | nil =>
    cases b with
    | nil => rfl
    | cons head rest => have := h head.1; grind
  | cons x xs ih =>
    cases b with
    | nil => have := h x.1; grind
    | cons y ys =>
      obtain ⟨hx, hxs⟩ := List.pairwise_cons.mp ha
      obtain ⟨hy, hys⟩ := List.pairwise_cons.mp hb
      have hkey : x.1 = y.1 := by
        by_cases hlt : x.1 < y.1
        · have hnone : (y :: ys).lookup x.1 = none := lookup_eq_none_of_lt fun e he => by
            rcases List.mem_cons.mp he with he | he
            · exact he ▸ hlt
            · exact String.lt_trans hlt (hy e he)
          have := h x.1
          grind
        · by_cases heq : x.1 = y.1
          · exact heq
          · have hgt := lt_of_not_lt_of_ne hlt heq
            have hnone : (x :: xs).lookup y.1 = none := lookup_eq_none_of_lt fun e he => by
              rcases List.mem_cons.mp he with he | he
              · exact he ▸ hgt
              · exact String.lt_trans hgt (hx e he)
            have := h y.1
            grind
      have hval : x.2 = y.2 := by have := h x.1; grind
      have hrest : xs = ys := ih hxs hys fun key => by
        have hk := h key
        by_cases hkx : key = x.1
        · rw [hkx, lookup_eq_none_of_lt hx, hkey, lookup_eq_none_of_lt hy]
        · have hky : key ≠ y.1 := hkey ▸ hkx
          grind
      rw [hrest, show x = y from Prod.ext hkey hval]

/-- A table is its look-ups. -/
theorem ext {a b : Table α} (h : ∀ key, a.get? key = b.get? key) : a = b := by
  cases a
  cases b
  simp only [mk.injEq]
  exact eq_of_lookup_eq ‹_› ‹_› h

end Table

end QueryBindings

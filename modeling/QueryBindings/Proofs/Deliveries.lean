import Mathlib.Data.List.Nodup
import QueryBindings.Proofs.Tables

/-! # Deliveries

Texts are put into a table where they wait, and moved from there one after another to where they
belong.  If no two of them wait at one key or belong at one key, and none is moved onto a key where
a later one still waits (`Apart`), all arrive.  Nothing less will do: a text that is overwritten on
its way is in the table no more, and no move brings it back.

Main statements: `place_stage_of_apart` (what becomes of the table), `apart_of_arrived` (texts that
all arrive were apart) and `exists_fresh_place` (moves that stop half-way leave a text). -/

namespace QueryBindings

/-- A text, the key at which it is `waiting`, and the key `home?` at which it belongs if it can
stand there. -/
structure Delivery where
  waiting : String
  home? : Option String
  text : String

namespace Delivery

def stage (files : Table String) (ds : List Delivery) : Table String :=
  ds.foldl (fun files d => files.insert d.waiting d.text) files

def unstage (files : Table String) (ds : List Delivery) : Table String :=
  ds.foldl (fun files d => files.erase d.waiting) files

/-- Moves what waits to where it belongs, up to the first that cannot be moved; the mark says
whether all were. -/
def place : Table String → List Delivery → Bool × Table String
  | files, [] => (true, files)
  | files, d :: rest =>
    match files.get? d.waiting, d.home? with
    | some text, some home => place ((files.erase d.waiting).insert home text) rest
    | _, _ => (false, files)

/-- A delivery and a later one do not meet. -/
def Apart (d e : Delivery) : Prop :=
  d.waiting ≠ e.waiting ∧ d.home? ≠ e.home? ∧ d.home? ≠ some e.waiting

variable {files : Table String} {d : Delivery} {ds rest : List Delivery} {key home text : String}

/-! ### What waits -/

theorem get?_stage_of_ne (h : ∀ d ∈ ds, d.waiting ≠ key) :
    (stage files ds).get? key = files.get? key := by
  induction ds generalizing files with
  | nil => rfl
  | cons d rest ih =>
      obtain ⟨hd, hrest⟩ := List.forall_mem_cons.mp h
      show (stage (files.insert d.waiting d.text) rest).get? key = _
      rw [ih hrest, Table.get?_insert, if_neg hd.symm]

theorem of_get?_stage (h : (stage files ds).get? key = some text) :
    (∃ d ∈ ds, d.waiting = key ∧ d.text = text) ∨
      (files.get? key = some text ∧ ∀ d ∈ ds, d.waiting ≠ key) := by
  induction ds generalizing files with
  | nil => exact .inr ⟨h, fun _ hd => absurd hd List.not_mem_nil⟩
  | cons d rest ih =>
      rcases ih h with ⟨e, he, hkey, htext⟩ | ⟨hget, hrest⟩
      · exact .inl ⟨e, List.mem_cons_of_mem d he, hkey, htext⟩
      · rw [Table.get?_insert] at hget
        split at hget
        · rename_i hkey
          exact .inl ⟨d, List.mem_cons_self, hkey.symm, Option.some.inj hget⟩
        · rename_i hkey
          exact .inr ⟨hget, List.forall_mem_cons.mpr ⟨fun heq => hkey heq.symm, hrest⟩⟩

theorem contains_stage (files : Table String) (hd : d ∈ ds) :
    ∃ text, (stage files ds).get? d.waiting = some text := by
  induction ds generalizing files d with
  | nil => exact absurd hd List.not_mem_nil
  | cons e rest ih =>
      by_cases hlater : ∃ e' ∈ rest, e'.waiting = d.waiting
      · obtain ⟨e', he', heq⟩ := hlater
        exact heq ▸ ih _ he'
      · rcases List.mem_cons.mp hd with rfl | hd
        · refine ⟨d.text, ?_⟩
          show (stage (files.insert d.waiting d.text) rest).get? d.waiting = _
          rw [get?_stage_of_ne fun e' he' heq => hlater ⟨e', he', heq⟩, Table.get?_insert,
            if_pos rfl]
        · exact absurd ⟨d, hd, rfl⟩ hlater

theorem exists_text_of_get?_stage (hd : d ∈ ds)
    (h : (stage files ds).get? d.waiting = some text) : ∃ e ∈ ds, e.text = text := by
  rcases of_get?_stage h with ⟨e, he, -, htext⟩ | ⟨-, hne⟩
  · exact ⟨e, he, htext⟩
  · exact absurd rfl (hne d hd)

/-- If no two wait at one key, each text is where it waits. -/
theorem get?_stage_waiting (files : Table String) (hnodup : (ds.map waiting).Nodup)
    (hd : d ∈ ds) : (stage files ds).get? d.waiting = some d.text := by
  obtain ⟨text, htext⟩ := contains_stage files hd
  rcases of_get?_stage htext with ⟨e, he, hkey, rfl⟩ | ⟨-, hne⟩
  · rw [htext, List.inj_on_of_nodup_map hnodup he hd hkey]
  · exact absurd rfl (hne d hd)

theorem get?_unstage : (unstage files ds).get? key =
    if key ∈ ds.map waiting then none else files.get? key := by
  induction ds generalizing files with
  | nil => rfl
  | cons d rest ih =>
      show (unstage (files.erase d.waiting) rest).get? key = _
      rw [ih, Table.get?_erase, List.map_cons]
      by_cases hrest : key ∈ rest.map waiting
      · rw [if_pos hrest, if_pos (List.mem_cons_of_mem _ hrest)]
      · rw [if_neg hrest]
        by_cases hkey : key = d.waiting
        · rw [if_pos hkey, if_pos (hkey ▸ List.mem_cons_self)]
        · rw [if_neg hkey, if_neg fun h => (List.mem_cons.mp h).elim hkey hrest]

/-- `unstage` leaves the keys where texts waited empty. -/
theorem get?_unstage_stage : (unstage (stage files ds) ds).get? key =
    if key ∈ ds.map waiting then none else files.get? key := by
  rw [get?_unstage]
  split
  · rfl
  · rename_i hkey
    exact get?_stage_of_ne fun d hd heq => hkey (List.mem_map.mpr ⟨d, hd, heq⟩)

/-! ### One move -/

theorem get?_move (source : String) : ((files.erase source).insert home text).get? key =
    if key = home then some text else if key = source then none else files.get? key := by
  rw [Table.get?_insert, Table.get?_erase]

theorem place_cons (htext : files.get? d.waiting = some text) (hhome : d.home? = some home) :
    place files (d :: rest) = place ((files.erase d.waiting).insert home text) rest := by
  rw [place, htext, hhome]

/-- `place` moves the first text, or nothing. -/
theorem place_cons_cases (files : Table String) (d : Delivery) (rest : List Delivery) :
    (∃ text home, files.get? d.waiting = some text ∧ d.home? = some home ∧
      place files (d :: rest) = place ((files.erase d.waiting).insert home text) rest) ∨
    ((files.get? d.waiting = none ∨ d.home? = none) ∧
      place files (d :: rest) = (false, files)) := by
  cases htext : files.get? d.waiting with
  | none => exact .inr ⟨.inl rfl, by rw [place, htext]⟩
  | some text =>
      cases hhome : d.home? with
      | none => exact .inr ⟨.inr rfl, by rw [place, htext, hhome]⟩
      | some home => exact .inl ⟨text, home, rfl, rfl, place_cons htext hhome⟩

theorem home?_of_place (h : (place files ds).1 = true) (hd : d ∈ ds) : d.home?.isSome = true := by
  induction ds generalizing files with
  | nil => exact absurd hd List.not_mem_nil
  | cons e rest ih =>
      rcases place_cons_cases files e rest with ⟨text, home, -, hhome, hplace⟩ | ⟨-, hplace⟩
      · rw [hplace] at h
        rcases List.mem_cons.mp hd with rfl | hd
        · rw [hhome]
          rfl
        · exact ih h hd
      · rw [hplace] at h
        cases h

/-! ### Moves that stop half-way -/

theorem mem_values_of_place (h : text ∈ (place files ds).2.values) : text ∈ files.values := by
  induction ds generalizing files with
  | nil => exact h
  | cons d rest ih =>
      rcases place_cons_cases files d rest with ⟨moved, home, hmoved, -, hplace⟩ | ⟨-, hplace⟩
      · rw [hplace] at h
        obtain ⟨key, hkey⟩ := Table.mem_values_iff.mp (ih h)
        rw [get?_move] at hkey
        split at hkey
        · cases hkey
          exact Table.mem_values_iff.mpr ⟨d.waiting, hmoved⟩
        · split at hkey
          · cases hkey
          · exact Table.mem_values_iff.mpr ⟨key, hkey⟩
      · rwa [hplace] at h

/-- If what waits is `fresh`, some fresh text is left however far the moves come. -/
theorem exists_fresh_place {fresh : String → Prop}
    (hwaiting : ∀ d ∈ ds, ∀ text, files.get? d.waiting = some text → fresh text)
    (h : ∃ text ∈ files.values, fresh text) : ∃ text ∈ (place files ds).2.values, fresh text := by
  induction ds generalizing files with
  | nil => exact h
  | cons d rest ih =>
      rcases place_cons_cases files d rest with ⟨moved, home, hmoved, -, hplace⟩ | ⟨-, hplace⟩
      · obtain ⟨hd, hrest⟩ := List.forall_mem_cons.mp hwaiting
        have hfresh : fresh moved := hd moved hmoved
        rw [hplace]
        refine ih (fun e he text htext => ?_)
          ⟨moved, Table.mem_values_iff.mpr ⟨home, by rw [get?_move, if_pos rfl]⟩, hfresh⟩
        rw [get?_move] at htext
        split at htext
        · exact Option.some.inj htext ▸ hfresh
        · split at htext
          · cases htext
          · exact hrest e he text htext
      · rw [hplace]
        exact h

/-! ### Moves that all succeed -/

/-- Deliveries that are `Apart` all arrive.  Where a text waited nothing is left, unless the key is
one where another text belongs, and at every other key the table is as before. -/
theorem place_of_apart (hapart : ds.Pairwise Apart) (hhome : ∀ d ∈ ds, d.home?.isSome = true)
    (hwaiting : ∀ d ∈ ds, files.get? d.waiting = some d.text) :
    (place files ds).1 = true ∧
    (∀ d ∈ ds, ∀ home, d.home? = some home → (place files ds).2.get? home = some d.text) ∧
    (∀ key, (∀ d ∈ ds, d.home? ≠ some key) → (place files ds).2.get? key =
      if key ∈ ds.map waiting then none else files.get? key) := by
  induction ds generalizing files with
  | nil => exact ⟨rfl, fun _ hd => absurd hd List.not_mem_nil, fun _ _ => rfl⟩
  | cons d rest ih =>
      obtain ⟨hdapart, hapart⟩ := List.pairwise_cons.mp hapart
      obtain ⟨hdhome, hhome⟩ := List.forall_mem_cons.mp hhome
      obtain ⟨hdwaiting, hwaiting⟩ := List.forall_mem_cons.mp hwaiting
      obtain ⟨home, hdhome⟩ := Option.isSome_iff_exists.mp hdhome
      have hne : ∀ e ∈ rest, e.waiting ≠ home ∧ e.waiting ≠ d.waiting ∧ e.home? ≠ some home := by
        intro e he
        obtain ⟨hwait, hhomes, hmeet⟩ := hdapart e he
        rw [hdhome] at hhomes hmeet
        exact ⟨fun heq => hmeet (heq ▸ rfl), hwait.symm, hhomes.symm⟩
      have hmoved : ∀ e ∈ rest,
          ((files.erase d.waiting).insert home d.text).get? e.waiting = some e.text := by
        intro e he
        rw [get?_move, if_neg (hne e he).1, if_neg (hne e he).2.1, hwaiting e he]
      rw [place_cons hdwaiting hdhome]
      obtain ⟨hplaced, harrived, hothers⟩ := ih hapart hhome hmoved
      refine ⟨hplaced, List.forall_mem_cons.mpr ⟨fun other hother => ?_, harrived⟩, ?_⟩
      · -- The first text arrives at once, and no later move touches its key.
        obtain rfl : home = other := Option.some.inj (hdhome.symm.trans hother)
        have hnowaiting : home ∉ rest.map waiting := fun h => by
          obtain ⟨e, he, heq⟩ := List.mem_map.mp h
          exact (hne e he).1 heq
        rw [hothers home fun e he => (hne e he).2.2, if_neg hnowaiting, get?_move, if_pos rfl]
      · intro key hkey
        obtain ⟨hdkey, hkey⟩ := List.forall_mem_cons.mp hkey
        have hkeyhome : key ≠ home := fun heq => hdkey (heq ▸ hdhome)
        rw [hothers key hkey, get?_move, if_neg hkeyhome, List.map_cons]
        by_cases hrest : key ∈ rest.map waiting
        · rw [if_pos hrest, if_pos (List.mem_cons_of_mem _ hrest)]
        · rw [if_neg hrest]
          by_cases hdwait : key = d.waiting
          · rw [if_pos hdwait, if_pos (hdwait ▸ List.mem_cons_self)]
          · rw [if_neg hdwait, if_neg fun h => (List.mem_cons.mp h).elim hdwait hrest]

/-- Deliveries that are `Apart` wait and arrive. -/
theorem place_stage_of_apart (files : Table String) (hapart : ds.Pairwise Apart)
    (hhome : ∀ d ∈ ds, d.home?.isSome = true) :
    (place (stage files ds) ds).1 = true ∧
    (∀ d ∈ ds, ∀ home, d.home? = some home →
      (place (stage files ds) ds).2.get? home = some d.text) ∧
    (∀ key, (∀ d ∈ ds, d.home? ≠ some key) → (place (stage files ds) ds).2.get? key =
      if key ∈ ds.map waiting then none else files.get? key) := by
  have hnodup : (ds.map waiting).Nodup := List.pairwise_map.mpr (hapart.imp And.left)
  obtain ⟨hplaced, harrived, hothers⟩ := place_of_apart hapart hhome
    fun d hd => get?_stage_waiting files hnodup hd
  refine ⟨hplaced, harrived, fun key hkey => ?_⟩
  rw [hothers key hkey]
  split
  · rfl
  · rename_i hmem
    exact get?_stage_of_ne fun d hd heq => hmem (List.mem_map.mpr ⟨d, hd, heq⟩)

/-! ### Texts that all arrive -/

theorem nodup_waiting_of_staged (htexts : (ds.map Delivery.text).Nodup)
    (hnew : ∀ d ∈ ds, d.text ∉ files.values)
    (hstaged : ∀ d ∈ ds, d.text ∈ (stage files ds).values) : (ds.map waiting).Nodup := by
  induction ds generalizing files with
  | nil => exact List.nodup_nil
  | cons d rest ih =>
      rw [List.map_cons, List.nodup_cons] at htexts
      obtain ⟨hdtext, htexts⟩ := htexts
      obtain ⟨hdnew, hnew⟩ := List.forall_mem_cons.mp hnew
      obtain ⟨hdstaged, hstaged⟩ := List.forall_mem_cons.mp hstaged
      have hother : ∀ e ∈ rest, d.text ≠ e.text := fun e he heq =>
        hdtext (List.mem_map.mpr ⟨e, he, heq.symm⟩)
      rw [List.map_cons, List.nodup_cons]
      constructor
      · intro hmem
        obtain ⟨e, he, heq⟩ := List.mem_map.mp hmem
        obtain ⟨key, hkey⟩ : ∃ key,
            (stage (files.insert d.waiting d.text) rest).get? key = some d.text :=
          Table.mem_values_iff.mp hdstaged
        rcases of_get?_stage hkey with ⟨e', he', -, htext⟩ | ⟨hget, hne⟩
        · exact hother e' he' htext.symm
        · rw [Table.get?_insert] at hget
          split at hget
          · rename_i hkeyd
            exact hne e he (heq.trans hkeyd.symm)
          · exact hdnew (Table.mem_values_iff.mpr ⟨key, hget⟩)
      · refine ih htexts (fun e he hmem => ?_) hstaged
        obtain ⟨key, hkey⟩ := Table.mem_values_iff.mp hmem
        rw [Table.get?_insert] at hkey
        split at hkey
        · exact hother e he (Option.some.inj hkey)
        · exact hnew e he (Table.mem_values_iff.mpr ⟨key, hkey⟩)

theorem home_ne_waiting_of_placed (htexts : (ds.map Delivery.text).Nodup)
    (hnodup : (ds.map waiting).Nodup) (hhome : ∀ d ∈ ds, d.home?.isSome = true)
    (hwaiting : ∀ d ∈ ds, ∀ key, files.get? key = some d.text ↔ key = d.waiting)
    (hplaced : ∀ d ∈ ds, d.text ∈ (place files ds).2.values) :
    ds.Pairwise fun d e => d.home? ≠ some e.waiting := by
  induction ds generalizing files with
  | nil => exact .nil
  | cons d rest ih =>
      rw [List.map_cons, List.nodup_cons] at htexts hnodup
      obtain ⟨hdtext, htexts⟩ := htexts
      obtain ⟨hdnodup, hnodup⟩ := hnodup
      obtain ⟨hdhome, hhome⟩ := List.forall_mem_cons.mp hhome
      obtain ⟨hdwaiting, hwaiting⟩ := List.forall_mem_cons.mp hwaiting
      obtain ⟨home, hdhome⟩ := Option.isSome_iff_exists.mp hdhome
      rw [place_cons ((hdwaiting d.waiting).mpr rfl) hdhome] at hplaced
      have hplaced := (List.forall_mem_cons.mp hplaced).2
      -- Where a later text stands after the first move, it stood before, but not at `home`.
      have hstands : ∀ e ∈ rest, ∀ key,
          ((files.erase d.waiting).insert home d.text).get? key = some e.text ↔
            key = e.waiting ∧ key ≠ home := by
        intro e he key
        have htext : d.text ≠ e.text := fun heq => hdtext (List.mem_map.mpr ⟨e, he, heq.symm⟩)
        have hwait : e.waiting ≠ d.waiting := fun heq => hdnodup (List.mem_map.mpr ⟨e, he, heq⟩)
        rw [get?_move]
        split
        · rename_i hkey
          exact ⟨fun h => absurd (Option.some.inj h) htext, fun h => absurd hkey h.2⟩
        · rename_i hkey
          split
          · rename_i hkeyd
            exact ⟨(nomatch ·), fun h => absurd (h.1.symm.trans hkeyd) hwait⟩
          · rw [hwaiting e he key]
            exact ⟨fun h => ⟨h, hkey⟩, fun h => h.1⟩
      have hne : ∀ e ∈ rest, home ≠ e.waiting := by
        intro e he heq
        obtain ⟨key, hkey⟩ := Table.mem_values_iff.mp (mem_values_of_place (hplaced e he))
        obtain ⟨hkeye, hkeyhome⟩ := (hstands e he key).mp hkey
        exact hkeyhome (hkeye.trans heq.symm)
      refine List.pairwise_cons.mpr ⟨fun e he heq => ?_, ih htexts hnodup hhome ?_ hplaced⟩
      · exact hne e he (Option.some.inj (hdhome.symm.trans heq))
      · intro e he key
        rw [hstands e he key]
        exact ⟨fun h => h.1, fun h => ⟨h, fun hkey => hne e he (hkey.symm.trans h)⟩⟩

/-- Different new texts that all arrive are `Apart`. -/
theorem apart_of_arrived (files : Table String) (htexts : (ds.map Delivery.text).Nodup)
    (hnew : ∀ d ∈ ds, d.text ∉ files.values)
    (harrived : ∀ d ∈ ds, ∃ home, d.home? = some home ∧
      (place (stage files ds) ds).2.get? home = some d.text) : ds.Pairwise Apart := by
  have hplaced : ∀ d ∈ ds, d.text ∈ (place (stage files ds) ds).2.values := by
    intro d hd
    obtain ⟨home, -, hget⟩ := harrived d hd
    exact Table.mem_values_iff.mpr ⟨home, hget⟩
  have hnodup : (ds.map waiting).Nodup :=
    nodup_waiting_of_staged htexts hnew fun d hd => mem_values_of_place (hplaced d hd)
  have hwaiting : ∀ d ∈ ds, ∀ key, (stage files ds).get? key = some d.text ↔ key = d.waiting := by
    intro d hd key
    constructor
    · intro h
      rcases of_get?_stage h with ⟨e, he, rfl, htext⟩ | ⟨hget, -⟩
      · rw [List.inj_on_of_nodup_map htexts he hd htext]
      · exact absurd (Table.mem_values_iff.mpr ⟨key, hget⟩) (hnew d hd)
    · rintro rfl
      exact get?_stage_waiting files hnodup hd
  have hmeet : ds.Pairwise fun d e => d.home? ≠ some e.waiting := by
    refine home_ne_waiting_of_placed htexts hnodup (fun d hd => ?_) hwaiting hplaced
    obtain ⟨home, hhome, -⟩ := harrived d hd
    rw [hhome]
    rfl
  have hhomes : ds.Pairwise fun d e => d.home? ≠ e.home? := by
    refine (List.pairwise_map.mp htexts).imp_of_mem fun hd he htext heq => htext ?_
    obtain ⟨home, hhome, hget⟩ := harrived _ hd
    obtain ⟨other, hother, hget'⟩ := harrived _ he
    obtain rfl : home = other := Option.some.inj (hhome.symm.trans (heq.trans hother))
    exact Option.some.inj (hget.symm.trans hget')
  exact (List.pairwise_map.mp hnodup).and (hhomes.and hmeet)

end Delivery

end QueryBindings

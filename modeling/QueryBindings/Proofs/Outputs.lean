import Mathlib.Data.Fintype.EquivFin
import QueryBindings.Disk
import QueryBindings.Proofs.Deliveries
import QueryBindings.Proofs.Disk.Slots

/-! # All or nothing

Writing files together on a tree in memory.  A file that cannot be written where it waits undoes
everything, and nothing else does: once all texts wait, the first move that fails leaves the tree
half-changed.  So whether the writing is all or nothing hangs on the slots of the paths alone
(`Orderly`): either one path has no slot to wait in and the earlier ones wait where no file stood,
or every path has both its slots, the slots do not meet, and no file is in the way.

Main statements: `outcome_refused`, `outcome_staged` (a run as deliveries between slots) and
`allOrNothing_iff_orderly`. -/

namespace QueryBindings.OutputFile

open Disk (Path)

/-- The path beside a target where its text waits. -/
def stagingOf (p : Path) : Path := stagingPath ⟨p, ""⟩

/-- How `writeAll` on the tree `t` ends, and the tree that it leaves. -/
def outcome (t : FileTree) (files : List OutputFile) : Except FileFault Unit × FileTree :=
  writeAll FileTree.disk files t

/-- Every path holds its text, and nothing else has changed. -/
structure Written (t : FileTree) (files : List OutputFile) (after : FileTree) : Prop where
  texts : ∀ f ∈ files, after.read f.path = .ok f.text
  folders : after.folders = t.folders
  others : ∀ key, (∀ f ∈ files, t.slot? f.path ≠ some key) →
    after.files.get? key = t.files.get? key

/-- Either all files are `Written`, or the tree stays as it is. -/
structure AllOrNothing (t : FileTree) (files : List OutputFile) : Prop where
  all : (outcome t files).1 = .ok () → Written t files (outcome t files).2
  nothing : (outcome t files).1 ≠ .ok () → (outcome t files).2 = t

/-- The slots of `p` and of a later path `q` do not meet: they wait in different slots and belong in
different ones, and `p` does not belong where `q` still waits. -/
def Apart (t : FileTree) (p q : Path) : Prop :=
  t.slot? (stagingOf p) ≠ t.slot? (stagingOf q) ∧ t.slot? p ≠ t.slot? q ∧
    t.slot? p ≠ t.slot? (stagingOf q)

instance (t : FileTree) (p q : Path) : Decidable (Apart t p q) :=
  inferInstanceAs (Decidable (_ ∧ _ ∧ _))

/-- The paths for which writing is all or nothing. -/
inductive Orderly (t : FileTree) : List Path → Prop
  /-- A path has no slot to wait in, and the ones before it wait where no file stands. -/
  | refused {before : List Path} {p : Path} {after : List Path}
    (refused : t.slot? (stagingOf p) = none)
    (free : ∀ q ∈ before, ∃ key, t.slot? (stagingOf q) = some key ∧ t.files.get? key = none) :
    Orderly t (before ++ p :: after)
  /-- All paths have their two slots, these do not meet, and where a path waits no file stands but
  one that is written as well. -/
  | placed {paths : List Path}
    (slots : ∀ p ∈ paths, (t.slot? (stagingOf p)).isSome = true ∧ (t.slot? p).isSome = true)
    (apart : paths.Pairwise (Apart t))
    (free : ∀ p ∈ paths, ∀ key, t.slot? (stagingOf p) = some key →
      t.files.get? key = none ∨ ∃ q ∈ paths, t.slot? q = some key) :
    Orderly t paths

/-- A file on its way between slots. -/
def delivery (t : FileTree) (f : OutputFile) : Delivery :=
  ⟨(t.slot? f.stagingPath).getD "", t.slot? f.path, f.text⟩

/-! ### Steps on a tree -/

theorem name?_stagingPath (f : OutputFile) : f.stagingPath.name?.isNone = false := by
  have hname : ∀ name : String, "." ++ name ++ ".tmp" ≠ ".." := by
    intro name h
    have hlength := congrArg String.length h
    rw [String.length_append, String.length_append] at hlength
    have htmp : ".tmp".length = 4 := rfl
    have hdots : "..".length = 2 := rfl
    omega
  unfold stagingPath Path.withName
  show (Option.filter _ (List.getLast? _)).isNone = false
  rw [List.getLast?_concat]
  simp [hname]

variable {t : FileTree} {files : Table String} {f : OutputFile} {key text : String}

theorem bind_apply {α β : Type} (x : StateM FileTree α) (g : α → StateM FileTree β)
    (t : FileTree) : (x >>= g) t = g (x t).1 (x t).2 := rfl

theorem removeAll_cons {p : Path} (h : t.slot? p = some key) (rest : List Path) :
    removeAll FileTree.disk (p :: rest) t =
      removeAll FileTree.disk rest (t.withFiles (t.files.erase key)) := by
  rw [removeAll, bind_apply, FileTree.disk_remove_of_slot h]

theorem stageAll_cons {staged : List Path} {rest : List OutputFile}
    (h : t.slot? f.stagingPath = some key) : stageAll FileTree.disk staged (f :: rest) t =
      stageAll FileTree.disk (staged ++ [f.stagingPath]) rest
        (t.withFiles (t.files.insert key f.text)) := by
  rw [stageAll, bind_apply, FileTree.disk_write_of_slot h]

theorem stageAll_cons_refused (staged : List Path) (rest : List OutputFile)
    (h : t.slot? f.stagingPath = none) : ∃ fault, stageAll FileTree.disk staged (f :: rest) t =
      (.error fault, (removeAll FileTree.disk staged t).2) := by
  obtain ⟨fault, hfault⟩ := FileTree.disk_write_of_no_slot (name?_stagingPath f) h f.text
  refine ⟨fault, ?_⟩
  rw [stageAll, bind_apply, hfault]
  rfl

theorem placeAll_cons {home : String} {rest : List OutputFile}
    (h : t.slot? f.stagingPath = some key) (hhome : t.slot? f.path = some home)
    (htext : t.files.get? key = some text) : placeAll FileTree.disk (f :: rest) t =
      placeAll FileTree.disk rest (t.withFiles ((t.files.erase key).insert home text)) := by
  rw [placeAll, bind_apply, FileTree.disk_rename_of_slots h hhome htext]

theorem placeAll_cons_refused (rest : List OutputFile) (h : t.slot? f.stagingPath = some key)
    (hnone : t.files.get? key = none ∨ t.slot? f.path = none) :
    ∃ fault, placeAll FileTree.disk (f :: rest) t = (.error fault, t) := by
  obtain ⟨fault, hfault⟩ := FileTree.disk_rename_of_none h hnone
  refine ⟨fault, ?_⟩
  rw [placeAll, bind_apply, hfault]
  rfl

/-! ### Runs as deliveries -/

theorem delivery_waiting (h : t.slot? f.stagingPath = some key) :
    (delivery t f).waiting = key := by
  show (t.slot? f.stagingPath).getD "" = key
  rw [h]
  rfl

theorem removeAll_eq (ht : t.Sound) {done : List OutputFile}
    (hslots : ∀ f ∈ done, (t.slot? f.stagingPath).isSome = true)
    (hfiles : (t.withFiles files).Sound) :
    (removeAll FileTree.disk (done.map stagingPath) (t.withFiles files)).2 =
      t.withFiles (Delivery.unstage files (done.map (delivery t))) := by
  induction done generalizing files with
  | nil => rfl
  | cons f done ih =>
      obtain ⟨hf, hslots⟩ := List.forall_mem_cons.mp hslots
      obtain ⟨key, hkey⟩ := Option.isSome_iff_exists.mp hf
      have hunstage : Delivery.unstage files ((f :: done).map (delivery t)) =
          Delivery.unstage (files.erase key) (done.map (delivery t)) := by
        show Delivery.unstage (files.erase (delivery t f).waiting) _ = _
        rw [delivery_waiting hkey]
      rw [hunstage, ← ih hslots (FileTree.sound_erase hfiles key), List.map_cons,
        removeAll_cons ((FileTree.slot?_withFiles hfiles ht _).trans hkey)]
      rfl

/-- Where all have slots to wait in, `stageAll` writes all, and the tree stays `Sound`. -/
theorem stageAll_append (ht : t.Sound) (staged : List Path) {before : List OutputFile}
    (rest : List OutputFile) (hslots : ∀ f ∈ before, (t.slot? f.stagingPath).isSome = true)
    (hfiles : (t.withFiles files).Sound) :
    stageAll FileTree.disk staged (before ++ rest) (t.withFiles files) =
      stageAll FileTree.disk (staged ++ before.map stagingPath) rest
        (t.withFiles (Delivery.stage files (before.map (delivery t)))) ∧
      (t.withFiles (Delivery.stage files (before.map (delivery t)))).Sound := by
  induction before generalizing files staged with
  | nil =>
      rw [List.map_nil, List.append_nil]
      exact ⟨rfl, hfiles⟩
  | cons f before ih =>
      obtain ⟨hf, hslots⟩ := List.forall_mem_cons.mp hslots
      obtain ⟨key, hkey⟩ := Option.isSome_iff_exists.mp hf
      have hstage : Delivery.stage files ((f :: before).map (delivery t)) =
          Delivery.stage (files.insert key f.text) (before.map (delivery t)) := by
        show Delivery.stage (files.insert (delivery t f).waiting f.text) _ = _
        rw [delivery_waiting hkey]
      rw [hstage, List.cons_append, List.map_cons,
        List.append_cons staged f.stagingPath (before.map stagingPath),
        stageAll_cons ((FileTree.slot?_withFiles hfiles ht _).trans hkey)]
      exact ih _ hslots (FileTree.sound_insert hfiles ht hkey f.text)

/-- `placeAll` on the tree is `Delivery.place` between the slots, and the tree stays `Sound`. -/
theorem placeAll_eq (ht : t.Sound) {fs : List OutputFile}
    (hslots : ∀ f ∈ fs, (t.slot? f.stagingPath).isSome = true)
    (hfiles : (t.withFiles files).Sound) :
    ∃ ending, placeAll FileTree.disk fs (t.withFiles files) =
        (ending, t.withFiles (Delivery.place files (fs.map (delivery t))).2) ∧
      (ending = .ok () ↔ (Delivery.place files (fs.map (delivery t))).1 = true) ∧
      (t.withFiles (Delivery.place files (fs.map (delivery t))).2).Sound := by
  induction fs generalizing files with
  | nil => exact ⟨.ok (), rfl, ⟨fun _ => rfl, fun _ => rfl⟩, hfiles⟩
  | cons f fs ih =>
      obtain ⟨hf, hslots⟩ := List.forall_mem_cons.mp hslots
      obtain ⟨key, hkey⟩ := Option.isSome_iff_exists.mp hf
      have hnow := (FileTree.slot?_withFiles hfiles ht f.stagingPath).trans hkey
      have hhome := FileTree.slot?_withFiles hfiles ht f.path
      have hwaiting := delivery_waiting hkey
      rw [List.map_cons]
      rcases Delivery.place_cons_cases files (delivery t f) (fs.map (delivery t)) with
        ⟨text, home, htext, hslot, hplace⟩ | ⟨hnone, hplace⟩
      · rw [hwaiting] at htext hplace
        have hsound := FileTree.sound_insert (FileTree.sound_erase hfiles key) ht hslot text
        rw [hplace, placeAll_cons hnow (hhome.trans hslot) htext]
        exact ih hslots hsound
      · rw [hwaiting] at hnone
        obtain ⟨fault, hfault⟩ := placeAll_cons_refused fs hnow (hnone.imp_right hhome.trans)
        rw [hplace, hfault]
        exact ⟨.error fault, rfl, ⟨(nomatch ·), (nomatch ·)⟩, hfiles⟩

/-- The moves of `placeAll` follow when all texts wait. -/
theorem outcome_eq (t : FileTree) (fs : List OutputFile) : outcome t fs =
    match stageAll FileTree.disk [] fs t with
    | (.error fault, after) => (.error fault, after)
    | (.ok (), after) => placeAll FileTree.disk fs after := by
  rw [outcome, writeAll, bind_apply]
  obtain ⟨ending, after⟩ := stageAll FileTree.disk [] fs t
  cases ending <;> rfl

/-- If a path has no slot to wait in, what waited before it is taken away again. -/
theorem outcome_refused (ht : t.Sound) {before : List OutputFile} (after : List OutputFile)
    (hslots : ∀ f ∈ before, (t.slot? f.stagingPath).isSome = true)
    (hrefused : t.slot? f.stagingPath = none) :
    ∃ fault, outcome t (before ++ f :: after) = (.error fault,
      t.withFiles (Delivery.unstage (Delivery.stage t.files (before.map (delivery t)))
        (before.map (delivery t)))) := by
  obtain ⟨hstage, hsound⟩ := stageAll_append ht [] (f :: after) hslots ht
  obtain ⟨fault, hfault⟩ := stageAll_cons_refused (before.map stagingPath) after
    ((FileTree.slot?_withFiles hsound ht _).trans hrefused)
  rw [List.nil_append, hfault, removeAll_eq ht hslots hsound, FileTree.withFiles_self] at hstage
  exact ⟨fault, by rw [outcome_eq, hstage]⟩

/-- What the texts make of the files if each has a slot to wait in: all wait, and `Delivery.place`
moves them. -/
def delivered (t : FileTree) (fs : List OutputFile) : Bool × Table String :=
  Delivery.place (Delivery.stage t.files (fs.map (delivery t))) (fs.map (delivery t))

theorem outcome_staged (ht : t.Sound) {fs : List OutputFile}
    (hslots : ∀ f ∈ fs, (t.slot? f.stagingPath).isSome = true) :
    ∃ ending, outcome t fs = (ending, t.withFiles (delivered t fs).2) ∧
      (ending = .ok () ↔ (delivered t fs).1 = true) ∧
      (t.withFiles (delivered t fs).2).Sound := by
  obtain ⟨hstage, hsound⟩ := stageAll_append ht [] [] hslots ht
  rw [List.append_nil, FileTree.withFiles_self] at hstage
  obtain ⟨ending, hplace, hending⟩ := placeAll_eq ht hslots hsound
  exact ⟨ending, by rw [outcome_eq, hstage]; exact hplace, hending⟩

/-! ### Orderly paths -/

theorem apart_delivery_iff {f g : OutputFile} (hf : (t.slot? f.stagingPath).isSome = true)
    (hg : (t.slot? g.stagingPath).isSome = true) :
    (delivery t f).Apart (delivery t g) ↔ Apart t f.path g.path := by
  obtain ⟨key, hkey⟩ := Option.isSome_iff_exists.mp hf
  obtain ⟨other, hother⟩ := Option.isSome_iff_exists.mp hg
  unfold Delivery.Apart Apart
  rw [delivery_waiting hkey, delivery_waiting hother]
  show _ ↔ t.slot? f.stagingPath ≠ t.slot? g.stagingPath ∧ _ ∧
    t.slot? f.path ≠ t.slot? g.stagingPath
  rw [hkey, hother, ne_eq (some key), Option.some.injEq]
  rfl

theorem mem_map_waiting_iff {fs : List OutputFile}
    (hslots : ∀ f ∈ fs, (t.slot? f.stagingPath).isSome = true) :
    key ∈ (fs.map (delivery t)).map Delivery.waiting ↔
      ∃ f ∈ fs, t.slot? f.stagingPath = some key := by
  rw [List.map_map, List.mem_map]
  refine exists_congr fun f => and_congr_right fun hf => ?_
  obtain ⟨own, hown⟩ := Option.isSome_iff_exists.mp (hslots f hf)
  rw [Function.comp_apply, delivery_waiting hown, hown, Option.some.injEq]

/-- Texts that had waited where no file stood leave no trace. -/
theorem allOrNothing_of_refused (ht : t.Sound) {before after : List OutputFile}
    (hrefused : t.slot? f.stagingPath = none)
    (hfree : ∀ g ∈ before, ∃ key, t.slot? g.stagingPath = some key ∧ t.files.get? key = none) :
    AllOrNothing t (before ++ f :: after) := by
  have hslots : ∀ g ∈ before, (t.slot? g.stagingPath).isSome = true := by
    intro g hg
    obtain ⟨key, hkey, -⟩ := hfree g hg
    rw [hkey]
    rfl
  have hself : Delivery.unstage (Delivery.stage t.files (before.map (delivery t)))
      (before.map (delivery t)) = t.files := by
    refine Table.ext fun key => ?_
    rw [Delivery.get?_unstage_stage]
    split
    · rename_i hmem
      obtain ⟨g, hg, hkey⟩ := (mem_map_waiting_iff hslots).mp hmem
      obtain ⟨own, hown, hnone⟩ := hfree g hg
      rw [← hnone, Option.some.inj (hkey.symm.trans hown)]
    · rfl
  obtain ⟨fault, houtcome⟩ := outcome_refused ht after hslots hrefused
  rw [hself] at houtcome
  constructor
  · rw [houtcome]
    exact (nomatch ·)
  · rw [houtcome]
    exact fun _ => rfl

theorem allOrNothing_of_placed (ht : t.Sound) {fs : List OutputFile}
    (hslots : ∀ f ∈ fs, (t.slot? f.stagingPath).isSome = true ∧ (t.slot? f.path).isSome = true)
    (hapart : fs.Pairwise fun f g => Apart t f.path g.path)
    (hfree : ∀ f ∈ fs, ∀ key, t.slot? f.stagingPath = some key →
      t.files.get? key = none ∨ ∃ g ∈ fs, t.slot? g.path = some key) : AllOrNothing t fs := by
  have hstaging : ∀ f ∈ fs, (t.slot? f.stagingPath).isSome = true := fun f hf => (hslots f hf).1
  have hdeliveries : (fs.map (delivery t)).Pairwise Delivery.Apart :=
    List.pairwise_map.mpr (hapart.imp_of_mem fun hf hg h =>
      (apart_delivery_iff (hstaging _ hf) (hstaging _ hg)).mpr h)
  obtain ⟨hplaced, harrived, hothers⟩ := Delivery.place_stage_of_apart t.files
    hdeliveries (List.forall_mem_map.mpr fun f hf => (hslots f hf).2)
  obtain ⟨ending, houtcome, hending, hsound⟩ := outcome_staged ht hstaging
  have hok : ending = .ok () := hending.mpr hplaced
  rw [hok] at houtcome
  constructor
  · intro _
    rw [houtcome]
    refine ⟨fun f hf => ?_, rfl, fun key hkey => ?_⟩
    · obtain ⟨home, hhome⟩ := Option.isSome_iff_exists.mp (hslots f hf).2
      rw [FileTree.read_eq_ok_iff ((FileTree.slot?_withFiles hsound ht f.path).trans hhome)]
      exact harrived _ (List.mem_map_of_mem hf) home hhome
    · show (delivered t fs).2.get? key = t.files.get? key
      rw [delivered, hothers key (List.forall_mem_map.mpr hkey)]
      split
      · rename_i hmem
        obtain ⟨f, hf, hwaiting⟩ := (mem_map_waiting_iff hstaging).mp hmem
        rcases hfree f hf key hwaiting with hnone | ⟨g, hg, hhome⟩
        · exact hnone.symm
        · exact absurd hhome (hkey g hg)
      · rfl
  · rw [houtcome]
    exact fun h => absurd rfl h

/-! ### Nothing less will do -/

/-- There are always texts that are different from each other and from all others. -/
theorem exists_new_texts (taken : List String) (paths : List Path) :
    ∃ fs : List OutputFile, fs.map path = paths ∧ (fs.map OutputFile.text).Nodup ∧
      ∀ f ∈ fs, f.text ∉ taken := by
  induction paths with
  | nil => exact ⟨[], rfl, List.nodup_nil, fun _ hf => absurd hf List.not_mem_nil⟩
  | cons p paths ih =>
      obtain ⟨fs, hpaths, htexts, hnew⟩ := ih
      obtain ⟨text, htext⟩ :=
        Infinite.exists_notMem_finset (taken ++ fs.map OutputFile.text).toFinset
      rw [List.mem_toFinset, List.mem_append, not_or] at htext
      exact ⟨⟨p, text⟩ :: fs, by rw [List.map_cons, hpaths], List.nodup_cons.mpr ⟨htext.2, htexts⟩,
        List.forall_mem_cons.mpr ⟨htext.1, hnew⟩⟩

/-- A move that fails after new texts have waited leaves one of them. -/
theorem delivered_ne {fs : List OutputFile} (hnew : ∀ f ∈ fs, f.text ∉ t.files.values)
    (hfailed : (delivered t fs).1 = false) : (delivered t fs).2 ≠ t.files := by
  intro hsame
  have hstaged : ∀ d ∈ fs.map (delivery t), ∀ text,
      (Delivery.stage t.files (fs.map (delivery t))).get? d.waiting = some text →
      text ∉ t.files.values := by
    intro d hd text htext
    obtain ⟨e, he, rfl⟩ := Delivery.exists_text_of_get?_stage hd htext
    obtain ⟨f, hf, rfl⟩ := List.mem_map.mp he
    exact hnew f hf
  obtain ⟨f, hf⟩ : ∃ f, f ∈ fs := by
    refine List.exists_mem_of_ne_nil fs fun hnil => ?_
    rw [hnil] at hfailed
    cases hfailed
  obtain ⟨text, htext⟩ := Delivery.contains_stage t.files
    (List.mem_map_of_mem (f := delivery t) hf)
  obtain ⟨left, hleft, hfresh⟩ := Delivery.exists_fresh_place hstaged
    ⟨text, Table.mem_values_iff.mpr ⟨_, htext⟩, hstaged _ (List.mem_map_of_mem hf) text htext⟩
  exact hfresh (hsame ▸ hleft)

theorem free_of_refused (ht : t.Sound) {before after : List OutputFile}
    (hslots : ∀ g ∈ before, (t.slot? g.stagingPath).isSome = true)
    (hrefused : t.slot? f.stagingPath = none) (h : AllOrNothing t (before ++ f :: after)) :
    ∀ g ∈ before, ∃ key, t.slot? g.stagingPath = some key ∧ t.files.get? key = none := by
  obtain ⟨fault, houtcome⟩ := outcome_refused ht after hslots hrefused
  have hsame := h.nothing (by rw [houtcome]; exact (nomatch ·))
  rw [houtcome] at hsame
  intro g hg
  obtain ⟨key, hkey⟩ := Option.isSome_iff_exists.mp (hslots g hg)
  refine ⟨key, hkey, ?_⟩
  rw [← congrArg FileTree.files hsame, FileTree.withFiles_files, Delivery.get?_unstage_stage,
    if_pos ((mem_map_waiting_iff hslots).mpr ⟨g, hg, hkey⟩)]

theorem written_of_staged (ht : t.Sound) {fs : List OutputFile}
    (hslots : ∀ f ∈ fs, (t.slot? f.stagingPath).isSome = true)
    (hnew : ∀ f ∈ fs, f.text ∉ t.files.values) (h : AllOrNothing t fs) :
    (delivered t fs).1 = true ∧ (t.withFiles (delivered t fs).2).Sound ∧
      Written t fs (t.withFiles (delivered t fs).2) := by
  obtain ⟨ending, houtcome, hending, hsound⟩ := outcome_staged ht hslots
  have hplaced : (delivered t fs).1 = true := by
    by_contra hfailed
    have hsame := h.nothing (by rw [houtcome]; exact fun hok => hfailed (hending.mp hok))
    rw [houtcome] at hsame
    exact delivered_ne hnew (Bool.eq_false_iff.mpr hfailed) (congrArg FileTree.files hsame)
  have hwritten := h.all (by rw [houtcome]; exact hending.mpr hplaced)
  rw [houtcome] at hwritten
  exact ⟨hplaced, hsound, hwritten⟩

/-- If new and different texts are all written, their paths are `Orderly`. -/
theorem orderly_of_written (ht : t.Sound) {fs : List OutputFile}
    (hslots : ∀ f ∈ fs, (t.slot? f.stagingPath).isSome = true)
    (htexts : (fs.map OutputFile.text).Nodup) (hnew : ∀ f ∈ fs, f.text ∉ t.files.values)
    (hplaced : (delivered t fs).1 = true) (hsound : (t.withFiles (delivered t fs).2).Sound)
    (hwritten : Written t fs (t.withFiles (delivered t fs).2)) : Orderly t (fs.map path) := by
  have hhomes : ∀ f ∈ fs, (t.slot? f.path).isSome = true := fun f hf =>
    Delivery.home?_of_place hplaced (List.mem_map_of_mem hf)
  have hdeliveries : (fs.map (delivery t)).Pairwise Delivery.Apart := by
    refine Delivery.apart_of_arrived t.files (by rwa [List.map_map])
      (List.forall_mem_map.mpr hnew) (List.forall_mem_map.mpr fun f hf => ?_)
    obtain ⟨home, hhome⟩ := Option.isSome_iff_exists.mp (hhomes f hf)
    have hslot := (FileTree.slot?_withFiles hsound ht f.path).trans hhome
    exact ⟨home, hhome, (FileTree.read_eq_ok_iff hslot).mp (hwritten.texts f hf)⟩
  obtain ⟨-, -, hothers⟩ := Delivery.place_stage_of_apart t.files hdeliveries
    (List.forall_mem_map.mpr hhomes)
  refine .placed (List.forall_mem_map.mpr fun f hf => ⟨hslots f hf, hhomes f hf⟩) ?_ ?_
  · exact List.pairwise_map.mpr ((List.pairwise_map.mp hdeliveries).imp_of_mem
      fun hf hg happart => (apart_delivery_iff (hslots _ hf) (hslots _ hg)).mp happart)
  · refine List.forall_mem_map.mpr fun f hf key hkey => ?_
    by_cases htarget : ∃ g ∈ fs, t.slot? g.path = some key
    · obtain ⟨g, hg, hhome⟩ := htarget
      exact .inr ⟨g.path, List.mem_map_of_mem hg, hhome⟩
    · -- Where no text belongs nothing may change, and what waited there is gone.
      have hno : ∀ g ∈ fs, t.slot? g.path ≠ some key := fun g hg heq => htarget ⟨g, hg, heq⟩
      left
      rw [← hwritten.others key hno]
      show (delivered t fs).2.get? key = none
      rw [delivered, hothers key (List.forall_mem_map.mpr hno),
        if_pos ((mem_map_waiting_iff hslots).mpr ⟨f, hf, hkey⟩)]

/-- If writing new and different texts is all or nothing, their paths are `Orderly`. -/
theorem orderly_of_allOrNothing (ht : t.Sound) {fs : List OutputFile}
    (htexts : (fs.map OutputFile.text).Nodup) (hnew : ∀ f ∈ fs, f.text ∉ t.files.values)
    (h : AllOrNothing t fs) : Orderly t (fs.map path) := by
  cases hfind : fs.find? fun f => (t.slot? f.stagingPath).isNone with
  | some f =>
      obtain ⟨hnone, before, after, rfl, hbefore⟩ := List.find?_eq_some_iff_append.mp hfind
      have hrefused := Option.isNone_iff_eq_none.mp hnone
      have hslots : ∀ g ∈ before, (t.slot? g.stagingPath).isSome = true := by
        intro g hg
        simpa using hbefore g hg
      rw [List.map_append, List.map_cons]
      exact .refused hrefused (List.forall_mem_map.mpr (free_of_refused ht hslots hrefused h))
  | none =>
      have hslots : ∀ f ∈ fs, (t.slot? f.stagingPath).isSome = true := by
        intro f hf
        exact Option.isSome_iff_ne_none.mpr (by simpa using List.find?_eq_none.mp hfind f hf)
      obtain ⟨hplaced, hsound, hwritten⟩ := written_of_staged ht hslots hnew h
      exact orderly_of_written ht hslots htexts hnew hplaced hsound hwritten

/-! ### Exactly when -/

/-- Writing files together is `AllOrNothing`, whatever their texts, exactly when their paths are
`Orderly`. -/
theorem allOrNothing_iff_orderly (ht : t.Sound) (paths : List Path) :
    (∀ files : List OutputFile, files.map path = paths → AllOrNothing t files) ↔
      Orderly t paths := by
  constructor
  · intro h
    obtain ⟨fs, hpaths, htexts, hnew⟩ := exists_new_texts t.files.values paths
    exact hpaths ▸ orderly_of_allOrNothing ht htexts hnew (h fs hpaths)
  · intro h fs hpaths
    cases h with
    | refused hrefused hfree =>
        obtain ⟨first, rest, rfl, rfl, hrest⟩ := List.map_eq_append_iff.mp hpaths
        obtain ⟨f, last, rfl, rfl, -⟩ := List.map_eq_cons_iff.mp hrest
        exact allOrNothing_of_refused ht hrefused fun g hg =>
          hfree g.path (List.mem_map_of_mem hg)
    | placed hslots hapart hfree =>
        subst hpaths
        refine allOrNothing_of_placed ht (List.forall_mem_map.mp hslots)
          (List.pairwise_map.mp hapart) fun f hf key hkey => ?_
        rcases hfree f.path (List.mem_map_of_mem hf) key hkey with hnone | ⟨q, hq, hhome⟩
        · exact .inl hnone
        · obtain ⟨g, hg, rfl⟩ := List.mem_map.mp hq
          exact .inr ⟨g, hg, hhome⟩

/-- `gen.rs` from an earlier run, and the folder `sub`. -/
def earlierRun : FileTree := .ofFiles [("gen.rs", "old"), ("sub/notes", "keep")]

/-- A new `gen.rs` in place of the old one, and a schema in `sub`. -/
theorem allOrNothing_earlierRun : earlierRun.Sound ∧
    AllOrNothing earlierRun [⟨.ofText "gen.rs", "new"⟩, ⟨.ofText "sub/s.graphql", "type T"⟩] := by
  have hsound : earlierRun.Sound := by decide +kernel
  have horderly : Orderly earlierRun [.ofText "gen.rs", .ofText "sub/s.graphql"] := by
    refine .placed (by decide +kernel) (by decide +kernel) fun p hp key hkey => .inl ?_
    have hfree : ∀ p ∈ [Path.ofText "gen.rs", .ofText "sub/s.graphql"],
        (earlierRun.slot? (stagingOf p)).all (!earlierRun.files.contains ·) = true := by
      decide +kernel
    have hkeyfree := hfree p hp
    rw [hkey] at hkeyfree
    simpa [Table.contains] using hkeyfree
  exact ⟨hsound, (allOrNothing_iff_orderly hsound _).mpr horderly _ rfl⟩

/-- A folder is in the way of the second text; one path is given twice; the second path is where the
first text waits. -/
theorem not_allOrNothing_earlierRun :
    ¬ AllOrNothing earlierRun [⟨.ofText "gen.rs", "new"⟩, ⟨.ofText "sub", "type T"⟩] ∧
    ¬ AllOrNothing earlierRun [⟨.ofText "gen.rs", "new"⟩, ⟨.ofText "gen.rs", "type T"⟩] ∧
    ¬ AllOrNothing earlierRun [⟨.ofText ".gen.rs.tmp", "new"⟩, ⟨.ofText "gen.rs", "type T"⟩] := by
  refine ⟨fun h => ?_, fun h => ?_, fun h => ?_⟩
  · exact absurd (h.nothing (by decide +kernel)) (by decide +kernel)
  · exact absurd (h.nothing (by decide +kernel)) (by decide +kernel)
  · have hwritten := h.all (by decide +kernel)
    exact absurd (hwritten.texts _ List.mem_cons_self) (by decide +kernel)

end QueryBindings.OutputFile

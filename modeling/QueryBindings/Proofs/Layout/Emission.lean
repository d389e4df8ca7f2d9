import Mathlib.Logic.Relation
import QueryBindings.Layout
import QueryBindings.Options
import QueryBindings.Proofs.Grammar.LiteralLexing

/-! # Tokens of laid out text

Text has an `Effect` on the tokens of what follows it, such as putting tokens in front of them.  A
pen has written text of some effect (`Pen.Wrote`); whether anything may follow or only what stops a
name is the `Seam` at the end of the text.  `Acts` says that pieces have an effect on what follows,
from one seam to another, so that the effect of a list of pieces is put together from those of its
parts; `Emits` says that the pieces add certain tokens.

Main statement: `lex_layout` (a layout has the tokens that its pieces emit). -/

namespace QueryBindings

open Grammar

/-- What may follow a written text: at a `firm` seam anything, at a `loose` one a character that no
name or number holds. -/
inductive Seam where
  | firm
  | loose

/-- What text does: which tokens it may make of those behind it. -/
abbrev Effect := List Token → List Token → Prop

namespace Effect

/-- The tokens `ts` are put in front. -/
def adds (ts : List Token) : Effect := fun behind all => all = ts ++ behind

/-- The text `cs` has the effect `e` whatever follows. -/
def Holds (e : Effect) (cs : List Char) : Prop := ∀ rest, e (lex rest) (lex (cs ++ rest))

/-- The text `cs` has the effect `e` on anything that `stops` it. -/
def HoldsAtStop (e : Effect) (cs : List Char) : Prop :=
  ∀ rest, stops rest = true → e (lex rest) (lex (cs ++ rest))

variable {e f : Effect} {a b : List Char}

theorem Holds.atStop (h : e.Holds a) : e.HoldsAtStop a := fun rest _ => h rest

theorem Holds.append (ha : e.Holds a) (hb : f.Holds b) : Holds (Relation.Comp f e) (a ++ b) := by
  intro rest
  rw [List.append_assoc]
  exact ⟨_, hb rest, ha _⟩

theorem Holds.append_atStop (ha : e.Holds a) (hb : f.HoldsAtStop b) :
    HoldsAtStop (Relation.Comp f e) (a ++ b) := by
  intro rest hrest
  rw [List.append_assoc]
  exact ⟨_, hb rest hrest, ha _⟩

theorem HoldsAtStop.append (ha : e.HoldsAtStop a) (hb : f.Holds b)
    (hstop : ∀ rest, stops (b ++ rest) = true) : Holds (Relation.Comp f e) (a ++ b) := by
  intro rest
  rw [List.append_assoc]
  exact ⟨_, hb rest, ha _ (hstop rest)⟩

theorem Holds.append_silent (ha : e.Holds a) (hb : Closed b []) : e.Holds (a ++ b) := by
  intro rest
  rw [List.append_assoc]
  have hall := ha (b ++ rest)
  rw [hb rest] at hall
  exact hall

theorem HoldsAtStop.append_silent (ha : e.HoldsAtStop a) (hb : Closed b [])
    (hstop : ∀ rest, stops (b ++ rest) = true) : e.Holds (a ++ b) := by
  intro rest
  rw [List.append_assoc]
  have hall := ha (b ++ rest) (hstop rest)
  rw [hb rest] at hall
  exact hall

end Effect

namespace Pen

/-- The pen has written text of the effect `e`, and is at the seam `seam`. -/
structure Wrote (p : Pen) (seam : Seam) (e : Effect) : Prop where
  pad : isPad p.indent.toList = true
  lexed : e.HoldsAtStop p.text.toList
  closed_of_start : p.atLineStart = true → e.Holds p.text.toList
  closed_of_firm : seam = .firm → p.needsSpace = true ∨ e.Holds p.text.toList

theorem Wrote.weaken {p : Pen} {seam : Seam} {e : Effect} (h : p.Wrote seam e) :
    p.Wrote .loose e := { h with closed_of_firm := nofun }

theorem Wrote.mono {p : Pen} {seam : Seam} {e f : Effect} (h : p.Wrote seam e)
    (hef : ∀ behind all, e behind all → f behind all) : p.Wrote seam f where
  pad := h.pad
  lexed := fun rest hrest => hef _ _ (h.lexed rest hrest)
  closed_of_start := fun hstart rest => hef _ _ (h.closed_of_start hstart rest)
  closed_of_firm := fun hfirm => (h.closed_of_firm hfirm).imp_right fun hholds rest =>
    hef _ _ (hholds rest)

theorem closed_of_isPad {cs : List Char} (h : isPad cs = true) : Closed cs [] := by
  apply closed_of_ignored
  unfold isPad at h
  rw [List.all_eq_true] at h ⊢
  intro c hc
  have := h c hc
  rw [Bool.or_eq_true, decide_eq_true_eq, decide_eq_true_eq] at this
  rcases this with rfl | rfl <;> rfl

theorem isPad_repeated {text : String} (h : isPad text.toList = true) (n : Nat) :
    isPad (repeated text n).toList = true := by
  induction n with
  | zero => rfl
  | succ n ih =>
      unfold repeated
      rw [String.toList_append]
      unfold isPad at h ih ⊢
      rw [List.all_append, h, ih]
      rfl

theorem Wrote.advance {p : Pen} {seam : Seam} {e : Effect} (h : p.Wrote seam e) :
    e.HoldsAtStop p.advance.text.toList ∧ (seam = .firm → e.Holds p.advance.text.toList) := by
  have hspace : Closed [' '] [] := closed_of_ignored rfl
  unfold Pen.advance
  split
  · rename_i hstart
    have hpad := closed_of_isPad (isPad_repeated h.pad p.level)
    have hclosed : e.Holds (p.text ++ repeated p.indent p.level).toList := by
      rw [String.toList_append]
      exact (h.closed_of_start hstart).append_silent hpad
    exact ⟨hclosed.atStop, fun _ => hclosed⟩
  · split
    · have hclosed : e.Holds (p.text ++ " ").toList := by
        rw [String.toList_append]
        exact h.lexed.append_silent hspace fun _ => rfl
      exact ⟨hclosed.atStop, fun _ => hclosed⟩
    · rename_i hspaceless
      refine ⟨h.lexed, fun hfirm => ?_⟩
      rcases h.closed_of_firm hfirm with hspace | hclosed
      · exact absurd hspace hspaceless
      · exact hclosed

end Pen

/-- The pieces have the effect `f` on any text at the seam `before`, and end at the seam `after`. -/
def Acts (before : Seam) (pieces : List Piece) (f : Effect) (after : Seam) : Prop :=
  ∀ (p : Pen) (e : Effect), p.Wrote before e →
    (p.writeAll pieces).Wrote after (Relation.Comp f e)

namespace Acts

variable {before mid after : Seam} {a b : List Piece} {f g : Effect}

theorem mono (h : Acts before a f after) (hfg : ∀ behind all, f behind all → g behind all) :
    Acts before a g after := by
  intro p e hp
  exact (h p e hp).mono fun _ _ ⟨t, hf, he⟩ => ⟨t, hfg _ _ hf, he⟩

theorem append (ha : Acts before a f mid) (hb : Acts mid b g after) :
    Acts before (a ++ b) (Relation.Comp g f) after := by
  intro p e hp
  rw [Pen.writeAll_append]
  exact (hb _ _ (ha p e hp)).mono fun _ _ ⟨t, hg, u, hf, he⟩ => ⟨u, ⟨t, hg, hf⟩, he⟩

theorem weaken (h : Acts before a f after) : Acts before a f .loose :=
  fun p e hp => (h p e hp).weaken

theorem of_loose (h : Acts .loose a f after) : Acts before a f after :=
  fun p e hp => h p e hp.weaken

theorem raw {text : String} (h : f.HoldsAtStop text.toList) :
    Acts .firm [.raw text] f .loose := by
  intro p e hp
  refine ⟨?_, ?_, ?_, nofun⟩
  · show isPad p.advance.indent.toList = true
    rw [p.indent_advance]
    exact hp.pad
  · show Effect.HoldsAtStop _ (p.advance.text ++ text).toList
    rw [String.toList_append]
    exact (hp.advance.2 rfl).append_atStop h
  · intro hstart
    have : p.advance.atLineStart = true := hstart
    rw [p.atLineStart_advance] at this
    cases this

end Acts

/-- What pieces do to the tokens of a whole `layout`. -/
theorem Acts.lex_layout {indent : String} (hpad : isPad indent.toList = true) {pieces : List Piece}
    {f : Effect} {seam : Seam} (h : Acts .firm pieces f seam) :
    f [] (lex (layout indent pieces).toList) := by
  have hfresh : (Pen.fresh indent).Wrote .firm Eq :=
    ⟨hpad, fun _ _ => rfl, fun _ _ => rfl, fun _ => .inr fun _ => rfl⟩
  obtain ⟨all, hf, hall⟩ := (h _ _ hfresh).lexed [] rfl
  rw [List.append_nil] at hall
  rw [lex] at hf
  exact hall ▸ hf

/-- The pieces add the tokens `ts` to any text at the seam `before`, and end at the seam `after`. -/
def Emits (before : Seam) (pieces : List Piece) (ts : List Token) (after : Seam) : Prop :=
  Acts before pieces (Effect.adds ts) after

namespace Emits

variable {before mid after : Seam} {a b : List Piece} {ts us : List Token}

theorem of_keeps (h : ∀ (p : Pen) (e : Effect), p.Wrote before e → (p.writeAll a).Wrote after e) :
    Emits before a [] after := by
  intro p e hp
  exact (h p e hp).mono fun behind _ he => ⟨behind, rfl, he⟩

/-! ### Putting pieces together -/

theorem nil (seam : Seam) : Emits seam [] [] seam := of_keeps fun _ _ hp => hp

theorem append (ha : Emits before a ts mid) (hb : Emits mid b us after) :
    Emits before (a ++ b) (ts ++ us) after := by
  refine (Acts.append ha hb).mono ?_
  rintro behind all ⟨t, rfl, rfl⟩
  exact (List.append_assoc ..).symm

theorem silent_append (ha : Emits before a [] mid) (hb : Emits mid b us after) :
    Emits before (a ++ b) us after := ha.append hb

theorem append_silent (ha : Emits before a ts mid) (hb : Emits mid b [] after) :
    Emits before (a ++ b) ts after := by
  have h := ha.append hb
  rw [List.append_nil] at h
  exact h

theorem weaken (h : Emits before a ts after) : Emits before a ts .loose := Acts.weaken h

theorem of_loose (h : Emits .loose a ts after) : Emits before a ts after := Acts.of_loose h

theorem flatMap {α : Type} {seam : Seam} {pieces : α → List Piece} {tokens : α → List Token}
    {items : List α} (h : ∀ x ∈ items, Emits seam (pieces x) (tokens x) seam) :
    Emits seam (items.flatMap pieces) (items.flatMap tokens) seam := by
  induction items with
  | nil => exact nil seam
  | cons x items ih =>
      rw [List.flatMap_cons, List.flatMap_cons]
      exact (h x List.mem_cons_self).append (ih fun y hy => h y (List.mem_cons_of_mem x hy))

/-! ### Single pieces -/

theorem raw {text : String} (h : Lexed text.toList ts) : Emits .firm [.raw text] ts .loose :=
  Acts.raw h

/-- Text whose tokens do not depend on what follows. -/
theorem raw_closed {text : String} (h : Closed text.toList ts) :
    Emits .firm [.raw text] ts .firm := by
  intro p e hp
  refine { raw h.lexed p e hp with closed_of_firm := fun _ => .inr ?_ }
  show Effect.Holds _ (p.advance.text ++ text).toList
  rw [String.toList_append]
  exact (hp.advance.2 rfl).append h

/-- Text that `stops` what stands before it. -/
theorem raw_stop {text : String} (h : Closed text.toList ts)
    (hstop : ∀ rest, stops (text.toList ++ rest) = true) : Emits .loose [.raw text] ts .firm := by
  intro p e hp
  have hclosed : Effect.Holds (Relation.Comp (Effect.adds ts) e)
      (p.advance.text ++ text).toList := by
    rw [String.toList_append]
    exact hp.advance.1.append h hstop
  refine ⟨?_, hclosed.atStop, fun _ => hclosed, fun _ => .inr hclosed⟩
  show isPad p.advance.indent.toList = true
  rw [p.indent_advance]
  exact hp.pad

theorem word {text : String} (h : Lexed (Text.trim text).toList ts) :
    Emits .firm [.word text] ts .firm := by
  intro p e hp
  exact { raw h p e hp with closed_of_firm := fun _ => .inl rfl }

theorem word_stop {text : String} (h : Closed (Text.trim text).toList ts)
    (hstop : ∀ rest, stops ((Text.trim text).toList ++ rest) = true) :
    Emits .loose [.word text] ts .firm := by
  intro p e hp
  exact { raw_stop h hstop p e hp with closed_of_firm := fun _ => .inl rfl }

theorem newline : Emits .loose [.newline] [] .firm := by
  refine of_keeps fun p e hp => ?_
  have hline : Closed ['\n'] [] := closed_of_ignored rfl
  have hclosed : e.Holds (p.text ++ "\n").toList := by
    rw [String.toList_append]
    exact hp.lexed.append_silent hline fun _ => rfl
  exact ⟨hp.pad, hclosed.atStop, fun _ => hclosed, fun _ => .inr hclosed⟩

theorem tight : Emits .loose [.tight] [] .loose :=
  of_keeps fun _ _ hp => ⟨hp.pad, hp.lexed, hp.closed_of_start, nofun⟩

theorem apart : Emits .loose [.apart] [] .firm :=
  of_keeps fun _ _ hp => ⟨hp.pad, hp.lexed, hp.closed_of_start, fun _ => .inl rfl⟩

theorem deeper (seam : Seam) : Emits seam [.deeper] [] seam :=
  of_keeps fun _ _ hp => ⟨hp.pad, hp.lexed, hp.closed_of_start, hp.closed_of_firm⟩

theorem shallower (seam : Seam) : Emits seam [.shallower] [] seam :=
  of_keeps fun _ _ hp => ⟨hp.pad, hp.lexed, hp.closed_of_start, hp.closed_of_firm⟩

theorem separator : Emits .firm [.separator] [] .firm := by
  intro p e hp
  rw [Pen.writeAll_cons, Pen.writeAll_nil, Pen.write]
  split
  · exact nil .firm p e hp
  · exact newline p e hp.weaken

/-- A comma binds to what stands before it, and is no token. -/
theorem comma : Emits .loose [.tight, .word ","] [] .firm := by
  have hcomma : Closed (Text.trim ",").toList [] := closed_of_ignored (by decide)
  have htrim : (Text.trim ",").toList = [','] := by decide
  exact tight.silent_append (word_stop hcomma fun rest => by rw [htrim]; rfl)

theorem nested {seam : Seam} (h : Emits before a ts seam) :
    Emits before (Piece.nested a) ts seam :=
  ((deeper before).silent_append h).append_silent (shallower seam)

theorem colon : Emits .loose Piece.colon [.symbol ':'] .firm := by
  have hcolon : Emits .loose [.raw ":"] [.symbol ':'] .firm :=
    raw_stop (closed_symbol rfl) fun _ => rfl
  exact (tight.silent_append hcolon).append_silent (of_loose apart)

theorem commaSeparated {α : Type} {pieces : α → List Piece} {tokens : α → List Token}
    {items : List α} (h : ∀ x ∈ items, Emits .firm (pieces x) (tokens x) .loose) :
    Emits .firm (Piece.commaSeparated (items.map pieces)) (items.flatMap tokens) .loose := by
  cases items with
  | nil => exact (nil .firm).weaken
  | cons first others =>
      have hrest : Emits .loose
          (others.flatMap fun x => .tight :: .word "," :: pieces x) (others.flatMap tokens)
          .loose :=
        flatMap fun x hx => comma.silent_append (h x (List.mem_cons_of_mem first hx))
      have hall := (h first List.mem_cons_self).append hrest
      rw [List.flatMap_cons, List.map_cons, Piece.commaSeparated, List.flatMap_map]
      exact hall

end Emits

/-- A `layout` has the tokens that its pieces emit. -/
theorem lex_layout {indent : String} (hpad : isPad indent.toList = true) {pieces : List Piece}
    {ts : List Token} {seam : Seam} (h : Emits .firm pieces ts seam) :
    lex (layout indent pieces).toList = ts := by
  have hall := Acts.lex_layout hpad h
  rw [Effect.adds, List.append_nil] at hall
  exact hall

/-- An indentation that `withIndent` accepts is a pad. -/
theorem isPad_of_withIndent {o options : Options} {indent : String}
    (h : o.withIndent indent = .ok options) : isPad options.indent.toList = true := by
  unfold Options.withIndent at h
  split at h
  · rename_i hindent
    cases h
    exact (Bool.and_eq_true_iff.mp hindent).2
  · cases h

end QueryBindings

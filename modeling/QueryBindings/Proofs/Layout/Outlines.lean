import QueryBindings.Proofs.Grammar.Outlines
import QueryBindings.Proofs.Layout.Definitions

/-! # Outlines of laid out text

What was read is laid out with the tokens of its outline.  A value may also spoil the text, as some
numbers and strings do.

Main statement: `outlines_schema`. -/

namespace QueryBindings

open Grammar Piece

open scoped Computability

/-! ### Pieces with an outline -/

/-- Tokens of `K` are put in front, unless some token is `unreadable`. -/
def Effect.addsIn (K : Language Token) : Effect :=
  fun behind all => .unreadable ∈ all ∨ ∃ ts ∈ K, all = ts ++ behind

/-- The pieces add tokens of `K` to any text at the seam `before`, or spoil it. -/
def Outlines (before : Seam) (pieces : List Piece) (K : Language Token) (after : Seam) : Prop :=
  Acts before pieces (Effect.addsIn K) after

namespace Emits

variable {before after : Seam} {pieces : List Piece} {ts : List Token}

theorem outlines (h : Emits before pieces ts after) {K : Language Token} (hts : ts ∈ K) :
    Outlines before pieces K after :=
  Acts.mono h fun _ _ hall => .inr ⟨ts, hts, hall⟩

theorem outline (h : Emits before pieces ts after) : Outlines before pieces {ts} after :=
  h.outlines (Set.mem_singleton ts)

theorem level (h : Emits before pieces ts after) (hts : Level ts) :
    Outlines before pieces levels after := h.outlines hts

end Emits

namespace Outlines

variable {before mid after : Seam} {a b : List Piece} {K L : Language Token}

theorem mono (h : Outlines before a K after) (hKL : K ≤ L) : Outlines before a L after :=
  Acts.mono h fun _ _ hall => hall.imp_right fun ⟨ts, hts, heq⟩ => ⟨ts, hKL hts, heq⟩

theorem append (ha : Outlines before a K mid) (hb : Outlines mid b L after) :
    Outlines before (a ++ b) (K * L) after := by
  refine (Acts.append ha hb).mono ?_
  rintro behind all ⟨between, hbetween, hall⟩
  rcases hall with hall | ⟨ts, hts, rfl⟩
  · exact .inl hall
  rcases hbetween with hbetween | ⟨us, hus, rfl⟩
  · exact .inl (List.mem_append_right ts hbetween)
  · exact .inr ⟨ts ++ us, Language.mem_mul.mpr ⟨ts, hts, us, hus, rfl⟩, by simp⟩

theorem weaken (h : Outlines before a K after) : Outlines before a K .loose := Acts.weaken h

theorem of_loose (h : Outlines .loose a K after) : Outlines before a K after := Acts.of_loose h

theorem append_level (ha : Outlines before a levels mid) (hb : Outlines mid b levels after) :
    Outlines before (a ++ b) levels after := (ha.append hb).mono levels_mul_levels

theorem silent_append (ha : Emits before a [] mid) (hb : Outlines mid b K after) :
    Outlines before (a ++ b) K after := by
  have h := (ha.outlines (Language.nil_mem_one)).append hb
  rw [one_mul] at h
  exact h

theorem append_silent (ha : Outlines before a K mid) (hb : Emits mid b [] after) :
    Outlines before (a ++ b) K after := by
  have h := ha.append (hb.outlines (Language.nil_mem_one))
  rw [mul_one] at h
  exact h

theorem flatMap {α : Type} {seam : Seam} {pieces : α → List Piece} {outline : α → Language Token}
    {items : List α} (h : ∀ x ∈ items, Outlines seam (pieces x) (outline x) seam) :
    Outlines seam (items.flatMap pieces) (items.map outline).prod seam := by
  induction items with
  | nil => exact (Emits.nil seam).outlines Language.nil_mem_one
  | cons x items ih =>
      rw [List.flatMap_cons, List.map_cons, List.prod_cons]
      exact (h x List.mem_cons_self).append (ih fun y hy => h y (List.mem_cons_of_mem x hy))

theorem flatMap_kstar {α : Type} {seam : Seam} {pieces : α → List Piece} {items : List α}
    (h : ∀ x ∈ items, Outlines seam (pieces x) K seam) :
    Outlines seam (items.flatMap pieces) K∗ seam := by
  induction items with
  | nil => exact (Emits.nil seam).outlines (Language.nil_mem_kstar K)
  | cons x items ih =>
      rw [List.flatMap_cons]
      have hrest := ih fun y hy => h y (List.mem_cons_of_mem x hy)
      exact ((h x List.mem_cons_self).append hrest).mono mul_kstar_le_kstar

theorem flatMap_level {α : Type} {seam : Seam} {pieces : α → List Piece} {items : List α}
    (h : ∀ x ∈ items, Outlines seam (pieces x) levels seam) :
    Outlines seam (items.flatMap pieces) levels seam := (flatMap_kstar h).mono kstar_levels_le

theorem nested {seam : Seam} (h : Outlines before a K seam) :
    Outlines before (Piece.nested a) K seam :=
  (silent_append (Emits.deeper before) h).append_silent (Emits.shallower seam)

theorem commaSeparated {α : Type} {pieces : α → List Piece} {items : List α}
    (h : ∀ x ∈ items, Outlines .firm (pieces x) levels .loose) :
    Outlines .firm (Piece.commaSeparated (items.map pieces)) levels .loose := by
  cases items with
  | nil => exact (Emits.nil .firm).weaken.outlines level_nil
  | cons first others =>
      have hrest : Outlines .loose (others.flatMap fun x => .tight :: .word "," :: pieces x) levels
          .loose :=
        flatMap_level fun x hx => silent_append Emits.comma (h x (List.mem_cons_of_mem first hx))
      have hall := (h first List.mem_cons_self).append_level hrest
      rw [List.map_cons, Piece.commaSeparated, List.flatMap_map]
      exact hall

end Outlines

/-! ### Descriptions and values -/

theorem outlines_description (about : Option String) :
    Outlines .firm (descriptionPieces about) asides .firm := by
  cases about with
  | none => exact (Emits.nil .firm).outlines ⟨none, rfl⟩
  | some text =>
      by_cases hempty : text = ""
      · have hpieces : descriptionPieces (some text) = [] := if_pos hempty
        rw [hpieces]
        exact (Emits.nil .firm).outlines ⟨none, rfl⟩
      · refine (acts_description hempty).mono ?_
        rintro behind all ⟨value, -, hall⟩
        exact .inr ⟨[.string value], ⟨some value, rfl⟩, hall⟩

theorem outlines_value {references : Bool} {depth : Nat} {text : String}
    (h : Placed references depth text) : Outlines .firm [.raw text] levels .loose := by
  apply Acts.raw
  intro rest hrest
  rcases h.settled with hspoiled | ⟨ts, v, hlexed, hreads⟩
  · exact .inl (hspoiled rest hrest)
  · exact .inr ⟨ts, hreads.level, hlexed rest hrest⟩

theorem outlines_name {n : String} (h : isName n = true) :
    Outlines .firm [.word n] levels .firm := (emits_name h).level (level_plain rfl)

theorem outlines_colon : Outlines .loose Piece.colon levels .firm :=
  Emits.colon.level (level_plain (by decide))

theorem outlines_type {depth : Nat} {t : TypeExpr} (h : t.Legible depth) :
    Outlines .firm [.word t.text] levels .firm := (emits_type h).level t.level_tokens

theorem outlines_default {references : Bool} {depth : Nat} {given : Option String}
    (h : ∀ text, given = some text → Placed references depth text) :
    Outlines .firm (defaultPieces given) levels .loose := by
  cases given with
  | none => exact (Emits.nil .firm).weaken.level level_nil
  | some text =>
      have hequals : Emits .firm [.word "="] [.symbol '='] .firm :=
        emits_symbol (by decide) (closed_symbol rfl)
      exact (hequals.level (level_plain (by decide))).append_level (outlines_value (h text rfl))

theorem outlines_parentheses {items : List Piece} (h : Outlines .firm items levels .loose) :
    Outlines .loose ([.raw "("] ++ items ++ Piece.closeArguments) (grouped '(' ')') .firm := by
  have hopen : Emits .loose [.raw "("] [.symbol '('] .firm :=
    Emits.raw_stop (closed_symbol rfl) fun _ => rfl
  have hall := (hopen.outline.append h).append emits_closeArguments.outline
  exact hall.mono (enclosed_le_grouped '(' ')')

theorem outlines_argument {references : Bool} {depth : Nat} {a : Argument}
    (h : a.Placed references depth) :
    Outlines .firm ([.word a.name] ++ Piece.colon ++ [.raw a.value]) levels .loose := by
  cases depth with
  | zero => exact h.elim
  | succ depth =>
      have hhead := (outlines_name h.1).append_level (Outlines.of_loose outlines_colon)
      exact hhead.append_level (outlines_value h.2)

theorem outlines_arguments {references : Bool} {depth : Nat} {as : List Argument}
    (h : ∀ a ∈ as, a.Placed references depth) :
    Outlines .firm (argumentPieces as) (grouped '(' ')') .firm := by
  unfold argumentPieces
  split
  · exact (Emits.nil .firm).outlines (.inl rfl)
  · have hitems := Outlines.commaSeparated fun a ha => outlines_argument (h a ha)
    have hall := Outlines.silent_append Emits.tight (outlines_parentheses hitems)
    exact Outlines.of_loose hall

theorem outlines_directives {references : Bool} {depth : Nat} {ds : List Directive}
    (h : ∀ d ∈ ds, d.Placed references depth) (seam : Seam) :
    Outlines seam (directivePieces ds) applied seam := by
  have hat : Emits .firm [.raw "@"] [.symbol '@'] .firm := Emits.raw_closed (closed_symbol rfl)
  refine Outlines.flatMap_kstar fun d hd => ?_
  have hhead := (Emits.apart.silent_append hat).append (emits_name (h d hd).1)
  have hmark : Outlines .loose _ marks .firm := hhead.outlines ⟨d.name, rfl⟩
  have hall := hmark.append (outlines_arguments (h d hd).2)
  cases seam with
  | firm => exact Outlines.of_loose hall
  | loose => exact hall.weaken

/-! ### Members -/

theorem outlines_declaration {depth : Nat} {a : ArgumentDefinition} (h : a.Placed depth) :
    Outlines .firm a.declarationPieces levels .loose := by
  have hhead := (outlines_name h.name).append_level (Outlines.of_loose outlines_colon)
  have htype := hhead.append_level (outlines_type h.type)
  have hdirectives := (outlines_directives h.directives .loose).mono applied_le_levels
  exact (htype.append_level (outlines_default h.defaultValue)).append_level hdirectives

theorem outlines_argumentDefinition {depth : Nat} {a : ArgumentDefinition} (h : a.Placed depth) :
    Outlines .firm a.pieces levels .loose := by
  have hdeclaration := outlines_declaration h
  unfold ArgumentDefinition.pieces
  split
  · have habout := (outlines_description a.description).mono asides_le_levels
    have hnested := (habout.append_level hdeclaration).nested
    exact Outlines.silent_append (Emits.of_loose Emits.newline) hnested
  · exact hdeclaration

theorem outlines_argumentList {depth : Nat} {as : List ArgumentDefinition} (hne : as ≠ [])
    (h : ∀ a ∈ as, Inside ArgumentDefinition.Placed depth a) :
    Outlines .loose (ArgumentDefinition.listPieces as) (grouped '(' ')') .firm := by
  have hempty : as.isEmpty = false := by simpa using hne
  have hitems := Outlines.commaSeparated fun a ha =>
    of_inside (h a ha) fun _ => outlines_argumentDefinition
  have hline : Emits .loose (if as.any ArgumentDefinition.isDescribed then [newline] else []) []
      .loose := by
    split
    · exact Emits.newline.weaken
    · exact Emits.nil .loose
  have hall := outlines_parentheses (hitems.append_silent hline)
  unfold ArgumentDefinition.listPieces
  rw [hempty]
  simpa using hall

theorem outlines_argumentDefinitions {depth : Nat} {as : List ArgumentDefinition}
    (h : ∀ a ∈ as, Inside ArgumentDefinition.Placed depth a) :
    Outlines .loose (ArgumentDefinition.listPieces as) (grouped '(' ')') .loose := by
  by_cases hne : as = []
  · rw [hne]
    exact (Emits.nil .loose).outlines (.inl rfl)
  · exact (outlines_argumentList hne h).weaken

theorem outlines_fieldDefinition {depth : Nat} {f : FieldDefinition} (h : f.Placed depth) :
    Outlines .firm f.pieces levels .firm := by
  have habout := (outlines_description f.description).mono asides_le_levels
  have hname := (outlines_name h.name).append_silent (Emits.of_loose Emits.tight)
  have harguments := (outlines_argumentDefinitions h.arguments).mono
    (grouped_le_levels (by decide) (by decide))
  have hdirectives := (outlines_directives h.directives .loose).mono applied_le_levels
  have hhead := ((habout.append_level hname).append_level harguments).append_level outlines_colon
  have htail := ((outlines_type h.type).append_level (outlines_default h.defaultValue)).append_level
    hdirectives
  have hall := (hhead.append_level htail).append_silent Emits.newline
  unfold FieldDefinition.pieces
  simpa using hall

theorem outlines_enumValue {depth : Nat} {v : EnumValue} (h : v.Placed depth) :
    Outlines .firm v.pieces levels .firm := by
  have habout := (outlines_description v.description).mono asides_le_levels
  have hdirectives := (outlines_directives h.directives .firm).mono applied_le_levels
  have hall := (habout.append_level (outlines_name h.name)).append_level hdirectives
  exact hall.append_silent (Emits.of_loose Emits.newline)

theorem outlines_braced {α : Type} {pieces : α → List Piece} {items : List α}
    (h : ∀ x ∈ items, Outlines .firm (pieces x) levels .firm) :
    Outlines .firm (bracedPieces (items.map pieces)) (grouped '\x7b' '\x7d') .firm := by
  have hopen : Emits .firm [raw "\x7b"] [.symbol '\x7b'] .firm :=
    Emits.raw_closed (closed_symbol rfl)
  have hclose : Emits .firm [raw "\x7d"] [.symbol '\x7d'] .firm :=
    Emits.raw_closed (closed_symbol rfl)
  have hlines := (Outlines.flatMap_level h).nested
  have hhead := (hopen.append_silent (Emits.of_loose Emits.newline)).outline
  have hall := ((hhead.append hlines).append hclose.outline).mono (enclosed_le_grouped _ _)
  unfold bracedPieces
  split
  · exact (Emits.nil .firm).outlines (.inl rfl)
  · simpa [List.flatMap_def] using hall

/-! ### Definitions -/

theorem outlines_members {d : Definition} (h : d.Sound) :
    Outlines .firm (d.bodyPieces true) (grouped '\x7b' '\x7d') .firm := by
  have hvalues := outlines_braced fun v hv => of_inside (h.values v hv) fun _ => outlines_enumValue
  have hvisible : ∀ f ∈ d.visibleFields true, Outlines .firm f.pieces levels .firm := fun f hf =>
    of_inside (h.fields f (List.mem_filter.mp hf).1) fun _ => outlines_fieldDefinition
  have hfields := outlines_braced hvisible
  unfold Definition.bodyPieces
  cases d.kind with
  | enum => exact hvalues
  | _ => exact hfields

theorem outlines_definition {d : Definition} (h : d.Sound) :
    Outlines .firm (d.pieces true) d.outline .firm := by
  have hkeyword : Emits .firm [word d.kind.keyword] [.name d.kind.keyword] .firm := by
    apply emits_name
    cases d.kind <;> decide
  have hunion : Emits .firm (if d.kind = .union then joinedWords "=" "|" d.members else [])
      (if d.kind = .union then joinedTokens (.symbol '=') (.symbol '|') d.members else [])
      .firm := by
    split
    · exact emits_unionMembers h.members
    · exact Emits.nil .firm
  have habout := Outlines.silent_append Emits.separator (outlines_description d.description)
  have hhead := habout.append (hkeyword.append (emits_name h.name)).outline
  have hparts := ((hhead.append (emits_implemented h.interfaces).outline).append
    (outlines_directives h.directives .firm)).append hunion.outline
  have hall := (hparts.append (outlines_members h)).append_silent (Emits.of_loose Emits.newline)
  unfold Definition.pieces Definition.outline
  simpa [mul_assoc] using hall

theorem outlines_directiveDefinition {d : DirectiveDefinition} (h : d.Sound) :
    Outlines .firm (d.pieces true) d.outline .firm := by
  have hat : Emits .firm [raw "@"] [.symbol '@'] .firm := Emits.raw_closed (closed_symbol rfl)
  have hword : Emits .firm [word "directive"] [.name "directive"] .firm := emits_name (by decide)
  have harguments : Outlines .firm
      (if d.arguments.isEmpty then [] else tight :: ArgumentDefinition.listPieces d.arguments)
      (grouped '(' ')') .firm := by
    by_cases hne : d.arguments = []
    · rw [hne]
      exact (Emits.nil .firm).outlines (.inl rfl)
    · rw [if_neg (by simpa using hne)]
      have hlist := outlines_argumentList hne h.arguments
      exact Outlines.silent_append (Emits.of_loose Emits.tight) hlist
  have hrepeatable : Emits .firm (if d.repeatable then [word "repeatable"] else [])
      (if d.repeatable then [.name "repeatable"] else []) .firm := by
    split
    · exact emits_name (by decide)
    · exact Emits.nil .firm
  have hlocations := emits_locations fun l hl => isName_of_mem_directiveLocations (h.locations l hl)
  have habout := Outlines.silent_append Emits.separator (outlines_description d.description)
  have hhead := habout.append ((hword.append hat).append (emits_name h.name)).outline
  have htail := ((hhead.append harguments).append hrepeatable.outline).append hlocations.outline
  have hall := htail.append_silent (Emits.of_loose Emits.newline)
  unfold DirectiveDefinition.pieces DirectiveDefinition.outline
  simpa [mul_assoc] using hall

/-- The canonical text of a schema that was read has the `outline`s of its entries. -/
theorem outlines_schema {s : Schema} (h : ∀ e ∈ s.entries, e.Sound) :
    Outlines .firm (s.pieces true) (s.entries.map SchemaEntry.outline).prod .firm := by
  have hdirectives : ∀ d ∈ s.directives.values, Outlines .firm (d.pieces true) d.outline .firm :=
    fun d hd => outlines_directiveDefinition (h (.directive d) (by simp [Schema.entries, hd]))
  have htypes : ∀ d ∈ s.types.values, Outlines .firm (d.pieces true) d.outline .firm :=
    fun d hd => outlines_definition (h (.type d) (by simp [Schema.entries, hd]))
  have hroots : Outlines .firm s.rootPieces
      ((if s.roots.all fun root => root.2 = root.1.defaultRoot then []
        else [SchemaEntry.roots s.rootBlock]).map SchemaEntry.outline).prod .firm := by
    unfold Schema.rootPieces
    by_cases hdefault : s.roots.all (fun root => root.2 = root.1.defaultRoot) = true
    · rw [if_pos hdefault, if_pos hdefault]
      exact (Emits.nil .firm).outlines Language.nil_mem_one
    · have hne : s.roots ≠ [] := by
        intro hnil
        rw [hnil] at hdefault
        exact hdefault rfl
      rw [if_neg hdefault, if_neg hdefault, List.map_singleton, List.prod_singleton]
      have hblock := h (.roots s.rootBlock) (by simp [Schema.entries, hdefault])
      exact (emits_rootBlock hne hblock).outline
  have hall := (hroots.append (Outlines.flatMap hdirectives)).append (Outlines.flatMap htypes)
  unfold Schema.pieces Schema.entries
  rw [List.map_append, List.map_append, List.prod_append, List.prod_append, List.map_map,
    List.map_map, ← mul_assoc]
  exact hall

end QueryBindings

import Mathlib.Computability.Language
import Mathlib.Order.CompletePartialOrder
import QueryBindings.Proofs.Grammar.Brackets
import QueryBindings.Proofs.Grammar.Definitions

/-! # Outlines of definitions

Whatever its descriptions and values are like, a definition that was read is laid out with its
keyword, its names and its brackets in their places.  Its outline is the language of the tokens
that it may have: a description is at most one string, and between two brackets stand level tokens.

Main statement: `alike_of_schemaText` (what is read from the outlines of entries is alike to those
entries). -/

namespace QueryBindings

open Grammar

open scoped Computability

namespace Grammar

/-! ### Languages of tokens -/

/-- Tokens that close the brackets that they open. -/
def levels : Language Token := {ts | Level ts}

def asides : Language Token := {ts | ∃ about, ts = descriptionTokens about}

/-- Tokens of `Level` between brackets, or nothing. -/
def grouped (opening closing : Char) : Language Token :=
  {ts | ts = [] ∨ ∃ inner, Level inner ∧ ts = .symbol opening :: (inner ++ [.symbol closing])}

def marks : Language Token := {ts | ∃ n, ts = [.symbol '@', .name n]}

/-- Applied directives, each of `marks` with what is `grouped` behind it. -/
def applied : Language Token := (marks * grouped '(' ')')∗

theorem levels_mul_levels : levels * levels ≤ levels := by
  intro ts hts
  obtain ⟨a, ha, b, hb, rfl⟩ := Language.mem_mul.mp hts
  exact Level.append ha hb

theorem asides_le_levels : asides ≤ levels := by
  rintro ts ⟨about, rfl⟩
  cases about with
  | none => exact level_nil
  | some text => exact level_plain (t := .string text) rfl

theorem grouped_le_levels {opening closing : Char} (hopen : opens (.symbol opening) = true)
    (hclose : closes (.symbol closing) = true) : grouped opening closing ≤ levels := by
  rintro ts (rfl | ⟨inner, hinner, rfl⟩)
  · exact level_nil
  · exact level_group hopen hinner hclose

theorem enclosed_le_grouped (opening closing : Char) :
    {[.symbol opening]} * levels * {[.symbol closing]} ≤ grouped opening closing := by
  intro ts hts
  obtain ⟨front, hfront, last, rfl, rfl⟩ := Language.mem_mul.mp hts
  obtain ⟨first, rfl, inner, hinner, rfl⟩ := Language.mem_mul.mp hfront
  exact .inr ⟨inner, hinner, rfl⟩

theorem marks_le_levels : marks ≤ levels := by
  rintro ts ⟨n, rfl⟩
  have hmark : Level ([.symbol '@'] ++ [.name n]) :=
    (level_plain (by decide)).append (level_plain rfl)
  exact hmark

theorem kstar_levels_le : levels∗ ≤ levels := by
  refine kstar_le_of_mul_le_left ?_ levels_mul_levels
  rintro ts rfl
  exact level_nil

theorem applied_le_levels : applied ≤ levels := by
  have hparts : marks * grouped '(' ')' ≤ levels * levels :=
    mul_le_mul' marks_le_levels (grouped_le_levels (by decide) (by decide))
  exact (kstar_mono (hparts.trans levels_mul_levels)).trans kstar_levels_le

end Grammar

theorem TypeExpr.level_tokens (t : TypeExpr) : Level t.tokens := t.derives_tree.level

namespace Definition

/-- The tokens that a definition may be laid out with. -/
def outline (d : Definition) : Language Token :=
  asides * ({[.name d.kind.keyword, .name d.name]} *
    ({joinedTokens (.name "implements") (.symbol '&') d.interfaces} *
      (applied * ({if d.kind = .union then joinedTokens (.symbol '=') (.symbol '|') d.members
        else []} * grouped '\x7b' '\x7d'))))

theorem exists_of_mem_outline {d : Definition} {ts : List Token} (h : ts ∈ d.outline) :
    ∃ about, ∃ ds ∈ applied, ∃ body ∈ grouped '\x7b' '\x7d',
      ts = descriptionTokens about ++ .name d.kind.keyword :: .name d.name ::
        (joinedTokens (.name "implements") (.symbol '&') d.interfaces ++ (ds ++
          ((if d.kind = .union then joinedTokens (.symbol '=') (.symbol '|') d.members else []) ++
            body))) := by
  obtain ⟨_, ⟨about, rfl⟩, words, hwords, rfl⟩ := Language.mem_mul.mp h
  obtain ⟨_, rfl, parts, hparts, rfl⟩ := Language.mem_mul.mp hwords
  obtain ⟨_, rfl, behind, hbehind, rfl⟩ := Language.mem_mul.mp hparts
  obtain ⟨ds, hds, members, hmembers, rfl⟩ := Language.mem_mul.mp hbehind
  obtain ⟨_, rfl, body, hbody, rfl⟩ := Language.mem_mul.mp hmembers
  exact ⟨about, ds, hds, body, hbody, rfl⟩

end Definition

namespace DirectiveDefinition

/-- The tokens that a directive definition may be laid out with. -/
def outline (d : DirectiveDefinition) : Language Token :=
  asides * ({[.name "directive", .symbol '@', .name d.name]} * (grouped '(' ')' *
    ({if d.repeatable then [.name "repeatable"] else []} *
      {joinedTokens (.name "on") (.symbol '|') d.locations})))

theorem exists_of_mem_outline {d : DirectiveDefinition} {ts : List Token} (h : ts ∈ d.outline) :
    ∃ about, ∃ declared ∈ grouped '(' ')',
      ts = descriptionTokens about ++ .name "directive" :: .symbol '@' :: .name d.name ::
        (declared ++ ((if d.repeatable then [.name "repeatable"] else []) ++
          joinedTokens (.name "on") (.symbol '|') d.locations)) := by
  obtain ⟨_, ⟨about, rfl⟩, words, hwords, rfl⟩ := Language.mem_mul.mp h
  obtain ⟨_, rfl, parts, hparts, rfl⟩ := Language.mem_mul.mp hwords
  obtain ⟨declared, hdeclared, behind, hbehind, rfl⟩ := Language.mem_mul.mp hparts
  obtain ⟨_, rfl, _, rfl, rfl⟩ := Language.mem_mul.mp hbehind
  exact ⟨about, declared, hdeclared, rfl⟩

end DirectiveDefinition

/-- The tokens that an entry may be laid out with.  Extensions are not laid out. -/
def Grammar.SchemaEntry.outline : SchemaEntry → Language Token
  | .roots b => {b.tokens}
  | .type d => d.outline
  | .directive d => d.outline
  | .extension _ => 0

namespace Grammar

open Rule

/-! ### What outlines begin with -/

theorem clear_grouped {barred rest ts : List Token} {opening closing : Char}
    (hts : ts ∈ grouped opening closing) (h : .symbol opening ∉ barred)
    (hrest : Clear barred rest) : Clear barred (ts ++ rest) := by
  rcases hts with rfl | ⟨inner, -, rfl⟩
  · exact hrest
  · exact clear_cons h _

theorem clear_applied {barred rest ts : List Token} (hts : ts ∈ applied)
    (h : .symbol '@' ∉ barred) (hrest : Clear barred rest) : Clear barred (ts ++ rest) := by
  obtain ⟨parts, rfl, hparts⟩ := Language.mem_kstar.mp hts
  cases parts with
  | nil => exact hrest
  | cons part parts =>
      obtain ⟨mark, ⟨n, rfl⟩, group, -, rfl⟩ := Language.mem_mul.mp (hparts part List.mem_cons_self)
      exact clear_cons h _

/-! ### Reading parts of an outline -/

/-- A rule with only one reading of some tokens takes them. -/
theorem rest_of_reads {α : Type} {rule : Rule α} {used barred rest rest' : List Token} {a b : α}
    (h : rule.Reads used a barred) (hrest : Clear barred rest)
    (hok : rule (used ++ rest) = .ok (b, rest')) : rest' = rest := by
  rw [h rest hrest] at hok
  cases hok
  rfl

theorem rest_of_grouped {α : Type} {opening closing : Char} {member : Nat → Rule α}
    (hclose : closes (.symbol closing) = true) (h : ∀ depth, (member depth).Shifts 1 1)
    {depth : Nat} {ts rest rest' : List Token} {as : List α} (hts : ts ∈ grouped opening closing)
    (hrest : Clear [.symbol opening] rest)
    (hok : optionalBody opening closing member depth (ts ++ rest) = .ok (as, rest')) :
    rest' = rest := by
  rcases hts with rfl | ⟨inner, hinner, rfl⟩
  · unfold optionalBody at hok
    rw [List.nil_append, bind_ok (isNext_of_clear hrest)] at hok
    cases hok
    rfl
  · rw [List.cons_append, List.append_assoc] at hok
    exact rest_of_optionalBody hclose h hinner hok

theorem rest_of_arguments {references : Bool} {depth : Nat} {ts rest rest' : List Token}
    {as : List Argument} (hts : ts ∈ grouped '(' ')') (hrest : Clear [.symbol '('] rest)
    (hok : arguments references depth (ts ++ rest) = .ok (as, rest')) : rest' = rest :=
  rest_of_grouped (by decide) (shifts_argument references) hts hrest hok

theorem of_many_cons {α : Type} {starts : Token → Bool} {item : Rule α} {t : Token}
    {ts final : List Token} {as : List α} (hstarts : starts t = true)
    (hok : many starts item (t :: ts) = .ok (as, final)) :
    ∃ a after others, item (t :: ts) = .ok (a, after) ∧
      many starts item after = .ok (others, final) ∧ as = a :: others := by
  rw [many, if_pos hstarts] at hok
  split at hok
  · cases hok
  · rename_i a after hitem
    split at hok
    · split at hok
      · cases hok
      · rename_i others final' hmany
        cases hok
        exact ⟨a, after, others, hitem, hmany, rfl⟩
    · cases hok

theorem rest_of_applied {references : Bool} {depth : Nat} {ts rest rest' : List Token}
    {ds : List Directive} (hts : ts ∈ applied) (hrest : Clear [.symbol '@', .symbol '('] rest)
    (hok : directives references depth (ts ++ rest) = .ok (ds, rest')) : rest' = rest := by
  obtain ⟨parts, rfl, hparts⟩ := Language.mem_kstar.mp hts
  clear hts
  unfold directives manyAfter at hok
  induction parts generalizing ds with
  | nil =>
      cases rest with
      | nil =>
          rw [List.flatten_nil, List.append_nil, many_nil] at hok
          cases hok
          rfl
      | cons t rest =>
          have hne : t ≠ .symbol '@' := fun ht => hrest (.symbol '@') (by simp) (by rw [ht]; rfl)
          rw [List.flatten_nil, List.nil_append, many_stop (by simp [hne])] at hok
          cases hok
          rfl
  | cons part parts ih =>
      have hrests : ∀ y ∈ parts, y ∈ marks * grouped '(' ')' :=
        fun y hy => hparts y (List.mem_cons_of_mem part hy)
      obtain ⟨mark, ⟨n, rfl⟩, group, hgroup, rfl⟩ :=
        Language.mem_mul.mp (hparts part List.mem_cons_self)
      have hclear : Clear [.symbol '('] (parts.flatten ++ rest) :=
        clear_applied (Language.mem_kstar.mpr ⟨parts, rfl, hrests⟩) (by simp)
          (hrest.mono (by simp))
      rw [List.flatten_cons, List.append_assoc, List.append_assoc] at hok
      obtain ⟨d, after, others, hitem, hmany, -⟩ := of_many_cons (by simp) hok
      obtain ⟨_, mid, hsymbol, hnamed⟩ := of_bind_ok hitem
      rw [symbol_cons] at hsymbol
      cases hsymbol
      obtain ⟨_, mid, hname, hgiven⟩ := of_bind_ok hnamed
      cases hname
      obtain ⟨given, mid, harguments, hpure⟩ := of_bind_ok hgiven
      cases hpure
      rw [rest_of_arguments hgroup hclear harguments] at hmany
      exact ih hrests hmany

/-! ### Reading definitions -/

/-- The tokens with which the last part of a laid out entry could go on. -/
def outlineBarred : List Token := entryBarred ++ [.name "on", .name "repeatable"]

/-- Tokens of a slot that the kind of a definition does not have.  No entry begins with them. -/
def Stuck (ts : List Token) : Prop :=
  ts.head? = some (.name "implements") ∨ ts.head? = some (.symbol '\x7b')

theorem not_ok_of_stuck {ts : List Token} (h : Stuck ts) (r : SchemaEntry × List Token) :
    schemaEntry ts ≠ .ok r := by
  intro hok
  obtain ⟨t, rest, rfl, ht⟩ : ∃ t rest, ts = t :: rest ∧
      (t = .name "implements" ∨ t = .symbol '\x7b') := by
    cases ts with
    | nil => rcases h with h | h <;> cases h
    | cons t rest => exact ⟨t, rest, rfl, h.imp Option.some.inj Option.some.inj⟩
  have hclear : ∀ word, word ≠ "implements" → Clear [.name word] (t :: rest) := by
    intro word hword
    refine clear_cons ?_ rest
    rcases ht with rfl | rfl <;> simp [Ne.symm hword]
  have hdescription : description (t :: rest) = .ok (none, t :: rest) := by
    rcases ht with rfl | rfl <;> rfl
  have hkeyword : typeKeyword (t :: rest) = .error (t :: rest) := by
    rcases ht with rfl | rfl <;> rfl
  unfold schemaEntry at hok
  rw [bind_ok (isNext_of_clear (hclear "schema" (by decide)))] at hok
  simp only [Bool.false_eq_true, if_false] at hok
  rw [bind_ok (isNext_of_clear (hclear "extend" (by decide)))] at hok
  simp only [Bool.false_eq_true, if_false] at hok
  unfold describedEntry at hok
  rw [bind_ok hdescription, bind_ok (option_of_clear (hclear "directive" (by decide)))] at hok
  simp only [Bool.false_eq_true, if_false] at hok
  obtain ⟨kind, mid, hkind, -⟩ := of_bind_ok hok
  rw [hkeyword] at hkind
  cases hkind

theorem clear_of_head {barred ts : List Token} {t : Token} (h : ts.head? = some t)
    (ht : t ∉ barred) : Clear barred ts := by
  intro u hu heq
  rw [h] at heq
  cases heq
  exact ht hu

theorem rest_or_stuck {body rest : List Token} (h : body ∈ grouped '\x7b' '\x7d') :
    body ++ rest = rest ∨ Stuck (body ++ rest) := by
  rcases h with rfl | ⟨inner, -, rfl⟩
  · exact .inl rfl
  · exact .inr (.inr rfl)

/-- Where no interfaces are read, the directives behind them are not read either. -/
theorem rest_of_interfaces_unread {references : Bool} {depth : Nat} {names : List String}
    {ts more mid : List Token} {ds : List Directive} (hts : ts ∈ applied)
    (hmore : Clear [.symbol '@', .symbol '('] more)
    (hok : directives references depth
      (joinedTokens (.name "implements") (.symbol '&') names ++ (ts ++ more)) = .ok (ds, mid)) :
    mid = more ∨ mid.head? = some (.name "implements") := by
  cases names with
  | nil => exact .inl (rest_of_applied hts hmore hok)
  | cons first others =>
      have hnone : [] ∈ applied := Language.nil_mem_kstar _
      refine .inr ?_
      rw [rest_of_applied hnone (clear_cons (by simp) _) hok]
      rfl

theorem rest_of_body_unread {α : Type} {member : Nat → Rule α}
    (hmember : ∀ depth, (member depth).Shifts 1 1) {depth : Nat} {body rest mid last : List Token}
    {as : List α} (hbody : body ∈ grouped '\x7b' '\x7d') (hrest : Clear [.symbol '\x7b'] rest)
    (hmid : mid = body ++ rest ∨ mid.head? = some (.name "implements"))
    (hok : optionalBody '\x7b' '\x7d' member depth mid = .ok (as, last)) :
    last = rest ∨ Stuck last := by
  rcases hmid with rfl | hhead
  · exact .inl (rest_of_grouped (by decide) hmember hbody hrest hok)
  · rw [← List.nil_append mid] at hok
    rw [rest_of_grouped (by decide) hmember (.inl rfl) (clear_of_head hhead (by simp)) hok]
    exact .inr (.inl hhead)

/-- What follows the name of a laid out type is taken, up to a slot that its kind does not have. -/
theorem rest_of_typeParts {kind : TypeKind} {n : String} {names members : List String}
    {ts body rest rest' : List Token} {e : Definition} (hts : ts ∈ applied)
    (hbody : body ∈ grouped '\x7b' '\x7d') (hrest : Clear entryBarred rest)
    (hok : typeParts kind n (joinedTokens (.name "implements") (.symbol '&') names ++ (ts ++
      ((if kind = .union then joinedTokens (.symbol '=') (.symbol '|') members else []) ++
        (body ++ rest)))) = .ok (e, rest')) :
    e.name = n ∧ (rest' = rest ∨ Stuck rest') := by
  have hbehind : ∀ {barred : List Token}, .symbol '\x7b' ∉ barred → barred ⊆ entryBarred →
      Clear barred (body ++ rest) := fun hbarred hsub =>
    clear_grouped hbody hbarred (hrest.mono hsub)
  unfold typeParts at hok
  cases kind with
  | scalar =>
      obtain ⟨ds, mid, hdirectives, hpure⟩ := of_bind_ok hok
      cases hpure
      refine ⟨rfl, ?_⟩
      rcases rest_of_interfaces_unread hts (hbehind (by simp) (by simp [entryBarred]))
        hdirectives with rfl | hstuck
      · exact rest_or_stuck hbody
      · exact .inr (.inl hstuck)
  | object | interface =>
      obtain ⟨interfaces, mid, himplemented, hok⟩ := of_bind_ok hok
      have hmid := rest_of_reads (reads_implemented names)
        (clear_applied hts (by simp) (hbehind (by simp) (by simp [entryBarred]))) himplemented
      rw [hmid] at hok
      obtain ⟨ds, mid', hdirectives, hok⟩ := of_bind_ok hok
      rw [rest_of_applied hts (hbehind (by simp) (by simp [entryBarred])) hdirectives] at hok
      obtain ⟨fields, last, hfields, hpure⟩ := of_bind_ok hok
      cases hpure
      exact ⟨rfl, .inl (rest_of_grouped (by decide) shifts_fieldDefinition hbody
        (hrest.mono (by simp [entryBarred])) hfields)⟩
  | union =>
      obtain ⟨ds, mid, hdirectives, hok⟩ := of_bind_ok hok
      obtain ⟨read, last, hmembers, hpure⟩ := of_bind_ok hok
      cases hpure
      refine ⟨rfl, ?_⟩
      rcases rest_of_interfaces_unread hts (clear_joinedTokens members (by simp)
        (hbehind (by simp) (by simp [entryBarred]))) hdirectives with rfl | hstuck
      · rw [rest_of_reads (reads_unionMembers members) (hbehind (by simp) (by simp [entryBarred]))
          hmembers]
        exact rest_or_stuck hbody
      · rw [rest_of_reads (reads_unionMembers []) (clear_of_head hstuck (by simp)) hmembers]
        exact .inr (.inl hstuck)
  | enum =>
      obtain ⟨ds, mid, hdirectives, hok⟩ := of_bind_ok hok
      obtain ⟨values, last, hvalues, hpure⟩ := of_bind_ok hok
      cases hpure
      have hmid := rest_of_interfaces_unread hts (hbehind (by simp) (by simp [entryBarred]))
        hdirectives
      exact ⟨rfl, rest_of_body_unread shifts_enumValue hbody (hrest.mono (by simp [entryBarred]))
        hmid hvalues⟩
  | inputObject =>
      obtain ⟨ds, mid, hdirectives, hok⟩ := of_bind_ok hok
      obtain ⟨fields, last, hfields, hpure⟩ := of_bind_ok hok
      cases hpure
      have hmid := rest_of_interfaces_unread hts (hbehind (by simp) (by simp [entryBarred]))
        hdirectives
      exact ⟨rfl, rest_of_body_unread shifts_argumentDefinition hbody
        (hrest.mono (by simp [entryBarred])) hmid hfields⟩

/-- What is read from the `outline` of a type is a type of its name. -/
theorem alike_of_type {d : Definition} {ts rest rest' : List Token} {e : SchemaEntry}
    (hts : ts ∈ d.outline) (hrest : Clear outlineBarred rest)
    (hok : schemaEntry (ts ++ rest) = .ok (e, rest')) :
    (∃ f : Definition, e = .type f ∧ f.name = d.name) ∧ (rest' = rest ∨ Stuck rest') := by
  obtain ⟨about, ds, hds, body, hbody, rfl⟩ := Definition.exists_of_mem_outline hts
  have hne : d.kind.keyword ≠ "schema" ∧ d.kind.keyword ≠ "extend" := by
    cases d.kind <;> decide
  have hword : ∀ more, Clear [.name "directive"] (.name d.kind.keyword :: more) := by
    intro more
    refine clear_cons ?_ _
    cases d.kind <;> decide
  simp only [List.append_assoc, List.cons_append] at hok
  rw [schemaEntry_of_described hne.1 hne.2] at hok
  unfold describedEntry at hok
  rw [bind_ok reads_description, bind_ok (option_of_clear (hword _))] at hok
  simp only [Bool.false_eq_true, if_false] at hok
  rw [bind_ok (typeKeyword_cons d.kind _), bind_ok (name_cons d.name _)] at hok
  obtain ⟨f, mid, hparts, hpure⟩ := of_bind_ok hok
  cases hpure
  obtain ⟨hname, hmid⟩ := rest_of_typeParts hds hbody (hrest.mono (by simp [outlineBarred])) hparts
  exact ⟨⟨_, rfl, hname⟩, hmid⟩

theorem rest_of_locations {ls : List String} {rest mid rest' : List Token} {u : Unit}
    {read : List String} (h : ∀ l ∈ ls, l ∈ directiveLocations) (hrest : Clear outlineBarred rest)
    (hkeyword : keyword "on" (joinedTokens (.name "on") (.symbol '|') ls ++ rest) = .ok (u, mid))
    (hread : locations mid = .ok (read, rest')) : rest' = rest := by
  cases ls with
  | nil =>
      have hrest' : rest = .name "on" :: mid := eq_cons_of_token hkeyword
      refine absurd ?_ (hrest (.name "on") (by simp [outlineBarred]))
      rw [hrest']
      rfl
  | cons first others =>
      rw [joinedTokens, List.cons_append, keyword_cons "on"] at hkeyword
      cases hkeyword
      exact rest_of_reads (reads_locations h) (hrest.mono (by simp [outlineBarred, entryBarred]))
        hread

theorem alike_of_directive {d : DirectiveDefinition} {ts rest rest' : List Token} {e : SchemaEntry}
    (hts : ts ∈ d.outline) (hlocations : ∀ l ∈ d.locations, l ∈ directiveLocations)
    (hrest : Clear outlineBarred rest) (hok : schemaEntry (ts ++ rest) = .ok (e, rest')) :
    (∃ f, e = .directive f) ∧ rest' = rest := by
  obtain ⟨about, declared, hdeclared, rfl⟩ := DirectiveDefinition.exists_of_mem_outline hts
  have hon : ∀ {barred : List Token}, .name "on" ∉ barred → barred ⊆ outlineBarred →
      Clear barred (joinedTokens (.name "on") (.symbol '|') d.locations ++ rest) :=
    fun hbarred hsub => clear_joinedTokens d.locations hbarred (hrest.mono hsub)
  have hrepeatable : Clear [.symbol '('] ((if d.repeatable then [.name "repeatable"] else []) ++
      (joinedTokens (.name "on") (.symbol '|') d.locations ++ rest)) := by
    split
    · exact clear_cons (by simp) _
    · exact hon (by simp) (by simp [outlineBarred, entryBarred])
  simp only [List.append_assoc, List.cons_append] at hok
  rw [schemaEntry_of_described (by decide) (by decide)] at hok
  unfold describedEntry at hok
  rw [bind_ok reads_description, bind_ok (option_cons _ _)] at hok
  simp only [if_true] at hok
  obtain ⟨f, mid, hparts, hpure⟩ := of_bind_ok hok
  cases hpure
  refine ⟨⟨f, rfl⟩, ?_⟩
  unfold directiveParts at hparts
  rw [bind_ok (symbol_cons '@' _), bind_ok (name_cons d.name _)] at hparts
  obtain ⟨as, mid, harguments, hparts⟩ := of_bind_ok hparts
  rw [rest_of_grouped (by decide) shifts_argumentDefinition hdeclared hrepeatable harguments]
    at hparts
  obtain ⟨repeatable, mid, hoption, hparts⟩ := of_bind_ok hparts
  rw [rest_of_reads (reads_repeatable d.repeatable) (hon (by simp) (by simp [outlineBarred]))
    hoption] at hparts
  obtain ⟨_, mid, hkeyword, hparts⟩ := of_bind_ok hparts
  obtain ⟨read, last, hread, hpure⟩ := of_bind_ok hparts
  cases hpure
  exact rest_of_locations hlocations hrest hkeyword hread

/-! ### Reading entries -/

/-- An entry in place of another: the same block, or a definition of the same sort, under the same
name if it is that of a type. -/
inductive SchemaEntry.Alike : SchemaEntry → SchemaEntry → Prop
  | roots (b : RootBlock) : Alike (.roots b) (.roots b)
  | type {d e : Definition} (h : e.name = d.name) : Alike (.type d) (.type e)
  | directive (d e : DirectiveDefinition) : Alike (.directive d) (.directive e)

theorem alike_of_schemaEntry {e f : SchemaEntry} {ts rest rest' : List Token} (hts : ts ∈ e.outline)
    (he : e.Sound) (hrest : Clear outlineBarred rest)
    (hok : schemaEntry (ts ++ rest) = .ok (f, rest')) :
    e.Alike f ∧ (rest' = rest ∨ Stuck rest') := by
  cases e with
  | roots b =>
      obtain rfl : ts = b.tokens := hts
      have hread : schemaEntry (b.tokens ++ rest) = .ok (.roots b, rest) := by
        apply (bind_ok (isNext_cons (.name "schema") _)).trans
        exact reads_schemaBlock b rest (clear_nil rest)
      rw [hread] at hok
      cases hok
      exact ⟨.roots b, .inl rfl⟩
  | type d =>
      obtain ⟨⟨f, rfl, hname⟩, hrest'⟩ := alike_of_type hts hrest hok
      exact ⟨.type hname, hrest'⟩
  | directive d =>
      obtain ⟨⟨f, rfl⟩, hrest'⟩ := alike_of_directive hts he.locations hrest hok
      exact ⟨.directive d f, .inl hrest'⟩
  | extension d => exact absurd hts (Language.notMem_zero ts)

theorem begins_outline {e : SchemaEntry} {ts : List Token} (hts : ts ∈ e.outline) :
    ∃ t more, ts = t :: more ∧ t ∉ outlineBarred := by
  have hdescribed : ∀ about word more, word ∉ ["implements", "on", "repeatable"] →
      ∃ t ts, descriptionTokens about ++ .name word :: more = t :: ts ∧ t ∉ outlineBarred := by
    intro about word more hword
    cases about with
    | none => exact ⟨.name word, more, rfl, by simpa [outlineBarred, entryBarred] using hword⟩
    | some text => exact ⟨.string text, _, rfl, by simp [outlineBarred, entryBarred]⟩
  cases e with
  | roots b =>
      obtain rfl : ts = b.tokens := hts
      exact ⟨.name "schema", _, rfl, by simp [outlineBarred, entryBarred]⟩
  | type d =>
      obtain ⟨about, ds, -, body, -, rfl⟩ := Definition.exists_of_mem_outline hts
      exact hdescribed about d.kind.keyword _ (by cases d.kind <;> decide)
  | directive d =>
      obtain ⟨about, declared, -, rfl⟩ := DirectiveDefinition.exists_of_mem_outline hts
      exact hdescribed about "directive" _ (by decide)
  | extension d => exact absurd hts (Language.notMem_zero ts)

theorem clear_outlines {es : List SchemaEntry} {ts : List Token}
    (hts : ts ∈ (es.map SchemaEntry.outline).prod) : Clear outlineBarred ts := by
  cases es with
  | nil =>
      obtain rfl : ts = [] := hts
      exact clear_end outlineBarred
  | cons e es =>
      obtain ⟨first, hfirst, others, -, rfl⟩ := Language.mem_mul.mp hts
      obtain ⟨t, more, rfl, ht⟩ := begins_outline hfirst
      exact clear_cons ht _

/-- After the first entry no token is left over, as no entry begins with one that is `Stuck`. -/
theorem alike_of_first {e f : SchemaEntry} {es fs : List SchemaEntry} {ts us after : List Token}
    (hts : ts ∈ e.outline) (he : e.Sound) (hus : us ∈ (es.map SchemaEntry.outline).prod)
    (hfirst : schemaEntry (ts ++ us) = .ok (f, after))
    (hothers : many (fun _ => true) schemaEntry after = .ok (fs, []))
    (ih : many (fun _ => true) schemaEntry us = .ok (fs, []) →
      List.Forall₂ SchemaEntry.Alike es fs) :
    List.Forall₂ SchemaEntry.Alike (e :: es) (f :: fs) := by
  obtain ⟨halike, rfl | hstuck⟩ := alike_of_schemaEntry hts he (clear_outlines hus) hfirst
  · exact .cons halike (ih hothers)
  · cases after with
    | nil => rcases hstuck with h | h <;> cases h
    | cons t more =>
        obtain ⟨a, rest, _, hitem, -, -⟩ := of_many_cons rfl hothers
        exact absurd hitem (not_ok_of_stuck hstuck _)

theorem alike_of_many {es fs : List SchemaEntry} {ts : List Token}
    (hts : ts ∈ (es.map SchemaEntry.outline).prod) (hes : ∀ e ∈ es, e.Sound)
    (hok : many (fun _ => true) schemaEntry ts = .ok (fs, [])) :
    List.Forall₂ SchemaEntry.Alike es fs := by
  induction es generalizing ts fs with
  | nil =>
      obtain rfl : ts = [] := hts
      rw [many_nil] at hok
      cases hok
      exact .nil
  | cons e es ih =>
      obtain ⟨first, hfirst, others, hothers, rfl⟩ := Language.mem_mul.mp hts
      obtain ⟨t, more, rfl, -⟩ := begins_outline hfirst
      obtain ⟨f, after, rest, hitem, hmany, rfl⟩ := of_many_cons rfl hok
      exact alike_of_first hfirst (hes e List.mem_cons_self) hothers hitem hmany
        (ih hothers fun x hx => hes x (List.mem_cons_of_mem e hx))

/-- What is read from the `outline`s of entries, of which there is at least one, is `Alike` those
entries. -/
theorem alike_of_schemaText {es fs : List SchemaEntry} {ts : List Token} (hne : es ≠ [])
    (hts : ts ∈ (es.map SchemaEntry.outline).prod) (hes : ∀ e ∈ es, e.Sound)
    (hok : schemaText ts = .ok (fs, [])) : List.Forall₂ SchemaEntry.Alike es fs := by
  obtain ⟨e, es, rfl⟩ := List.exists_cons_of_ne_nil hne
  obtain ⟨first, hfirst, others, hothers, rfl⟩ := Language.mem_mul.mp hts
  unfold schemaText at hok
  obtain ⟨f, after, hitem, hok⟩ := of_bind_ok hok
  obtain ⟨fs, last, hmany, hpure⟩ := of_bind_ok hok
  cases hpure
  exact alike_of_first hfirst (hes e List.mem_cons_self) hothers hitem hmany
    (alike_of_many hothers fun x hx => hes x (List.mem_cons_of_mem e hx))

end Grammar

end QueryBindings

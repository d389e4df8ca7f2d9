import QueryBindings.Grammar.Value
import QueryBindings.Proofs.Grammar.RuleLaws

/-! # The grammar of types

A type is a name, a type in brackets, or one of these with a mark behind it; no type has two marks.
`Derives` is this grammar over tokens, with brackets as deep as one likes.  The tree that derives
tokens names the rule that is used at each level, so it is the derivation itself, as data.  The
reader finds it wherever the brackets fit, and so no tokens have two.

A type expression keeps its mark at the level that it marks, and a tree has it as a level of its
own (`TypeExpr.tree`).  The two have the same levels otherwise, and the same tokens.

Main statements: `typeTree_eq_ok_iff` (what is read is what is derived), `Derives.unique`,
`Derives.tree_typeExpr` with `TypeExpr.typeExpr_tree` (no tree and no expression is lost in the
other), and the two ways to speak of the reader of types (`reads_typeExpr`, `yields_typeExpr`). -/

namespace QueryBindings

open Grammar

def markTokens (mark : Bool) : List Token := if mark then [.symbol '!'] else []

namespace Grammar

open Rule

namespace TypeTree

def isNonNull : TypeTree → Bool
  | named _ => false
  | list _ => false
  | nonNull _ => true

def lists : TypeTree → Nat
  | named _ => 0
  | list element => element.lists + 1
  | nonNull inner => inner.lists

@[simp] theorem lists_marked (t : TypeTree) (mark : Bool) : (t.marked mark).lists = t.lists := by
  cases mark <;> rfl

/-- The grammar of types: a name, a type in brackets, and a mark behind one of these, but not behind
another mark. -/
inductive Derives : TypeTree → List Token → Prop
  | named (n : String) : Derives (.named n) [.name n]
  | list {element : TypeTree} {ts : List Token} (h : Derives element ts) :
      Derives (.list element) (.symbol '[' :: (ts ++ [.symbol ']']))
  | nonNull {inner : TypeTree} {ts : List Token} (h : Derives inner ts)
      (hunmarked : inner.isNonNull = false) : Derives (.nonNull inner) (ts ++ [.symbol '!'])

theorem Derives.marked {t : TypeTree} {ts : List Token} (h : t.Derives ts)
    (hunmarked : t.isNonNull = false) (mark : Bool) :
    (t.marked mark).Derives (ts ++ markTokens mark) := by
  cases mark with
  | true => exact h.nonNull hunmarked
  | false =>
      show t.Derives (ts ++ [])
      rw [List.append_nil]
      exact h

theorem Derives.readable {t : TypeTree} {ts : List Token} (h : t.Derives ts) :
    .unreadable ∉ ts := by
  induction h with
  | named n => simp
  | list h ih => simp [ih]
  | nonNull h hunmarked ih => simp [ih]

theorem Derives.isName_baseName {t : TypeTree} {ts : List Token} (h : t.Derives ts)
    (hnamed : Named ts) : isName t.typeExpr.baseName = true := by
  induction h with
  | named n => exact hnamed n List.mem_cons_self
  | list h ih =>
      refine ih fun text htext => hnamed text ?_
      exact List.mem_cons_of_mem _ (List.mem_append_left _ htext)
  | nonNull h hunmarked ih =>
      rw [typeExpr, TypeExpr.baseName_withNonNull]
      exact ih fun text htext => hnamed text (List.mem_append_left _ htext)

end TypeTree

/-! ### Reading what is derived -/

theorem reads_nonNullMark (mark : Bool) :
    nonNullMark.Reads (markTokens mark) mark [.symbol '!'] := by
  intro rest hrest
  cases mark with
  | true => exact option_cons _ rest
  | false => exact option_of_clear hrest

theorem reads_withMark {unmarked : Rule TypeTree} {ts : List Token} {t : TypeTree}
    (h : unmarked.Reads ts t []) (mark : Bool) :
    (withMark unmarked).Reads (ts ++ markTokens mark) (t.marked mark) [.symbol '!'] := by
  intro rest hrest
  unfold withMark
  rw [List.append_assoc]
  apply (bind_ok (h _ (clear_nil _))).trans
  exact bind_ok (reads_nonNullMark mark rest hrest)

theorem reads_unmarkedName (depth : Nat) (n : String) :
    (unmarkedType depth).Reads [.name n] (.named n) [] := by
  intro rest _
  cases depth with
  | zero => exact bind_ok (name_cons n rest)
  | succ depth =>
      unfold unmarkedType
      apply (bind_ok (option_of_clear (clear_cons (by simp) _))).trans
      exact bind_ok (name_cons n rest)

theorem reads_unmarkedList {depth : Nat} {element : TypeTree} {ts : List Token}
    (h : (typeTree depth).Reads ts element [.symbol '!']) :
    (unmarkedType (depth + 1)).Reads (.symbol '[' :: (ts ++ [.symbol ']'])) (.list element) [] := by
  intro rest _
  unfold unmarkedType
  rw [List.cons_append, List.append_assoc]
  apply (bind_ok (option_cons _ _)).trans
  apply (bind_ok (h (.symbol ']' :: rest) (clear_cons (by simp) rest))).trans
  exact bind_ok (symbol_cons ']' rest)

theorem reads_typeTree_of_unmarked {depth : Nat} {ts : List Token} {t : TypeTree}
    (h : (unmarkedType depth).Reads ts t []) : (typeTree depth).Reads ts t [.symbol '!'] := by
  have hread := reads_withMark h false
  rw [markTokens, if_neg Bool.false_ne_true, List.append_nil] at hread
  exact hread

/-- The tokens of a type are read as its tree if the brackets fit, and without a look at what comes
next if the type has no mark: in this form the statement passes through the rules of the grammar. -/
theorem TypeTree.Derives.reads {t : TypeTree} {ts : List Token} (h : t.Derives ts) {depth : Nat}
    (hdepth : t.lists ≤ depth) :
    (t.isNonNull = false → (unmarkedType depth).Reads ts t []) ∧
      (typeTree depth).Reads ts t [.symbol '!'] := by
  induction h generalizing depth with
  | named n =>
      have hread := reads_unmarkedName depth n
      exact ⟨fun _ => hread, reads_typeTree_of_unmarked hread⟩
  | list h ih =>
      cases depth with
      | zero => exact absurd hdepth (Nat.not_succ_le_zero _)
      | succ depth =>
          have hread := reads_unmarkedList (ih (Nat.le_of_succ_le_succ hdepth)).2
          exact ⟨fun _ => hread, reads_typeTree_of_unmarked hread⟩
  | nonNull h hunmarked ih =>
      have hread := reads_withMark ((ih hdepth).1 hunmarked) true
      exact ⟨fun hfalse => absurd hfalse.symm Bool.false_ne_true, hread⟩

/-! ### Deriving what is read -/

/-- Every result is as `P` says, and derives the tokens that the rule takes. -/
def Finds (rule : Rule TypeTree) (P : TypeTree → Prop) : Prop :=
  ∀ ts t rest, rule ts = .ok (t, rest) → P t ∧ ∃ used, ts = used ++ rest ∧ t.Derives used

theorem finds_withMark {unmarked : Rule TypeTree} {depth : Nat}
    (h : Finds unmarked fun t => t.isNonNull = false ∧ t.lists ≤ depth) :
    Finds (withMark unmarked) fun t => t.lists ≤ depth := by
  intro ts t rest hok
  obtain ⟨inner, mid, hinner, hmarked⟩ := of_bind_ok hok
  obtain ⟨mark, rest', hmark, hresult⟩ := of_bind_ok hmarked
  cases hresult
  obtain ⟨⟨hunmarked, hlists⟩, used, rfl, hderives⟩ := h ts inner mid hinner
  have hfits : (inner.marked mark).lists ≤ depth := by
    rw [TypeTree.lists_marked]
    exact hlists
  refine ⟨hfits, used ++ markTokens mark, ?_, hderives.marked hunmarked mark⟩
  rw [List.append_assoc]
  rcases option_eq_ok hmark with ⟨rfl, rfl⟩ | ⟨rfl, rfl, -⟩
  · rfl
  · rfl

theorem finds_unmarkedName (depth : Nat) :
    Finds (do return .named (← name)) fun t => t.isNonNull = false ∧ t.lists ≤ depth := by
  intro ts t rest hok
  obtain ⟨n, mid, hname, hresult⟩ := of_bind_ok hok
  cases hresult
  exact ⟨⟨rfl, Nat.zero_le depth⟩, [.name n], eq_cons_of_name hname, .named n⟩

theorem finds_unmarkedType (depth : Nat) :
    Finds (unmarkedType depth) fun t => t.isNonNull = false ∧ t.lists ≤ depth := by
  induction depth with
  | zero => exact finds_unmarkedName 0
  | succ depth ih =>
      intro ts t rest hok
      unfold unmarkedType at hok
      obtain ⟨isList, mid, hopen, hrest⟩ := of_bind_ok hok
      rcases option_eq_ok hopen with ⟨rfl, rfl⟩ | ⟨rfl, rfl, -⟩
      · obtain ⟨element, mid', helement, hclose⟩ := of_bind_ok hrest
        obtain ⟨_, _, hsymbol, hresult⟩ := of_bind_ok hclose
        cases hresult
        obtain ⟨hlists, used, rfl, hderives⟩ := finds_withMark ih mid element mid' helement
        refine ⟨⟨rfl, Nat.succ_le_succ hlists⟩, .symbol '[' :: (used ++ [.symbol ']']), ?_,
          .list hderives⟩
        rw [eq_cons_of_token hsymbol, List.cons_append, List.append_assoc]
        rfl
      · exact finds_unmarkedName (depth + 1) _ t rest hrest

/-- `typeTree` takes all tokens exactly if they are those of a type with brackets that fit, and the
result is the tree that derives them. -/
theorem typeTree_eq_ok_iff {depth : Nat} {ts : List Token} {t : TypeTree} :
    typeTree depth ts = .ok (t, []) ↔ t.Derives ts ∧ t.lists ≤ depth := by
  constructor
  · intro hok
    obtain ⟨hlists, used, hused, hderives⟩ := finds_withMark (finds_unmarkedType depth) ts t [] hok
    rw [List.append_nil] at hused
    exact ⟨hused ▸ hderives, hlists⟩
  · rintro ⟨hderives, hlists⟩
    have hread := (hderives.reads hlists).2 [] (clear_end _)
    rw [List.append_nil] at hread
    exact hread

/-- No tokens have two trees: in brackets deep enough for both, `typeTree` would find both. -/
theorem TypeTree.Derives.unique {t u : TypeTree} {ts : List Token} (ht : t.Derives ts)
    (hu : u.Derives ts) : t = u := by
  have hfirst := typeTree_eq_ok_iff.mpr ⟨ht, Nat.le_max_left t.lists u.lists⟩
  have hsecond := typeTree_eq_ok_iff.mpr ⟨hu, Nat.le_max_right t.lists u.lists⟩
  rw [hfirst] at hsecond
  cases hsecond
  rfl

end Grammar

/-! ### Type expressions -/

namespace TypeExpr

def tokens : TypeExpr → List Token
  | named n mark => .name n :: markTokens mark
  | list element mark => .symbol '[' :: (element.tokens ++ .symbol ']' :: markTokens mark)

/-- The base has `isName`, and the lists fit into `depth` levels of brackets. -/
def Legible : Nat → TypeExpr → Prop
  | _, named n _ => isName n = true
  | 0, list _ _ => False
  | depth + 1, list element _ => element.Legible depth

/-- The tree of a type: each mark stands around the level that has it. -/
def tree : TypeExpr → TypeTree
  | named n mark => (TypeTree.named n).marked mark
  | list element mark => (TypeTree.list element.tree).marked mark

theorem typeExpr_tree (t : TypeExpr) : t.tree.typeExpr = t := by
  induction t with
  | named n mark => cases mark <;> rfl
  | list element mark ih =>
      have helement : (TypeTree.list element.tree).typeExpr = list element false := by
        rw [TypeTree.typeExpr, ih]
      cases mark with
      | true => exact congrArg (withNonNull true) helement
      | false => exact helement

theorem derives_tree (t : TypeExpr) : t.tree.Derives t.tokens := by
  induction t with
  | named n mark => exact (TypeTree.Derives.named n).marked rfl mark
  | list element mark ih =>
      have hlist := ih.list.marked rfl mark
      rw [List.cons_append, List.append_assoc] at hlist
      exact hlist

theorem legible_iff {depth : Nat} {t : TypeExpr} :
    t.Legible depth ↔ isName t.baseName = true ∧ t.tree.lists ≤ depth := by
  induction t generalizing depth with
  | named n mark =>
      have hlists : (named n mark).tree.lists = 0 := TypeTree.lists_marked _ mark
      rw [hlists]
      cases depth <;> exact (and_iff_left (Nat.zero_le _)).symm
  | list element mark ih =>
      have hlists : (list element mark).tree.lists = element.tree.lists + 1 :=
        TypeTree.lists_marked _ mark
      rw [hlists]
      cases depth with
      | zero => exact ⟨False.elim, fun h => absurd h.2 (Nat.not_succ_le_zero _)⟩
      | succ depth =>
          rw [Nat.add_le_add_iff_right]
          exact ih

end TypeExpr

namespace Grammar

open Rule

/-- A tree of the grammar is the tree of the type expression that it stands for. -/
theorem TypeTree.Derives.tree_typeExpr {t : TypeTree} {ts : List Token} (h : t.Derives ts) :
    t.typeExpr.tree = t := by
  induction h with
  | named n => rfl
  | list h ih => exact congrArg TypeTree.list ih
  | @nonNull inner ts h hunmarked ih =>
      -- An expression keeps one mark at a level, so this would fail if a tree had two marks there.
      cases inner with
      | named n => rfl
      | list element => exact congrArg TypeTree.nonNull ih
      | nonNull inner => cases hunmarked

theorem reads_typeExpr {depth : Nat} {t : TypeExpr} (h : t.Legible depth) :
    (typeExpr depth).Reads t.tokens t [.symbol '!'] := by
  intro rest hrest
  have hread := (t.derives_tree.reads (TypeExpr.legible_iff.mp h).2).2 rest hrest
  unfold typeExpr
  rw [bind_ok hread, t.typeExpr_tree]
  rfl

theorem yields_typeExpr (depth : Nat) : (typeExpr depth).Yields (TypeExpr.Legible depth) := by
  intro ts hnamed a rest hok
  obtain ⟨t, mid, htree, hresult⟩ := of_bind_ok hok
  cases hresult
  obtain ⟨hlists, used, rfl, hderives⟩ := finds_withMark (finds_unmarkedType depth) ts t _ htree
  have hname := hderives.isName_baseName fun text htext =>
    hnamed text (List.mem_append_left _ htext)
  rw [← hderives.tree_typeExpr] at hlists
  exact ⟨TypeExpr.legible_iff.mpr ⟨hname, hlists⟩, used, rfl, hderives.readable⟩

end Grammar

end QueryBindings

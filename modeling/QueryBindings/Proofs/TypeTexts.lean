import QueryBindings.Proofs.Layout.Parts

/-! # Type texts

The text of a type expression closes each list with a bracket of its own and puts each mark behind
the level that it marks.  Read by the grammar of types, in which a mark is a level around another
one, such a text has one tree: no mark can be taken for that of the level above or below.  So the
expression is found again in its text, and no other one has the same text.

Main statements: `readAll_typeExpr_iff` (any text that is read as a type), `text_unambiguous`. -/

namespace QueryBindings

open Grammar

namespace Grammar

open Rule

/-- The tree derives the tokens of `text`. -/
def TypeTree.DerivesText (t : TypeTree) (text : String) : Prop :=
  t.Derives ((tokens text).tokens.map Prod.fst)

/-- A text is read as a type expression exactly if it is one by the grammar, in brackets that fit;
the expression is the one that the tree of the text stands for. -/
theorem readAll_typeExpr_iff {depth : Nat} {text : String} {t : TypeExpr} :
    readAll (typeExpr depth) text = .ok t ↔
      ∃ tree : TypeTree, tree.DerivesText text ∧ tree.lists ≤ depth ∧ tree.typeExpr = t := by
  rw [readAll_eq_ok]
  unfold TypeTree.DerivesText
  rw [map_fst_tokens]
  constructor
  · intro hok
    obtain ⟨tree, rest, htree, hresult⟩ := of_bind_ok hok
    cases hresult
    obtain ⟨hderives, hlists⟩ := typeTree_eq_ok_iff.mp htree
    exact ⟨tree, hderives, hlists, rfl⟩
  · rintro ⟨tree, hderives, hlists, rfl⟩
    exact bind_ok (typeTree_eq_ok_iff.mpr ⟨hderives, hlists⟩)

end Grammar

namespace TypeExpr

theorem map_fst_tokens_text {t : TypeExpr} (h : isName t.baseName = true) :
    (Grammar.tokens t.text).tokens.map Prod.fst = t.tokens := by
  have hlex : lex t.text.toList = t.tokens := (lexed_text h).lex_eq
  calc (Grammar.tokens t.text).tokens.map Prod.fst
      = upToUnreadable (lex t.text.toList) := map_fst_tokens t.text
    _ = upToUnreadable t.tokens := by rw [hlex]
    _ = t.tokens := upToUnreadable_of_not_mem t.derives_tree.readable

theorem derivesText_text_iff {t : TypeExpr} (h : isName t.baseName = true) {tree : TypeTree} :
    tree.DerivesText t.text ↔ tree = t.tree := by
  unfold TypeTree.DerivesText
  rw [map_fst_tokens_text h]
  constructor
  · exact fun hderives => hderives.unique t.derives_tree
  · rintro rfl
    exact t.derives_tree

/-- **Types in text.**  The text of a type expression on a name has exactly one tree by `Derives`,
which stands for that expression; `typeExpr` reads it as the expression wherever its brackets fit;
and every type expression on a name that has the same text is the same. -/
theorem text_unambiguous {t : TypeExpr} (h : isName t.baseName = true) :
    (∃! tree : TypeTree, tree.DerivesText t.text) ∧
    (∀ tree : TypeTree, tree.DerivesText t.text → tree.typeExpr = t) ∧
    (∀ depth, readAll (typeExpr depth) t.text = .ok t ↔ t.Legible depth) ∧
    ∀ u : TypeExpr, isName u.baseName = true → u.text = t.text → u = t := by
  have hone : t.tree.DerivesText t.text := (derivesText_text_iff h).mpr rfl
  have hback : ∀ tree : TypeTree, tree.DerivesText t.text → tree.typeExpr = t := by
    intro tree htree
    rw [(derivesText_text_iff h).mp htree, t.typeExpr_tree]
  refine ⟨⟨t.tree, hone, fun tree => (derivesText_text_iff h).mp⟩, hback, fun depth => ?_,
    fun u hu htext => ?_⟩
  · rw [readAll_typeExpr_iff, legible_iff]
    constructor
    · rintro ⟨tree, htree, hlists, -⟩
      rw [(derivesText_text_iff h).mp htree] at hlists
      exact ⟨h, hlists⟩
    · exact fun hlegible => ⟨t.tree, hone, hlegible.2, t.typeExpr_tree⟩
  · have hother : u.tree.DerivesText t.text := htext ▸ (derivesText_text_iff hu).mpr rfl
    rw [← hback u.tree hother, u.typeExpr_tree]

/-- `[[Int!]]!`, and how moving the inner mark outwards shows. -/
theorem text_unambiguous_nestedMarks :
    let t : TypeExpr := list (list (named "Int" true) false) true
    let u : TypeExpr := list (list (named "Int" false) true) true
    isName t.baseName = true ∧ t.text = "[[Int!]]!" ∧
      (∃! tree : TypeTree, tree.DerivesText t.text) ∧
      (∀ tree : TypeTree, tree.DerivesText t.text → tree.typeExpr = t) ∧
      (∀ depth, readAll (typeExpr depth) t.text = .ok t ↔ t.Legible depth) ∧
      isName u.baseName = true ∧ u.text ≠ t.text := by
  intro t u
  have ht : isName t.baseName = true := by decide
  have hu : isName u.baseName = true := by decide
  obtain ⟨hone, hback, hread, hsame⟩ := text_unambiguous ht
  exact ⟨ht, rfl, hone, hback, hread, hu, fun htext => absurd (hsame u hu htext) (by decide)⟩

/-- Where the base is no name, the end of it may pass for a mark. -/
example : (named "Int!" false).text = (named "Int" true).text := by decide

end TypeExpr

end QueryBindings

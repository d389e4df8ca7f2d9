import Mathlib.Data.List.Infix
import Mathlib.Order.Bounds.Basic
import QueryBindings.Declaration

/-! # Raw strings

The text of an operation stands in the source as a raw string.  A raw string begins with `r`,
number signs and a quote, and goes up to the first quote with as many number signs behind it
(`rawLiteral?`); nothing in it is escaped.

A fence that begins inside the text cannot end outside of it: the character behind the text is a
quote, and a fence has only one.  So a text can stand in a raw string exactly if it does not hold
the fence, and `longestFence` tells how many signs that takes.

Main statements: `fence_infix_iff` (the fences that a text holds), `upToFence?_append` (a text ends
where its literal does) and `rawString_isLeast`. -/

namespace QueryBindings

/-! ### The rule of raw strings -/

/-- What ends a raw string: a quote and number signs. -/
def rawFence (signs : Nat) : List Char := '"' :: List.replicate signs '#'

/-- The characters before the first fence, and what follows that fence. -/
def upToFence? (fence cs : List Char) : Option (List Char × List Char) :=
  match fence.isPrefixOf? cs with
  | some behind => some ([], behind)
  | none =>
    match cs with
    | [] => none
    | c :: rest => (upToFence? fence rest).map (.map (c :: ·) id)

/-- The content of the raw string with which a source text begins, and what follows it. -/
def rawLiteral? : List Char → Option (List Char × List Char)
  | 'r' :: cs =>
    match cs.dropWhile (· = '#') with
    | '"' :: body => upToFence? (rawFence (cs.takeWhile (· = '#')).length) body
    | _ => none
  | _ => none

/-- `text` between fences of so many number signs. -/
def rawStringWith (signs : Nat) (text : String) : String :=
  let fence := String.ofList (List.replicate signs '#')
  "r" ++ fence ++ "\"" ++ text ++ "\"" ++ fence

theorem rawString_eq (text : String) :
    rawString text = rawStringWith (longestFence text.toList + 1) text := rfl

/-! ### Fences in a text -/

theorem replicate_prefix_iff {n : Nat} {cs : List Char} :
    List.replicate n '#' <+: cs ↔ n ≤ (cs.takeWhile (· = '#')).length := by
  induction cs generalizing n with
  | nil => simp
  | cons c cs ih =>
      cases n with
      | zero => simp
      | succ n =>
          rw [List.replicate_succ, List.cons_prefix_cons, ih, List.takeWhile_cons]
          by_cases hc : c = '#'
          · simp [hc]
          · simp [hc, Ne.symm hc]

theorem takeWhile_append_quote (cs rest : List Char) :
    (cs ++ '"' :: rest).takeWhile (· = '#') = cs.takeWhile (· = '#') := by
  induction cs with
  | nil => rfl
  | cons c cs ih => rw [List.cons_append, List.takeWhile_cons, List.takeWhile_cons, ih]

theorem rawFence_prefix_iff {n : Nat} {c : Char} {cs : List Char} :
    rawFence n <+: c :: cs ↔ c = '"' ∧ n ≤ (cs.takeWhile (· = '#')).length := by
  rw [rawFence, List.cons_prefix_cons, replicate_prefix_iff, eq_comm]

/-- A text holds the fence exactly if `longestFence` finds so many signs behind a quote. -/
theorem fence_infix_iff {n : Nat} (hn : 0 < n) (cs : List Char) :
    rawFence n <:+: cs ↔ n ≤ longestFence cs := by
  induction cs with
  | nil => simp [rawFence, longestFence]; omega
  | cons c cs ih =>
      rw [List.infix_cons_iff, rawFence_prefix_iff, ih, longestFence]
      by_cases hc : c = '"'
      · simp [hc]
      · simp [hc]

/-! ### Reading up to a fence -/

/-- A text that does not hold the fence is read to its end. -/
theorem upToFence?_append {n : Nat} {text : List Char} (h : longestFence text < n)
    (behind : List Char) :
    upToFence? (rawFence n) (text ++ rawFence n ++ behind) = some (text, behind) := by
  induction text with
  | nil =>
      have hfound : (rawFence n).isPrefixOf? (rawFence n ++ behind) = some behind := by
        rw [List.isPrefixOf?_eq_some_iff_append_eq]
      unfold upToFence?
      rw [List.nil_append, hfound]
  | cons c text ih =>
      rw [longestFence, Nat.max_lt] at h
      have hnone : (rawFence n).isPrefixOf? (c :: (text ++ rawFence n ++ behind)) = none := by
        rw [← Option.not_isSome_iff_eq_none, Option.isSome_iff_exists]
        rintro ⟨rest, hrest⟩
        rw [List.isPrefixOf?_eq_some_iff_append_eq] at hrest
        have hprefix : rawFence n <+: c :: (text ++ rawFence n ++ behind) := ⟨rest, hrest⟩
        rw [rawFence_prefix_iff, List.append_assoc, rawFence, List.cons_append,
          takeWhile_append_quote] at hprefix
        rw [if_pos hprefix.1] at h
        omega
      rw [List.cons_append, List.cons_append, upToFence?, hnone]
      dsimp only
      rw [ih h.2]
      rfl

theorem exists_upToFence?_of_infix {fence text : List Char} (hne : fence ≠ [])
    (h : fence <:+: text) (tail : List Char) : ∃ content behind,
      upToFence? fence (text ++ tail) = some (content, behind) ∧
        content.length < text.length := by
  induction text with
  | nil => exact absurd (List.infix_nil.mp h) hne
  | cons c text ih =>
      rw [List.cons_append, upToFence?]
      cases hfound : fence.isPrefixOf? (c :: (text ++ tail)) with
      | some behind => exact ⟨[], behind, rfl, Nat.succ_pos _⟩
      | none =>
          rcases List.infix_cons_iff.mp h with ⟨rest, hrest⟩ | h
          · have hsome : fence.isPrefixOf? (c :: (text ++ tail)) = some (rest ++ tail) := by
              rw [List.isPrefixOf?_eq_some_iff_append_eq, ← List.append_assoc, hrest]
              rfl
            rw [hsome] at hfound
            cases hfound
          · obtain ⟨content, behind, hcontent, hlt⟩ := ih h
            refine ⟨c :: content, behind, ?_, Nat.succ_lt_succ hlt⟩
            dsimp only
            rw [hcontent]
            rfl

/-! ### Reading literals -/

/-- The opening of a literal tells how the fence at its end looks. -/
theorem rawLiteral?_rawStringWith (signs : Nat) (text : String) (behind : List Char) :
    rawLiteral? ((rawStringWith signs text).toList ++ behind) =
      upToFence? (rawFence signs) (text.toList ++ rawFence signs ++ behind) := by
  have hopen : (rawStringWith signs text).toList ++ behind =
      'r' :: (List.replicate signs '#' ++ '"' :: (text.toList ++ rawFence signs ++ behind)) := by
    simp [rawStringWith, rawFence, String.toList_append]
  have hsigns : ∀ c ∈ List.replicate signs '#', decide (c = '#') = true := by
    intro c hc
    rw [(List.mem_replicate.mp hc).2]
    rfl
  rw [hopen, rawLiteral?, List.dropWhile_append_of_pos hsigns,
    List.takeWhile_append_of_pos hsigns]
  simp

/-- A fence of at least one sign serves exactly if the text does not hold it. -/
theorem rawLiteral?_eq_some_iff {signs : Nat} (hsigns : 0 < signs) (text : String) :
    rawLiteral? (rawStringWith signs text).toList = some (text.toList, []) ↔
      longestFence text.toList < signs := by
  have hread := rawLiteral?_rawStringWith signs text []
  rw [List.append_nil] at hread
  rw [hread]
  constructor
  · intro h
    by_contra hle
    rw [not_lt, ← fence_infix_iff hsigns] at hle
    have hne : rawFence signs ≠ [] := List.cons_ne_nil _ _
    obtain ⟨content, behind, hcontent, hlt⟩ :=
      exists_upToFence?_of_infix hne hle (rawFence signs)
    rw [List.append_nil, hcontent] at h
    cases h
    exact absurd hlt (lt_irrefl _)
  · intro h
    exact upToFence?_append h []

/-! ### The text of an operation -/

def queryConstant : String := "    const QUERY: &'static str = "

theorem exists_queryConstant (item name text input response : String) : ∃ before behind,
    (Declaration.operation item name text input response).text =
      before ++ queryConstant ++ rawString text ++ ";\n" ++ behind := by
  unfold Declaration.text
  refine ⟨"pub struct " ++ item ++ ";\n\n" ++ "impl gqlcodegen::Operation for " ++ item ++
      " \x7b\n", "    const NAME: &'static str = \"" ++ name ++ "\";\n" ++ "    type Variables = " ++
      input ++ ";\n" ++ "    type Response = " ++ response ++ ";\n" ++ closing, ?_⟩
  dsimp only
  simp only [String.append_assoc]
  rfl

/-- **Raw strings.**  Whatever stands behind `rawString text`, `rawLiteral?` reads `text` from it up
to its end.  The literal has the least number of signs, but for none at all, with which that is so;
it is the first number with which `text` does not hold the fence.  So the text of an operation is
all that its `QUERY` holds, whatever is written in it. -/
theorem rawString_isLeast (text : String) :
    (∀ behind, rawLiteral? ((rawString text).toList ++ behind) = some (text.toList, behind)) ∧
    (∃ signs, rawString text = rawStringWith signs text ∧
      IsLeast {n | 0 < n ∧
        rawLiteral? (rawStringWith n text).toList = some (text.toList, [])} signs ∧
      IsLeast {n | 0 < n ∧ ¬ rawFence n <:+: text.toList} signs) ∧
    ∀ item name input response, ∃ before behind,
      (Declaration.operation item name text input response).text =
        before ++ queryConstant ++ rawString text ++ ";\n" ++ behind ∧
      rawLiteral? (rawString text ++ ";\n" ++ behind).toList =
        some (text.toList, (";\n" ++ behind).toList) := by
  have hread : ∀ behind,
      rawLiteral? ((rawString text).toList ++ behind) = some (text.toList, behind) := by
    intro behind
    rw [rawString_eq, rawLiteral?_rawStringWith]
    exact upToFence?_append (Nat.lt_succ_self _) behind
  have hserves : {n | 0 < n ∧ rawLiteral? (rawStringWith n text).toList = some (text.toList, [])} =
      {n | 0 < n ∧ longestFence text.toList < n} :=
    Set.ext fun n => and_congr_right fun hn => rawLiteral?_eq_some_iff hn text
  have hfree : {n | 0 < n ∧ ¬ rawFence n <:+: text.toList} =
      {n | 0 < n ∧ longestFence text.toList < n} :=
    Set.ext fun n => and_congr_right fun hn => by rw [fence_infix_iff hn, not_le]
  have hleast : IsLeast {n | 0 < n ∧ longestFence text.toList < n}
      (longestFence text.toList + 1) :=
    ⟨⟨Nat.succ_pos _, Nat.lt_succ_self _⟩, fun n hn => hn.2⟩
  refine ⟨hread, ⟨_, rawString_eq text, hserves ▸ hleast, hfree ▸ hleast⟩, ?_⟩
  intro item name input response
  obtain ⟨before, behind, hdeclaration⟩ := exists_queryConstant item name text input response
  refine ⟨before, behind, hdeclaration, ?_⟩
  rw [String.append_assoc, String.toList_append]
  exact hread _

example : rawString "say \"#hi\"\"" = "r##\"say \"#hi\"\"\"##" := by decide

end QueryBindings

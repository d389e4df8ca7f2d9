import QueryBindings.Proofs.Grammar.Selections
import QueryBindings.Proofs.Grammar.TypeTrees

/-! # Reading documents

The tokens of operations and fragments in the order of their canonical layout.

Main statements: `reads_document` (a legible document is read from its tokens) and
`yields_document` (a document that is read is legible if its values read back). -/

namespace QueryBindings

open Grammar

/-! ### Variables -/

namespace VariableDefinition

def tokens (v : VariableDefinition) : List Token :=
  .symbol '$' :: .name v.name :: .symbol ':' :: (v.type.tokens ++ defaultTokens v.defaultValue)

/-- Declared in parentheses, with one level of brackets less. -/
def Legible : Nat → VariableDefinition → Prop
  | 0, _ => False
  | depth + 1, v => isName v.name = true ∧ v.type.Legible depth ∧
      ∀ text, v.defaultValue = some text → Grammar.Legible false depth text

/-- The default value reads back, if there is one. -/
def ReadsBack (v : VariableDefinition) : Prop :=
  ∀ text, v.defaultValue = some text → Grammar.ReadsBack text

end VariableDefinition

/-- Declared variables in parentheses; nothing if there are none. -/
def variableTokens (parameters : List VariableDefinition) : List Token :=
  if parameters.isEmpty then []
  else .symbol '(' :: (parameters.flatMap VariableDefinition.tokens ++ [.symbol ')'])

/-! ### Operations and fragments -/

def nameTokens (name : Option String) : List Token := name.toList.map .name

namespace Operation

/-- The tokens behind the word that opens an operation. -/
def tailTokens (o : Operation) : List Token :=
  nameTokens o.name ++ (variableTokens o.parameters ++
    (o.directives.flatMap Directive.tokens ++ bracedTokens o.selections.tokens))

def tokens (o : Operation) : List Token := .name o.kind.keyword :: o.tailTokens

/-- `o` without aliases that equal the name of their field. -/
def withoutIdleAliases (o : Operation) : Operation :=
  { o with selections := o.selections.withoutIdleAliases }

/-- Every part fits its place, and something is selected. -/
structure Legible (o : Operation) : Prop where
  name : ∀ n, o.name = some n → isName n = true
  parameters : ∀ v ∈ o.parameters, v.Legible nestingLimit
  directives : ∀ d ∈ o.directives, d.Legible true nestingLimit
  selected : o.selections ≠ .nil
  selections : ∃ d, nestingLimit = d + 1 ∧ o.selections.Legible d

/-- All values read back. -/
def ReadsBack (o : Operation) : Prop :=
  (∀ v ∈ o.parameters, v.ReadsBack) ∧ (∀ d ∈ o.directives, d.ReadsBack) ∧ o.selections.ReadsBack

end Operation

namespace Fragment

def tailTokens (f : Fragment) : List Token :=
  .name f.name :: .name "on" :: .name f.condition ::
    (f.directives.flatMap Directive.tokens ++ bracedTokens f.selections.tokens)

def tokens (f : Fragment) : List Token := .name "fragment" :: f.tailTokens

/-- `f` without aliases that equal the name of their field. -/
def withoutIdleAliases (f : Fragment) : Fragment :=
  { f with selections := f.selections.withoutIdleAliases }

/-- As `Operation.Legible`. -/
structure Legible (f : Fragment) : Prop where
  name : isName f.name = true
  condition : isName f.condition = true
  directives : ∀ d ∈ f.directives, d.Legible true nestingLimit
  selected : f.selections ≠ .nil
  selections : ∃ d, nestingLimit = d + 1 ∧ f.selections.Legible d

def ReadsBack (f : Fragment) : Prop :=
  (∀ d ∈ f.directives, d.ReadsBack) ∧ f.selections.ReadsBack

end Fragment

namespace Document

/-- The definitions, each as a document of its own. -/
def definitions (d : Document) : List Document :=
  d.operations.map (⟨[·], []⟩) ++ d.fragments.map (⟨[], [·]⟩)

def tokens (d : Document) : List Token :=
  d.operations.flatMap Operation.tokens ++ d.fragments.flatMap Fragment.tokens

def withoutIdleAliases (d : Document) : Document :=
  ⟨d.operations.map Operation.withoutIdleAliases, d.fragments.map Fragment.withoutIdleAliases⟩

/-- Every operation and fragment is `Legible`, and there is one. -/
structure Legible (d : Document) : Prop where
  nonempty : d.operations ≠ [] ∨ d.fragments ≠ []
  operations : ∀ o ∈ d.operations, o.Legible
  fragments : ∀ f ∈ d.fragments, f.Legible

/-- The text of every value in the document reads back. -/
def ReadsBack (d : Document) : Prop :=
  (∀ o ∈ d.operations, o.ReadsBack) ∧ ∀ f ∈ d.fragments, f.ReadsBack

theorem definitions_eq_nil_iff (d : Document) :
    d.definitions = [] ↔ d.operations = [] ∧ d.fragments = [] := by
  simp [definitions]

theorem tokens_eq_flatMap_definitions (d : Document) :
    d.tokens = d.definitions.flatMap tokens := by
  unfold definitions
  rw [List.flatMap_append, List.flatMap_map, List.flatMap_map]
  simp [tokens]

theorem merge_eq (documents : List Document) :
    merge documents = ⟨documents.flatMap operations, documents.flatMap fragments⟩ := by
  have hfold : ∀ start : Document, documents.foldl append start =
      ⟨start.operations ++ documents.flatMap operations,
        start.fragments ++ documents.flatMap fragments⟩ := by
    induction documents with
    | nil =>
        intro start
        simp
    | cons d documents ih =>
        intro start
        rw [List.foldl_cons, ih]
        simp [append]
  exact hfold empty

theorem merge_definitions (d : Document) :
    merge (d.definitions.map withoutIdleAliases) = d.withoutIdleAliases := by
  have hoperations : d.fragments.flatMap (fun _ => ([] : List Operation)) = [] :=
    List.flatMap_eq_nil_iff.mpr fun _ _ => rfl
  have hfragments : d.operations.flatMap (fun _ => ([] : List Fragment)) = [] :=
    List.flatMap_eq_nil_iff.mpr fun _ _ => rfl
  rw [merge_eq, definitions, List.map_append, List.map_map, List.map_map, List.flatMap_append,
    List.flatMap_append, List.flatMap_map, List.flatMap_map, List.flatMap_map, List.flatMap_map]
  show Document.mk (d.operations.flatMap (fun o => [o.withoutIdleAliases]) ++
      d.fragments.flatMap fun _ => []) (d.operations.flatMap (fun _ => []) ++
      d.fragments.flatMap fun f => [f.withoutIdleAliases]) = d.withoutIdleAliases
  rw [hoperations, hfragments, ← List.map_eq_flatMap, ← List.map_eq_flatMap, List.append_nil,
    List.nil_append]
  rfl

end Document

namespace Grammar

open Rule

/-! ### Reading legible documents -/

theorem reads_variableDefinition {depth : Nat} {v : VariableDefinition}
    (h : v.Legible (depth + 1)) :
    (variableDefinition depth).Reads v.tokens v [.symbol '!', .symbol '='] := by
  obtain ⟨-, htype, hdefault⟩ := h
  intro rest hrest
  have hmark : Clear [.symbol '!'] (defaultTokens v.defaultValue ++ rest) :=
    clear_defaultTokens _ (by simp) (hrest.mono (by simp))
  unfold variableDefinition VariableDefinition.tokens
  simp only [List.cons_append, List.append_assoc]
  apply (bind_ok (symbol_cons '$' _)).trans
  apply (bind_ok (name_cons v.name _)).trans
  apply (bind_ok (symbol_cons ':' _)).trans
  apply (bind_ok (reads_typeExpr htype _ hmark)).trans
  exact bind_ok (reads_defaultValue hdefault rest (hrest.mono (by simp)))

theorem reads_variableDefinitions {depth : Nat} {vs : List VariableDefinition}
    (h : ∀ v ∈ vs, v.Legible depth) :
    (variableDefinitions depth).Reads (variableTokens vs) vs [.symbol '('] := by
  intro rest hrest
  unfold variableDefinitions
  cases vs with
  | nil => exact bind_ok (isNext_of_clear hrest)
  | cons first others =>
      cases depth with
      | zero => exact (h first List.mem_cons_self).elim
      | succ depth =>
          have hread : ∀ v ∈ first :: others, (variableDefinition depth).Reads v.tokens (id v)
              [.symbol '!', .symbol '='] := fun v hv => reads_variableDefinition (h v hv)
          have hlist : (someUntil ')' _).Reads _ ((first :: others).map id) [] :=
            reads_someUntil (fun v _ => ⟨.symbol '$', _, rfl, by simp, by simp⟩) hread (by simp)
          rw [List.map_id] at hlist
          unfold bracketed
          apply (bind_ok (isNext_cons (.symbol '(') _)).trans
          apply (bind_ok (symbol_cons '(' _)).trans
          exact hlist rest (clear_nil rest)

theorem clear_selections {barred : List Token} {s : SelectionSet} (hne : s ≠ .nil)
    (h : .symbol '\x7b' ∉ barred) (rest : List Token) :
    Clear barred (bracedTokens s.tokens ++ rest) := by
  rw [SelectionSet.bracedTokens_tokens hne]
  exact clear_cons h _

theorem begins_operation {o : Operation} (hne : o.selections ≠ .nil) (rest : List Token) :
    ∃ c more, variableTokens o.parameters ++ (o.directives.flatMap Directive.tokens ++
      (bracedTokens o.selections.tokens ++ rest)) = .symbol c :: more := by
  rw [SelectionSet.bracedTokens_tokens hne]
  unfold variableTokens
  split
  · cases o.directives with
    | nil => exact ⟨'\x7b', _, rfl⟩
    | cons d ds => exact ⟨'@', _, rfl⟩
  · exact ⟨'(', _, rfl⟩

theorem reads_operation {o : Operation} (h : o.Legible) :
    (operation o.kind).Reads o.tailTokens o.withoutIdleAliases [] := by
  intro rest hrest
  obtain ⟨d, hlimit, hselections⟩ := h.selections
  have hset := reads_selectionSet h.selected hselections rest (clear_nil rest)
  rw [← hlimit] at hset
  have hdirectives := reads_directives h.directives (bracedTokens o.selections.tokens ++ rest)
    (clear_selections h.selected (by simp) rest)
  have hvariables := reads_variableDefinitions h.parameters
    (o.directives.flatMap Directive.tokens ++ (bracedTokens o.selections.tokens ++ rest))
    (clear_directiveTokens _ (by simp) (clear_selections h.selected (by simp) rest))
  unfold operation Operation.tailTokens
  simp only [List.append_assoc]
  cases hname : o.name with
  | some n =>
      have ho : o.withoutIdleAliases = ⟨o.kind, some n, o.parameters, o.directives,
          o.selections.withoutIdleAliases⟩ := by
        rw [← hname]
        rfl
      rw [ho]
      apply (bind_ok (peek_of_eq_cons rfl)).trans
      apply (bind_ok (map_ok (name_cons n _))).trans
      apply (bind_ok hvariables).trans
      apply (bind_ok hdirectives).trans
      exact bind_ok hset
  | none =>
      have ho : o.withoutIdleAliases = ⟨o.kind, none, o.parameters, o.directives,
          o.selections.withoutIdleAliases⟩ := by
        rw [← hname]
        rfl
      obtain ⟨c, more, hnext⟩ := begins_operation h.selected rest
      rw [ho]
      apply (bind_ok (peek_of_eq_cons hnext)).trans
      apply (bind_ok (pure_ok none _)).trans
      apply (bind_ok hvariables).trans
      apply (bind_ok hdirectives).trans
      exact bind_ok hset

theorem reads_fragment {f : Fragment} (h : f.Legible) :
    fragment.Reads f.tailTokens f.withoutIdleAliases [] := by
  intro rest hrest
  obtain ⟨d, hlimit, hselections⟩ := h.selections
  have hset := reads_selectionSet h.selected hselections rest (clear_nil rest)
  rw [← hlimit] at hset
  have hdirectives := reads_directives h.directives (bracedTokens f.selections.tokens ++ rest)
    (clear_selections h.selected (by simp) rest)
  unfold fragment Fragment.tailTokens
  simp only [List.cons_append, List.append_assoc]
  apply (bind_ok (name_cons f.name _)).trans
  apply (bind_ok (keyword_cons "on" _)).trans
  apply (bind_ok (name_cons f.condition _)).trans
  apply (bind_ok hdirectives).trans
  exact bind_ok hset

theorem reads_definition_operation {o : Operation} (h : o.Legible) :
    executableDefinition.Reads o.tokens ⟨[o.withoutIdleAliases], []⟩ [] := by
  intro rest hrest
  have hread := reads_operation h rest hrest
  unfold executableDefinition Operation.tokens
  rw [List.cons_append]
  apply (bind_ok (isNext_of_clear (clear_cons (by simp) _))).trans
  cases hkind : o.kind with
  | query =>
      rw [hkind] at hread
      apply (bind_ok (option_cons (.name "query") _)).trans
      exact bind_ok hread
  | mutation =>
      rw [hkind] at hread
      apply (bind_ok (option_of_clear (clear_cons (by decide) _))).trans
      apply (bind_ok (option_cons (.name "mutation") _)).trans
      exact bind_ok hread
  | subscription =>
      rw [hkind] at hread
      apply (bind_ok (option_of_clear (clear_cons (by decide) _))).trans
      apply (bind_ok (option_of_clear (clear_cons (by decide) _))).trans
      apply (bind_ok (option_cons (.name "subscription") _)).trans
      exact bind_ok hread

theorem reads_definition_fragment {f : Fragment} (h : f.Legible) :
    executableDefinition.Reads f.tokens ⟨[], [f.withoutIdleAliases]⟩ [] := by
  intro rest hrest
  unfold executableDefinition Fragment.tokens
  rw [List.cons_append]
  apply (bind_ok (isNext_of_clear (clear_cons (by simp) _))).trans
  apply (bind_ok (option_of_clear (clear_cons (by decide) _))).trans
  apply (bind_ok (option_of_clear (clear_cons (by decide) _))).trans
  apply (bind_ok (option_of_clear (clear_cons (by decide) _))).trans
  apply (bind_ok (keyword_cons "fragment" _)).trans
  exact bind_ok (reads_fragment h rest hrest)

theorem reads_definition {d e : Document} (h : d.Legible) (he : e ∈ d.definitions) :
    executableDefinition.Reads e.tokens e.withoutIdleAliases [] := by
  unfold Document.definitions at he
  rcases List.mem_append.mp he with he | he
  · obtain ⟨o, ho, rfl⟩ := List.mem_map.mp he
    have hread := reads_definition_operation (h.operations o ho)
    simpa [Document.tokens, Document.withoutIdleAliases] using hread
  · obtain ⟨f, hf, rfl⟩ := List.mem_map.mp he
    have hread := reads_definition_fragment (h.fragments f hf)
    simpa [Document.tokens, Document.withoutIdleAliases] using hread

theorem tokens_definition {d e : Document} (he : e ∈ d.definitions) :
    ∃ t ts, e.tokens = t :: ts := by
  unfold Document.definitions at he
  rcases List.mem_append.mp he with he | he
  · obtain ⟨o, -, rfl⟩ := List.mem_map.mp he
    exact ⟨_, _, rfl⟩
  · obtain ⟨f, -, rfl⟩ := List.mem_map.mp he
    exact ⟨_, _, rfl⟩

/-- A document that is `Legible` is read from its tokens, without its idle aliases. -/
theorem reads_document {d : Document} (h : d.Legible) :
    executableDocument d.tokens = .ok (d.withoutIdleAliases, []) := by
  have hne : d.definitions ≠ [] := by
    intro hnil
    rw [d.definitions_eq_nil_iff] at hnil
    exact h.nonempty.elim (· hnil.1) (· hnil.2)
  obtain ⟨first, others, hdefinitions⟩ := List.exists_cons_of_ne_nil hne
  have hread : ∀ e ∈ first :: others,
      executableDefinition.Reads e.tokens e.withoutIdleAliases [] := by
    rw [← hdefinitions]
    exact fun e he => reads_definition h he
  have hstart : ∀ e ∈ others, ∃ t ts, e.tokens = t :: ts ∧ true = true ∧
      t ∉ ([] : List Token) := by
    intro e he
    obtain ⟨t, ts, htokens⟩ := tokens_definition
      (show e ∈ d.definitions from hdefinitions ▸ List.mem_cons_of_mem first he)
    exact ⟨t, ts, htokens, rfl, List.not_mem_nil⟩
  have hothers : many (fun _ => true) executableDefinition (others.flatMap Document.tokens ++ []) =
      .ok (others.map Document.withoutIdleAliases, []) :=
    reads_many hstart (fun e he => hread e (List.mem_cons_of_mem first he)) nofun (clear_nil [])
  rw [List.append_nil] at hothers
  rw [d.tokens_eq_flatMap_definitions, ← d.merge_definitions, hdefinitions, List.flatMap_cons]
  unfold executableDocument
  apply (bind_ok (hread first List.mem_cons_self _ (clear_nil _))).trans
  exact bind_ok hothers

/-! ### Legibility of documents -/

theorem yields_variableDefinition {depth : Nat} (hdepth : depth ≤ nestingLimit) :
    (variableDefinition depth).Yields fun v => v.ReadsBack → v.Legible (depth + 1) := by
  unfold variableDefinition
  refine Yields.bind (yields_symbol '$') fun _ _ => ?_
  refine Yields.bind yields_name fun n hn => ?_
  refine Yields.bind (yields_symbol ':') fun _ _ => ?_
  refine Yields.bind (yields_typeExpr depth) fun type htype => ?_
  refine Yields.bind (yields_defaultValue hdepth) fun given hgiven => ?_
  exact yields_pure fun hback => ⟨hn, htype, fun text htext => hgiven text htext (hback text htext)⟩

theorem yields_variableDefinitions {depth : Nat} (hdepth : depth ≤ nestingLimit) :
    (variableDefinitions depth).Yields fun vs => ∀ v ∈ vs, v.ReadsBack → v.Legible depth := by
  unfold variableDefinitions
  refine Yields.bind (yields_isNext _) fun isOpen _ => ?_
  split
  · cases depth with
    | zero => exact yields_fail
    | succ depth =>
        unfold bracketed
        refine Yields.bind (yields_symbol '(') fun _ _ => ?_
        exact (yields_someUntil (yields_variableDefinition (Nat.le_of_succ_le hdepth))).mono
          fun vs hvs => hvs.2
  · exact yields_pure (by simp)

theorem yields_operation (kind : OperationKind) :
    (operation kind).Yields fun o => o.ReadsBack → o.Legible := by
  have htail : ∀ n : Option String, (∀ text, n = some text → isName text = true) → Yields (do
      let declared ← variableDefinitions nestingLimit
      let applied ← directives true nestingLimit
      return (⟨kind, n, declared, applied, ← selectionSet nestingLimit⟩ : Operation))
      fun o => o.ReadsBack → o.Legible := by
    intro n hn
    refine Yields.bind (yields_variableDefinitions (Nat.le_refl _)) fun declared hdeclared => ?_
    refine Yields.bind (yields_directives true (Nat.le_refl _)) fun applied happlied => ?_
    refine Yields.bind (yields_selectionSet (Nat.le_refl _)) fun s hs => ?_
    exact yields_pure fun hback => ⟨hn, fun v hv => hdeclared v hv (hback.1 v hv),
      fun d hd => happlied d hd (hback.2.1 d hd), hs.1, hs.2 hback.2.2⟩
  unfold operation
  refine Yields.bind yields_peek fun next _ => ?_
  split
  · refine Yields.bind (yields_name.map fun n hn => ⟨n, rfl, hn⟩ :
      Yields _ fun name => ∃ n, name = some n ∧ isName n = true) ?_
    rintro _ ⟨n, rfl, hn⟩
    apply htail (some n)
    rintro _ ⟨⟩
    exact hn
  · refine Yields.bind (yields_pure rfl : Yields _ fun name => name = none) ?_
    rintro _ rfl
    exact htail none nofun

theorem yields_fragment : fragment.Yields fun f => f.ReadsBack → f.Legible := by
  unfold fragment
  refine Yields.bind yields_name fun n hn => ?_
  refine Yields.bind (yields_keyword "on") fun _ _ => ?_
  refine Yields.bind yields_name fun c hc => ?_
  refine Yields.bind (yields_directives true (Nat.le_refl _)) fun applied happlied => ?_
  refine Yields.bind (yields_selectionSet (Nat.le_refl _)) fun s hs => ?_
  exact yields_pure fun hback =>
    ⟨hn, hc, fun d hd => happlied d hd (hback.1 d hd), hs.1, hs.2 hback.2⟩

/-- What is read as a definition is one, and is `Legible` if its values read back. -/
def DefinitionYield (d : Document) : Prop :=
  (d.operations ≠ [] ∨ d.fragments ≠ []) ∧ (∀ o ∈ d.operations, o.ReadsBack → o.Legible) ∧
    ∀ f ∈ d.fragments, f.ReadsBack → f.Legible

theorem definitionYield_operation {o : Operation} (h : o.ReadsBack → o.Legible) :
    DefinitionYield ⟨[o], []⟩ := by
  refine ⟨.inl (by simp), ?_, by simp⟩
  simpa using h

theorem yields_executableDefinition : executableDefinition.Yields DefinitionYield := by
  have hoperation : ∀ kind, Yields (do return ⟨[← operation kind], []⟩) DefinitionYield :=
    fun kind => Yields.bind (yields_operation kind) fun o ho =>
      yields_pure (definitionYield_operation ho)
  unfold executableDefinition
  refine Yields.bind (yields_isNext _) fun isShort _ => ?_
  split
  · refine Yields.bind (yields_selectionSet (Nat.le_refl _)) fun s hs => ?_
    refine yields_pure (definitionYield_operation fun hback => ?_)
    exact ⟨nofun, nofun, nofun, hs.1, hs.2 hback.2.2⟩
  refine Yields.bind (yields_option (by simp)) fun isQuery _ => ?_
  split
  · exact hoperation .query
  refine Yields.bind (yields_option (by simp)) fun isMutation _ => ?_
  split
  · exact hoperation .mutation
  refine Yields.bind (yields_option (by simp)) fun isSubscription _ => ?_
  split
  · exact hoperation .subscription
  refine Yields.bind (yields_keyword "fragment") fun _ _ => ?_
  refine Yields.bind yields_fragment fun f hf => yields_pure ?_
  exact ⟨.inr (by simp), by simp, by simpa using hf⟩

/-- A document that is read is `Legible` if its values read back. -/
theorem yields_document : executableDocument.Yields fun d => d.ReadsBack → d.Legible := by
  unfold executableDocument
  refine Yields.bind yields_executableDefinition fun first hfirst => ?_
  refine Yields.bind (yields_many yields_executableDefinition) fun others hothers => ?_
  refine yields_pure fun hback => ?_
  have hall := List.forall_mem_cons.mpr ⟨hfirst, hothers⟩
  rw [Document.merge_eq] at hback ⊢
  obtain ⟨hoperations, hfragments⟩ := hback
  refine ⟨?_, fun o ho => ?_, fun f hf => ?_⟩
  · rw [List.flatMap_cons, List.flatMap_cons]
    refine hfirst.1.imp (fun h => ?_) fun h => ?_
    · exact List.append_ne_nil_of_left_ne_nil h _
    · exact List.append_ne_nil_of_left_ne_nil h _
  · obtain ⟨e, he, hmem⟩ := List.mem_flatMap.mp ho
    exact (hall e he).2.1 o hmem (hoperations o ho)
  · obtain ⟨e, he, hmem⟩ := List.mem_flatMap.mp hf
    exact (hall e he).2.2 f hmem (hfragments f hf)

end Grammar

end QueryBindings

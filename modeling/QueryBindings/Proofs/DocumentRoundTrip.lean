import QueryBindings.Generation
import QueryBindings.Proofs.Grammar.Documents
import QueryBindings.Proofs.Layout.Parts

/-! # Printed documents are read back

Every part of a document emits its tokens, whatever pieces stand around it, so the canonical text
of a document that was read has the tokens of the document, and these are read as the document
without its idle aliases.

Main statement: `ofText_print_of_ofText`. -/

namespace QueryBindings

open Grammar Piece

/-! ### Fields and fragments -/

namespace Field

/-- The alias of a field, unless it equals the name. -/
def aliasPieces (f : Field) : List Piece :=
  match f.withoutIdleAlias.aliasName with
  | some a => [word a] ++ colon
  | none => []

theorem aliasName_withoutIdleAlias (f : Field) (a : String) :
    f.withoutIdleAlias.aliasName = some a ↔ f.aliasName = some a ∧ a ≠ f.name := by
  unfold withoutIdleAlias
  rw [Option.filter_eq_some_iff, decide_eq_true_eq]

theorem pieces_eq (f : Field) :
    f.pieces = f.aliasPieces ++ [word f.name] ++ argumentPieces f.arguments ++
      directivePieces f.directives := by
  unfold pieces aliasPieces withoutIdleAlias
  cases f.aliasName with
  | none => rfl
  | some a =>
      dsimp only
      rw [Option.filter_some]
      by_cases hidle : a = f.name
      · rw [if_pos hidle, if_neg (by simpa using hidle)]
      · rw [if_neg hidle, if_pos (by simpa using hidle)]

theorem withoutIdleAlias_idempotent (f : Field) :
    f.withoutIdleAlias.withoutIdleAlias = f.withoutIdleAlias := by
  unfold withoutIdleAlias
  simp

theorem pieces_withoutIdleAlias (f : Field) : f.withoutIdleAlias.pieces = f.pieces := by
  rw [pieces_eq, pieces_eq, aliasPieces, aliasPieces, withoutIdleAlias_idempotent]
  rfl

end Field

theorem emits_alias {depth : Nat} {f : Field} (h : f.Legible depth) :
    Emits .firm f.aliasPieces (aliasTokens f.withoutIdleAlias.aliasName) .firm := by
  unfold Field.aliasPieces
  cases halias : f.withoutIdleAlias.aliasName with
  | none => exact Emits.nil .firm
  | some a =>
      have ha := h.aliasName a ((f.aliasName_withoutIdleAlias a).mp halias).1
      exact (emits_name ha).append (Emits.of_loose Emits.colon)

theorem emits_field {depth : Nat} {f : Field} (h : f.Legible depth) :
    Emits .firm f.pieces f.tokens .firm := by
  have hhead := (emits_alias h).append (emits_name h.name)
  have hall := (hhead.append (emits_arguments h.arguments)).append
    (emits_directives h.directives .firm)
  rw [f.pieces_eq]
  unfold Field.tokens
  simpa using hall

theorem emits_spread {depth : Nat} {s : Spread} (h : s.Legible depth) :
    Emits .firm s.pieces s.tokens .firm := by
  have hdots : Emits .firm [raw "..."] [.ellipsis] .firm := Emits.raw_closed closed_ellipsis
  exact (hdots.append (emits_name h.name)).append (emits_directives h.directives .firm)

theorem emits_inline {depth : Nat} {i : InlineFragment} (h : i.Legible depth) :
    Emits .firm i.pieces i.tokens .firm := by
  have hdots : Emits .firm [word "..."] [.ellipsis] .firm := by
    have htrim : (Text.trim "...").toList = ['.', '.', '.'] := by decide
    apply Emits.word
    rw [htrim]
    exact closed_ellipsis.lexed
  have hcondition : Emits .firm (i.condition.toList.flatMap fun c => [word "on", word c])
      (conditionTokens i.condition) .firm := by
    cases hc : i.condition with
    | none => exact Emits.nil .firm
    | some c => exact (emits_name (by decide)).append (emits_name (h.condition c hc))
  have hall := (hdots.append hcondition).append (emits_directives h.directives .firm)
  rw [List.append_assoc] at hall
  exact hall

/-! ### Selection sets -/

theorem emits_block {lines : List Piece} {ts : List Token} (hempty : lines = [] ↔ ts = [])
    (h : Emits .firm lines ts .firm) :
    Emits .loose (SelectionSet.block lines) (bracedTokens ts) .loose := by
  unfold SelectionSet.block bracedTokens
  by_cases hnil : ts = []
  · rw [hnil, hempty.mpr hnil]
    exact Emits.nil .loose
  · rw [if_neg (by simpa using hempty.not.mpr hnil), if_neg (by simpa using hnil)]
    have hopen : Emits .firm [raw "\x7b"] [.symbol '\x7b'] .firm :=
      Emits.raw_closed (closed_symbol rfl)
    have hclose : Emits .firm [raw "\x7d"] [.symbol '\x7d'] .firm :=
      Emits.raw_closed (closed_symbol rfl)
    have hhead := (Emits.apart.silent_append hopen).append_silent (Emits.of_loose Emits.newline)
    exact ((hhead.append h.nested).append hclose).weaken

theorem linePieces_eq_nil_iff (s : SelectionSet) : s.linePieces = [] ↔ s.tokens = [] := by
  cases s with
  | nil => simp [SelectionSet.linePieces, SelectionSet.tokens]
  | field f inner rest => simp [SelectionSet.linePieces, SelectionSet.tokens, Field.tokens]
  | spread s rest => simp [SelectionSet.linePieces, SelectionSet.tokens, Spread.tokens]
  | inline i inner rest =>
      simp [SelectionSet.linePieces, SelectionSet.tokens, InlineFragment.tokens]

theorem emits_linePieces {depth : Nat} {s : SelectionSet} (h : s.Legible depth) :
    Emits .firm s.linePieces s.tokens .firm := by
  induction s generalizing depth with
  | nil => exact Emits.nil .firm
  | field f inner rest ihinner ihrest =>
      obtain ⟨hf, hinner, hrest⟩ := h
      have hlines : Emits .firm inner.linePieces inner.tokens .firm := by
        rcases hinner with rfl | ⟨d, -, hd⟩
        · exact Emits.nil .firm
        · exact ihinner hd
      have hblock := emits_block (linePieces_eq_nil_iff inner) hlines
      have hline := ((emits_field hf).weaken.append hblock).append_silent Emits.newline
      exact hline.append (ihrest hrest)
  | spread s rest ihrest =>
      obtain ⟨hs, hrest⟩ := h
      have hline := (emits_spread hs).append_silent (Emits.of_loose Emits.newline)
      exact hline.append (ihrest hrest)
  | inline i inner rest ihinner ihrest =>
      obtain ⟨hi, ⟨-, d, -, hd⟩, hrest⟩ := h
      have hblock := emits_block (linePieces_eq_nil_iff inner) (ihinner hd)
      have hline := ((emits_inline hi).weaken.append hblock).append_silent Emits.newline
      exact hline.append (ihrest hrest)

/-! ### Operations and fragments -/

theorem emits_variable {depth : Nat} {v : VariableDefinition} (h : v.Legible depth) :
    Emits .firm v.pieces v.tokens .loose := by
  cases depth with
  | zero => exact h.elim
  | succ depth =>
      obtain ⟨hname, htype, hdefault⟩ := h
      have hdollar : Emits .firm [raw "$"] [.symbol '$'] .firm :=
        Emits.raw_closed (closed_symbol rfl)
      have hhead := (hdollar.append (emits_name hname)).append (Emits.of_loose Emits.colon)
      have hall := (hhead.append (emits_type htype)).append (emits_default hdefault)
      unfold VariableDefinition.pieces VariableDefinition.tokens
      simpa using hall

theorem emits_variables {depth : Nat} {vs : List VariableDefinition}
    (h : ∀ v ∈ vs, v.Legible depth) :
    Emits .loose (variablePieces vs) (variableTokens vs) .loose := by
  unfold variablePieces variableTokens
  split
  · exact Emits.nil .loose
  · have hopen : Emits .loose [raw "("] [.symbol '('] .firm :=
      Emits.raw_stop (closed_symbol rfl) fun _ => rfl
    have hitems := Emits.commaSeparated fun v hv => emits_variable (h v hv)
    have hall := (hopen.append hitems).append emits_closeArguments
    rw [List.append_assoc] at hall
    exact hall.weaken

theorem emits_operation {o : Operation} (h : o.Legible) :
    Emits .firm o.pieces o.tokens .firm := by
  obtain ⟨d, -, hd⟩ := h.selections
  have hkeyword : Emits .firm [word o.kind.keyword] [.name o.kind.keyword] .firm := by
    apply emits_name
    cases o.kind <;> decide
  have hname : Emits .firm (o.name.toList.flatMap fun n => [word n, tight]) (nameTokens o.name)
      .loose := by
    cases hn : o.name with
    | none => exact (Emits.nil .firm).weaken
    | some n => exact (emits_name (h.name n hn)).append_silent (Emits.of_loose Emits.tight)
  have hblock := emits_block (linePieces_eq_nil_iff o.selections) (emits_linePieces hd)
  have hhead := (Emits.separator.silent_append hkeyword).append hname
  have hmiddle := (hhead.append (emits_variables h.parameters)).append
    (emits_directives h.directives .loose)
  have hall := (hmiddle.append hblock).append_silent Emits.newline
  unfold Operation.pieces Operation.tokens Operation.tailTokens SelectionSet.pieces
  simpa using hall

theorem emits_fragment {f : Fragment} (h : f.Legible) :
    Emits .firm f.pieces f.tokens .firm := by
  obtain ⟨d, -, hd⟩ := h.selections
  have hblock := emits_block (linePieces_eq_nil_iff f.selections) (emits_linePieces hd)
  have hkeyword : Emits .firm [word "fragment"] [.name "fragment"] .firm :=
    emits_name (by decide)
  have hon : Emits .firm [word "on"] [.name "on"] .firm := emits_name (by decide)
  have hhead := (((Emits.separator.silent_append hkeyword).append
    (emits_name h.name)).append hon).append (emits_name h.condition)
  have hall := ((hhead.append (emits_directives h.directives .firm)).weaken.append
    hblock).append_silent Emits.newline
  unfold Fragment.pieces Fragment.tokens Fragment.tailTokens SelectionSet.pieces
  simpa using hall

/-- The canonical text of a document that is `Legible` has the tokens of the document. -/
theorem emits_document {d : Document} (h : d.Legible) : Emits .firm d.pieces d.tokens .firm := by
  have hoperations := Emits.flatMap fun o ho => emits_operation (h.operations o ho)
  have hfragments := Emits.flatMap fun f hf => emits_fragment (h.fragments f hf)
  exact hoperations.append hfragments

/-! ### Round trips -/

theorem SelectionSet.linePieces_withoutIdleAliases (s : SelectionSet) :
    s.withoutIdleAliases.linePieces = s.linePieces := by
  induction s with
  | nil => rfl
  | field f inner rest ihinner ihrest =>
      rw [withoutIdleAliases, linePieces, linePieces, ihinner, ihrest, f.pieces_withoutIdleAlias]
  | spread s rest ihrest => rw [withoutIdleAliases, linePieces, linePieces, ihrest]
  | inline i inner rest ihinner ihrest =>
      rw [withoutIdleAliases, linePieces, linePieces, ihinner, ihrest]

namespace Document

/-- Idle aliases leave no trace in the canonical text. -/
theorem pieces_withoutIdleAliases (d : Document) : d.withoutIdleAliases.pieces = d.pieces := by
  have hoperation : ∀ o : Operation, o.withoutIdleAliases.pieces = o.pieces := by
    intro o
    unfold Operation.pieces Operation.withoutIdleAliases SelectionSet.pieces
    dsimp only
    rw [o.selections.linePieces_withoutIdleAliases]
  have hfragment : ∀ f : Fragment, f.withoutIdleAliases.pieces = f.pieces := by
    intro f
    unfold Fragment.pieces Fragment.withoutIdleAliases SelectionSet.pieces
    dsimp only
    rw [f.selections.linePieces_withoutIdleAliases]
  unfold pieces withoutIdleAliases
  simp only [List.flatMap_map, hoperation, hfragment]

theorem ofText_eq_ok {text : String} {d : Document} :
    ofText text = .ok d ↔ readAll executableDocument text = .ok d := by
  unfold ofText readDocument
  split <;> rename_i h <;> simp [h]

/-- The canonical text of a document that was read, whose values read back, is read as the same
document `withoutIdleAliases`, and that document has the same canonical text. -/
theorem ofText_print_of_ofText {o options : Options} {indent source : String} {d : Document}
    (hindent : o.withIndent indent = .ok options) (hread : ofText source = .ok d)
    (hback : d.ReadsBack) :
    ofText (d.print options.indent) = .ok d.withoutIdleAliases ∧
      d.withoutIdleAliases.print options.indent = d.print options.indent := by
  rw [ofText_eq_ok, readAll_eq_ok] at hread
  have hyield := yields_document _ (Rule.named_of_lex _) d [] hread
  have hlegible : d.Legible := hyield.1 hback
  have htokens : lex (d.print options.indent).toList = d.tokens :=
    lex_layout (isPad_of_withIndent hindent) (emits_document hlegible)
  refine ⟨?_, ?_⟩
  · rw [ofText_eq_ok]
    apply Rule.readAll_of_lex yields_document
    rw [htokens]
    exact reads_document hlegible
  · unfold print
    rw [d.pieces_withoutIdleAliases]

/-- A text with an idle alias, a default value, a directive and all kinds of fragments. -/
def heroText : String :=
  "query Q($n: [Int!] = [1]) { hero: hero(id: $n) @include(if: true) { ...F ... on T { a: b } } } " ++
    "fragment F on T { b }"

def hero : Document where
  operations := [⟨.query, some "Q", [⟨"n", .list (.named "Int" true) false, some "[1]"⟩], [],
    .field ⟨some "hero", "hero", [⟨"id", "$n"⟩], [⟨"include", [⟨"if", "true"⟩]⟩]⟩
      (.spread ⟨"F", []⟩
        (.inline ⟨some "T", []⟩ (.field ⟨some "a", "b", [], []⟩ .nil .nil) .nil)) .nil⟩]
  fragments := [⟨"F", "T", [], .field ⟨none, "b", [], []⟩ .nil .nil⟩]

theorem readsBack_hero : hero.ReadsBack := by
  have hlist : Grammar.ReadsBack "[1]" := ⟨.list [.int 1], by with_unfolding_all rfl, by decide⟩
  have hreference : Grammar.ReadsBack "$n" := ⟨.reference "n", by with_unfolding_all rfl, by decide⟩
  have htrue : Grammar.ReadsBack "true" := ⟨.word "true", by with_unfolding_all rfl, by decide⟩
  simp [hero, ReadsBack, Operation.ReadsBack, Fragment.ReadsBack, VariableDefinition.ReadsBack,
    SelectionSet.ReadsBack, Field.ReadsBack, Directive.ReadsBack, hlist, hreference, htrue]

theorem ofText_print_hero :
    ofText heroText = .ok hero ∧ hero.ReadsBack ∧
      ofText (hero.print "\t") = .ok hero.withoutIdleAliases ∧
        hero.withoutIdleAliases.print "\t" = hero.print "\t" := by
  obtain ⟨options, hindent, htab⟩ : ∃ options, Options.default.withIndent "\t" = .ok options ∧
      options.indent = "\t" := ⟨_, rfl, rfl⟩
  have hread : ofText heroText = .ok hero := eq_ok_of_toOption (by decide +kernel)
  have hround := ofText_print_of_ofText hindent hread readsBack_hero
  rw [htab] at hround
  exact ⟨hread, readsBack_hero, hround⟩

end Document

end QueryBindings

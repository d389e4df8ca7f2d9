import QueryBindings.Proofs.Grammar.Definitions
import QueryBindings.Proofs.Layout.Descriptions

/-! # Tokens of laid out definitions

Members, definitions and whole schemas emit their tokens.  A described argument begins a line of
its own in the middle of a list, so a list of arguments is put together at loose seams.

Main statement: `emits_schema`. -/

namespace QueryBindings

open Grammar Piece

/-! ### Arguments -/

namespace ArgumentDefinition

theorem isDescribed_iff {a : ArgumentDefinition} (h : NormalDescription a.description) :
    a.isDescribed = true ↔ a.description ≠ none := by
  unfold isDescribed
  cases hd : a.description with
  | none => simp
  | some text => simp [(h text hd).ne_empty]

/-- The tokens of a declaration, but for its description. -/
theorem emits_declaration {depth : Nat} {a : ArgumentDefinition} (h : a.Legible depth) :
    Emits .firm a.declarationPieces (.name a.name :: .symbol ':' ::
      (a.type.tokens ++ (defaultTokens a.defaultValue ++ a.directives.flatMap Directive.tokens)))
      .loose := by
  have hhead := (emits_name h.name).append (Emits.of_loose Emits.colon)
  have hall := ((hhead.append (emits_type h.type)).append (emits_default h.defaultValue)).append
    (emits_directives h.directives .loose)
  unfold declarationPieces
  simpa using hall

end ArgumentDefinition

theorem emits_argumentDefinition {depth : Nat} {a : ArgumentDefinition} (h : a.Legible depth) :
    Emits .firm a.pieces a.tokens .loose := by
  have hdeclaration := ArgumentDefinition.emits_declaration h
  unfold ArgumentDefinition.pieces ArgumentDefinition.tokens
  by_cases hdescribed : a.isDescribed = true
  · rw [if_pos hdescribed]
    have hnested := ((emits_descriptions h.description).append hdeclaration).nested
    exact (Emits.of_loose Emits.newline).silent_append hnested
  · rw [if_neg hdescribed]
    have hnone : a.description = none := by
      rw [a.isDescribed_iff h.description] at hdescribed
      exact not_not.mp hdescribed
    rw [hnone]
    exact hdeclaration

theorem emits_argumentList {depth : Nat} {as : List ArgumentDefinition} (hne : as ≠ [])
    (h : ∀ a ∈ as, Inside ArgumentDefinition.Legible depth a) :
    Emits .loose (ArgumentDefinition.listPieces as)
      (bodyTokens '(' ')' ArgumentDefinition.tokens as) .firm := by
  have hempty : as.isEmpty = false := by simpa using hne
  have hopen : Emits .loose [raw "("] [.symbol '('] .firm :=
    Emits.raw_stop (closed_symbol rfl) fun _ => rfl
  have hitems := Emits.commaSeparated fun a ha =>
    of_inside (h a ha) fun _ => emits_argumentDefinition
  have hline : Emits .loose (if as.any ArgumentDefinition.isDescribed then [newline] else []) []
      .loose := by
    split
    · exact Emits.newline.weaken
    · exact Emits.nil .loose
  have hall := ((hopen.append hitems).append_silent hline).append emits_closeArguments
  unfold ArgumentDefinition.listPieces bodyTokens
  rw [hempty]
  simpa using hall

theorem emits_argumentDefinitions {depth : Nat} {as : List ArgumentDefinition}
    (h : ∀ a ∈ as, Inside ArgumentDefinition.Legible depth a) :
    Emits .loose (ArgumentDefinition.listPieces as)
      (bodyTokens '(' ')' ArgumentDefinition.tokens as) .loose := by
  by_cases hne : as = []
  · rw [hne]
    exact Emits.nil .loose
  · exact (emits_argumentList hne h).weaken

/-! ### Fields and values -/

theorem emits_fieldDefinition {depth : Nat} {f : FieldDefinition} (h : f.Legible depth) :
    Emits .firm f.pieces f.tokens .firm := by
  have hname := (emits_name h.name).append_silent (Emits.of_loose Emits.tight)
  have hhead := (((emits_descriptions h.description).append hname).append
    (emits_argumentDefinitions h.arguments)).append Emits.colon
  have htail := ((emits_type h.type).append (emits_default h.defaultValue)).append
    (emits_directives h.directives .loose)
  have hall := (hhead.append htail).append_silent Emits.newline
  unfold FieldDefinition.pieces FieldDefinition.tokens
  simpa using hall

theorem emits_enumValue {depth : Nat} {v : EnumValue} (h : v.Legible depth) :
    Emits .firm v.pieces v.tokens .firm := by
  have hhead := (emits_descriptions h.description).append (emits_name h.name)
  have hall := (hhead.append (emits_directives h.directives .firm)).append_silent
    (Emits.of_loose Emits.newline)
  unfold EnumValue.pieces EnumValue.tokens
  simpa using hall

theorem emits_braced {α : Type} {pieces : α → List Piece} {tokens : α → List Token}
    {items : List α} (h : ∀ x ∈ items, Emits .firm (pieces x) (tokens x) .firm) :
    Emits .firm (bracedPieces (items.map pieces)) (bodyTokens '\x7b' '\x7d' tokens items)
      .firm := by
  have hopen : Emits .firm [raw "\x7b"] [.symbol '\x7b'] .firm :=
    Emits.raw_closed (closed_symbol rfl)
  have hclose : Emits .firm [raw "\x7d"] [.symbol '\x7d'] .firm :=
    Emits.raw_closed (closed_symbol rfl)
  have hlines := (Emits.flatMap h).nested
  have hall := ((hopen.append_silent (Emits.of_loose Emits.newline)).append hlines).append hclose
  unfold bracedPieces bodyTokens
  cases items with
  | nil => exact Emits.nil .firm
  | cons first others => simpa [List.flatMap_def] using hall

/-! ### Definitions -/

theorem emits_symbol {text : String} {c : Char} (htrim : (Text.trim text).toList = [c])
    (hsymbol : Closed [c] [.symbol c]) : Emits .firm [word text] [.symbol c] .firm := by
  apply Emits.word
  rw [htrim]
  exact hsymbol.lexed

theorem emits_joinedWords {opening between : String} {t u : Token}
    (hopening : Emits .firm [word opening] [t] .firm)
    (hbetween : Emits .firm [word between] [u] .firm) {names : List String}
    (h : ∀ n ∈ names, isName n = true) :
    Emits .firm (joinedWords opening between names) (joinedTokens t u names) .firm := by
  cases names with
  | nil => exact Emits.nil .firm
  | cons first others =>
      have hothers : Emits .firm (others.flatMap fun n => [word between, word n])
          (others.flatMap fun n => [u, .name n]) .firm :=
        Emits.flatMap fun n hn => hbetween.append (emits_name (h n (List.mem_cons_of_mem first hn)))
      exact (hopening.append (emits_name (h first List.mem_cons_self))).append hothers

theorem emits_implemented {names : List String} (h : ∀ n ∈ names, isName n = true) :
    Emits .firm (joinedWords "implements" "&" names)
      (joinedTokens (.name "implements") (.symbol '&') names) .firm :=
  emits_joinedWords (emits_name (by decide)) (emits_symbol (by decide) (closed_symbol rfl)) h

theorem emits_unionMembers {names : List String} (h : ∀ n ∈ names, isName n = true) :
    Emits .firm (joinedWords "=" "|" names) (joinedTokens (.symbol '=') (.symbol '|') names)
      .firm :=
  emits_joinedWords (emits_symbol (by decide) (closed_symbol rfl))
    (emits_symbol (by decide) (closed_symbol rfl)) h

theorem emits_locations {names : List String} (h : ∀ n ∈ names, isName n = true) :
    Emits .firm (joinedWords "on" "|" names) (joinedTokens (.name "on") (.symbol '|') names)
      .firm :=
  emits_joinedWords (emits_name (by decide)) (emits_symbol (by decide) (closed_symbol rfl)) h

theorem emits_members {d : Definition} (h : d.Legible) :
    Emits .firm (d.bodyPieces true) d.memberTokens .firm := by
  have hvalues := emits_braced fun v hv => of_inside (h.values v hv) fun _ => emits_enumValue
  have hfields := emits_braced fun f hf => of_inside (h.fields f hf) fun _ => emits_fieldDefinition
  have hvisible : d.visibleFields true = d.fields := by
    unfold Definition.visibleFields
    exact List.filter_eq_self.mpr fun _ _ => rfl
  unfold Definition.bodyPieces Definition.memberTokens
  rw [hvisible]
  cases d.kind with
  | enum => exact hvalues
  | _ => exact hfields

/-- A type `Emits` its tokens, also if it is a builtin one. -/
theorem emits_type_definition {d : Definition} (h : d.Legible) :
    Emits .firm (d.pieces true) d.tokens .firm := by
  have hkeyword : Emits .firm [word d.kind.keyword] [.name d.kind.keyword] .firm := by
    apply emits_name
    cases d.kind <;> decide
  have hinterfaces := emits_implemented h.interfaces
  have hmembers : Emits .firm (if d.kind = .union then joinedWords "=" "|" d.members else [])
      (if d.kind = .union then joinedTokens (.symbol '=') (.symbol '|') d.members else [])
      .firm := by
    split
    · exact emits_unionMembers h.members
    · exact Emits.nil .firm
  have hhead := (Emits.separator.silent_append (emits_descriptions h.description)).append
    (hkeyword.append (emits_name h.name))
  have hparts := ((hinterfaces.append (emits_directives h.directives .firm)).append
    hmembers).append (emits_members h)
  have hall := (hhead.append hparts).append_silent (Emits.of_loose Emits.newline)
  unfold Definition.pieces Definition.tokens Definition.partTokens
  simpa using hall

theorem isName_of_mem_directiveLocations {l : String} (h : l ∈ directiveLocations) :
    isName l = true := by
  revert l
  decide

theorem emits_directive_definition {d : DirectiveDefinition} (h : d.Legible) :
    Emits .firm (d.pieces true) d.tokens .firm := by
  have hat : Emits .firm [raw "@"] [.symbol '@'] .firm := Emits.raw_closed (closed_symbol rfl)
  have hword : Emits .firm [word "directive"] [.name "directive"] .firm := emits_name (by decide)
  have harguments : Emits .firm
      (if d.arguments.isEmpty then [] else tight :: ArgumentDefinition.listPieces d.arguments)
      (bodyTokens '(' ')' ArgumentDefinition.tokens d.arguments) .firm := by
    by_cases hne : d.arguments = []
    · rw [hne]
      exact Emits.nil .firm
    · rw [if_neg (by simpa using hne)]
      exact (Emits.of_loose Emits.tight).silent_append (emits_argumentList hne h.arguments)
  have hrepeatable : Emits .firm (if d.repeatable then [word "repeatable"] else [])
      (if d.repeatable then [.name "repeatable"] else []) .firm := by
    split
    · exact emits_name (by decide)
    · exact Emits.nil .firm
  have hlocations := emits_locations fun l hl => isName_of_mem_directiveLocations (h.locations l hl)
  have hhead := (Emits.separator.silent_append (emits_descriptions h.description)).append
    ((hword.append hat).append (emits_name h.name))
  have htail := (harguments.append hrepeatable).append hlocations
  have hall := (hhead.append htail).append_silent (Emits.of_loose Emits.newline)
  unfold DirectiveDefinition.pieces DirectiveDefinition.tokens DirectiveDefinition.tailTokens
  simpa using hall

/-! ### Schemas -/

namespace Schema

def rootBlock (s : Schema) : RootBlock := ⟨s.queryRoot, s.mutationRoot, s.subscriptionRoot⟩

/-- The entries of the canonical text of a schema; builtin ones are among them. -/
def entries (s : Schema) : List SchemaEntry :=
  (if s.roots.all fun root => root.2 = root.1.defaultRoot then [] else [.roots s.rootBlock]) ++
    (s.directives.values.map .directive ++ s.types.values.map .type)

theorem roots_rootBlock (s : Schema) : s.rootBlock.roots = s.roots := by
  obtain ⟨_, _, query, mutation, subscription, _⟩ := s
  cases query <;> cases mutation <;> cases subscription <;> rfl

end Schema

theorem emits_root {root : OperationKind × String} (h : isName root.2 = true) :
    Emits .firm ([word root.1.keyword] ++ colon ++ [word root.2, newline])
      (RootBlock.rootTokens root) .firm := by
  have hkeyword : Emits .firm [word root.1.keyword] [.name root.1.keyword] .firm := by
    apply emits_name
    cases root.1 <;> decide
  have hhead := hkeyword.append (Emits.of_loose Emits.colon)
  exact hhead.append ((emits_name h).append_silent (Emits.of_loose Emits.newline))

theorem emits_rootBlock {s : Schema} (hne : s.roots ≠ [])
    (h : ∀ r ∈ s.rootBlock.roots, isName r.2 = true) :
    Emits .firm ([separator, word "schema"] ++ bracedPieces (s.roots.map fun root =>
      [word root.1.keyword] ++ colon ++ [word root.2, newline]) ++ [newline]) s.rootBlock.tokens
      .firm := by
  have hempty : s.roots.isEmpty = false := by simpa using hne
  have hword : Emits .firm [word "schema"] [.name "schema"] .firm := emits_name (by decide)
  rw [s.roots_rootBlock] at h
  have hbraces := emits_braced fun r hr => emits_root (h r hr)
  have hall := ((Emits.separator.silent_append hword).append hbraces).append_silent
    (Emits.of_loose Emits.newline)
  unfold RootBlock.tokens
  rw [s.roots_rootBlock]
  simpa [bodyTokens, hempty] using hall

/-- The canonical text of a schema has the tokens of its `entries`. -/
theorem emits_schema {s : Schema} (h : ∀ e ∈ s.entries, e.Legible) :
    Emits .firm (s.pieces true) (s.entries.flatMap SchemaEntry.tokens) .firm := by
  have hdirectives : Emits .firm (s.directives.values.flatMap (·.pieces true))
      (s.directives.values.flatMap DirectiveDefinition.tokens) .firm :=
    Emits.flatMap fun d hd => emits_directive_definition
      (h (.directive d) (by simp [Schema.entries, hd]))
  have htypes : Emits .firm (s.types.values.flatMap (·.pieces true))
      (s.types.values.flatMap Definition.tokens) .firm :=
    Emits.flatMap fun d hd => emits_type_definition
      (h (.type d) (by simp [Schema.entries, hd])).1
  have hroots : Emits .firm s.rootPieces
      ((if s.roots.all fun root => root.2 = root.1.defaultRoot then []
        else [SchemaEntry.roots s.rootBlock]).flatMap SchemaEntry.tokens) .firm := by
    unfold Schema.rootPieces
    by_cases hdefault : s.roots.all (fun root => root.2 = root.1.defaultRoot) = true
    · rw [if_pos hdefault, if_pos hdefault]
      exact Emits.nil .firm
    · have hne : s.roots ≠ [] := by
        intro hnil
        rw [hnil] at hdefault
        exact hdefault rfl
      rw [if_neg hdefault, if_neg hdefault, List.flatMap_singleton]
      exact emits_rootBlock hne (h (.roots s.rootBlock) (by simp [Schema.entries, hdefault]))
  have hall := (hroots.append hdirectives).append htypes
  unfold Schema.pieces Schema.entries
  rw [List.flatMap_append, List.flatMap_append, List.flatMap_map, List.flatMap_map,
    ← List.append_assoc]
  exact hall

end QueryBindings

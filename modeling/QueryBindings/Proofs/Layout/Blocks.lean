import QueryBindings.Layout

/-! # Blocks of a schema

The root block, the directives and the types of a schema are laid out one after another, each
after a separator.  What stands between two separators ends on the level on which it began and
does not look at what was written before, so each block has a text of its own, and the text of
the schema is those texts with one blank line between two of them.

Main statement: `print_eq_intercalate`. -/

namespace QueryBindings

namespace Pen

/-- The pen with more text before what it has written. -/
def behind (text : String) (p : Pen) : Pen := { p with text := text ++ p.text }

theorem advance_behind (text : String) (p : Pen) :
    (p.behind text).advance = p.advance.behind text := by
  obtain ⟨written, indent, level, atLineStart, needsSpace⟩ := p
  cases atLineStart <;> cases needsSpace <;> simp [advance, behind, String.append_assoc]

/-- A `separator` looks at what has been written; no other piece does. -/
theorem write_behind {piece : Piece} (h : piece ≠ .separator) (text : String) (p : Pen) :
    (p.behind text).write piece = (p.write piece).behind text := by
  cases piece with
  | word | raw =>
      unfold write
      rw [advance_behind]
      simp [behind, String.append_assoc]
  | newline => simp [write, breakLine, behind, String.append_assoc]
  | tight | apart | deeper | shallower => rfl
  | separator => exact absurd rfl h

theorem indent_writeAll (p : Pen) (pieces : List Piece) : (p.writeAll pieces).indent = p.indent := by
  induction pieces generalizing p with
  | nil => rfl
  | cons piece rest ih =>
      rw [writeAll_cons, ih]
      cases piece with
      | word | raw => exact p.indent_advance
      | newline | tight | apart | deeper | shallower => rfl
      | separator =>
          show (if p.text = "" then p else p.breakLine).indent = p.indent
          split <;> rfl

end Pen

/-- The pieces end on the level on which they began, and are written behind any text alike. -/
structure Steady (pieces : List Piece) : Prop where
  level : ∀ p : Pen, (p.writeAll pieces).level = p.level
  behind : ∀ (text : String) (p : Pen),
    (p.behind text).writeAll pieces = (p.writeAll pieces).behind text

namespace Steady

variable {a b : List Piece}

/-! ### Putting pieces together -/

theorem nil : Steady [] := ⟨fun _ => rfl, fun _ _ => rfl⟩

theorem append (ha : Steady a) (hb : Steady b) : Steady (a ++ b) where
  level p := by rw [Pen.writeAll_append, hb.level, ha.level]
  behind text p := by rw [Pen.writeAll_append, Pen.writeAll_append, ha.behind, hb.behind]

theorem flatMap {α : Type} {pieces : α → List Piece} {items : List α}
    (h : ∀ x ∈ items, Steady (pieces x)) : Steady (items.flatMap pieces) := by
  induction items with
  | nil => exact nil
  | cons x rest ih =>
      rw [List.flatMap_cons]
      exact (h x List.mem_cons_self).append (ih fun y hy => h y (List.mem_cons_of_mem x hy))

theorem piece {piece : Piece} (hlevel : ∀ p : Pen, (p.write piece).level = p.level)
    (hpiece : piece ≠ .separator) : Steady [piece] :=
  ⟨hlevel, fun text p => Pen.write_behind hpiece text p⟩

theorem word (text : String) : Steady [.word text] := piece Pen.level_advance nofun

theorem raw (text : String) : Steady [.raw text] := piece Pen.level_advance nofun

theorem newline : Steady [.newline] := piece (fun _ => rfl) nofun

theorem tight : Steady [.tight] := piece (fun _ => rfl) nofun

theorem apart : Steady [.apart] := piece (fun _ => rfl) nofun

theorem nested (h : Steady a) : Steady (Piece.nested a) where
  level p := by
    show ((p.write .deeper).writeAll (a ++ [.shallower])).level = p.level
    rw [Pen.writeAll_append]
    show ((p.write .deeper).writeAll a).level - 1 = p.level
    rw [h.level]
    exact Nat.add_sub_cancel p.level 1
  behind text p := by
    show ((p.write .deeper).behind text).writeAll (a ++ [.shallower]) = _
    rw [Pen.writeAll_append, h.behind]
    show _ = ((p.write .deeper).writeAll (a ++ [.shallower])).behind text
    rw [Pen.writeAll_append]
    rfl

theorem colon : Steady Piece.colon := (tight.append (raw ":")).append apart

theorem closeArguments : Steady Piece.closeArguments := (tight.append (raw ")")).append apart

theorem commaSeparated {items : List (List Piece)} (h : ∀ x ∈ items, Steady x) :
    Steady (Piece.commaSeparated items) := by
  cases items with
  | nil => exact nil
  | cons first rest =>
      exact (h first List.mem_cons_self).append <| flatMap fun x hx =>
        (tight.append (word ",")).append (h x (List.mem_cons_of_mem first hx))

theorem joinedWords (opening between : String) (items : List String) :
    Steady (Piece.joinedWords opening between items) := by
  cases items with
  | nil => exact nil
  | cons first rest =>
      exact ((word opening).append (word first)).append <| flatMap fun x _ =>
        (word between).append (word x)

/-! ### The parts of definitions -/

theorem description (about : Option String) : Steady (descriptionPieces about) := by
  have hline : ∀ line, Steady (descriptionLine line) := by
    intro line
    unfold descriptionLine
    split
    · exact newline
    · exact (raw _).append newline
  cases about with
  | none => exact nil
  | some text =>
      show Steady (if text = "" then [] else _)
      split
      · exact nil
      · exact (((raw fence).append newline).append (flatMap fun line _ => hline line)).append
          ((raw fence).append newline)

theorem defaultValue (given : Option String) : Steady (defaultPieces given) := by
  cases given with
  | none => exact nil
  | some value => exact (word "=").append (raw value)

theorem arguments (as : List Argument) : Steady (argumentPieces as) := by
  unfold argumentPieces
  split
  · exact nil
  · refine ((tight.append (raw "(")).append (commaSeparated fun x hx => ?_)).append closeArguments
    obtain ⟨a, -, rfl⟩ := List.mem_map.mp hx
    exact ((word a.name).append colon).append (raw a.value)

theorem directives (applied : List Directive) : Steady (directivePieces applied) :=
  flatMap fun d _ => ((apart.append (raw "@")).append (word d.name)).append (arguments d.arguments)

theorem argumentDefinition (a : ArgumentDefinition) : Steady a.pieces := by
  have hdeclaration : Steady a.declarationPieces :=
    ((((word a.name).append colon).append (word a.type.text)).append
      (defaultValue a.defaultValue)).append (directives a.directives)
  unfold ArgumentDefinition.pieces
  split
  · exact newline.append ((description a.description).append hdeclaration).nested
  · exact hdeclaration

theorem argumentDefinitions (arguments : List ArgumentDefinition) :
    Steady (ArgumentDefinition.listPieces arguments) := by
  unfold ArgumentDefinition.listPieces
  split
  · exact nil
  · refine (((raw "(").append (commaSeparated fun x hx => ?_)).append ?_).append closeArguments
    · obtain ⟨a, -, rfl⟩ := List.mem_map.mp hx
      exact argumentDefinition a
    · split
      · exact newline
      · exact nil

theorem fieldDefinition (f : FieldDefinition) : Steady f.pieces :=
  (((((((description f.description).append ((word f.name).append tight)).append
    (argumentDefinitions f.arguments)).append colon).append (word f.type.text)).append
    (defaultValue f.defaultValue)).append (directives f.directives)).append newline

theorem enumValue (v : EnumValue) : Steady v.pieces :=
  (((description v.description).append (word v.name)).append (directives v.directives)).append
    newline

theorem braced {lines : List (List Piece)} (h : ∀ line ∈ lines, Steady line) :
    Steady (bracedPieces lines) := by
  have hlines : Steady lines.flatten := by
    rw [← List.flatMap_id]
    exact flatMap h
  unfold bracedPieces
  split
  · exact nil
  · exact (((raw _).append newline).append hlines.nested).append (raw _)

theorem body (builtins : Bool) (d : Definition) : Steady (d.bodyPieces builtins) := by
  unfold Definition.bodyPieces
  split
  · refine braced fun line hline => ?_
    obtain ⟨v, -, rfl⟩ := List.mem_map.mp hline
    exact enumValue v
  · refine braced fun line hline => ?_
    obtain ⟨f, -, rfl⟩ := List.mem_map.mp hline
    exact fieldDefinition f

end Steady

/-- Nothing, or a separator with `Steady` pieces and the end of a line. -/
inductive Block : List Piece → Prop where
  | nothing : Block []
  | lines {pieces : List Piece} (h : Steady pieces) : Block ([.separator] ++ pieces ++ [.newline])

namespace Block

theorem root (s : Schema) : Block s.rootPieces := by
  unfold Schema.rootPieces
  split
  · exact nothing
  · refine @lines ([.word "schema"] ++ _) ((Steady.word "schema").append ?_)
    refine Steady.braced fun line hline => ?_
    obtain ⟨root, -, rfl⟩ := List.mem_map.mp hline
    exact ((Steady.word root.1.keyword).append Steady.colon).append
      ((Steady.word root.2).append Steady.newline)

theorem directive (builtins : Bool) (d : DirectiveDefinition) : Block (d.pieces builtins) := by
  unfold DirectiveDefinition.pieces
  split
  · exact nothing
  · have harguments : Steady (if d.arguments.isEmpty then [] else
        Piece.tight :: ArgumentDefinition.listPieces d.arguments) := by
      split
      · exact Steady.nil
      · exact Steady.tight.append (Steady.argumentDefinitions d.arguments)
    have hrepeatable : Steady (if d.repeatable then [Piece.word "repeatable"] else []) := by
      split
      · exact Steady.word "repeatable"
      · exact Steady.nil
    have hname : Steady [.word "directive", .raw "@", .word d.name] :=
      ((Steady.word "directive").append (Steady.raw "@")).append (Steady.word d.name)
    have hall := ((((Steady.description d.description).append hname).append harguments).append
      hrepeatable).append (Steady.joinedWords "on" "|" d.locations)
    simpa only [List.append_assoc] using lines hall

theorem type (builtins : Bool) (d : Definition) : Block (d.pieces builtins) := by
  unfold Definition.pieces
  split
  · exact nothing
  · have hmembers : Steady (if d.kind = .union then Piece.joinedWords "=" "|" d.members
        else []) := by
      split
      · exact Steady.joinedWords "=" "|" d.members
      · exact Steady.nil
    have hname : Steady [.word d.kind.keyword, .word d.name] :=
      (Steady.word d.kind.keyword).append (Steady.word d.name)
    have hall := (((((Steady.description d.description).append hname).append
      (Steady.joinedWords "implements" "&" d.interfaces)).append
      (Steady.directives d.directives)).append hmembers).append (Steady.body builtins d)
    simpa only [List.append_assoc] using lines hall

end Block

/-! ### Texts of blocks -/

theorem writeAll_line {pieces : List Piece} (h : Steady pieces) (indent : String) :
    (Pen.fresh indent).writeAll (pieces ++ [.newline]) =
      (Pen.fresh indent).behind (layout indent (pieces ++ [.newline])) := by
  have hlevel : ((Pen.fresh indent).writeAll pieces).level = 0 := h.level _
  have hindent : ((Pen.fresh indent).writeAll pieces).indent = indent := Pen.indent_writeAll _ _
  have hbreak : ∀ p : Pen, p.level = 0 → p.indent = indent →
      p.breakLine = (Pen.fresh indent).behind p.breakLine.text := by
    rintro p hp rfl
    unfold Pen.breakLine Pen.behind Pen.fresh
    rw [hp]
    exact congrArg (Pen.mk · _ _ _ _) String.append_empty.symm
  unfold layout
  rw [Pen.writeAll_append]
  exact hbreak _ hlevel hindent

/-- A block is written behind other text after a blank line. -/
theorem writeAll_block {pieces : List Piece} (h : Steady pieces) (indent text : String) :
    ((Pen.fresh indent).behind text).writeAll ([.separator] ++ pieces ++ [.newline]) =
      (Pen.fresh indent).behind ((if text = "" then "" else text ++ "\n") ++
        layout indent ([.separator] ++ pieces ++ [.newline])) := by
  have hseparator : ((Pen.fresh indent).behind text).write .separator =
      (Pen.fresh indent).behind (if text = "" then "" else text ++ "\n") := by
    by_cases htext : text = ""
    · rw [htext]
      rfl
    · simp [Pen.write, Pen.behind, Pen.fresh, Pen.breakLine, htext]
  have hbehind : ∀ before after : String, ((Pen.fresh indent).behind after).behind before =
      (Pen.fresh indent).behind (before ++ after) := fun before after =>
    congrArg (Pen.mk · _ _ _ _) String.append_assoc.symm
  rw [List.append_assoc, List.singleton_append, Pen.writeAll_cons, hseparator,
    (h.append Steady.newline).behind, writeAll_line h, hbehind]
  rfl

theorem layout_newline_ne_empty (indent : String) (pieces : List Piece) :
    layout indent (pieces ++ [.newline]) ≠ "" := by
  unfold layout
  rw [Pen.writeAll_append]
  exact fun h => absurd (String.append_eq_empty_iff.mp h).2 (by decide)

theorem writeAll_blocks {blocks : List (List Piece)} (h : ∀ block ∈ blocks, Block block)
    (indent : String) {text : String} (htext : text ≠ "") :
    ((Pen.fresh indent).behind text).writeAll blocks.flatten = (Pen.fresh indent).behind
      ("\n".intercalate (text :: (blocks.filter (· ≠ [])).map (layout indent))) := by
  induction blocks generalizing text with
  | nil =>
      show _ = (Pen.fresh indent).behind ("\n".intercalate [text])
      rw [String.intercalate_singleton]
      rfl
  | cons block rest ih =>
      obtain ⟨hblock, hrest⟩ := List.forall_mem_cons.mp h
      rw [List.flatten_cons, Pen.writeAll_append]
      cases hblock with
      | nothing => exact ih hrest htext
      | lines hsteady =>
          have hwritten : ∀ more : String, text ++ "\n" ++ more ≠ "" := fun more hempty =>
            htext (String.append_eq_empty_iff.mp (String.append_eq_empty_iff.mp hempty).1).1
          rw [writeAll_block hsteady, if_neg htext, ih hrest (hwritten _),
            List.filter_cons_of_pos (by simp), List.map_cons, String.intercalate_cons_cons,
            String.intercalate_cons_append]

theorem writeAll_fresh_blocks {blocks : List (List Piece)} (h : ∀ block ∈ blocks, Block block)
    (indent : String) :
    (Pen.fresh indent).writeAll blocks.flatten = (Pen.fresh indent).behind
      ("\n".intercalate ((blocks.filter (· ≠ [])).map (layout indent))) := by
  induction blocks with
  | nil => rfl
  | cons block rest ih =>
      obtain ⟨hblock, hrest⟩ := List.forall_mem_cons.mp h
      cases hblock with
      | nothing => exact ih hrest
      | @lines pieces hsteady =>
          have hfirst := writeAll_block hsteady indent ""
          have hlater := writeAll_blocks hrest indent
            (layout_newline_ne_empty indent ([.separator] ++ pieces))
          rw [if_pos rfl, String.empty_append] at hfirst
          rw [← hfirst, ← Pen.writeAll_append] at hlater
          rw [List.filter_cons_of_pos (by simp), List.map_cons]
          exact hlater

/-- The text of blocks is the texts of those that are not empty, with a blank line between two of
them. -/
theorem layout_blocks {blocks : List (List Piece)} (h : ∀ block ∈ blocks, Block block)
    (indent : String) :
    layout indent blocks.flatten =
      "\n".intercalate ((blocks.filter (· ≠ [])).map (layout indent)) :=
  (congrArg Pen.text (writeAll_fresh_blocks h indent)).trans String.append_empty

namespace Schema

/-- The blocks of a schema; those of hidden items are empty. -/
def blocks (builtins : Bool) (s : Schema) : List (List Piece) :=
  s.rootPieces :: (s.directives.values.map (·.pieces builtins) ++
    s.types.values.map (·.pieces builtins))

theorem flatten_blocks (builtins : Bool) (s : Schema) :
    (s.blocks builtins).flatten = s.pieces builtins := by
  simp [blocks, pieces, List.flatMap_def]

theorem block_of_mem_blocks {builtins : Bool} {s : Schema} {block : List Piece}
    (h : block ∈ s.blocks builtins) : Block block := by
  unfold blocks at h
  rcases List.mem_cons.mp h with rfl | h
  · exact .root s
  rcases List.mem_append.mp h with h | h
  · obtain ⟨d, -, rfl⟩ := List.mem_map.mp h
    exact .directive builtins d
  · obtain ⟨d, -, rfl⟩ := List.mem_map.mp h
    exact .type builtins d

/-- A schema prints as the texts of its `blocks`, one blank line between two of them. -/
theorem print_eq_intercalate (indent : String) (builtins : Bool) (s : Schema) :
    s.print indent builtins =
      "\n".intercalate (((s.blocks builtins).filter (· ≠ [])).map (layout indent)) := by
  unfold print
  rw [← flatten_blocks]
  exact layout_blocks (fun _ => block_of_mem_blocks) indent

end Schema

end QueryBindings

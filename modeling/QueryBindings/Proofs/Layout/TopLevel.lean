import QueryBindings.Layout
import QueryBindings.Proofs.Layout.Blocks

/-! # Items of the top level

Directive definitions, type definitions, operations and fragments can be laid out one after another
with one pen.  Each of them is a block: whatever descriptions it has and however deep it nests, it
takes back every level that it goes down and ends its last line.  So what the pen has written
before has no influence on an item, and an item has none on what comes after.

Main statement: `writeAll_items`. -/

namespace QueryBindings

namespace Steady

theorem field (f : Field) : Steady f.pieces := by
  unfold Field.pieces
  refine ((append ?_ (word f.name)).append (arguments f.arguments)).append
    (directives f.directives)
  split
  · split
    · exact nil
    · exact (word _).append colon
  · exact nil

theorem spread (s : Spread) : Steady s.pieces :=
  ((raw "...").append (word s.name)).append (directives s.directives)

theorem inlineFragment (i : InlineFragment) : Steady i.pieces :=
  ((word "...").append (flatMap fun c _ => (word "on").append (word c))).append
    (directives i.directives)

theorem selectionBlock {lines : List Piece} (h : Steady lines) :
    Steady (SelectionSet.block lines) := by
  unfold SelectionSet.block
  split
  · exact nil
  · exact (((apart.append (raw _)).append newline).append h.nested).append (raw _)

theorem selectionLines (s : SelectionSet) : Steady s.linePieces := by
  induction s with
  | nil => exact nil
  | field f inner rest ihinner ihrest =>
      exact (((field f).append (selectionBlock ihinner)).append newline).append ihrest
  | spread s rest ih => exact ((spread s).append newline).append ih
  | inline i inner rest ihinner ihrest =>
      exact (((inlineFragment i).append (selectionBlock ihinner)).append newline).append ihrest

theorem selections (s : SelectionSet) : Steady s.pieces := selectionBlock (selectionLines s)

theorem parameters (vs : List VariableDefinition) : Steady (variablePieces vs) := by
  unfold variablePieces
  split
  · exact nil
  · refine ((raw "(").append (commaSeparated fun x hx => ?_)).append closeArguments
    obtain ⟨v, -, rfl⟩ := List.mem_map.mp hx
    exact ((((raw "$").append (word v.name)).append colon).append (word v.type.text)).append
      (defaultValue v.defaultValue)

end Steady

namespace Block

theorem operation (o : Operation) : Block o.pieces := by
  have hname : Steady (o.name.toList.flatMap fun n => [.word n, .tight]) :=
    Steady.flatMap fun n _ => (Steady.word n).append Steady.tight
  have hall := ((((Steady.word o.kind.keyword).append hname).append
    (Steady.parameters o.parameters)).append (Steady.directives o.directives)).append
    (Steady.selections o.selections)
  unfold Operation.pieces
  simpa only [List.append_assoc, List.cons_append, List.nil_append] using lines hall

theorem fragment (f : Fragment) : Block f.pieces := by
  have hhead : Steady [.word "fragment", .word f.name, .word "on", .word f.condition] :=
    (((Steady.word "fragment").append (Steady.word f.name)).append (Steady.word "on")).append
      (Steady.word f.condition)
  have hall := (hhead.append (Steady.directives f.directives)).append
    (Steady.selections f.selections)
  unfold Fragment.pieces
  simpa only [List.append_assoc, List.cons_append, List.nil_append] using lines hall

theorem layout_eq_empty_iff {block : List Piece} (h : Block block) (indent : String) :
    layout indent block = "" ↔ block = [] := by
  cases h with
  | nothing => exact iff_of_true rfl rfl
  | lines _ => exact iff_of_false (layout_newline_ne_empty indent _) (by simp)

end Block

/-- What can stand on the top level of a text. -/
inductive TopLevel where
  | directive (d : DirectiveDefinition)
  | type (d : Definition)
  | operation (o : Operation)
  | fragment (f : Fragment)

namespace TopLevel

/-- The pieces of an item; none if it `isHidden`. -/
def pieces (builtins : Bool) : TopLevel → List Piece
  | directive d => d.pieces builtins
  | type d => d.pieces builtins
  | operation o => o.pieces
  | fragment f => f.pieces

/-- The text of an item alone. -/
def print (indent : String) (builtins : Bool) (item : TopLevel) : String :=
  layout indent (item.pieces builtins)

/-- What is left out without `builtins`: a builtin directive, and a builtin or reserved type. -/
def isHidden (builtins : Bool) : TopLevel → Bool
  | directive d => d.builtin && !builtins
  | type d => !builtins && (d.builtin || isMetaName d.name)
  | operation _ | fragment _ => false

theorem block (builtins : Bool) (item : TopLevel) : Block (item.pieces builtins) := by
  cases item with
  | directive d => exact .directive builtins d
  | type d => exact .type builtins d
  | operation o => exact .operation o
  | fragment f => exact .fragment f

theorem pieces_eq_nil_iff (builtins : Bool) (item : TopLevel) :
    item.pieces builtins = [] ↔ item.isHidden builtins = true := by
  cases item with
  | directive d =>
      show d.pieces builtins = [] ↔ (d.builtin && !builtins) = true
      unfold DirectiveDefinition.pieces
      split <;> simp_all
  | type d =>
      show d.pieces builtins = [] ↔ (!builtins && (d.builtin || isMetaName d.name)) = true
      unfold Definition.pieces
      split <;> simp_all
  | operation o => simp [pieces, isHidden, Operation.pieces]
  | fragment f => simp [pieces, isHidden, Fragment.pieces]

end TopLevel

/-- **Items in a row.**  After `writeAll` of any items, one after another, the pen is a `fresh` one
but for its text: it is on the lowest level, at the start of a line and owes no space.  Its text is
the texts that the items have alone, by `print`, without the empty ones and with one line break
between two of them; and the text of an item is empty if and only if the item `isHidden`. -/
theorem writeAll_items (indent : String) (builtins : Bool) (items : List TopLevel) :
    (Pen.fresh indent).writeAll (items.flatMap (·.pieces builtins)) =
      { text := "\n".intercalate ((items.map (·.print indent builtins)).filter (· ≠ ""))
        indent := indent
        level := 0
        atLineStart := true
        needsSpace := false } ∧
    ∀ item ∈ items, (item.print indent builtins = "" ↔ item.isHidden builtins = true) := by
  have hempty : ∀ item : TopLevel,
      item.print indent builtins = "" ↔ item.pieces builtins = [] := fun item =>
    (item.block builtins).layout_eq_empty_iff indent
  refine ⟨?_, fun item _ => (hempty item).trans (item.pieces_eq_nil_iff builtins)⟩
  have hblocks : ∀ block ∈ items.map (·.pieces builtins), Block block := by
    intro block hblock
    obtain ⟨item, -, rfl⟩ := List.mem_map.mp hblock
    exact item.block builtins
  have htexts : ((items.map (·.pieces builtins)).filter (· ≠ [])).map (layout indent) =
      (items.map (·.print indent builtins)).filter (· ≠ "") := by
    rw [List.filter_map, List.filter_map, List.map_map]
    refine congrArg (List.map _) (List.filter_congr fun item _ => ?_)
    simp [hempty item]
  have hall := writeAll_fresh_blocks hblocks indent
  rw [htexts, ← List.flatMap_def] at hall
  rw [hall]
  exact congrArg (Pen.mk · _ _ _ _) String.append_empty

end QueryBindings

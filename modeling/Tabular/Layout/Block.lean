import Tabular.Text.Blank

/-!
The text that a cell is rendered to: one or more lines.
-/

namespace Tabular

/-- One or more lines. -/
structure Block where
  first : String
  rest : List String
  deriving DecidableEq, Repr

namespace Block

/-- A block of one line. -/
def single (line : String) : Block := ⟨line, []⟩

/-- A block of these lines. Where there are none it is one blank line of `width` columns. -/
def ofLines (lines : List String) (width : Nat) : Block :=
  match lines with
  | [] => single (Text.spaces width)
  | line :: rest => ⟨line, rest⟩

/-- The lines in their order. -/
def lines (block : Block) : List String :=
  block.first :: block.rest

/-- The number of lines. -/
def height (block : Block) : Nat :=
  block.lines.length

/-- The line at an index, if the block is that high. -/
def line? (block : Block) (index : Nat) : Option String :=
  block.lines[index]?

@[simp] theorem lines_single (line : String) : (single line).lines = [line] :=
  rfl

theorem lines_ne_nil (block : Block) : block.lines ≠ [] := by
  simp [lines]

theorem height_pos (block : Block) : 0 < block.height := by
  simp [height, lines]

/-- Lines, if there are any, become the lines of the block. -/
theorem lines_ofLines {lines : List String} (h : lines ≠ []) (width : Nat) :
    (ofLines lines width).lines = lines := by
  cases lines with
  | nil => exact absurd rfl h
  | cons line rest => rfl

end Block

end Tabular

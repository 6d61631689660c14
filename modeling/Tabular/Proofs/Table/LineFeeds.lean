import Tabular.Proofs.Layout.LineFeeds
import Tabular.Proofs.Table.Rectangle

/-!
The line feeds of a rendered table: one at the end of each of its lines, and those of the texts,
currencies and names that it shows. Only if there are none of the latter does the text, read line by
line, give back the lines of the table.
-/

namespace Tabular

/-- Pieces joined by a text without line feeds keep theirs. -/
theorem Text.lineFeeds_intercalate {sep : String} (hSep : lineFeeds sep = 0)
    (pieces : List String) :
    lineFeeds (String.intercalate sep pieces) = (pieces.map lineFeeds).sum := by
  induction pieces with
  | nil => rfl
  | cons piece pieces ih =>
      cases pieces with
      | nil => simp
      | cons next rest =>
          rw [String.intercalate_cons_cons, lineFeeds_append, lineFeeds_append, hSep, ih]
          simp

namespace Table

theorem lineFeeds_border {left right : Char} (hLeft : Text.separates left = true)
    (hRight : Text.separates right = true) (widths : List Nat) :
    Text.lineFeeds (border left right widths) = 0 := by
  have hNone {c : Char} (h : Text.separates c = true) : c ≠ '\n' := by
    rintro rfl
    exact absurd h (by decide)
  have hDashes : ((dashes widths).map Text.lineFeeds).sum = 0 := by
    refine List.sum_eq_zero fun count hCount => ?_
    obtain ⟨_, hDash, rfl⟩ := List.mem_map.mp hCount
    obtain ⟨width, -, rfl⟩ := List.mem_map.mp hDash
    rw [Text.lineFeeds_eq_zero_iff, String.toList_ofList, List.mem_replicate]
    rintro ⟨-, hChar⟩
    exact absurd hChar (by decide)
  have hCrosses : Text.lineFeeds "-+-" = 0 := rfl
  have hInner := Text.lineFeeds_intercalate hCrosses (dashes widths)
  rw [hDashes, Text.lineFeeds_eq_zero_iff] at hInner
  rw [Text.lineFeeds_eq_zero_iff, toList_border]
  simp only [List.mem_cons, List.mem_append, List.not_mem_nil, or_false, not_or]
  exact ⟨(hNone hLeft).symm, by decide, hInner, by decide, (hNone hRight).symm⟩

theorem lineFeeds_pad (width : Nat) (field : String) :
    Text.lineFeeds (pad width field) = Text.lineFeeds field := by
  rw [pad, Text.lineFeeds_append, Text.lineFeeds_spaces, Nat.add_zero]

theorem map_lineFeeds_padFields {widths : List Nat} {fields : Line} (h : HaveRoom widths fields) :
    (padFields widths fields).map Text.lineFeeds = fields.map Text.lineFeeds := by
  induction h with
  | nil => rfl
  | cons hHead hTail ih => rw [padFields, List.map_cons, List.map_cons, lineFeeds_pad, ih]

/-- Bars and spaces around fields add no line feed. -/
theorem lineFeeds_barred {widths : List Nat} {fields : Line} (h : HaveRoom widths fields) :
    Text.lineFeeds (barred widths fields) = (fields.map Text.lineFeeds).sum := by
  have hLeft : Text.lineFeeds "| " = 0 := rfl
  have hRight : Text.lineFeeds " |" = 0 := rfl
  have hBars : Text.lineFeeds " | " = 0 := rfl
  rw [barred, Text.lineFeeds_append, Text.lineFeeds_append, Text.lineFeeds_intercalate hBars,
    map_lineFeeds_padFields h, hLeft, hRight, Nat.zero_add, Nat.add_zero]

/-- Every line ends in one line feed. -/
theorem lineFeeds_joinLines (lineEnd : LineEnd) (lines : List String) :
    Text.lineFeeds (joinLines lineEnd lines) =
      lines.length + (lines.map Text.lineFeeds).sum := by
  have hEnd : Text.lineFeeds lineEnd.text = 1 := by cases lineEnd <;> rfl
  induction lines with
  | nil => rfl
  | cons line lines ih =>
      rw [joinLines, List.map_cons, String.join_cons, ← joinLines, Text.lineFeeds_append,
        Text.lineFeeds_append, hEnd, ih, List.map_cons, List.sum_cons, List.length_cons]
      omega

/-- The lines of a framed table have the line feeds of the fields between the borders. -/
theorem sum_lineFeeds_framed {widths : List Nat} {names : Option Line} {body : List Line}
    (h : ∀ fields ∈ names.toList ++ body, HaveRoom widths fields) :
    ((framed widths names body).map Text.lineFeeds).sum =
      ((names.toList ++ body).map fun fields => (fields.map Text.lineFeeds).sum).sum := by
  have hBarred {lines : List Line} (hLines : ∀ fields ∈ lines, HaveRoom widths fields) :
      (lines.map (barred widths)).map Text.lineFeeds =
        lines.map fun fields => (fields.map Text.lineFeeds).sum := by
    rw [List.map_map]
    exact List.map_congr_left fun fields hMem => lineFeeds_barred (hLines fields hMem)
  have hTop : Text.lineFeeds (border ',' '.' widths) = 0 :=
    lineFeeds_border (by decide) (by decide) widths
  have hRule : Text.lineFeeds (border '+' '+' widths) = 0 :=
    lineFeeds_border (by decide) (by decide) widths
  have hBottom : Text.lineFeeds (border '\x60' '\'' widths) = 0 :=
    lineFeeds_border (by decide) (by decide) widths
  rw [List.forall_mem_append] at h
  simp only [framed, List.map_append, List.map_cons, List.map_nil, List.sum_append, List.sum_cons,
    List.sum_nil, hBarred h.1, hBarred h.2, hTop, hRule, hBottom]
  omega

/-- The lines of a row have the line feeds of the texts of its cells. -/
theorem sum_lineFeeds_rowLine {layouts : List ColumnLayout} {row : Row}
    (h : List.Forall₂ ColumnLayout.Holds layouts row) {count : Nat}
    (hEnough : ∀ cell ∈ row, max 1 cell.positions.length ≤ count) :
    ((List.range count).map fun index =>
        ((rowLine layouts row index).map Text.lineFeeds).sum).sum =
      ((row.flatMap Cell.texts).map Text.lineFeeds).sum := by
  induction h with
  | nil => simp [rowLine]
  | @cons layout cell layouts row hCell hRest ih =>
      obtain ⟨hHead, hTail⟩ := List.forall_mem_cons.mp hEnough
      have hSplit (index : Nat) :
          ((rowLine (layout :: layouts) (cell :: row) index).map Text.lineFeeds).sum =
            Text.lineFeeds (layout.fieldAt cell index) +
              ((rowLine layouts row index).map Text.lineFeeds).sum := by
        rw [rowLine, List.zipWith_cons_cons, List.map_cons, List.sum_cons, ← rowLine]
      simp only [hSplit]
      rw [List.sum_map_add, ColumnLayout.sum_lineFeeds_fieldAt hCell hHead, ih hTail,
        List.flatMap_cons, List.map_append, List.sum_append]

/-- The texts that a table shows as they are: the names above the rule, and those of its cells. -/
def shownTexts (showNames : Bool) (columns : List Column) (rows : List Row) : List String :=
  (shownNames showNames columns).toList.flatten ++ rows.flatMap fun row => row.flatMap Cell.texts

theorem sum_lineFeeds_body {layouts : List ColumnLayout} {rows : List Row}
    (h : ∀ row ∈ rows, List.Forall₂ ColumnLayout.Holds layouts row) :
    ((rows.flatMap (rowLines layouts)).map fun fields => (fields.map Text.lineFeeds).sum).sum =
      ((rows.flatMap fun row => row.flatMap Cell.texts).map Text.lineFeeds).sum := by
  induction rows with
  | nil => rfl
  | cons row rows ih =>
      obtain ⟨hHead, hTail⟩ := List.forall_mem_cons.mp h
      have hRow := sum_lineFeeds_rowLine hHead fun cell hCell => max_one_le_rowHeight hCell
      rw [List.flatMap_cons, List.map_append, List.sum_append, ih hTail, rowLines, List.map_map,
        List.flatMap_cons, List.map_append, List.sum_append, ← hRow]
      rfl

theorem length_flatMap_rowLines (layouts : List ColumnLayout) (rows : List Row) :
    (rows.flatMap (rowLines layouts)).length = (rows.map rowHeight).sum := by
  rw [List.length_flatMap]
  congr 1
  refine List.map_congr_left fun row _ => ?_
  rw [rowLines, List.length_map, List.length_range]

/-- The number of lines of a table: the borders, the names if they are shown, and those of its
rows. -/
def lineCount (showNames : Bool) (rows : List Row) : Nat :=
  3 + (if showNames then 1 else 0) + (rows.map rowHeight).sum

theorem length_tableLines (showNames : Bool) (layouts : List ColumnLayout) (columns : List Column)
    (rows : List Row) :
    (tableLines showNames layouts columns rows).length = lineCount showNames rows := by
  have hNames : (shownNames showNames columns).toList.length = if showNames then 1 else 0 := by
    cases showNames <;> rfl
  have hBody := length_flatMap_rowLines layouts rows
  simp only [tableLines, framed, List.length_append, List.length_map, List.length_cons,
    List.length_nil, hNames, hBody, lineCount]
  omega

theorem sum_lineFeeds_tableLines {layouts : List ColumnLayout} {columns : List Column}
    {rows : List Row} (hLength : layouts.length = columns.length)
    (hHolds : ∀ row ∈ rows, List.Forall₂ ColumnLayout.Holds layouts row) (showNames : Bool) :
    ((tableLines showNames layouts columns rows).map Text.lineFeeds).sum =
      ((shownTexts showNames columns rows).map Text.lineFeeds).sum := by
  have hNames : ((shownNames showNames columns).toList.map fun fields =>
      (fields.map Text.lineFeeds).sum).sum =
        ((shownNames showNames columns).toList.flatten.map Text.lineFeeds).sum := by
    cases showNames <;> simp [shownNames]
  rw [tableLines, sum_lineFeeds_framed fun fields hFields => haveRoom_of_mem hLength hHolds hFields,
    List.map_append, List.sum_append, sum_lineFeeds_body hHolds, hNames, shownTexts,
    List.map_append, List.sum_append]

/-- No text that the table shows has a line feed. -/
theorem sum_lineFeeds_eq_zero_iff {texts : List String} :
    (texts.map Text.lineFeeds).sum = 0 ↔ ∀ text ∈ texts, '\n' ∉ text.toList := by
  rw [List.sum_eq_zero_iff_forall_eq_nat]
  simp only [List.forall_mem_map, Text.lineFeeds_eq_zero_iff]

/-- What stands between a line and the line feed that ends it. -/
def LineEnd.beforeFeed : LineEnd → List Char
  | lf => []
  | crlf => ['\r']

/-- The lines of a text, as they are read at its line feeds. -/
theorem toList_joinLines (lineEnd : LineEnd) (lines : List String) :
    (joinLines lineEnd lines).toList =
      ['\n'].intercalate
        (lines.map (fun line => line.toList ++ lineEnd.beforeFeed) ++ [[]]) := by
  have hEnd : lineEnd.text.toList = lineEnd.beforeFeed ++ ['\n'] := by
    cases lineEnd <;> simp [LineEnd.text, LineEnd.beforeFeed]
  induction lines with
  | nil => rfl
  | cons line lines ih =>
      rw [joinLines, List.map_cons, String.join_cons, ← joinLines, String.toList_append,
        String.toList_append, hEnd, ih, List.map_cons, List.cons_append,
        List.intercalate_cons_of_ne_nil (by simp), List.append_assoc, List.append_assoc,
        List.append_assoc, List.append_assoc]

theorem length_splitOn_eq (cs : List Char) :
    (cs.splitOn '\n').length = cs.count '\n' + 1 := by
  induction cs with
  | nil => rfl
  | cons c cs ih =>
      rw [List.splitOn_cons_eq_if_modifyHead, List.count_cons]
      split
      · rw [List.length_cons, ih]
      · rw [List.length_modifyHead, ih, Nat.add_zero]

/-- Split at its line feeds, a text gives back its lines if they have none. -/
theorem splitOn_joinLines_iff (lineEnd : LineEnd) (lines : List String) :
    (joinLines lineEnd lines).toList.splitOn '\n' =
        lines.map (fun line => line.toList ++ lineEnd.beforeFeed) ++ [[]] ↔
      (lines.map Text.lineFeeds).sum = 0 := by
  constructor
  · intro h
    have hCount := length_splitOn_eq (joinLines lineEnd lines).toList
    have hFeeds := lineFeeds_joinLines lineEnd lines
    rw [h, List.length_append, List.length_map, List.length_singleton] at hCount
    rw [Text.lineFeeds] at hFeeds
    omega
  · intro h
    have hReturn : '\n' ∉ lineEnd.beforeFeed := by cases lineEnd <;> decide
    rw [toList_joinLines, List.splitOn_intercalate]
    · intro cs hMem
      rcases List.mem_append.mp hMem with hMap | hLast
      · obtain ⟨line, hLine, rfl⟩ := List.mem_map.mp hMap
        simp [sum_lineFeeds_eq_zero_iff.mp h line hLine, hReturn]
      · simp [List.mem_singleton.mp hLast]
    · simp

/-- A rendered table has a line feed for each of its lines and those of the texts it shows. It has
no other, and can be read line by line, exactly if those texts have none. -/
theorem lineFeeds_of_render (options : Options) (columns : List Column) (rows : List Row)
    (h : validate columns rows = .ok ()) :
    ∃ layouts text, Table.layouts columns rows = .ok layouts ∧
      render options columns rows = .ok text ∧
      text = joinLines options.lineEnd (tableLines options.showNames layouts columns rows) ∧
      (∃ width, ∀ line ∈ tableLines options.showNames layouts columns rows,
        Text.width line = width) ∧
      Text.lineFeeds text = lineCount options.showNames rows +
        ((shownTexts options.showNames columns rows).map Text.lineFeeds).sum ∧
      (Text.lineFeeds text = lineCount options.showNames rows ↔
        ∀ shown ∈ shownTexts options.showNames columns rows, '\n' ∉ shown.toList) ∧
      (text.toList.splitOn '\n' =
          (tableLines options.showNames layouts columns rows).map
            (fun line => line.toList ++ options.lineEnd.beforeFeed) ++ [[]] ↔
        ∀ shown ∈ shownTexts options.showNames columns rows, '\n' ∉ shown.toList) := by
  obtain ⟨layouts, hLayouts, hLength, hHolds, hRender⟩ := render_of_validate h
  have hFeeds := sum_lineFeeds_tableLines hLength hHolds options.showNames
  have hCount : Text.lineFeeds
      (joinLines options.lineEnd (tableLines options.showNames layouts columns rows)) =
        lineCount options.showNames rows +
          ((shownTexts options.showNames columns rows).map Text.lineFeeds).sum := by
    rw [lineFeeds_joinLines, length_tableLines, hFeeds]
  refine ⟨layouts, _, hLayouts, hRender options, rfl, ⟨_, fun line hLine =>
    width_of_mem_framed (fun fields hFields => haveRoom_of_mem hLength hHolds hFields) hLine⟩,
    hCount, ?_, ?_⟩
  · rw [hCount, ← sum_lineFeeds_eq_zero_iff]
    omega
  · rw [splitOn_joinLines_iff, hFeeds, sum_lineFeeds_eq_zero_iff]

/-- A cell of two lines adds a line feed to a table of four lines. -/
theorem lineFeeds_of_split_cell :
    let columns : List Column := [⟨"a", .string⟩]
    let rows : List Row := [[some (.string "x\ny")]]
    validate columns rows = .ok () ∧ lineCount false rows = 4 ∧
      ∃ text, render {} columns rows = .ok text ∧ Text.lineFeeds text = 5 := by
  intro columns rows
  have hValid : validate columns rows = .ok () := rfl
  obtain ⟨-, text, -, hRender, -, -, hCount, -⟩ := lineFeeds_of_render {} columns rows hValid
  exact ⟨hValid, rfl, text, hRender, hCount⟩

end Table

end Tabular

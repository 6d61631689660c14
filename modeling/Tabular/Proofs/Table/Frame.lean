import Mathlib
import Tabular.Proofs.Layout.Width
import Tabular.Table.Frame

/-!
The widths of a frame's lines, and where the marks between its columns stand. Borders and barred
lines over the same widths are equally wide and have their marks at the same columns, since every
character of the frame takes one column whatever text it stands next to.
-/

namespace Tabular

namespace Text

theorem separates_bar : separates '|' = true := by decide

theorem separates_dash : separates '-' = true := by decide

theorem separates_cross : separates '+' = true := by decide

theorem columns_append_of_separates {cs : List Char} (h : ∀ c ∈ cs, separates c = true)
    (back : List Char) : columns (cs ++ back) = cs.length + columns back := by
  induction cs with
  | nil => simp
  | cons c cs ih =>
      obtain ⟨hHead, hTail⟩ := List.forall_mem_cons.mp h
      rw [List.cons_append, columns_cons hHead, ih hTail, List.length_cons]
      omega

/-- Two texts joined by separating characters keep their widths. -/
theorem columns_append_append {sep : List Char} (hSep : sep ≠ [])
    (h : ∀ c ∈ sep, separates c = true) (front back : List Char) :
    columns (front ++ (sep ++ back)) = columns front + sep.length + columns back := by
  obtain ⟨c, cs, rfl⟩ := List.exists_cons_of_ne_nil hSep
  obtain ⟨hHead, hTail⟩ := List.forall_mem_cons.mp h
  rw [List.cons_append, columns_append_cons hHead, columns_append_of_separates hTail,
    List.length_cons]
  omega

theorem columns_intercalate {sep : List Char} (hSep : sep ≠ [])
    (h : ∀ c ∈ sep, separates c = true) (pieces : List (List Char)) :
    columns (sep.intercalate pieces) =
      (pieces.map columns).sum + sep.length * (pieces.length - 1) := by
  induction pieces with
  | nil => rfl
  | cons piece pieces ih =>
      cases pieces with
      | nil => simp
      | cons next rest =>
          have hLength : (piece :: next :: rest).length - 1 = (next :: rest).length - 1 + 1 := by
            simp
          rw [List.intercalate_cons_cons, List.append_assoc, columns_append_append hSep h, ih,
            List.map_cons (l := next :: rest), List.sum_cons, hLength, Nat.mul_succ]
          omega

end Text

namespace Table

/-- The columns that fields side by side take, with the bars and spaces between them. -/
def innerWidth (widths : List Nat) : Nat :=
  widths.sum + 3 * (widths.length - 1)

/-- The width of a table's lines. -/
def lineWidth (widths : List Nat) : Nat :=
  4 + widths.sum + 3 * (widths.length - 1)

/-- What the frame writes between two columns takes three columns of its own. -/
theorem width_joined {a b c : Char} (h : ∀ mark ∈ [a, b, c], Text.separates mark = true)
    (pieces : List String) :
    Text.width (String.intercalate (String.ofList [a, b, c]) pieces) =
      innerWidth (pieces.map Text.width) := by
  rw [Text.width, String.toList_intercalate, String.toList_ofList,
    Text.columns_intercalate (List.cons_ne_nil _ _) h, innerWidth, List.map_map, List.length_map,
    List.length_map]
  rfl

theorem width_joined_bars (fields : List String) :
    Text.width (String.intercalate " | " fields) = innerWidth (fields.map Text.width) := by
  have hMarks : ∀ mark ∈ [' ', '|', ' '], Text.separates mark = true := by
    simp [Text.separates_space, Text.separates_bar]
  exact width_joined hMarks fields

theorem width_joined_crosses (dashes : List String) :
    Text.width (String.intercalate "-+-" dashes) = innerWidth (dashes.map Text.width) := by
  have hMarks : ∀ mark ∈ ['-', '+', '-'], Text.separates mark = true := by
    simp [Text.separates_dash, Text.separates_cross]
  exact width_joined hMarks dashes

/-- The stretches of a border between its marks. -/
def dashes (widths : List Nat) : List String :=
  widths.map fun width => String.ofList (List.replicate width '-')

theorem map_toList_dashes (widths : List Nat) :
    (dashes widths).map String.toList = widths.map (List.replicate · '-') := by
  simp [dashes]

theorem map_width_dashes (widths : List Nat) : (dashes widths).map Text.width = widths := by
  rw [dashes, List.map_map]
  refine (List.map_congr_left fun width _ => ?_).trans (List.map_id widths)
  rw [Function.comp_apply, Text.width, String.toList_ofList,
    Text.columns_replicate Text.separates_dash, id_eq]

theorem toList_border (left right : Char) (widths : List Nat) :
    (border left right widths).toList =
      left :: '-' :: ((String.intercalate "-+-" (dashes widths)).toList ++ ['-', right]) := by
  simp [border, dashes]

theorem width_border {left right : Char} (hLeft : Text.separates left = true)
    (hRight : Text.separates right = true) (widths : List Nat) :
    Text.width (border left right widths) = lineWidth widths := by
  have hDash := Text.separates_dash
  have hInner := width_joined_crosses (dashes widths)
  rw [Text.width, map_width_dashes, innerWidth] at hInner
  rw [Text.width, toList_border, Text.columns_cons hLeft, Text.columns_cons hDash,
    Text.columns_append_cons hDash, Text.columns_cons hRight, Text.columns_nil, hInner, lineWidth]
  omega

/-- Every field has room in its column. -/
def HaveRoom (widths : List Nat) (fields : Line) : Prop :=
  List.Forall₂ (fun width field => Text.width field ≤ width) widths fields

/-- No field is missing or beyond the last column, so each is padded to the width of its column. -/
theorem padFields_eq_zipWith {widths : List Nat} {fields : Line}
    (h : widths.length = fields.length) :
    padFields widths fields = List.zipWith pad widths fields := by
  induction widths generalizing fields with
  | nil => rfl
  | cons width widths ih =>
      cases fields with
      | nil => cases h
      | cons field fields =>
          rw [padFields, List.zipWith_cons_cons, ih (Nat.succ.inj h)]

theorem width_pad {width : Nat} {field : String} (h : Text.width field ≤ width) :
    Text.width (pad width field) = width := by
  have hList : (pad width field).toList =
      field.toList ++ List.replicate (width - Text.width field) ' ' := by
    simp [pad]
  rw [Text.width, hList, Text.columns_append_replicate Text.separates_space, ← Text.width]
  omega

theorem map_width_padFields {widths : List Nat} {fields : Line} (h : HaveRoom widths fields) :
    (padFields widths fields).map Text.width = widths := by
  induction h with
  | nil => rfl
  | cons hHead hTail ih => rw [padFields, List.map_cons, width_pad hHead, ih]

theorem width_barred {widths : List Nat} {fields : Line} (h : HaveRoom widths fields) :
    Text.width (barred widths fields) = lineWidth widths := by
  have hBar := Text.separates_bar
  have hSpace := Text.separates_space
  have hInner := width_joined_bars (padFields widths fields)
  rw [Text.width, map_width_padFields h, innerWidth] at hInner
  have hList : (barred widths fields).toList =
      '|' :: ' ' ::
        ((String.intercalate " | " (padFields widths fields)).toList ++ [' ', '|']) := by
    simp [barred]
  rw [Text.width, hList, Text.columns_cons hBar, Text.columns_cons hSpace,
    Text.columns_append_cons hSpace, Text.columns_cons hBar, Text.columns_nil, hInner, lineWidth]
  omega

/-- A border has a cross at a column, which is none of its corners. -/
def CrossesAt (line : String) (offset : Nat) : Prop :=
  ∃ front back, line.toList = front ++ '+' :: back ∧ front ≠ [] ∧ back ≠ [] ∧
    Text.columns front = offset

/-- The bar of a line between two of its fields stands at a column. -/
def PartsAt (widths : List Nat) (fields : Line) (offset : Nat) : Prop :=
  ∃ left right, left ≠ [] ∧ right ≠ [] ∧ padFields widths fields = left ++ right ∧
    barred widths fields =
      "| " ++ String.intercalate " | " left ++ " " ++ "|" ++ " " ++
        String.intercalate " | " right ++ " |" ∧
    Text.width ("| " ++ String.intercalate " | " left ++ " ") = offset

/-- A mark that the front does not contain stands behind it. -/
theorem exists_of_append_eq {α : Type} {mark : α} {xs : List α} (hMark : mark ∉ xs)
    {ys front back : List α} (h : xs ++ ys = front ++ mark :: back) :
    ∃ more, front = xs ++ more ∧ ys = more ++ mark :: back := by
  rcases List.append_eq_append_iff.mp h with ⟨more, hFront, hBack⟩ | ⟨more, hFront, hBack⟩
  · exact ⟨more, hFront, hBack⟩
  · cases more with
    | nil => exact ⟨[], by simpa using hFront.symm, by simpa using hBack.symm⟩
    | cons m more =>
        obtain ⟨rfl, -⟩ := List.cons.inj hBack
        simp [hFront] at hMark

/-- A mark of the separator that is in none of the pieces stands between two of them. -/
theorem exists_pieces_of_intercalate_eq {α : Type} {mark : α} {before after : List α}
    (hBefore : mark ∉ before) (hAfter : mark ∉ after) {pieces : List (List α)}
    (hPieces : ∀ piece ∈ pieces, mark ∉ piece) {front back : List α}
    (h : (before ++ mark :: after).intercalate pieces = front ++ mark :: back) :
    ∃ left right, left ≠ [] ∧ right ≠ [] ∧ pieces = left ++ right ∧
      front = (before ++ mark :: after).intercalate left ++ before := by
  induction pieces generalizing front with
  | nil => simp at h
  | cons piece pieces ih =>
      obtain ⟨hPiece, hRest⟩ := List.forall_mem_cons.mp hPieces
      cases pieces with
      | nil =>
          rw [List.intercalate_singleton] at h
          simp [h] at hPiece
      | cons next rest =>
          have hFirst : mark ∉ piece ++ before := by simp [hPiece, hBefore]
          have hParts : (piece ++ before) ++ (mark ::
              (after ++ (before ++ mark :: after).intercalate (next :: rest))) =
                front ++ mark :: back := by
            simpa using h
          obtain ⟨more, rfl, hMore⟩ := exists_of_append_eq hFirst hParts
          cases more with
          | nil =>
              exact ⟨[piece], next :: rest, List.cons_ne_nil _ _, List.cons_ne_nil _ _, rfl,
                by simp⟩
          | cons m more =>
              -- the mark is one of those further on
              obtain ⟨rfl, hRestParts⟩ := List.cons.inj hMore
              obtain ⟨deep, rfl, hDeep⟩ := exists_of_append_eq hAfter hRestParts
              obtain ⟨left, right, hLeft, hRight, hSplit, rfl⟩ := ih hRest hDeep
              refine ⟨piece :: left, right, List.cons_ne_nil _ _, hRight, by simp [hSplit], ?_⟩
              simp [List.intercalate_cons_of_ne_nil hLeft]

/-- The columns from the start of a line up to the mark behind these of its fields. -/
def markOffset (left : List Nat) : Nat :=
  3 + innerWidth left

/-- A cross inside a border stands behind some of the columns and before the others. -/
theorem exists_widths_of_crossesAt {left right : Char} {widths : List Nat} {offset : Nat}
    (hLeft : Text.separates left = true) (h : CrossesAt (border left right widths) offset) :
    ∃ before after, before ≠ [] ∧ after ≠ [] ∧ widths = before ++ after ∧
      offset = markOffset before := by
  obtain ⟨front, back, hSplit, hFront, hBack, rfl⟩ := h
  have hDashes : ∀ piece ∈ widths.map (List.replicate · '-'), '+' ∉ piece := by
    simp [List.mem_replicate]
  rw [toList_border] at hSplit
  -- the left corner and the dash beside it come before the cross
  obtain ⟨c, front, rfl⟩ := List.exists_cons_of_ne_nil hFront
  obtain ⟨rfl, hRest⟩ := List.cons.inj hSplit
  have hDash : '+' ∉ ['-'] := by decide
  obtain ⟨more, rfl, hMore⟩ := exists_of_append_eq hDash hRest
  -- the right corner and the dash beside it come after the cross
  obtain ⟨rest, hCross⟩ : ∃ rest,
      (String.intercalate "-+-" (dashes widths)).toList = more ++ '+' :: rest := by
    rcases List.append_eq_append_iff.mp hMore with ⟨tail, -, hTail⟩ | ⟨tail, hInner, hTail⟩
    · cases tail with
      | nil => simp at hTail
      | cons x tail =>
          cases tail with
          | nil =>
              obtain ⟨-, -, hNil⟩ : '-' = x ∧ right = '+' ∧ back = [] := by simpa using hTail
              exact absurd hNil hBack
          | cons y tail => simp at hTail
    · cases tail with
      | nil => simp at hTail
      | cons x tail =>
          obtain ⟨rfl, -⟩ := List.cons.inj hTail
          exact ⟨tail, hInner⟩
  rw [String.toList_intercalate, map_toList_dashes] at hCross
  change (['-'] ++ '+' :: ['-']).intercalate _ = _ at hCross
  obtain ⟨before, after, hBefore, hAfter, hPieces, rfl⟩ :=
    exists_pieces_of_intercalate_eq hDash hDash hDashes hCross
  obtain ⟨before, after, rfl, rfl, rfl⟩ := List.map_eq_append_iff.mp hPieces
  refine ⟨before, after, by simpa using hBefore, by simpa using hAfter, rfl, ?_⟩
  have hInner := width_joined_crosses (dashes before)
  rw [map_width_dashes, Text.width, String.toList_intercalate, map_toList_dashes] at hInner
  rw [Text.columns_cons hLeft, List.singleton_append, Text.columns_cons Text.separates_dash,
    Text.columns_append_cons Text.separates_dash, Text.columns_nil, markOffset]
  show Text.columns (['-', '+', '-'].intercalate _) + 1 + 0 + 1 + 1 = _
  change Text.columns (['-', '+', '-'].intercalate _) = _ at hInner
  omega

/-- Between any two of its columns a border has a cross. -/
theorem crossesAt_markOffset {left right : Char} {before after : List Nat}
    (hLeft : Text.separates left = true) (hBefore : before ≠ []) (hAfter : after ≠ []) :
    CrossesAt (border left right (before ++ after)) (markOffset before) := by
  have hFirst : dashes before ≠ [] := by simpa [dashes] using hBefore
  have hSecond : dashes after ≠ [] := by simpa [dashes] using hAfter
  have hJoined : dashes (before ++ after) = dashes before ++ dashes after := List.map_append
  refine ⟨left :: '-' :: ((String.intercalate "-+-" (dashes before)).toList ++ ['-']),
    '-' :: ((String.intercalate "-+-" (dashes after)).toList ++ ['-', right]), ?_,
    List.cons_ne_nil _ _, List.cons_ne_nil _ _, ?_⟩
  · rw [toList_border, hJoined, String.intercalate_append_of_ne_nil hFirst hSecond]
    simp
  · have hInner := width_joined_crosses (dashes before)
    rw [map_width_dashes, Text.width] at hInner
    rw [Text.columns_cons hLeft, Text.columns_cons Text.separates_dash,
      Text.columns_append_cons Text.separates_dash, Text.columns_nil, hInner, markOffset]
    omega

/-- The crosses of a border are exactly those between two of its columns. -/
theorem crossesAt_border_iff {left : Char} (hLeft : Text.separates left = true) (right : Char)
    (widths : List Nat) (offset : Nat) :
    CrossesAt (border left right widths) offset ↔
      ∃ before after, before ≠ [] ∧ after ≠ [] ∧ widths = before ++ after ∧
        offset = markOffset before := by
  constructor
  · exact exists_widths_of_crossesAt hLeft
  · rintro ⟨before, after, hBefore, hAfter, rfl, rfl⟩
    exact crossesAt_markOffset hLeft hBefore hAfter

/-- A line whose fields have room has a bar between any two of its columns. -/
theorem partsAt_markOffset {before after : List Nat} {fields : Line} (hBefore : before ≠ [])
    (hAfter : after ≠ []) (hRoom : HaveRoom (before ++ after) fields) :
    PartsAt (before ++ after) fields (markOffset before) := by
  have hWidths := map_width_padFields hRoom
  obtain ⟨left, right, hFields, rfl, rfl⟩ := List.map_eq_append_iff.mp hWidths
  have hLeft : left ≠ [] := by simpa using hBefore
  have hRight : right ≠ [] := by simpa using hAfter
  refine ⟨left, right, hLeft, hRight, hFields, ?_, ?_⟩
  · rw [barred, hFields, String.intercalate_append_of_ne_nil hLeft hRight]
    simp [String.append_assoc]
  · have hInner := width_joined_bars left
    have hList : ("| " ++ String.intercalate " | " left ++ " ").toList =
        '|' :: ' ' :: ((String.intercalate " | " left).toList ++ [' ']) := by simp
    rw [Text.width] at hInner
    rw [Text.width, hList, Text.columns_cons Text.separates_bar,
      Text.columns_cons Text.separates_space, Text.columns_append_cons Text.separates_space,
      Text.columns_nil, hInner, markOffset]
    omega

end Table

end Tabular

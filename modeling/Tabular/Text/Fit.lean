import Tabular.Text.Separator

/-!
Text brought to a given number of columns, by spaces after it or by cutting its end.
-/

namespace Tabular.Text

/-- Append characters to `shown` as long as the text stays within `limit` columns. The first that
makes it wider ends the text, even if a later one would join and make it narrower again. -/
def extend (limit : Nat) (shown : List Char) : List Char → List Char
  | [] => shown
  | c :: rest =>
      if columns (shown ++ [c]) ≤ limit then extend limit (shown ++ [c]) rest else shown

/-- As much of a text as is shown in `limit` columns: all of it if it fits. -/
def cut (limit : Nat) (cs : List Char) : List Char :=
  if columns cs ≤ limit then cs else extend limit [] cs

/-- A text in a field of `limit` columns, at its left end. -/
def fit (text : String) (limit : Nat) : String :=
  let shown := cut limit text.toList
  String.ofList (shown ++ List.replicate (limit - columns shown) ' ')

@[simp] theorem toList_fit (text : String) (limit : Nat) :
    (fit text limit).toList = cut limit text.toList ++
      List.replicate (limit - columns (cut limit text.toList)) ' ' := by
  simp [fit]

theorem columns_extend_le {limit : Nat} (rest : List Char) {shown : List Char}
    (h : columns shown ≤ limit) : columns (extend limit shown rest) ≤ limit := by
  induction rest generalizing shown with
  | nil => exact h
  | cons c rest ih =>
    rw [extend]
    split
    · next hLonger => exact ih hLonger
    · exact h

theorem columns_cut_le (limit : Nat) (cs : List Char) : columns (cut limit cs) ≤ limit := by
  unfold cut
  split
  · assumption
  · exact columns_extend_le cs (by simp)

/-- A field has exactly the width it was made for. -/
theorem width_fit (text : String) (limit : Nat) : width (fit text limit) = limit := by
  have hCut := columns_cut_le limit text.toList
  rw [width, toList_fit, columns_append_replicate separates_space]
  omega

theorem extend_isPrefix (limit : Nat) (shown rest : List Char) :
    extend limit shown rest <+: shown ++ rest := by
  induction rest generalizing shown with
  | nil => simp [extend]
  | cons c rest ih =>
    rw [extend]
    split
    · simpa using ih (shown ++ [c])
    · exact List.prefix_append _ _

/-- Cutting drops characters at the end only. -/
theorem cut_isPrefix (limit : Nat) (cs : List Char) : cut limit cs <+: cs := by
  unfold cut
  split
  · exact List.prefix_rfl
  · exact extend_isPrefix limit [] cs

/-- A text that fits is shown whole. -/
theorem cut_of_le {limit : Nat} {cs : List Char} (h : columns cs ≤ limit) : cut limit cs = cs := by
  simp [cut, h]

end Tabular.Text

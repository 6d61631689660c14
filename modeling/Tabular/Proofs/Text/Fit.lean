import Tabular.Proofs.Text.Sequences
import Tabular.Text.Blank
import Tabular.Text.Fit

/-!
What a field shows of a text. A text that fits is shown whole. Of a wider one the characters in front
of the first that makes it too wide are shown, although one further on could join with them and make
them narrower again. Behind the text are spaces, which join with nothing.
-/

namespace Tabular.Text

/-- The beginning of a text that is shown in `limit` columns. -/
structure Shortened (limit : Nat) (text shown : List Char) : Prop where
  isPrefix : shown <+: text
  columns_le : columns shown ≤ limit
  whole : columns text ≤ limit → shown = text
  /-- what is shown of a text that does not fit ends in front of the first character that makes it
  too wide -/
  next : limit < columns text → (∀ front, front <+: shown → columns front ≤ limit) ∧
    ∃ c, shown ++ [c] <+: text ∧ limit < columns (shown ++ [c])

/-- As long as characters are appended, everything in front of the last one fits. -/
theorem columns_le_of_isPrefix_extend {limit : Nat} (rest : List Char) {shown front : List Char}
    (h : ∀ front, front <+: shown → columns front ≤ limit)
    (hFront : front <+: extend limit shown rest) : columns front ≤ limit := by
  induction rest generalizing shown with
  | nil => exact h front hFront
  | cons c rest ih =>
      rw [extend] at hFront
      split at hFront
      · next hLonger =>
        apply ih _ hFront
        intro other hOther
        rcases List.prefix_concat_iff.mp hOther with hAll | hBefore
        · exact hAll ▸ hLonger
        · exact h other hBefore
      · exact h front hFront

/-- Appending stops at the end of the text or in front of a character that makes it too wide. -/
theorem extend_eq_or_exists_next (limit : Nat) (shown rest : List Char) :
    extend limit shown rest = shown ++ rest ∨
      ∃ c, extend limit shown rest ++ [c] <+: shown ++ rest ∧
        limit < columns (extend limit shown rest ++ [c]) := by
  induction rest generalizing shown with
  | nil => exact Or.inl (List.append_nil shown).symm
  | cons c rest ih =>
      rw [extend]
      split
      · simpa using ih (shown ++ [c])
      · next hWider =>
        exact Or.inr ⟨c, by simp, Nat.lt_of_not_le hWider⟩

theorem shortened_cut (limit : Nat) (cs : List Char) : Shortened limit cs (cut limit cs) where
  isPrefix := cut_isPrefix limit cs
  columns_le := columns_cut_le limit cs
  whole := cut_of_le
  next := by
    intro hWide
    have hLe : columns (extend limit [] cs) ≤ limit := columns_extend_le cs (Nat.zero_le limit)
    rw [cut, if_neg (Nat.not_le_of_lt hWide)]
    constructor
    · intro front hFront
      apply columns_le_of_isPrefix_extend cs _ hFront
      intro other hOther
      rw [List.prefix_nil.mp hOther]
      exact Nat.zero_le limit
    · rcases extend_eq_or_exists_next limit [] cs with hAll | hNext
      · rw [hAll] at hLe
        exact absurd hLe (Nat.not_le_of_lt hWide)
      · exact hNext

/-- A field of `limit` columns holds the text, or its beginning if the text does not fit, and then
only spaces. -/
structure Fitted (limit : Nat) (text : String) (field : List Char) : Prop where
  columns : columns field = limit
  shown : ∃ shown padding, field = shown ++ List.replicate padding ' ' ∧
    Shortened limit text.toList shown

theorem fitted_fit (text : String) (limit : Nat) : Fitted limit text (fit text limit).toList where
  columns := width_fit text limit
  shown := ⟨cut limit text.toList, _, toList_fit text limit, shortened_cut limit text.toList⟩

/-- A field is exactly as wide as it was made. In it stands the text, or its beginning if the text
does not fit, and then only spaces. The columns are counted from the end of the text, in view of what
stands behind each character, and are those of the sequences that the text consists of. -/
theorem fit_is_exact (text : String) (limit : Nat) :
    width (fit text limit) = limit ∧
      (∃ shown padding, fit text limit = shown ++ spaces padding ∧
        Shortened limit text.toList shown.toList) ∧
      width text = total (text.toList.foldr readBefore (0, .plain)) ∧
      ∀ count, Composed text.toList count → width text = count := by
  obtain ⟨hWidth, shown, padding, hField, hShown⟩ := fitted_fit text limit
  refine ⟨hWidth, ⟨String.ofList shown, padding, ?_, ?_⟩, ?_, ?_⟩
  · apply String.toList_injective
    rw [hField, String.toList_append, String.toList_ofList, toList_spaces]
  · rw [String.toList_ofList]
    exact hShown
  · rw [width, columns, measure_eq_foldr]
    rfl
  · exact fun count h => h.columns_eq

/-- A watch takes two columns and a selector behind it makes it take one. In one column the watch is
dropped all the same from a text that does not fit: it is too wide before its selector is read. -/
theorem watch_before_its_selector_is_dropped :
    let watch := "\u231a\ufe0e"
    let text := watch ++ "ab"
    fit watch 1 = watch ∧ width text = 3 ∧ fit text 1 = " " ∧ width (fit text 1) = 1 ∧
      ∃ shown padding, fit text 1 = shown ++ spaces padding ∧
        Shortened 1 text.toList shown.toList := by
  intro watch text
  obtain ⟨hWidth, hShown, -, hComposed⟩ := fit_is_exact text 1
  have hLetters : Composed ['a', 'b'] 2 :=
    .cons (.single 'a') (.cons (.single 'b') .nil (by decide)) (by decide)
  have hText : text.toList = ['\u231a', '\ufe0e'] ++ ['a', 'b'] := by decide
  have hParts : Composed text.toList 3 :=
    hText ▸ .cons (.asText (by decide)) hLetters (by decide)
  exact ⟨by decide, hComposed 3 hParts, by decide, hWidth, hShown⟩

/-- The beginnings of a text may take more columns than it or fewer: a watch and a heart with their
selectors, an Arabic ligature, a thumb with a skin tone, two people with a joiner, a line end. -/
example :
    ([[0x231A, 0xFE0E], [0x2764, 0xFE0F], [0x644, 0x627], [0x1F44D, 0x1F3FD],
        [0x1F469, 0x200D, 0x1F467], [0x0D, 0x0A]].map fun codes =>
      (List.range codes.length).map fun n => columns ((codes.take (n + 1)).map Char.ofNat)) =
    [[2, 1], [1, 2], [1, 1], [2, 2], [2, 2, 2], [1, 0]] := by
  decide +kernel

end Tabular.Text

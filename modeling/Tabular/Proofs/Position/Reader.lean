import Tabular.Position.Reader
import Tabular.Proofs.Outcome
import Tabular.Proofs.Text.Words

/-!
How amounts, positions and inventories are read from texts: an amount is two words, the cost of a
position stands in braces, between the first opening brace and the end of the text, and the positions
of an inventory stand between its commas.
-/

namespace Tabular

/-- The two words of an amount are its number and its currency. -/
theorem Amount.ofChars_eq_ok_iff {cs : List Char} {amount : Amount} :
    Amount.ofChars cs = .ok amount ↔
      ∃ number, Text.words cs = [number, amount.currency.toList] ∧
        Decimal.parse (String.ofList number) = .ok amount.number := by
  obtain ⟨d, label⟩ := amount
  rw [ofChars]
  split
  · next number currency hWords =>
    rw [bind_eq_ok_iff]
    constructor
    · rintro ⟨read, hNumber, hOk⟩
      obtain ⟨rfl, rfl⟩ := Amount.mk.inj (Except.ok.inj hOk)
      exact ⟨number, by rw [hWords, String.toList_ofList], hNumber⟩
    · rintro ⟨other, hOther, hNumber⟩
      obtain ⟨rfl, hLabel⟩ : number = other ∧ currency = label.toList := by
        simpa using hWords.symm.trans hOther
      exact ⟨d, hNumber, by rw [hLabel, String.ofList_toList]⟩
  · next hWords =>
    constructor
    · rintro ⟨⟩
    · rintro ⟨number, hTwo, -⟩
      exact absurd hTwo (hWords number label.toList)

/-- An amount is read from its words, whatever blanks stand around them. -/
theorem Amount.ofChars_eq_ok_congr {cs other : List Char} (h : Text.words cs = Text.words other)
    {amount : Amount} : Amount.ofChars cs = .ok amount ↔ Amount.ofChars other = .ok amount := by
  rw [ofChars_eq_ok_iff, ofChars_eq_ok_iff, h]

/-- Blanks in front of an amount make no difference, nor do they to the words for a fault. -/
theorem Amount.ofChars_trimStart (cs : List Char) :
    Amount.ofChars (Text.trimStart cs) = Amount.ofChars cs := by
  rw [ofChars, ofChars, Text.words_trimStart, Text.trim_trimStart]

/-- Blanks around an amount make no difference, nor do they to the words for a fault. -/
theorem Amount.ofChars_trim (cs : List Char) :
    Amount.ofChars (Text.trim cs) = Amount.ofChars cs := by
  rw [ofChars, ofChars, Text.words_trim, Text.trim_trim]

namespace Position

theorem ofTrimmed_of_not_mem {cs : List Char} (h : '\x7b' ∉ cs) :
    ofTrimmed cs = Amount.ofChars cs >>= fun units => .ok ⟨units, none⟩ := by
  have hNone : cs.dropWhile (· != '\x7b') = [] := by
    refine List.dropWhile_eq_nil_iff.mpr fun c hMem => ?_
    rw [bne_iff_ne]
    rintro rfl
    exact h hMem
  rw [ofTrimmed, hNone]

/-- The cost begins at the first opening brace, and ends with the text. -/
theorem ofTrimmed_append_cons {front : List Char} (h : '\x7b' ∉ front) (rest : List Char) :
    ofTrimmed (front ++ '\x7b' :: rest) =
      if rest.getLast? = some '\x7d' then
        Amount.ofChars front >>= fun units =>
          Amount.ofChars rest.dropLast >>= fun cost => .ok ⟨units, some cost⟩
      else failure (.unterminatedCost (String.ofList (front ++ '\x7b' :: rest))) := by
  have hNoBrace : ∀ c ∈ front, (c != '\x7b') = true := by
    intro c hMem
    rw [bne_iff_ne]
    rintro rfl
    exact h hMem
  rw [ofTrimmed, List.dropWhile_append_of_pos hNoBrace, List.takeWhile_append_of_pos hNoBrace]
  simp

/-- What is read as a position has no brace, or a cost in braces behind the units. -/
theorem ofTrimmed_eq_ok_iff {cs : List Char} {position : Position} :
    ofTrimmed cs = .ok position ↔
      ('\x7b' ∉ cs ∧ Amount.ofChars cs = .ok position.units ∧ position.cost = none) ∨
        ∃ front back cost, cs = front ++ '\x7b' :: (back ++ ['\x7d']) ∧ '\x7b' ∉ front ∧
          Amount.ofChars front = .ok position.units ∧ Amount.ofChars back = .ok cost ∧
            position.cost = some cost := by
  obtain ⟨held, paid⟩ := position
  constructor
  · intro h
    by_cases hBrace : '\x7b' ∈ cs
    · obtain ⟨front, rest, rfl, hFront⟩ := List.eq_append_cons_of_mem hBrace
      rw [ofTrimmed_append_cons hFront] at h
      split at h
      · next hLast =>
        obtain ⟨units, hUnits, hRest⟩ := bind_eq_ok_iff.mp h
        obtain ⟨cost, hCost, hOk⟩ := bind_eq_ok_iff.mp hRest
        obtain ⟨rfl, rfl⟩ := Position.mk.inj (Except.ok.inj hOk)
        have hEnd := List.dropLast_append_getLast? '\x7d' hLast
        exact Or.inr ⟨front, rest.dropLast, cost, by rw [hEnd], hFront, hUnits, hCost, rfl⟩
      · cases h
    · rw [ofTrimmed_of_not_mem hBrace] at h
      obtain ⟨units, hUnits, hOk⟩ := bind_eq_ok_iff.mp h
      obtain ⟨rfl, rfl⟩ := Position.mk.inj (Except.ok.inj hOk)
      exact Or.inl ⟨hBrace, hUnits, rfl⟩
  · rintro (⟨hBrace, hUnits, hCost⟩ | ⟨front, back, cost, rfl, hFront, hUnits, hBack, hCost⟩)
    · obtain rfl : paid = none := hCost
      rw [ofTrimmed_of_not_mem hBrace, hUnits]
      rfl
    · obtain rfl : paid = some cost := hCost
      rw [ofTrimmed_append_cons hFront, List.getLast?_concat, if_pos rfl, List.dropLast_concat,
        hUnits, hBack]
      rfl

/-- The text that is left of a position with a cost once its blanks are trimmed. -/
theorem trim_append_cost {after : List Char} (hAfter : ∀ c ∈ after, Text.isBlank c = true)
    (front back : List Char) :
    Text.trim (front ++ '\x7b' :: (back ++ '\x7d' :: after)) =
      Text.trimStart front ++ '\x7b' :: (back ++ ['\x7d']) := by
  have hFront : front.takeWhile Text.isBlank ++ Text.trimStart front = front :=
    List.takeWhile_append_dropWhile
  have hText : front ++ '\x7b' :: (back ++ '\x7d' :: after) =
      front.takeWhile Text.isBlank ++ (Text.trimStart front ++ '\x7b' :: (back ++ ['\x7d'])) ++
        after := by
    conv_lhs => rw [← hFront]
    simp
  rw [hText, Text.trim_append_append (fun _ => List.mem_takeWhile_imp) hAfter]
  refine Text.trim_of_ends (fun c hHead => ?_) fun c hLast => ?_
  · rw [List.head?_append, Option.mem_def] at hHead
    have hFirst := List.head?_dropWhile_not Text.isBlank front
    rw [← Text.trimStart] at hFirst
    cases hStart : (Text.trimStart front).head? with
    | none =>
        rw [hStart] at hHead
        obtain rfl : '\x7b' = c := by simpa using hHead
        decide
    | some first =>
        rw [hStart] at hHead hFirst
        obtain rfl : first = c := by simpa using hHead
        simpa using hFirst
  · rw [← List.cons_append, ← List.append_assoc, List.getLast?_concat] at hLast
    obtain rfl : '\x7d' = c := by simpa using hLast
    decide

/-- What is read as a position, blanks around it included, is units alone, or units in front of the
first opening brace and a cost between it and a closing brace at the end. -/
theorem ofChars_eq_ok_iff {cs : List Char} {position : Position} :
    ofChars cs = .ok position ↔
      ('\x7b' ∉ cs ∧ Amount.ofChars cs = .ok position.units ∧ position.cost = none) ∨
        ∃ front back after cost, cs = front ++ '\x7b' :: (back ++ '\x7d' :: after) ∧
          '\x7b' ∉ front ∧ (∀ c ∈ after, Text.isBlank c = true) ∧
            Amount.ofChars front = .ok position.units ∧ Amount.ofChars back = .ok cost ∧
              position.cost = some cost := by
  have hBrace : Text.isBlank '\x7b' = false := by decide
  rw [ofChars, ofTrimmed_eq_ok_iff]
  constructor
  · rintro (⟨hNone, hUnits, hCost⟩ | ⟨front, back, cost, hTrim, hFront, hUnits, hBack, hCost⟩)
    · have hNoBrace : '\x7b' ∉ cs := fun hMem =>
        absurd (Text.isBlank_of_not_mem_trim hMem hNone) (by simp [hBrace])
      exact Or.inl ⟨hNoBrace, (Amount.ofChars_eq_ok_congr (Text.words_trim cs)).mp hUnits, hCost⟩
    · obtain ⟨before, after, hBefore, hAfter, hText⟩ := Text.exists_eq_append_trim cs
      have hWords := Text.words_blanks_append hBefore front
      refine Or.inr ⟨before ++ front, back, after, cost, ?_, ?_, hAfter,
        (Amount.ofChars_eq_ok_congr hWords).mpr hUnits, hBack, hCost⟩
      · rw [hText, hTrim]
        simp
      · rw [List.mem_append]
        rintro (hMem | hMem)
        · exact absurd (hBefore _ hMem) (by simp [hBrace])
        · exact hFront hMem
  · rintro (⟨hNone, hUnits, hCost⟩ |
      ⟨front, back, after, cost, rfl, hFront, hAfter, hUnits, hBack, hCost⟩)
    · exact Or.inl ⟨fun hMem => hNone (Text.mem_of_mem_trim hMem),
        (Amount.ofChars_eq_ok_congr (Text.words_trim cs)).mpr hUnits, hCost⟩
    · have hWords := Text.words_trimStart front
      exact Or.inr ⟨Text.trimStart front, back, cost, trim_append_cost hAfter front back,
        fun hMem => hFront ((List.dropWhile_sublist _).mem hMem),
        (Amount.ofChars_eq_ok_congr hWords).mpr hUnits, hBack, hCost⟩

end Position

namespace Inventory

/-- A comma stands between the parts in front of it and those behind it. -/
theorem parts_append_cons (front back : List Char) :
    parts (front ++ ',' :: back) = parts front ++ parts back := by
  have hSplit : (front ++ ',' :: back).splitOn ',' = front.splitOn ',' ++ back.splitOn ',' :=
    List.splitOnP_append_cons front back rfl
  rw [parts, hSplit, List.map_append, List.filter_append]
  rfl

/-- Joined by commas, pieces without commas that are not blank are the parts of the text again. -/
theorem parts_intercalate {pieces : List String}
    (h : ∀ piece ∈ pieces, ',' ∉ piece.toList ∧ Text.trim piece.toList ≠ []) :
    parts (String.intercalate "," pieces).toList =
      pieces.map fun piece => Text.trim piece.toList := by
  rw [parts, String.toList_intercalate]
  by_cases hNone : pieces = []
  · -- no text at all is split into one empty part, which is left out
    subst hNone
    simp
  · have hComma : ∀ cs ∈ pieces.map String.toList, ',' ∉ cs := by
      simpa using fun piece hMem => (h piece hMem).1
    have hSplit : (",".toList.intercalate (pieces.map String.toList)).splitOn ',' =
        pieces.map String.toList :=
      List.splitOn_intercalate ',' hComma (by simpa using hNone)
    have hNotBlank : ∀ cs ∈ (pieces.map String.toList).map Text.trim, (!cs.isEmpty) = true := by
      simpa using fun piece hMem => (h piece hMem).2
    rw [hSplit, List.filter_eq_self.mpr hNotBlank, List.map_map]
    rfl

/-- The text of an inventory is read part by part, so that one in front of a comma and one behind it
are read one after the other. -/
theorem parse_append_comma (front back : String) :
    parse (front ++ "," ++ back) =
      parse front >>= fun first => parse back >>= fun second =>
        .ok ⟨first.positions ++ second.positions⟩ := by
  have hText : (front ++ "," ++ back).toList = front.toList ++ ',' :: back.toList := by simp
  rw [parse, parse, parse, hText, parts_append_cons, List.mapM_append]
  simp only [bind_assoc, pure_bind, ok_bind]

end Inventory

end Tabular

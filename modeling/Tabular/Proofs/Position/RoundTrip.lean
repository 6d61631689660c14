import Tabular.Position.Printer
import Tabular.Proofs.Decimal.ReadBack
import Tabular.Proofs.Position.Reader

/-!
Reading the texts of positions back. A position is read from its own text as it was if its
currencies are words and that of its units holds no opening brace; every position that is read from
a text is such. Positions whose currencies hold no comma either are read back from one text, in
their order.
-/

namespace Tabular

namespace Amount

/-- The currency is a word: it is not empty and holds no blank. -/
structure HasWord (amount : Amount) : Prop where
  ne_nil : amount.currency.toList ≠ []
  isBlank_eq_false : ∀ c ∈ amount.currency.toList, Text.isBlank c = false

theorem toList_text (amount : Amount) :
    amount.text.toList = amount.number.chars ++ ' ' :: amount.currency.toList := by
  simp [text]

theorem words_text {amount : Amount} (h : amount.HasWord) :
    Text.words amount.text.toList = [amount.number.chars, amount.currency.toList] := by
  rw [toList_text, Text.words_append_cons rfl,
    Text.words_eq_singleton amount.number.chars_ne_nil fun _ => Decimal.isBlank_of_mem_chars,
    Text.words_eq_singleton h.ne_nil h.isBlank_eq_false]
  rfl

/-- An amount is read from its two words. -/
theorem ofChars_of_words {amount : Amount} {cs : List Char}
    (h : Text.words cs = [amount.number.chars, amount.currency.toList]) :
    Amount.ofChars cs = .ok amount := by
  have hMem : amount.number.chars ∈ Text.words cs := h ▸ List.mem_cons_self
  refine ofChars_eq_ok_iff.mpr ⟨_, h, Decimal.parse_of_trim ?_⟩
  rw [String.toList_ofList, Text.trim_of_mem_words hMem]

theorem ofChars_text {amount : Amount} (h : amount.HasWord) :
    Amount.ofChars amount.text.toList = .ok amount :=
  ofChars_of_words (words_text h)

/-- The space between the units and the cost of a position belongs to neither. -/
theorem ofChars_text_space {amount : Amount} (h : amount.HasWord) :
    Amount.ofChars (amount.text.toList ++ [' ']) = .ok amount := by
  refine ofChars_of_words ?_
  rw [Text.words_append_cons rfl, words_text h, Text.words_nil, List.append_nil]

/-- The currency of an amount that is read is a word of the text. -/
theorem hasWord_of_ofChars {cs : List Char} {amount : Amount} (h : Amount.ofChars cs = .ok amount) :
    amount.HasWord ∧ amount.currency.toList ⊆ cs := by
  obtain ⟨number, hWords, -⟩ := ofChars_eq_ok_iff.mp h
  have hMem : amount.currency.toList ∈ Text.words cs := by simp [hWords]
  exact ⟨⟨Text.ne_nil_of_mem_words hMem, fun _ => Text.isBlank_of_mem_words hMem⟩,
    fun _ => Text.mem_of_mem_words hMem⟩

/-- A mark that is in no number and is no space stands in the text of an amount only as part of the
currency. -/
theorem not_mem_text {amount : Amount} {mark : Char}
    (hMark : mark.isDigit = false ∧ mark ≠ '-' ∧ mark ≠ '.' ∧ mark ≠ ' ')
    (h : mark ∉ amount.currency.toList) : mark ∉ amount.text.toList := by
  obtain ⟨hDigit, hMinus, hPoint, hSpace⟩ := hMark
  rw [toList_text, List.mem_append, List.mem_cons]
  rintro (hNumber | hHere | hCurrency)
  · rcases Decimal.mem_chars hNumber with hIs | hIs | hIs
    · rw [hDigit] at hIs
      cases hIs
    · exact hMinus hIs
    · exact hPoint hIs
  · exact hSpace hHere
  · exact h hCurrency

end Amount

namespace Position

/-- The currencies are words, and that of the units holds no brace that would open a cost. -/
structure Legible (held : Position) : Prop where
  units : held.units.HasWord
  noBrace : '\x7b' ∉ held.units.currency.toList
  cost : ∀ cost ∈ held.cost, cost.HasWord

theorem toList_text_of_cost {held : Position} {cost : Amount} (h : held.cost = some cost) :
    held.text.toList =
      (held.units.text.toList ++ [' ']) ++ '\x7b' :: (cost.text.toList ++ ['\x7d']) := by
  simp [text, h]

theorem toList_text_ne_nil (held : Position) : held.text.toList ≠ [] := by
  cases hCost : held.cost with
  | none => simp [text, hCost, Amount.text]
  | some cost => simp [toList_text_of_cost hCost]

/-- The text of a position begins with its number, and ends with its currency or with the brace
behind its cost. -/
theorem trim_text {held : Position} (h : held.Legible) :
    Text.trim held.text.toList = held.text.toList := by
  have hNumber : ∀ c ∈ held.units.number.chars, Text.isBlank c = false := fun _ =>
    Decimal.isBlank_of_mem_chars
  cases hCost : held.cost with
  | none =>
      have hText : held.text.toList =
          held.units.number.chars ++ [' '] ++ held.units.currency.toList := by
        simp [text, hCost, Amount.toList_text]
      rw [hText]
      exact Text.trim_between held.units.number.chars_ne_nil hNumber h.units.ne_nil
        h.units.isBlank_eq_false _
  | some cost =>
      have hText : held.text.toList = held.units.number.chars ++
          (' ' :: (held.units.currency.toList ++ ' ' :: '\x7b' :: cost.text.toList)) ++
            ['\x7d'] := by
        simp [toList_text_of_cost hCost, Amount.toList_text]
      rw [hText]
      exact Text.trim_between held.units.number.chars_ne_nil hNumber (List.cons_ne_nil _ _)
        (by simp; decide) _

theorem ofTrimmed_text {held : Position} (h : held.Legible) :
    ofTrimmed held.text.toList = .ok held := by
  have hNoBrace : '\x7b' ∉ held.units.text.toList :=
    Amount.not_mem_text (by decide) h.noBrace
  refine ofTrimmed_eq_ok_iff.mpr ?_
  cases hCost : held.cost with
  | none =>
      have hText : held.text = held.units.text := by simp [text, hCost]
      exact Or.inl ⟨hText ▸ hNoBrace, hText ▸ Amount.ofChars_text h.units, rfl⟩
  | some cost =>
      refine Or.inr ⟨_, _, cost, toList_text_of_cost hCost, ?_, Amount.ofChars_text_space h.units,
        Amount.ofChars_text (h.cost cost hCost), rfl⟩
      rw [List.mem_append, List.mem_singleton]
      rintro (hUnits | hSpace)
      · exact hNoBrace hUnits
      · exact absurd hSpace (by decide)

/-- A position is read from its text as it was, with blanks around the text or without. -/
theorem ofChars_of_trim {held : Position} (h : held.Legible) {cs : List Char}
    (hTrim : Text.trim cs = held.text.toList) : ofChars cs = .ok held := by
  rw [ofChars, hTrim, ofTrimmed_text h]

/-- What is read from a text can be told apart in its own. -/
theorem legible_of_ofTrimmed {cs : List Char} {held : Position} (h : ofTrimmed cs = .ok held) :
    held.Legible := by
  rcases ofTrimmed_eq_ok_iff.mp h with ⟨hNoBrace, hUnits, hCost⟩ |
    ⟨front, back, cost, -, hNoBrace, hUnits, hBack, hCost⟩
  · obtain ⟨hWord, hSub⟩ := Amount.hasWord_of_ofChars hUnits
    refine ⟨hWord, fun hMem => hNoBrace (hSub hMem), ?_⟩
    simp [hCost]
  · obtain ⟨hWord, hSub⟩ := Amount.hasWord_of_ofChars hUnits
    refine ⟨hWord, fun hMem => hNoBrace (hSub hMem), ?_⟩
    simpa [hCost] using (Amount.hasWord_of_ofChars hBack).1

/-- The currencies hold no comma, which would end the position in the text of an inventory. -/
structure NoComma (held : Position) : Prop where
  units : ',' ∉ held.units.currency.toList
  cost : ∀ cost ∈ held.cost, ',' ∉ cost.currency.toList

theorem NoComma.not_mem_text {held : Position} (h : held.NoComma) : ',' ∉ held.text.toList := by
  have hUnits : ',' ∉ held.units.text.toList := Amount.not_mem_text (by decide) h.units
  cases hCost : held.cost with
  | none => simpa [text, hCost] using hUnits
  | some cost =>
      have hPaid : ',' ∉ cost.text.toList := Amount.not_mem_text (by decide) (h.cost cost hCost)
      simp [toList_text_of_cost hCost, hUnits, hPaid]

/-- The text of the position with blanks around it, or none. -/
def PaddedIn (held : Position) (piece : String) : Prop :=
  ∃ before after, (∀ c ∈ before, Text.isBlank c = true) ∧ (∀ c ∈ after, Text.isBlank c = true) ∧
    piece.toList = before ++ held.text.toList ++ after

theorem PaddedIn.trim_eq {held : Position} {piece : String} (h : held.PaddedIn piece)
    (hLegible : held.Legible) : Text.trim piece.toList = held.text.toList := by
  obtain ⟨before, after, hBefore, hAfter, hPiece⟩ := h
  rw [hPiece, Text.trim_append_append hBefore hAfter, trim_text hLegible]

theorem PaddedIn.not_mem_comma {held : Position} {piece : String} (h : held.PaddedIn piece)
    (hComma : held.NoComma) : ',' ∉ piece.toList := by
  have hBlank : Text.isBlank ',' = false := by decide
  obtain ⟨before, after, hBefore, hAfter, hPiece⟩ := h
  rw [hPiece, List.mem_append, List.mem_append]
  rintro ((hMem | hMem) | hMem)
  · simpa [hBlank] using hBefore ',' hMem
  · exact hComma.not_mem_text hMem
  · simpa [hBlank] using hAfter ',' hMem

end Position

namespace Inventory

/-- Joined by commas, texts without commas with blanks around them are the parts of the text
again. -/
theorem parts_intercalate_of_padded {positions : List Position} {pieces : List String}
    (h : List.Forall₂ Position.PaddedIn positions pieces)
    (hLegible : ∀ held ∈ positions, held.Legible) (hComma : ∀ held ∈ positions, held.NoComma) :
    parts (String.intercalate "," pieces).toList = positions.map fun held => held.text.toList := by
  have hPieces : (∀ piece ∈ pieces, ',' ∉ piece.toList ∧ Text.trim piece.toList ≠ []) ∧
      (pieces.map fun piece => Text.trim piece.toList) =
        positions.map fun held => held.text.toList := by
    induction h with
    | nil => simp
    | @cons held piece positions pieces hPiece hRest ih =>
        obtain ⟨hHead, hTail⟩ := List.forall_mem_cons.mp hLegible
        obtain ⟨hHeadComma, hTailComma⟩ := List.forall_mem_cons.mp hComma
        obtain ⟨hAll, hTrim⟩ := ih hTail hTailComma
        have hFirst : Text.trim piece.toList = held.text.toList := hPiece.trim_eq hHead
        refine ⟨List.forall_mem_cons.mpr ⟨⟨hPiece.not_mem_comma hHeadComma, ?_⟩, hAll⟩, ?_⟩
        · rw [hFirst]
          exact held.toList_text_ne_nil
        · rw [List.map_cons, List.map_cons, hFirst, hTrim]
  rw [parts_intercalate hPieces.1, hPieces.2]

end Inventory

/-- A position is read back from its text with its currencies and with its numbers as they were, to
the sign of zero and the digits that they show, if its currencies are words and no brace opens
before that of its cost. What is read from any text is such a position. Joined by commas, with
blanks around each or without, the texts of positions without commas are read as an inventory of
these positions in their order. -/
theorem Position.texts_are_read_back :
    (∀ held : Position, held.Legible → Position.parse held.text = .ok held) ∧
    (∀ (text : String) (held : Position), Position.parse text = .ok held → held.Legible) ∧
    ∀ (positions : List Position) (pieces : List String),
      (∀ held ∈ positions, held.Legible ∧ held.NoComma) →
        List.Forall₂ Position.PaddedIn positions pieces →
          Inventory.parse (String.intercalate "," pieces) = .ok ⟨positions⟩ := by
  refine ⟨fun held h => ofChars_of_trim h (trim_text h), fun text held h => legible_of_ofTrimmed h,
    ?_⟩
  intro positions pieces hPositions h
  have hLegible : ∀ held ∈ positions, held.Legible := fun held hMem => (hPositions held hMem).1
  have hRead : (positions.map fun held => held.text.toList).mapM Position.ofChars =
      .ok positions := by
    rw [mapM_eq_ok_iff, List.forall₂_map_left_iff, List.forall₂_same]
    exact fun held hMem => ofChars_of_trim (hLegible held hMem) (trim_text (hLegible held hMem))
  rw [Inventory.parse,
    Inventory.parts_intercalate_of_padded h hLegible fun held hMem => (hPositions held hMem).2, hRead]
  rfl

/-- Braces in currencies, a zero with a sign and a mantissa of all its digits are read back. -/
theorem Position.braces_and_negative_zero_are_read_back :
    let paid : Amount := ⟨⟨false, 79228162514264337593543950335, 28, by decide, by decide⟩,
      "\x7bB\x7d"⟩
    let held : Position := ⟨⟨⟨true, 0, 1, by decide, by decide⟩, "A\x7d"⟩, some paid⟩
    let plain : Position := ⟨⟨⟨false, 50, 1, by decide, by decide⟩, "EUR"⟩, none⟩
    held.text = "-0.0 A\x7d \x7b7.9228162514264337593543950335 \x7bB\x7d\x7d" ∧
      held.Legible ∧ Position.parse held.text = .ok held ∧
      Inventory.parse (String.intercalate "," ["\t" ++ held.text, plain.text ++ "\u3000"]) =
        .ok ⟨[held, plain]⟩ := by
  intro paid held plain
  have hPaid : paid.HasWord := ⟨by decide, by simp [paid, Text.isBlank]⟩
  have hHeld : held.Legible :=
    ⟨⟨by decide, by simp [held, Text.isBlank]⟩, by decide, by simpa [held] using hPaid⟩
  have hPlain : plain.Legible :=
    ⟨⟨by decide, by simp [plain, Text.isBlank]⟩, by decide, by simp [plain]⟩
  have hComma : ∀ p ∈ [held, plain], p.Legible ∧ p.NoComma := by
    simp only [List.forall_mem_cons]
    exact ⟨⟨hHeld, by decide, by simp [held, paid]⟩, ⟨hPlain, by decide, by simp [plain]⟩,
      List.forall_mem_nil _⟩
  have hPadded : List.Forall₂ Position.PaddedIn [held, plain]
      ["\t" ++ held.text, plain.text ++ "\u3000"] :=
    .cons ⟨['\t'], [], by simp [Text.isBlank], by simp, by simp⟩
      (.cons ⟨[], ['\u3000'], by simp, by simp [Text.isBlank], by simp⟩ .nil)
  obtain ⟨hText, -, hJoined⟩ := Position.texts_are_read_back
  exact ⟨by decide +kernel, hHeld, hText held hHeld, hJoined _ _ hComma hPadded⟩

end Tabular

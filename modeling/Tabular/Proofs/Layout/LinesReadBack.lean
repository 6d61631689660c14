import Tabular.Proofs.Layout.ReadBack
import Tabular.Proofs.Layout.Subfields
import Tabular.Proofs.Position.RoundTrip

/-!
Reading the lines of positions back. A line has spaces in front of its numbers, behind its
currencies and where other positions have a cost. They only add to the blanks that a reader drops,
so that it finds the currencies of the position, and numbers that differ from the held ones at most
in the zeros which line them up.
-/

namespace Tabular

namespace Amount

section
variable {numbers : NumberLayout} {amount : Amount} {field : List Char}

/-- The words of a field are the number with all places of the layout, and the currency. -/
theorem StandsIn.words_eq (h : amount.StandsIn numbers field) (hWord : amount.HasWord) :
    Text.words field = [amount.number.charsTo numbers.places, amount.currency.toList] := by
  obtain @⟨numberField, padding, hNumber⟩ := h
  have hNumberWord : Text.words numberField = [amount.number.charsTo numbers.places] := by
    rw [← Text.words_trim, hNumber.trim]
    exact Text.words_eq_singleton (amount.number.charsTo_ne_nil _) fun _ =>
      Decimal.isBlank_of_mem_charsTo
  rw [Text.words_append_cons rfl, Text.words_append_blanks _ fun _ => Text.isBlank_of_mem_spaces,
    hNumberWord, Text.words_eq_singleton hWord.ne_nil hWord.isBlank_eq_false, List.singleton_append]

/-- More spaces behind the currency are padding too. -/
theorem StandsIn.append_spaces (h : amount.StandsIn numbers field) (count : Nat) :
    amount.StandsIn numbers (field ++ List.replicate count ' ') := by
  obtain @⟨numberField, padding, hNumber⟩ := h
  have hText : numberField ++ ' ' :: (amount.currency.toList ++ List.replicate padding ' ') ++
      List.replicate count ' ' =
        numberField ++ ' ' :: (amount.currency.toList ++ List.replicate (padding + count) ' ') := by
    simp
  rw [hText]
  exact .padded hNumber

/-- A brace in a field is one of the currency. -/
theorem StandsIn.not_mem_brace (h : amount.StandsIn numbers field)
    (hNone : '\x7b' ∉ amount.currency.toList) : '\x7b' ∉ field := by
  obtain @⟨numberField, padding, hNumber⟩ := h
  rw [List.mem_append, List.mem_cons, List.mem_append]
  rintro (hField | hSpace | hCurrency | hPadding)
  · have hText : '\x7b' ∉ Text.trim numberField := by
      rw [hNumber.trim]
      intro hMem
      rcases Decimal.mem_charsTo hMem with hIs | hIs | hIs <;> exact absurd hIs (by decide)
    exact absurd (Text.isBlank_of_not_mem_trim hField hText) (by decide)
  · exact absurd hSpace (by decide)
  · exact hNone hCurrency
  · exact absurd (List.mem_replicate.mp hPadding).2 (by decide)

/-- The number still fits with the zeros that give it all places of the layout. -/
def FitsIn (numbers : NumberLayout) (amount : Amount) : Prop :=
  amount.number.mantissa * 10 ^ (numbers.places - amount.number.scale) < Decimal.mantissaLimit

instance {numbers : NumberLayout} {amount : Amount} : Decidable (amount.FitsIn numbers) :=
  inferInstanceAs (Decidable (_ < _))

/-- What was read has the same currency, and a number of the same value and the same sign, which for
zero the value does not tell. -/
structure Restores (read amount : Amount) : Prop where
  currency : read.currency = amount.currency
  value : read.number.value = amount.number.value
  negative : read.number.negative = amount.number.negative

theorem StandsIn.exists_read (h : amount.StandsIn numbers field) (hPlaces : numbers.places ≤ 28)
    (hWord : amount.HasWord) (hFits : amount.FitsIn numbers) :
    ∃ read, ofChars field = .ok read ∧ read.Restores amount := by
  have hTrim : Text.trim (String.ofList (amount.number.charsTo numbers.places)).toList =
      amount.number.charsTo numbers.places := by
    rw [String.toList_ofList]
    exact Text.trim_eq_self fun _ => Decimal.isBlank_of_mem_charsTo
  obtain ⟨number, hParse, hValue, hNegative, -⟩ :=
    Decimal.exists_read_of_lt hTrim (Nat.max_le.mpr ⟨amount.number.scale_le, hPlaces⟩) hFits
  exact ⟨⟨number, amount.currency⟩, ofChars_eq_ok_iff.mpr ⟨_, h.words_eq hWord, hParse⟩,
    rfl, hValue, hNegative⟩

end

end Amount

namespace Position

/-- Both numbers still fit with the zeros that are added to them. -/
structure FitsIn (layout : PositionLayout) (held : Position) : Prop where
  units : held.units.FitsIn layout.units
  cost : ∀ paid ∈ held.cost, paid.FitsIn layout.cost

/-- What was read has the same units, and the same cost or none as well. -/
structure Restores (read held : Position) : Prop where
  units : read.units.Restores held.units
  cost : Option.Rel Amount.Restores read.cost held.cost

/-- A line in which a position stands whole is read as this position. -/
theorem StandsIn.exists_read {layout : PositionLayout} {held : Position} {cs : List Char}
    (h : held.StandsIn layout cs) (hUnitsPlaces : layout.units.places ≤ 28)
    (hCostPlaces : layout.cost.places ≤ 28) (hLegible : held.Legible)
    (hFits : held.FitsIn layout) :
    ∃ read, ofChars cs = .ok read ∧ read.Restores held := by
  cases h with
  | @withoutCost units field padding hUnits =>
      have hField := hUnits.append_spaces padding
      obtain ⟨read, hRead, hRestores⟩ :=
        hField.exists_read hUnitsPlaces hLegible.units hFits.units
      have hNoBrace := hField.not_mem_brace hLegible.noBrace
      exact ⟨⟨read, none⟩, ofChars_eq_ok_iff.mpr (Or.inl ⟨hNoBrace, hRead, rfl⟩), hRestores, .none⟩
  | @withCost units paid field costField hUnits hPaid =>
      -- the space in front of the cost belongs to the text of the units
      have hField := hUnits.append_spaces 1
      obtain ⟨read, hRead, hRestores⟩ :=
        hField.exists_read hUnitsPlaces hLegible.units hFits.units
      obtain ⟨cost, hCost, hCostRestores⟩ :=
        hPaid.exists_read hCostPlaces (hLegible.cost paid rfl) (hFits.cost paid rfl)
      have hParts : ofChars (field ++ ' ' :: '\x7b' :: (costField ++ ['\x7d'])) =
          .ok ⟨read, some cost⟩ :=
        ofChars_eq_ok_iff.mpr (Or.inr ⟨_, costField, [], cost, by simp,
          hField.not_mem_brace hLegible.noBrace, by simp, hRead, hCost, rfl⟩)
      exact ⟨_, hParts, hRestores, .some hCostRestores⟩

end Position

/-- A position is read back from its line in the layout of positions of which it is one. -/
theorem PositionLayout.exists_read_of_composed {positions : List Position} {held : Position}
    (h : held ∈ positions) (hLegible : held.Legible) (hFits : held.FitsIn (composed positions)) :
    ∃ read, Position.parse ((composed positions).format held) = .ok read ∧ read.Restores held := by
  have hStands : held.StandsIn (composed positions) ((composed positions).format held).toList := by
    rw [← learned_eq_composed]
    exact standsIn_format rfl (seen_observeAll h empty).settle
  exact hStands.exists_read (NumberLayout.places_learned_le _) (NumberLayout.places_learned_le _)
    hLegible hFits

namespace ColumnLayout

/-- A column of positions or inventories observes all its cells, and is laid out for all positions in
them. Each of the positions has a line of its cell. If its currencies are words, no brace opens in
that of its units and its numbers fit with the zeros that are added to them, then the line is read as
the position: with its currencies, with a cost exactly if it has one, and with numbers of the same
values and signs. -/
theorem lines_are_read_back (type : ValueType) (cells : List Cell)
    (hType : type = .position ∨ type = .inventory) (hCells : ∀ cell ∈ cells, cell.HasType type) :
    let layout := PositionLayout.composed (cells.flatMap Cell.held)
    ∃ observed, cells.foldlM observe (empty type) = .ok observed ∧
      observed.settle = ofPositions type layout ∧
      ∀ cell ∈ cells, ∃ block, observed.settle.format cell = .ok block ∧
        ∀ index held, cell.held[index]? = some held →
          ∃ line, block.line? index = some line ∧
            (held.Legible → held.FitsIn layout →
              ∃ read, Position.parse line = .ok read ∧ read.Restores held) := by
  intro layout
  have hLearned : learned type cells = ofPositions type layout :=
    learned_eq_ofPositions hType hCells
  have hObserved : cells.foldlM observe (empty type) = .ok (cells.foldl see (empty type)) :=
    foldlM_observe_of_hasType fun cell hCell => by simpa using hCells cell hCell
  refine ⟨_, hObserved, hLearned, fun cell hCell => ?_⟩
  obtain ⟨block, hFormat, hLines⟩ := exists_line_of_held layout hType (hCells cell hCell)
  refine ⟨block, (congrArg (·.format cell) hLearned).trans hFormat, fun index held hAt => ?_⟩
  refine ⟨_, hLines index held hAt, PositionLayout.exists_read_of_composed ?_⟩
  exact List.mem_flatMap.mpr ⟨cell, hCell, List.mem_of_getElem? hAt⟩

/-- Braces in the currencies around a cost, above a negative zero without one. -/
theorem braces_between_blanks_are_read_back :
    let paid : Position :=
      ⟨⟨⟨false, 10, 0, by decide, by decide⟩, "A\x7d"⟩,
        some ⟨⟨false, 5, 1, by decide, by decide⟩, "\x7bB\x7d"⟩⟩
    let unpaid : Position := ⟨⟨⟨true, 0, 1, by decide, by decide⟩, "EUR"⟩, none⟩
    let cells : List Cell := [some (.inventory ⟨[paid, unpaid]⟩), none]
    let layout := PositionLayout.composed (cells.flatMap Cell.held)
    (∀ cell ∈ cells, cell.HasType .inventory) ∧
      layout.format paid = " 10.0 A\x7d  \x7b0.5 \x7bB\x7d\x7d" ∧
      (paid.Legible ∧ paid.FitsIn layout) ∧ (unpaid.Legible ∧ unpaid.FitsIn layout) ∧
      ∃ observed block line other, cells.foldlM observe (empty .inventory) = .ok observed ∧
        observed.settle.format (some (.inventory ⟨[paid, unpaid]⟩)) = .ok block ∧
          (block.line? 0 = some line ∧
            ∃ read, Position.parse line = .ok read ∧ read.Restores paid) ∧
          (block.line? 1 = some other ∧
            ∃ read, Position.parse other = .ok read ∧ read.Restores unpaid) := by
  intro paid unpaid cells layout
  have hCells : ∀ cell ∈ cells, cell.HasType .inventory := by
    simp [cells, Cell.HasType, Value.type]
  have hPaid : paid.Legible ∧ paid.FitsIn layout := by
    have hCost : Amount.HasWord ⟨⟨false, 5, 1, by decide, by decide⟩, "\x7bB\x7d"⟩ :=
      ⟨by decide, by simp [Text.isBlank]⟩
    exact ⟨⟨⟨by decide, by simp [paid, Text.isBlank]⟩, by decide, by simpa [paid] using hCost⟩,
      by decide +kernel, by decide +kernel⟩
  have hUnpaid : unpaid.Legible ∧ unpaid.FitsIn layout :=
    ⟨⟨⟨by decide, by simp [unpaid, Text.isBlank]⟩, by decide, by simp [unpaid]⟩,
      by decide +kernel, by simp [unpaid]⟩
  obtain ⟨observed, hObserved, -, hBlocks⟩ :=
    lines_are_read_back .inventory cells (Or.inr rfl) hCells
  obtain ⟨block, hFormat, hLines⟩ := hBlocks _ List.mem_cons_self
  obtain ⟨line, hLine, hRead⟩ := hLines 0 paid rfl
  obtain ⟨other, hOther, hOtherRead⟩ := hLines 1 unpaid rfl
  exact ⟨hCells, by decide +kernel, hPaid, hUnpaid, observed, block, line, other, hObserved,
    hFormat, ⟨hLine, hRead hPaid.1 hPaid.2⟩, hOther, hOtherRead hUnpaid.1 hUnpaid.2⟩

end ColumnLayout

end Tabular

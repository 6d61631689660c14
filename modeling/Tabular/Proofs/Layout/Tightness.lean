import Mathlib
import Tabular.Proofs.Layout.Subfields

/-!
Layouts without idle room. What a layout has learned from the cells of a column is no more than they
demand: each part of the field is as large as some value makes it, read off the value's own text, and
has its least size where there is no value.
-/

namespace Tabular

/-- The largest of these counts, or `least` if there are none. -/
structure IsLargest (least : Nat) (counts : List Nat) (n : Nat) : Prop where
  le : ∀ count ∈ counts, count ≤ n
  attained : n ∈ counts ∨ counts = [] ∧ n = least

namespace IsLargest

theorem nil (least : Nat) : IsLargest least [] least :=
  ⟨fun _ hMem => absurd hMem List.not_mem_nil, Or.inr ⟨rfl, rfl⟩⟩

/-- Either the count that is added is the largest, or one of the others still is. -/
theorem cons {least count n : Nat} {counts : List Nat} (h : IsLargest least counts n)
    (hLeast : least ≤ count) : IsLargest least (count :: counts) (max count n) := by
  constructor
  · intro other hMem
    rcases List.mem_cons.mp hMem with rfl | hMem
    · exact Nat.le_max_left _ _
    · exact Nat.le_trans (h.le other hMem) (Nat.le_max_right _ _)
  · left
    rcases Nat.le_total n count with hCount | hMore
    · rw [Nat.max_eq_left hCount]
      exact List.mem_cons_self
    · rw [Nat.max_eq_right hMore]
      rcases h.attained with hMem | ⟨-, rfl⟩
      · exact List.mem_cons_of_mem count hMem
      · rw [Nat.le_antisymm hMore hLeast]
        exact List.mem_cons_self

end IsLargest

/-- The number of digits in front of the point of a written number. -/
def Text.digitsBeforePoint (text : String) : Nat :=
  (text.toList.takeWhile (· != '.')).countP Char.isDigit

theorem Decimal.digitsBeforePoint_text (d : Decimal) :
    Text.digitsBeforePoint d.text = d.wholeDigits.length := by
  have hFront : ∀ c ∈ d.signChars ++ d.wholeDigits, (c != '.') = true := by
    intro c hMem
    rw [bne_iff_ne]
    rintro rfl
    rcases List.mem_append.mp hMem with hSign | hWhole
    · exact d.point_not_mem_signChars hSign
    · exact point_not_mem_of_isDigit (fun _ => isDigit_of_mem_wholeDigits) hWhole
  have hSign : d.signChars.countP Char.isDigit = 0 := by
    cases hNegative : d.negative <;> simp [signChars, hNegative]
  have hBefore : d.text.toList.takeWhile (· != '.') = d.signChars ++ d.wholeDigits := by
    rw [toList_text, chars, List.takeWhile_append_of_pos hFront]
    split <;> simp
  rw [Text.digitsBeforePoint, hBefore, List.countP_append, hSign, Nat.zero_add,
    List.countP_eq_length]
  exact fun _ => isDigit_of_mem_wholeDigits

/-- Each part of what numbers demand together is demanded by some of them alone. -/
structure Extent.Tight (extent : Extent) (numbers : List Decimal) : Prop where
  negative : extent.negative = true ↔ ∃ d ∈ numbers, d.negative = true
  wholeDigits : IsLargest 1 (numbers.map fun d => Text.digitsBeforePoint d.text) extent.wholeDigits
  places : IsLargest 0 (numbers.map Decimal.scale) extent.places

namespace Extent

theorem tight_nil : least.Tight [] where
  negative := by simp [least]
  wholeDigits := IsLargest.nil 1
  places := IsLargest.nil 0

theorem Tight.join {extent : Extent} {numbers : List Decimal} (h : extent.Tight numbers)
    (d : Decimal) : ((ofDecimal d).join extent).Tight (d :: numbers) where
  negative := by simp [Extent.join, ofDecimal, h.negative]
  wholeDigits := by
    have hPositive : 1 ≤ d.wholeDigits.length := List.length_pos_iff.mpr d.wholeDigits_ne_nil
    rw [List.map_cons, d.digitsBeforePoint_text]
    exact h.wholeDigits.cons hPositive
  places := h.places.cons (Nat.zero_le d.scale)

end Extent

namespace NumberLayout

/-- What numbers demand is attained by some of them, part by part. -/
theorem tight_demanded (numbers : List (Option Decimal)) :
    (demanded numbers).Tight (numbers.filterMap id) := by
  induction numbers with
  | nil => exact Extent.tight_nil
  | cons number numbers ih =>
      cases number with
      | none => exact ih
      | some d =>
          rw [demanded_cons_some]
          exact ih.join d

/-- Sign, digits and places are those of some number each, and the width is made of them. -/
structure Tight (layout : NumberLayout) (numbers : List Decimal) : Prop where
  hasNegative : layout.hasNegative = true ↔ ∃ d ∈ numbers, d.negative = true
  wholeDigits : IsLargest 1 (numbers.map fun d => Text.digitsBeforePoint d.text) layout.wholeDigits
  places : IsLargest 0 (numbers.map Decimal.scale) layout.places
  width : layout.width =
    (if layout.hasNegative then 1 else 0) + layout.wholeDigits +
      (if 0 < layout.places then 1 else 0) + layout.places

theorem tight_learned (numbers : List (Option Decimal)) :
    (learned numbers).Tight (numbers.filterMap id) := by
  have hSettled := (isSettled_learned numbers).settled_eq
  have hTight : (learned numbers).observed.Tight (numbers.filterMap id) := by
    rw [← hSettled, settled_learned]
    exact tight_demanded numbers
  refine ⟨hTight.negative, ?_, ?_, ?_⟩
  · rw [NumberLayout.wholeDigits, hSettled]
    exact hTight.wholeDigits
  · rw [NumberLayout.places, hSettled]
    exact hTight.places
  · rw [NumberLayout.width, hasNegative, ← hSettled]
    rfl

theorem tight_learned_map {α : Type} (as : List α) (number : α → Decimal) :
    (learned (as.map fun a => some (number a))).Tight (as.map number) := by
  simpa [Function.comp_def] using tight_learned (as.map fun a => some (number a))

end NumberLayout

namespace PositionLayout

theorem isLargest_widest (labels : List String) :
    IsLargest 0 (labels.map Text.width) (widest labels) := by
  rw [widest, List.foldl_eq_foldr]
  induction labels with
  | nil => exact IsLargest.nil 0
  | cons label labels ih => exact ih.cons (Nat.zero_le _)

/-- Numbers and currencies, of units and of costs, have the room that some position demands, and
there is room for costs only if some position has one. -/
structure Tight (layout : PositionLayout) (positions : List Position) : Prop where
  units : layout.units.Tight (positions.map fun held => held.units.number)
  unitsCurrency : IsLargest 0 (positions.map fun held => Text.width held.units.currency)
    layout.unitsCurrency
  hasCost : layout.hasCost = true ↔ ∃ held ∈ positions, ∃ paid, held.cost = some paid
  cost : layout.cost.Tight ((positions.filterMap Position.cost).map Amount.number)
  costCurrency : IsLargest 0 ((positions.filterMap Position.cost).map fun paid =>
    Text.width paid.currency) layout.costCurrency
  width : layout.width = layout.units.width + 1 + layout.unitsCurrency +
    if layout.hasCost then 1 + 2 + 1 + layout.cost.width + layout.costCurrency else 0

theorem tight_composed (positions : List Position) : (composed positions).Tight positions where
  units := NumberLayout.tight_learned_map positions fun held => held.units.number
  unitsCurrency := by
    have hLargest := isLargest_widest (positions.map (·.units.currency))
    rwa [List.map_map] at hLargest
  hasCost := by simp [composed, Option.isSome_iff_exists]
  cost := NumberLayout.tight_learned_map (positions.filterMap Position.cost) Amount.number
  costCurrency := by
    have hLargest := isLargest_widest ((positions.filterMap Position.cost).map Amount.currency)
    rwa [List.map_map] at hLargest
  width := by
    rw [width, unitsWidth, costWidth]
    split <;> omega

end PositionLayout

namespace ColumnLayout

/-- The layout has the room that its cells demand. Dates all take the same, whatever they are. -/
inductive Tight : ColumnLayout → List Cell → Prop where
  | string {widest : Nat} {cells : List Cell}
      (h : IsLargest 0 ((cells.filterMap (·.bind Value.string?)).map Text.width) widest) :
      Tight (.string widest) cells
  | date {cells : List Cell} : Tight .date cells
  | decimal {layout : NumberLayout} {cells : List Cell}
      (h : layout.Tight (cells.filterMap (·.bind Value.decimal?))) : Tight (.decimal layout) cells
  | position {layout : PositionLayout} {cells : List Cell}
      (h : layout.Tight (cells.flatMap Cell.held)) : Tight (.position layout) cells
  | inventory {layout : PositionLayout} {cells : List Cell}
      (h : layout.Tight (cells.flatMap Cell.held)) : Tight (.inventory layout) cells

theorem foldl_see_string (widest : Nat) (cells : List Cell) :
    cells.foldl see (string widest) =
      string (((cells.filterMap (·.bind Value.string?)).map Text.width).foldl max widest) := by
  induction cells generalizing widest with
  | nil => rfl
  | cons cell cells ih =>
      rw [List.foldl_cons, see_string, ih, List.filterMap_cons]
      cases cell.bind Value.string? with
      | none => simp
      | some text => rfl

theorem foldl_see_decimal (layout : NumberLayout) (cells : List Cell) :
    cells.foldl see (decimal layout) =
      decimal ((cells.map (·.bind Value.decimal?)).foldl NumberLayout.observe layout) := by
  induction cells generalizing layout with
  | nil => rfl
  | cons cell cells ih => rw [List.foldl_cons, see_decimal, ih, List.map_cons, List.foldl_cons]

theorem foldl_see_date (cells : List Cell) : cells.foldl see date = date := by
  induction cells with
  | nil => rfl
  | cons cell cells ih => rw [List.foldl_cons, see_date, ih]

/-- A layout that has learned the cells of a column has no more room than they demand. -/
theorem tight_learned {type : ValueType} {cells : List Cell}
    (hTypes : ∀ cell ∈ cells, cell.HasType type) : (learned type cells).Tight cells := by
  cases type with
  | string =>
      have hLearned : learned .string cells =
          string (PositionLayout.widest (cells.filterMap (·.bind Value.string?))) :=
        congrArg ColumnLayout.settle (foldl_see_string 0 cells)
      rw [hLearned]
      exact .string (PositionLayout.isLargest_widest _)
  | date =>
      have hLearned : learned .date cells = date :=
        congrArg ColumnLayout.settle (foldl_see_date cells)
      rw [hLearned]
      exact .date
  | decimal =>
      have hLearned : learned .decimal cells =
          decimal (.learned (cells.map (·.bind Value.decimal?))) :=
        congrArg ColumnLayout.settle (foldl_see_decimal .empty cells)
      rw [hLearned]
      have hTight := NumberLayout.tight_learned (cells.map (·.bind Value.decimal?))
      rw [List.filterMap_map] at hTight
      exact .decimal hTight
  | position =>
      rw [learned_eq_ofPositions (Or.inl rfl) hTypes]
      exact .position (PositionLayout.tight_composed _)
  | inventory =>
      rw [learned_eq_ofPositions (Or.inr rfl) hTypes]
      exact .inventory (PositionLayout.tight_composed _)

/-- A column observes all its cells, and its settled layout has exactly the room that they demand:
the widest text; the sign, the digits and the places of its numbers; for positions and inventories
those of the units and, where there are costs, those of the costs, with the widest currencies. Each
of these is attained by a value of the column. -/
theorem layouts_are_tight (type : ValueType) (cells : List Cell)
    (hTypes : ∀ cell ∈ cells, cell.HasType type) :
    ∃ observed, cells.foldlM observe (empty type) = .ok observed ∧
      observed.settle.type = type ∧ observed.settle.Tight cells := by
  have hObserved : cells.foldlM observe (empty type) = .ok (cells.foldl see (empty type)) :=
    foldlM_observe_of_hasType fun cell hCell => by simpa using hTypes cell hCell
  exact ⟨_, hObserved, type_learned type cells, tight_learned hTypes⟩

/-- A tiny fraction, a zero with a sign and a power of ten, each of which decides one part. -/
theorem zero_fraction_and_thousand_are_tight :
    let number (negative : Bool) (mantissa scale : Nat) (h : mantissa < Decimal.mantissaLimit)
        (hScale : scale ≤ 28) : Cell := some (.decimal ⟨negative, mantissa, scale, h, hScale⟩)
    let cells : List Cell := [number false 5 7 (by decide) (by decide), none,
      number true 0 3 (by decide) (by decide), number false 1000 0 (by decide) (by decide)]
    (∀ cell ∈ cells, cell.HasType .decimal) ∧
      ∃ observed, cells.foldlM observe (empty .decimal) = .ok observed ∧
        observed.settle.width = 1 + 4 + 1 + 7 ∧ observed.settle.Tight cells := by
  intro number cells
  have hTypes : ∀ cell ∈ cells, cell.HasType .decimal := by
    simp [cells, number, Cell.HasType, Value.type]
  obtain ⟨observed, hObserved, -, hTight⟩ := layouts_are_tight .decimal cells hTypes
  have hExtent : cells.foldlM observe (empty .decimal) =
      .ok (decimal { observed := ⟨true, 4, 7⟩ }) := by
    decide +kernel
  obtain rfl := Except.ok.inj (hExtent.symm.trans hObserved)
  exact ⟨hTypes, _, hObserved, rfl, hTight⟩

end ColumnLayout

end Tabular

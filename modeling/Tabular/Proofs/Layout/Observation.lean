import Tabular.Layout.Column

/-!
Layouts as what has been observed. Observing twice or in another order makes no difference, so that
a value has been seen exactly if observing it changes nothing, and a value once seen stays seen.
-/

namespace Tabular

section
variable {σ α : Type} {see : σ → α → σ}

/-- Where the order does not matter, what has been seen stays seen when others are. -/
theorem see_foldl (hComm : ∀ s a b, see (see s a) b = see (see s b) a) {s : σ} {a : α}
    (h : see s a = s) (others : List α) : see (others.foldl see s) a = others.foldl see s := by
  induction others generalizing s with
  | nil => exact h
  | cons other others ih => exact ih (by rw [hComm, h])

/-- Where moreover seeing twice is seeing once, all that a list holds has been seen after it. -/
theorem see_foldl_of_mem (hComm : ∀ s a b, see (see s a) b = see (see s b) a)
    (hSelf : ∀ s a, see (see s a) a = see s a) {a : α} {as : List α} (h : a ∈ as) (s : σ) :
    see (as.foldl see s) a = as.foldl see s := by
  induction as generalizing s with
  | nil => cases h
  | cons other as ih =>
      rcases List.mem_cons.mp h with rfl | h
      · exact see_foldl hComm (hSelf s a) as
      · exact ih h (see s other)

end

namespace NumberLayout

theorem observe_comm (layout : NumberLayout) (a b : Option Decimal) :
    (layout.observe a).observe b = (layout.observe b).observe a := by
  cases a with
  | none => rfl
  | some d =>
      cases b with
      | none => rfl
      | some e =>
          simp only [observe]
          rw [Extent.join_assoc, Extent.join_comm (.ofDecimal d), Extent.join_assoc]

theorem observe_self (layout : NumberLayout) (a : Option Decimal) :
    (layout.observe a).observe a = layout.observe a := by
  cases a with
  | none => rfl
  | some d =>
      simp only [observe]
      rw [Extent.join_assoc, Extent.join_self]

/-- Observing the number changes nothing. -/
def Seen (layout : NumberLayout) (d : Decimal) : Prop :=
  layout.observe (some d) = layout

/-- A number has been seen if its sign, its whole digits and its places are within those
observed. -/
theorem seen_iff (layout : NumberLayout) (d : Decimal) :
    layout.Seen d ↔
      (d.negative = true → layout.observed.negative = true) ∧
        d.wholeDigits.length ≤ layout.observed.wholeDigits ∧ d.scale ≤ layout.observed.places := by
  obtain ⟨⟨negative, wholeDigits, places⟩, settled⟩ := layout
  have hMax (a b : Nat) : max a b = a ↔ b ≤ a := by omega
  simp only [Seen, observe, Extent.join, Extent.ofDecimal, NumberLayout.mk.injEq, Extent.mk.injEq,
    and_true, hMax]
  cases negative <;> cases d.negative <;> simp

theorem Seen.settle {layout : NumberLayout} {d : Decimal} (h : layout.Seen d) :
    layout.settle.Seen d := by
  rw [seen_iff] at h ⊢
  exact h

end NumberLayout

namespace PositionLayout

theorem observe_comm (layout : PositionLayout) (p q : Position) :
    (layout.observe p).observe q = (layout.observe q).observe p := by
  obtain ⟨units, pCost⟩ := p
  obtain ⟨units', qCost⟩ := q
  cases pCost <;> cases qCost <;>
    simp only [observe, observeUnits, observeCost] <;>
    rw [NumberLayout.observe_comm layout.units, Nat.max_right_comm layout.unitsCurrency]
  rw [NumberLayout.observe_comm layout.cost, Nat.max_right_comm layout.costCurrency]

theorem observe_self (layout : PositionLayout) (p : Position) :
    (layout.observe p).observe p = layout.observe p := by
  obtain ⟨units, cost⟩ := p
  cases cost <;>
    simp [observe, observeUnits, observeCost, NumberLayout.observe_self]

/-- A position may be observed before others instead of after them. -/
theorem observe_observeAll (layout : PositionLayout) (p : Position) (ps : List Position) :
    (layout.observeAll ps).observe p = (layout.observe p).observeAll ps := by
  induction ps generalizing layout with
  | nil => rfl
  | cons q ps ih =>
      simp only [observeAll, List.foldl_cons] at ih ⊢
      rw [ih, observe_comm]

theorem observeAll_comm (layout : PositionLayout) (ps qs : List Position) :
    (layout.observeAll ps).observeAll qs = (layout.observeAll qs).observeAll ps := by
  induction qs generalizing layout with
  | nil => rfl
  | cons q qs ih =>
      have hStep := observe_observeAll layout q ps
      simp only [observeAll, List.foldl_cons] at ih hStep ⊢
      rw [hStep, ih]

/-- Observing the position changes nothing. -/
def Seen (layout : PositionLayout) (p : Position) : Prop :=
  layout.observe p = layout

theorem seen_observeAll {p : Position} {ps : List Position} (h : p ∈ ps)
    (layout : PositionLayout) : (layout.observeAll ps).Seen p :=
  see_foldl_of_mem observe_comm observe_self h layout

theorem observeAll_of_seen {layout : PositionLayout} {ps : List Position}
    (h : ∀ p ∈ ps, layout.Seen p) : layout.observeAll ps = layout := by
  induction ps with
  | nil => rfl
  | cons p ps ih =>
      obtain ⟨hHead, hTail⟩ := List.forall_mem_cons.mp h
      rw [observeAll, List.foldl_cons, hHead]
      exact ih hTail

/-- Positions have been seen together if each of them has. -/
theorem observeAll_eq_iff (layout : PositionLayout) (ps : List Position) :
    layout.observeAll ps = layout ↔ ∀ p ∈ ps, layout.Seen p := by
  constructor
  · intro h p hp
    have hSeen := seen_observeAll hp layout
    rwa [h] at hSeen
  · exact observeAll_of_seen

/-- A position has been seen if its numbers have been, if there is room for its currencies, and if
the column has costs in case it has one. -/
theorem seen_iff (layout : PositionLayout) (p : Position) :
    layout.Seen p ↔
      layout.units.Seen p.units.number ∧
        Text.width p.units.currency ≤ layout.unitsCurrency ∧
        ∀ cost ∈ p.cost, layout.hasCost = true ∧ layout.cost.Seen cost.number ∧
          Text.width cost.currency ≤ layout.costCurrency := by
  obtain ⟨units, unitsCurrency, cost, costCurrency, hasCost⟩ := layout
  obtain ⟨held, paid⟩ := p
  have hMax (a b : Nat) : max a b = a ↔ b ≤ a := by omega
  cases paid with
  | none =>
      simp [Seen, observe, observeUnits, NumberLayout.Seen, hMax]
  | some paid =>
      simp only [Seen, observe, observeUnits, observeCost, NumberLayout.Seen,
        PositionLayout.mk.injEq, hMax, Option.mem_some_iff, forall_eq']
      constructor
      · rintro ⟨hUnits, hCurrency, hCost, hCostCurrency, hHas⟩
        exact ⟨hUnits, hCurrency, hHas.symm, hCost, hCostCurrency⟩
      · rintro ⟨hUnits, hCurrency, hHas, hCost, hCostCurrency⟩
        exact ⟨hUnits, hCurrency, hCost, hCostCurrency, hHas.symm⟩

theorem Seen.settle {layout : PositionLayout} {p : Position} (h : layout.Seen p) :
    layout.settle.Seen p := by
  rw [seen_iff] at h ⊢
  obtain ⟨hUnits, hCurrency, hCost⟩ := h
  refine ⟨hUnits.settle, hCurrency, ?_⟩
  intro cost hMem
  obtain ⟨hHas, hSeen, hRoom⟩ := hCost cost hMem
  exact ⟨hHas, hSeen.settle, hRoom⟩

end PositionLayout

/-- The cell is empty or holds a value of the type. -/
def Cell.HasType (type : ValueType) (cell : Cell) : Prop :=
  ∀ value ∈ cell, value.type = type

/-- The positions of a cell that holds an inventory. Other cells have none. -/
def Cell.positions : Cell → List Position
  | some (.inventory held) => held.positions
  | _ => []

namespace ColumnLayout

/-- Observe a cell, or pass over it if it is not of the column's type. -/
def see (layout : ColumnLayout) (cell : Cell) : ColumnLayout :=
  match layout.observe cell with
  | .ok seen => seen
  | .error _ => layout

theorem observe_of_hasType {layout : ColumnLayout} {cell : Cell}
    (h : cell.HasType layout.type) : layout.observe cell = .ok (layout.see cell) := by
  cases cell with
  | none => cases layout <;> rfl
  | some value =>
      have hType : value.type = layout.type := h value rfl
      cases layout <;> cases value <;> first | rfl | cases hType

theorem see_string (widest : Nat) (cell : Cell) :
    (string widest).see cell =
      string (max widest (((cell.bind Value.string?).map Text.width).getD 0)) := by
  rcases cell with _ | value
  · exact congrArg string (Nat.max_eq_left (Nat.zero_le _)).symm
  · cases value with
    | string text => rfl
    | _ => exact congrArg string (Nat.max_eq_left (Nat.zero_le _)).symm

theorem see_date (cell : Cell) : date.see cell = date := by
  rcases cell with _ | value
  · rfl
  · cases value <;> rfl

theorem see_decimal (layout : NumberLayout) (cell : Cell) :
    (decimal layout).see cell = decimal (layout.observe (cell.bind Value.decimal?)) := by
  rcases cell with _ | value
  · rfl
  · cases value <;> rfl

theorem see_position (layout : PositionLayout) (cell : Cell) :
    (position layout).see cell =
      position (layout.observeAll (cell.bind Value.position?).toList) := by
  rcases cell with _ | value
  · rfl
  · cases value <;> rfl

theorem see_inventory (layout : PositionLayout) (cell : Cell) :
    (inventory layout).see cell = inventory (layout.observeAll cell.positions) := by
  rcases cell with _ | value
  · rfl
  · cases value <;> rfl

@[simp] theorem type_see (layout : ColumnLayout) (cell : Cell) :
    (layout.see cell).type = layout.type := by
  cases layout with
  | string widest => rw [see_string]; rfl
  | date => rw [see_date]
  | decimal layout => rw [see_decimal]; rfl
  | position layout => rw [see_position]; rfl
  | inventory layout => rw [see_inventory]; rfl

/-- The order in which a layout sees cells does not matter. -/
theorem see_comm (layout : ColumnLayout) (a b : Cell) :
    (layout.see a).see b = (layout.see b).see a := by
  cases layout with
  | string widest => simp only [see_string, Nat.max_right_comm]
  | date => simp only [see_date]
  | decimal layout => simp only [see_decimal, NumberLayout.observe_comm]
  | position layout => simp only [see_position, layout.observeAll_comm]
  | inventory layout => simp only [see_inventory, layout.observeAll_comm]

/-- Seeing a cell twice is seeing it once. -/
theorem see_self (layout : ColumnLayout) (a : Cell) : (layout.see a).see a = layout.see a := by
  cases layout with
  | string widest => simp only [see_string, Nat.max_assoc, Nat.max_self]
  | date => simp only [see_date]
  | decimal layout => simp only [see_decimal, NumberLayout.observe_self]
  | position layout =>
      simp only [see_position, position.injEq, PositionLayout.observeAll_eq_iff]
      exact fun p hp => PositionLayout.seen_observeAll hp layout
  | inventory layout =>
      simp only [see_inventory, inventory.injEq, PositionLayout.observeAll_eq_iff]
      exact fun p hp => PositionLayout.seen_observeAll hp layout

/-- Seeing the cell changes nothing. -/
def Seen (layout : ColumnLayout) (cell : Cell) : Prop :=
  layout.see cell = layout

theorem Seen.settle {layout : ColumnLayout} {cell : Cell} (h : layout.Seen cell) :
    layout.settle.Seen cell := by
  cases layout with
  | string widest => exact h
  | date => exact see_date cell
  | decimal layout =>
      rw [Seen, see_decimal, decimal.injEq] at h
      rw [ColumnLayout.settle, Seen, see_decimal, decimal.injEq]
      cases hNumber : cell.bind Value.decimal? with
      | none => rfl
      | some d =>
          rw [hNumber] at h
          exact NumberLayout.Seen.settle h
  | position layout =>
      rw [Seen, see_position, position.injEq, PositionLayout.observeAll_eq_iff] at h
      rw [ColumnLayout.settle, Seen, see_position, position.injEq,
        PositionLayout.observeAll_eq_iff]
      exact fun p hp => (h p hp).settle
  | inventory layout =>
      rw [Seen, see_inventory, inventory.injEq, PositionLayout.observeAll_eq_iff] at h
      rw [ColumnLayout.settle, Seen, see_inventory, inventory.injEq,
        PositionLayout.observeAll_eq_iff]
      exact fun p hp => (h p hp).settle

theorem seen_string_iff {widest : Nat} {text : String} :
    (string widest).Seen (some (.string text)) ↔ Text.width text ≤ widest := by
  rw [Seen, see_string, string.injEq]
  show max widest (Text.width text) = widest ↔ Text.width text ≤ widest
  omega

theorem seen_decimal_iff {layout : NumberLayout} {number : Decimal} :
    (decimal layout).Seen (some (.decimal number)) ↔ layout.Seen number := by
  rw [Seen, see_decimal, decimal.injEq]
  rfl

theorem seen_position_iff {layout : PositionLayout} {held : Position} :
    (position layout).Seen (some (.position held)) ↔ layout.Seen held := by
  rw [Seen, see_position, position.injEq]
  rfl

theorem seen_inventory_iff {layout : PositionLayout} {cell : Cell} :
    (inventory layout).Seen cell ↔ ∀ p ∈ cell.positions, layout.Seen p := by
  rw [Seen, see_inventory, inventory.injEq, PositionLayout.observeAll_eq_iff]

/-- A layout that is settled for all that has been observed. -/
def IsSettled (layout : ColumnLayout) : Prop :=
  layout.settle = layout

theorem isSettled_settle (layout : ColumnLayout) : layout.settle.IsSettled := by
  cases layout <;> rfl

/-- A layout that was settled after it had seen the cell, and a cell of its type. -/
structure Holds (layout : ColumnLayout) (cell : Cell) : Prop where
  hasType : cell.HasType layout.type
  seen : layout.Seen cell
  isSettled : layout.IsSettled

/-- The layout of a column with these cells: all are observed, then the layout is settled. -/
def learned (type : ValueType) (cells : List Cell) : ColumnLayout :=
  (cells.foldl see (empty type)).settle

theorem type_foldl_see (layout : ColumnLayout) (cells : List Cell) :
    (cells.foldl see layout).type = layout.type := by
  induction cells generalizing layout with
  | nil => rfl
  | cons cell cells ih => rw [List.foldl_cons, ih, type_see]

@[simp] theorem type_learned (type : ValueType) (cells : List Cell) :
    (learned type cells).type = type := by
  rw [learned, type_settle, type_foldl_see, type_empty]

theorem seen_foldl {cell : Cell} {cells : List Cell} (h : cell ∈ cells) (layout : ColumnLayout) :
    (cells.foldl see layout).Seen cell :=
  see_foldl_of_mem see_comm see_self h layout

/-- A learned layout has seen each of its cells. -/
theorem seen_learned {cell : Cell} {cells : List Cell} (h : cell ∈ cells) (type : ValueType) :
    (learned type cells).Seen cell :=
  (seen_foldl h _).settle

theorem isSettled_learned (type : ValueType) (cells : List Cell) :
    (learned type cells).IsSettled :=
  isSettled_settle _

end ColumnLayout

end Tabular

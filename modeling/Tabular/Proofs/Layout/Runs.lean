import Mathlib
import Tabular.Proofs.Layout.Lines

/-!
Layouts that are observed, settled and asked to render in any order. A settled layout is that of
the values observed so far, each counted once, whatever the order was and however often the layout
was settled in between. What is refused changes nothing.
-/

namespace Tabular

section
variable {σ α : Type} {see : σ → α → σ}

/-- Where neither the order nor repetitions matter, lists of the same members are seen alike. -/
theorem foldl_eq_of_mem_iff (hComm : ∀ s a b, see (see s a) b = see (see s b) a)
    (hSelf : ∀ s a, see (see s a) a = see s a) {as bs : List α} (h : ∀ a, a ∈ as ↔ a ∈ bs)
    (s : σ) : as.foldl see s = bs.foldl see s := by
  have hAgain {xs ys : List α} (hSub : ∀ y ∈ ys, y ∈ xs) :
      ys.foldl see (xs.foldl see s) = xs.foldl see s := by
    induction ys with
    | nil => rfl
    | cons y ys ih =>
        obtain ⟨hHead, hTail⟩ := List.forall_mem_cons.mp hSub
        rw [List.foldl_cons, see_foldl_of_mem hComm hSelf hHead]
        exact ih hTail
  calc as.foldl see s
      = bs.foldl see (as.foldl see s) := (hAgain fun b hb => (h b).mpr hb).symm
    _ = (as ++ bs).foldl see s := List.foldl_append.symm
    _ = (bs ++ as).foldl see s :=
        List.perm_append_comm.foldl_eq' (fun a _ b _ state => hComm state a b) s
    _ = as.foldl see (bs.foldl see s) := List.foldl_append
    _ = bs.foldl see s := hAgain fun a ha => (h a).mp ha

/-- If settling before one value is seen makes no difference to settling after it, then neither does
it before any number of values. -/
theorem settle_foldl (settle : σ → σ) (hTwice : ∀ s, settle (settle s) = settle s)
    (hSee : ∀ s a, settle (see (settle s) a) = settle (see s a)) (s : σ) (as : List α) :
    settle (as.foldl see (settle s)) = settle (as.foldl see s) := by
  induction as generalizing s with
  | nil => exact hTwice s
  | cons a as ih => rw [List.foldl_cons, List.foldl_cons, ← ih (see (settle s) a), hSee, ih]

end

theorem PositionLayout.settle_observe (layout : PositionLayout) (held : Position) :
    (layout.settle.observe held).settle = (layout.observe held).settle := by
  obtain ⟨units, cost⟩ := held
  cases cost <;> rfl

theorem PositionLayout.settle_observeAll (layout : PositionLayout) (positions : List Position) :
    (layout.settle.observeAll positions).settle = (layout.observeAll positions).settle :=
  settle_foldl settle (fun _ => rfl) settle_observe layout positions

namespace ColumnLayout

/-- What may be done with a layout. -/
inductive Step where
  | observe (cell : Cell)
  | format (cell : Cell)
  | settle
  deriving DecidableEq, Repr

/-- What a step answers. -/
inductive Answer where
  | done
  | shown (block : Block)
  | refused (error : Error)
  deriving DecidableEq, Repr

/-- Do one step: the layout after it, which stays as it was if the step is refused or only renders,
and the answer. -/
def step (layout : ColumnLayout) : Step → ColumnLayout × Answer
  | .observe cell =>
      match layout.observe cell with
      | .ok seen => (seen, .done)
      | .error error => (layout, .refused error)
  | .format cell =>
      match layout.format cell with
      | .ok block => (layout, .shown block)
      | .error error => (layout, .refused error)
  | .settle => (layout.settle, .done)

/-- Do steps one after the other. -/
def run (layout : ColumnLayout) (steps : List Step) : ColumnLayout :=
  steps.foldl (fun current next => (current.step next).1) layout

/-- The value that a step teaches a column of this type. Empty cells and values of other types teach
nothing, and neither does rendering. -/
def Step.taught (type : ValueType) : Step → Option Value
  | .observe (some value) => if value.type = type then some value else none
  | _ => none

theorem settle_see (layout : ColumnLayout) (cell : Cell) :
    (layout.settle.see cell).settle = (layout.see cell).settle := by
  cases layout with
  | string widest => rfl
  | date => rfl
  | decimal numbers =>
      rw [ColumnLayout.settle, see_decimal, see_decimal]
      cases cell.bind Value.decimal? <;> rfl
  | position positions =>
      rw [ColumnLayout.settle, see_position, see_position, ColumnLayout.settle,
        PositionLayout.settle_observeAll, ColumnLayout.settle]
  | inventory positions =>
      rw [ColumnLayout.settle, see_inventory, see_inventory, ColumnLayout.settle,
        PositionLayout.settle_observeAll, ColumnLayout.settle]

/-- A value of another type is neither observed nor rendered. -/
theorem observe_of_mistyped {layout : ColumnLayout} {value : Value}
    (h : value.type ≠ layout.type) :
    layout.observe (some value) = failure (.typeMismatch layout.type value.type) := by
  cases layout <;> cases value <;> first | rfl | exact absurd rfl h

theorem format_of_mistyped {layout : ColumnLayout} {value : Value}
    (h : value.type ≠ layout.type) :
    layout.format (some value) = failure (.typeMismatch layout.type value.type) := by
  cases layout <;> cases value <;> first | rfl | exact absurd rfl h

theorem step_observe (layout : ColumnLayout) (cell : Cell) :
    (layout.step (.observe cell)).1 = layout.see cell := by
  rw [step, see]
  cases layout.observe cell <;> rfl

theorem step_format (layout : ColumnLayout) (cell : Cell) :
    (layout.step (.format cell)).1 = layout := by
  rw [step]
  cases layout.format cell <;> rfl

/-- Only settling and the value that a step teaches change a layout. -/
theorem step_cases (layout : ColumnLayout) (next : Step) :
    (next.taught layout.type = none ∧
      ((layout.step next).1 = layout ∨ (layout.step next).1 = layout.settle)) ∨
    ∃ value, next.taught layout.type = some value ∧
      (layout.step next).1 = layout.see (some value) := by
  cases next with
  | settle => exact Or.inl ⟨rfl, Or.inr rfl⟩
  | format cell => exact Or.inl ⟨rfl, Or.inl (layout.step_format cell)⟩
  | observe cell =>
      cases cell with
      | none =>
          refine Or.inl ⟨rfl, Or.inl ?_⟩
          rw [step_observe]
          cases layout <;> rfl
      | some value =>
          by_cases hType : value.type = layout.type
          · exact Or.inr ⟨value, if_pos hType, layout.step_observe (some value)⟩
          · refine Or.inl ⟨if_neg hType, Or.inl ?_⟩
            rw [step, observe_of_mistyped hType]
            rfl

@[simp] theorem type_step (layout : ColumnLayout) (next : Step) :
    (layout.step next).1.type = layout.type := by
  rcases layout.step_cases next with ⟨-, hSame | hSettled⟩ | ⟨value, -, hSeen⟩
  · rw [hSame]
  · rw [hSettled, type_settle]
  · rw [hSeen, type_see]

@[simp] theorem type_run (layout : ColumnLayout) (steps : List Step) :
    (layout.run steps).type = layout.type := by
  induction steps generalizing layout with
  | nil => rfl
  | cons next steps ih =>
      rw [run, List.foldl_cons, ← run, ih, type_step]

/-- After a run, settling gives what it gives after the values that the run taught. -/
theorem settle_run (layout : ColumnLayout) (steps : List Step) :
    (layout.run steps).settle =
      (((steps.filterMap (Step.taught layout.type)).map some).foldl see layout).settle := by
  induction steps generalizing layout with
  | nil => rfl
  | cons next steps ih =>
      have hType := layout.type_step next
      rw [run, List.foldl_cons, ← run, ih, hType, List.filterMap_cons]
      rcases layout.step_cases next with ⟨hNone, hSame | hSettled⟩ | ⟨value, hTaught, hSeen⟩
      · rw [hNone, hSame]
      · rw [hNone, hSettled]
        exact settle_foldl settle isSettled_settle settle_see layout _
      · rw [hTaught, hSeen, List.map_cons, List.foldl_cons]

theorem type_of_taught {type : ValueType} {next : Step} {value : Value}
    (h : next.taught type = some value) : value.type = type := by
  cases next with
  | settle => cases h
  | format cell => cases h
  | observe cell =>
      cases cell with
      | none => cases h
      | some other =>
          rw [Step.taught] at h
          split at h
          · next hType => exact Option.some.inj h ▸ hType
          · cases h

/-- A layout that is settled at the end of a run is that of a fresh layout which observes each value
of the run once, in whatever order, and is settled. Values are told apart by all that they show:
1.0 and 1.00 are two. Whatever has been done, a value of another type is refused, by an error that
names both types and no cell, and the layout stays as it was; all others are observed and rendered. -/
theorem runs_have_canonical_form (type : ValueType) (steps : List Step) :
    (∀ values : List Value, values.Perm (steps.filterMap (Step.taught type)).dedup →
      ∃ fresh, (values.map some).foldlM observe (empty type) = .ok fresh ∧
        (empty type).run (steps ++ [.settle]) = fresh.settle) ∧
    (∀ value : Value, value.type ≠ type →
      ∀ next, next = .observe (some value) ∨ next = .format (some value) →
        ((empty type).run steps).step next =
          ((empty type).run steps, .refused ⟨.typeMismatch type value.type, none⟩)) ∧
    ∀ cell : Cell, cell.HasType type →
      (((empty type).run steps).step (.observe cell)).2 = .done ∧
        ∃ block, ((empty type).run steps).step (.format cell) =
          ((empty type).run steps, .shown block) := by
  have hType : ((empty type).run steps).type = type := by rw [type_run, type_empty]
  refine ⟨fun values hValues => ?_, fun value hValue next hNext => ?_, fun cell hCell => ?_⟩
  · have hMem (value : Value) :
        value ∈ values ↔ value ∈ steps.filterMap (Step.taught type) := by
      rw [hValues.mem_iff, List.mem_dedup]
    have hTypes : ∀ cell ∈ values.map some, Cell.HasType (empty type).type cell := by
      intro cell hCell
      obtain ⟨value, hValue, rfl⟩ := List.mem_map.mp hCell
      obtain ⟨next, -, hTaught⟩ := List.mem_filterMap.mp ((hMem value).mp hValue)
      rintro _ ⟨⟩
      rw [type_empty, type_of_taught hTaught]
    refine ⟨_, foldlM_observe_of_hasType hTypes, ?_⟩
    have hRun : (empty type).run (steps ++ [.settle]) = ((empty type).run steps).settle := by
      rw [run, List.foldl_append]
      rfl
    rw [hRun, settle_run, type_empty]
    congr 1
    exact foldl_eq_of_mem_iff see_comm see_self (fun cell => by simp [hMem]) (empty type)
  · rw [← hType] at hValue
    rcases hNext with rfl | rfl
    · rw [step, observe_of_mistyped hValue, hType]
      rfl
    · rw [step, format_of_mistyped hValue, hType]
      rfl
  · rw [← hType] at hCell
    obtain ⟨block, hFormat, -⟩ := format_of_hasType hCell
    refine ⟨?_, block, ?_⟩
    · rw [step, observe_of_hasType hCell]
    · rw [step, hFormat]

/-- A number that is observed twice, settled too early, and followed by a text that is refused. -/
theorem early_settled_run_has_canonical_form :
    let number (mantissa scale : Nat) (h : mantissa < Decimal.mantissaLimit) (hScale : scale ≤ 28) :
        Value := .decimal ⟨false, mantissa, scale, h, hScale⟩
    let ten := number 10 0 (by decide) (by decide)
    let tenth := number 1 1 (by decide) (by decide)
    let steps : List Step := [.observe (some tenth), .settle, .observe (some (.string "x")),
      .observe (some ten), .format (some ten), .observe (some tenth), .observe none]
    [ten, tenth].Perm (steps.filterMap (Step.taught .decimal)).dedup ∧
      (∃ fresh, [some ten, some tenth].foldlM observe (empty .decimal) = .ok fresh ∧
        (empty .decimal).run (steps ++ [.settle]) = fresh.settle) ∧
      (.string "x" : Value).type ≠ .decimal ∧
      ((empty .decimal).run steps).step (.observe (some (.string "x"))) =
        ((empty .decimal).run steps, .refused ⟨.typeMismatch .decimal .string, none⟩) := by
  intro number ten tenth steps
  have hValues : [ten, tenth].Perm (steps.filterMap (Step.taught .decimal)).dedup := by decide
  have hType : (.string "x" : Value).type ≠ .decimal := by decide
  obtain ⟨hCanonical, hRefused, -⟩ := runs_have_canonical_form .decimal steps
  exact ⟨hValues, hCanonical _ hValues, hType, hRefused _ hType _ (Or.inl rfl)⟩

/-- Two numbers of one value that do not have the same digits: they demand more together than one. -/
example :
    learned .decimal [some (.decimal ⟨false, 10, 1, by decide, by decide⟩)] ≠
      learned .decimal [some (.decimal ⟨false, 10, 1, by decide, by decide⟩),
        some (.decimal ⟨false, 100, 2, by decide, by decide⟩)] := by
  decide

end ColumnLayout

end Tabular

import Tabular.Proofs.Document.Conversion

/-!
The errors that are raised inside a value of a document. However deep they are raised, they are
those of the first part that cannot be read, and say nothing about the place of the value.
-/

namespace Tabular

/-- An error, if the outcome is one, concerns no cell in particular. -/
def Unplaced {α : Type} (outcome : Except Error α) : Prop :=
  ∀ e, outcome = .error e → e.position = none

section
variable {α β : Type}

theorem unplaced_ok (a : α) : Unplaced (.ok a : Except Error α) := by
  rintro e ⟨⟩

theorem unplaced_failure (cause : Cause) : Unplaced (failure cause : Except Error α) := by
  rintro e ⟨⟩
  rfl

theorem unplaced_bind {outcome : Except Error α} {next : α → Except Error β}
    (hOutcome : Unplaced outcome) (hNext : ∀ a, Unplaced (next a)) :
    Unplaced (outcome >>= next) := by
  intro e hError
  rcases bind_eq_error_iff.mp hError with hFirst | ⟨a, -, hThen⟩
  · exact hOutcome e hFirst
  · exact hNext a e hThen

theorem unplaced_mapM {convert : α → Except Error β} (h : ∀ a, Unplaced (convert a))
    (as : List α) : Unplaced (as.mapM convert) := by
  intro e hError
  obtain ⟨place, ⟨a, -, hFails⟩, -⟩ := (@mapM_eq_error_iff _ _ _ convert 0 as e).mp hError
  exact h a e hFails

end

theorem Decimal.unplaced_parse (text : String) : Unplaced (Decimal.parse text) := by
  unfold Decimal.parse
  split
  · exact unplaced_ok _
  · exact unplaced_failure _

theorem Amount.unplaced_ofChars (cs : List Char) : Unplaced (Amount.ofChars cs) := by
  unfold Amount.ofChars
  split
  · exact unplaced_bind (Decimal.unplaced_parse _) fun _ => unplaced_ok _
  · exact unplaced_failure _

theorem Position.unplaced_ofChars (cs : List Char) : Unplaced (Position.ofChars cs) := by
  unfold Position.ofChars Position.ofTrimmed
  split
  · exact unplaced_bind (Amount.unplaced_ofChars _) fun _ => unplaced_ok _
  · split
    · refine unplaced_bind (Amount.unplaced_ofChars _) fun _ => ?_
      exact unplaced_bind (Amount.unplaced_ofChars _) fun _ => unplaced_ok _
    · exact unplaced_failure _

theorem ValueType.unplaced_parse (text : String) : Unplaced (ValueType.parse text) := by
  unfold ValueType.parse
  dsimp only
  split
  · exact unplaced_ok _
  split
  · exact unplaced_ok _
  split
  · exact unplaced_ok _
  split
  · exact unplaced_ok _
  split
  · exact unplaced_ok _
  · exact unplaced_failure _

namespace Json

theorem unplaced_toDecimal (json : Json) : Unplaced json.toDecimal := by
  refine unplaced_bind ?_ fun text => Decimal.unplaced_parse text
  unfold toNumberText
  split
  · exact unplaced_ok _
  · exact unplaced_ok _
  · exact unplaced_failure _

theorem unplaced_toText (json : Json) (type : ValueType) : Unplaced (json.toText type) := by
  unfold toText
  split
  · exact unplaced_ok _
  · exact unplaced_failure _

theorem unplaced_toAmount (json : Json) : Unplaced json.toAmount := by
  unfold toAmount
  split
  · exact Amount.unplaced_ofChars _
  · unfold toAmountOfMembers
    split
    · exact unplaced_failure _
    · split
      · exact unplaced_failure _
      · exact unplaced_bind (unplaced_toDecimal _) fun _ => unplaced_ok _

theorem unplaced_toPosition (json : Json) : Unplaced json.toPosition := by
  unfold toPosition
  split
  · exact Position.unplaced_ofChars _
  · refine unplaced_bind (unplaced_toAmount _) fun units => unplaced_bind ?_ fun _ => unplaced_ok _
    unfold toCost
    split
    · exact unplaced_ok _
    · exact unplaced_ok _
    · exact unplaced_bind (unplaced_toAmount _) fun _ => unplaced_ok _
  · exact unplaced_failure _

theorem unplaced_toInventory (json : Json) : Unplaced json.toInventory := by
  unfold toInventory
  split
  · exact unplaced_bind (unplaced_mapM Position.unplaced_ofChars _) fun _ => unplaced_ok _
  · exact unplaced_bind (unplaced_mapM unplaced_toPosition _) fun _ => unplaced_ok _
  · exact unplaced_failure _

theorem unplaced_toDate (json : Json) : Unplaced json.toDate := by
  refine unplaced_bind (unplaced_toText json .date) fun text => ?_
  split
  · exact unplaced_ok _
  · exact unplaced_failure _

/-- However deep in a value a fault is, its error says nothing about the value's place. -/
theorem unplaced_toCell (json : Json) (type : ValueType) : Unplaced (json.toCell type) := by
  unfold toCell
  split
  · exact unplaced_ok _
  · refine unplaced_bind ?_ fun _ => unplaced_ok _
    cases type with
    | string => exact unplaced_bind (unplaced_toText _ _) fun _ => unplaced_ok _
    | date => exact unplaced_bind (unplaced_toDate _) fun _ => unplaced_ok _
    | decimal => exact unplaced_bind (unplaced_toDecimal _) fun _ => unplaced_ok _
    | position => exact unplaced_bind (unplaced_toPosition _) fun _ => unplaced_ok _
    | inventory => exact unplaced_bind (unplaced_toInventory _) fun _ => unplaced_ok _

/-- An array of positions is refused with the error of its first element that is. -/
theorem toCell_inventory_eq_error_iff {elements : List Json} {e : Error} :
    (array elements).toCell .inventory = .error e ↔
      ∃ place, FailsAt (fun _ => toPosition) 0 elements place e := by
  rw [toCell, bind_ok_eq_error_iff, toValue, bind_ok_eq_error_iff, toInventory,
    bind_ok_eq_error_iff]
  · exact mapM_eq_error_iff
  · nofun

/-- An object is refused with the error of its units or, if they are read, with that of its cost. -/
theorem toPosition_object_eq_error_iff {members : List (String × Json)} {e : Error} :
    (object members).toPosition = .error e ↔
      (object members).toAmount = .error e ∨
        (∃ units, (object members).toAmount = .ok units) ∧
          ∃ cost, (object members).member? "cost" = some cost ∧ cost ≠ null ∧
            cost.toAmount = .error e := by
  rw [toPosition, bind_eq_error_iff]
  simp only [bind_ok_eq_error_iff, exists_and_right]
  refine or_congr_right (and_congr_right fun _ => ?_)
  unfold toCost
  split
  · next h => simp [h]
  · next h => simp [h]
  · next cost hNull hCost =>
    rw [bind_ok_eq_error_iff, hCost]
    simp only [Option.some.injEq, exists_eq_left', ne_eq]
    exact ⟨fun h => ⟨hNull, h⟩, fun h => h.2⟩

end Json

end Tabular

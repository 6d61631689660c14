import Tabular.Proofs.Document.Conversion
import Tabular.Proofs.Json.Literal
import Tabular.Proofs.Decimal.Reading

/-!
The numbers of a document may stand by themselves or between quotes. A number that JSON can write is
the same decimal number either way, digit by digit.
-/

namespace Tabular

/-- A place for a number in a value that is converted to a cell of the type: the value itself, the
member `number` of a position or of its cost, and these places in an element of an inventory. What
stands before and behind is part of the place. -/
inductive NumberPlace : ValueType → Type where
  | cell : NumberPlace .decimal
  | units (front back : List (String × Json)) : NumberPlace .position
  | cost (front back costFront costBack : List (String × Json)) : NumberPlace .position
  | element (front back : List Json) (place : NumberPlace .position) : NumberPlace .inventory

/-- The value with the number in its place. -/
def NumberPlace.fill : {type : ValueType} → NumberPlace type → Json → Json
  | _, cell, number => number
  | _, units front back, number => .object (front ++ ("number", number) :: back)
  | _, cost front back costFront costBack, number =>
      .object (front ++ ("cost", .object (costFront ++ ("number", number) :: costBack)) :: back)
  | _, element front back place, number => .array (front ++ place.fill number :: back)

namespace Json

/-- If one member of an object has another value, then every name still means the same member, or it
means that one. -/
theorem lookup_append_cons (front back : List (String × Json)) (name key : String)
    (left right : Json) :
    (front ++ (name, left) :: back).lookup key = (front ++ (name, right) :: back).lookup key ∨
      key = name ∧ (front ++ (name, left) :: back).lookup key = some left ∧
        (front ++ (name, right) :: back).lookup key = some right := by
  rw [List.lookup_append, List.lookup_append]
  cases front.lookup key with
  | some found => exact Or.inl rfl
  | none =>
      by_cases hName : key = name
      · subst hName
        exact Or.inr ⟨rfl, by simp, by simp⟩
      · have hOther : (key == name) = false := by simpa using hName
        rw [List.lookup_cons, List.lookup_cons, hOther]
        exact Or.inl rfl

/-- A number is converted alike as it is kept, and between quotes as it is written. -/
theorem agreeOnValues_toDecimal {raw kept : String} (h : KeptAs raw.toList kept.toList) :
    AgreeOnValues (number kept).toDecimal (string raw).toDecimal := by
  have hTrim {text : String} (hMem : ∀ x ∈ text.toList, isNumeralChar x = true) :
      Text.trim text.toList = text.toList :=
    Text.trim_eq_self fun x hx => isBlank_of_isNumeralChar (hMem x hx)
  intro d
  change Decimal.parse kept = .ok d ↔ Decimal.parse raw = .ok d
  rw [Decimal.parse_eq_ok_iff, Decimal.parse_eq_ok_iff,
    hTrim fun x hx => h.isNumeralChar_of_mem (Or.inr hx),
    hTrim fun x hx => h.isNumeralChar_of_mem (Or.inl hx), h.ofChars?_eq]

section

variable {left right : Json}

theorem agreeOnValues_toAmount (h : AgreeOnValues left.toDecimal right.toDecimal)
    (front back : List (String × Json)) :
    AgreeOnValues (toAmount (.object (front ++ ("number", left) :: back)))
      (toAmount (.object (front ++ ("number", right) :: back))) := by
  have hCurrency := (lookup_append_cons front back "number" "currency" left right).resolve_right
    fun hName => absurd hName.1 (by decide)
  simp only [toAmount, toAmountOfMembers, member?, hCurrency]
  rcases lookup_append_cons front back "number" "number" left right with hSame | ⟨-, hLeft, hRight⟩
  · rw [hSame]
    exact .refl _
  · rw [hLeft, hRight]
    dsimp only
    split
    · exact .refl _
    · exact h.bind fun _ => .refl _

theorem agreeOnValues_toPosition_units (h : AgreeOnValues left.toDecimal right.toDecimal)
    (front back : List (String × Json)) :
    AgreeOnValues (toPosition (.object (front ++ ("number", left) :: back)))
      (toPosition (.object (front ++ ("number", right) :: back))) := by
  have hCost := (lookup_append_cons front back "number" "cost" left right).resolve_right
    fun hName => absurd hName.1 (by decide)
  refine (agreeOnValues_toAmount h front back).bind fun units => ?_
  simp only [toCost, member?, hCost]
  exact .refl _

/-- Of the units nothing depends on the cost. -/
theorem agreeOnValues_toPosition_cost {paid other : Json} (hPaid : paid ≠ .null)
    (hOther : other ≠ .null) (h : AgreeOnValues paid.toAmount other.toAmount)
    (front back : List (String × Json)) :
    AgreeOnValues (toPosition (.object (front ++ ("cost", paid) :: back)))
      (toPosition (.object (front ++ ("cost", other) :: back))) := by
  have hSame (key : String) (hKey : key ≠ "cost") :=
    (lookup_append_cons front back "cost" key paid other).resolve_right fun hName => hKey hName.1
  have hUnits : toAmount (.object (front ++ ("cost", paid) :: back)) =
      toAmount (.object (front ++ ("cost", other) :: back)) := by
    have hNumber := hSame "number" (by decide)
    have hCurrency := hSame "currency" (by decide)
    simp only [toAmount, toAmountOfMembers, member?, hNumber, hCurrency]
  have hCost : AgreeOnValues (toCost (.object (front ++ ("cost", paid) :: back)))
      (toCost (.object (front ++ ("cost", other) :: back))) := by
    rcases lookup_append_cons front back "cost" "cost" paid other with hBoth | ⟨-, hLeft, hRight⟩
    · simp only [toCost, member?, hBoth]
      exact .refl _
    · rw [toCost_of_ne_null hLeft hPaid, toCost_of_ne_null hRight hOther]
      exact h.bind fun _ => .refl _
  rw [toPosition, toPosition, hUnits]
  exact (AgreeOnValues.refl _).bind fun _ => hCost.bind fun _ => .refl _

theorem agreeOnValues_fill_position (h : AgreeOnValues left.toDecimal right.toDecimal)
    (place : NumberPlace .position) :
    AgreeOnValues (place.fill left).toPosition (place.fill right).toPosition := by
  cases place with
  | units front back => exact agreeOnValues_toPosition_units h front back
  | cost front back costFront costBack =>
      exact agreeOnValues_toPosition_cost (by nofun) (by nofun)
        (agreeOnValues_toAmount h costFront costBack) front back

/-- A number in any place may be replaced by one that is converted to the same value. -/
theorem agreeOnValues_fill (h : AgreeOnValues left.toDecimal right.toDecimal) (hLeft : left ≠ .null)
    (hRight : right ≠ .null) {type : ValueType} (place : NumberPlace type) :
    AgreeOnValues ((place.fill left).toCell type) ((place.fill right).toCell type) := by
  have hNull {number : Json} (hNumber : number ≠ .null) : place.fill number ≠ .null := by
    cases place with
    | cell => exact hNumber
    | units | cost | element => nofun
  rw [toCell_of_ne_null (hNull hLeft), toCell_of_ne_null (hNull hRight)]
  refine AgreeOnValues.bind ?_ fun _ => .refl _
  cases place with
  | cell => exact h.bind fun _ => .refl _
  | units | cost => exact (agreeOnValues_fill_position h _).bind fun _ => .refl _
  | element front back place =>
      have hList := (agreeOnValues_fill_position h place).mapM_append_cons front back
      exact (hList.bind fun _ => .refl _).bind fun _ => .refl _

end

end Json

/-- A number literal of JSON is read in full wherever it stands, by itself as the number that it is
kept as, and between quotes as its text. In whatever place of a cell these two stand, one is
converted exactly if the other is, and to the same cell: sign, mantissa and scale of every number in
it. -/
theorem Json.number_literals_mean_their_digits (raw : String) (h : IsLiteral raw.toList) :
    ∃ kept : String, KeptAs raw.toList kept.toList ∧
      (∀ blanks, Blanks blanks → ∀ depth,
        Cursor.Reads (Cursor.value depth) continuesNumber (blanks ++ raw.toList) (.number kept) ∧
          Cursor.Reads (Cursor.value depth) (fun _ => false)
            (blanks ++ '"' :: (raw.toList ++ ['"'])) (.string raw)) ∧
      ∀ (type : ValueType) (place : NumberPlace type) (cell : Cell),
        (place.fill (.number kept)).toCell type = .ok cell ↔
          (place.fill (.string raw)).toCell type = .ok cell := by
  obtain ⟨kept, hKept, hReads⟩ := h.exists_reads_value
  have hNumeral : ∀ x ∈ raw.toList, isNumeralChar x = true :=
    fun x hMem => hKept.isNumeralChar_of_mem (Or.inl hMem)
  refine ⟨kept, hKept, fun blanks hBlanks depth => ⟨hReads blanks hBlanks depth, ?_⟩, ?_⟩
  · have hString := Cursor.reads_string hNumeral hBlanks depth
    rwa [String.ofList_toList] at hString
  · intro type place
    exact agreeOnValues_fill (agreeOnValues_toDecimal hKept) (by nofun) (by nofun) place

/-- The zeros and the minus sign of a zero with an exponent, in a cell and in the cost of an element
of an inventory. -/
theorem Json.negative_zero_means_its_digits :
    let raw := "-0.00E1"
    let zero : Decimal := ⟨true, 0, 1, by decide, by decide⟩
    let holding (paid : Json) : Json := .array [.string "2 B", .object
      [("cost", .object [("currency", .string "USD"), ("number", paid)]), ("currency", .string "A"),
        ("number", .string "1")]]
    let held : Inventory :=
      ⟨[⟨⟨⟨false, 2, 0, by decide, by decide⟩, "B"⟩, none⟩,
        ⟨⟨⟨false, 1, 0, by decide, by decide⟩, "A"⟩, some ⟨zero, "USD"⟩⟩]⟩
    IsLiteral raw.toList ∧
      (Cursor.start raw).value 0 = .ok (.number "-0.00e+1", ⟨[], 1, 7⟩) ∧
      (number "-0.00e+1").toCell .decimal = .ok (some (.decimal zero)) ∧
      (string raw).toCell .decimal = .ok (some (.decimal zero)) ∧
      (holding (number "-0.00e+1")).toCell .inventory = .ok (some (.inventory held)) ∧
      (holding (string raw)).toCell .inventory = .ok (some (.inventory held)) := by
  intro raw zero holding held
  have hDigits {digits : List Char} (hNe : digits ≠ []) (hAll : digits.all Char.isDigit = true) :
      IsDigits digits :=
    ⟨hNe, List.all_eq_true.mp hAll⟩
  have hLiteral : IsLiteral raw.toList := by
    have hText : raw.toList = '-' :: (['0'] ++ ('.' :: ['0', '0'] ++ 'E' :: ['1'])) := by
      decide +kernel
    rw [hText]
    exact .minus (.mk (hDigits (by decide) (by decide)) (fun _ => rfl)
      (.point (hDigits (by decide) (by decide)))
      (.unsigned rfl (hDigits (by decide) (by decide))))
  have hRead : (Cursor.start raw).value 0 = .ok (.number "-0.00e+1", ⟨[], 1, 7⟩) := by
    dsimp only [raw]
    cbv
  have hCell : (string raw).toCell .decimal = .ok (some (.decimal zero)) := by decide +kernel
  have hHeld : (holding (string raw)).toCell .inventory = .ok (some (.inventory held)) := by
    decide +kernel
  obtain ⟨kept, -, hReads, hPlaces⟩ := number_literals_mean_their_digits raw hLiteral
  have hStart : (Cursor.start raw).rest = [] ++ raw.toList ++ [] := (List.append_nil _).symm
  obtain ⟨place, hKept, -⟩ := (hReads [] .nil 0).1 _ [] hStart (by simp)
  obtain ⟨hNumber, -⟩ := Prod.mk.inj (Except.ok.inj (hKept.symm.trans hRead))
  obtain rfl := Json.number.inj hNumber
  let inside : NumberPlace .inventory :=
    .element [.string "2 B"] [] (.cost [] [("currency", .string "A"), ("number", .string "1")]
      [("currency", .string "USD")] [])
  exact ⟨hLiteral, hRead, (hPlaces .decimal .cell _).mpr hCell, hCell,
    (hPlaces .inventory inside _).mpr hHeld, hHeld⟩

end Tabular

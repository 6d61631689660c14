import Tabular.Position.Reader
import Tabular.Proofs.Decimal.Exactness

/-!
Reading a decimal number is exact. Whatever is written, the number that is read from it has the value
of the written digits and keeps as many places as were written, less what the exponent uses up; and a
number that is within the bounds is never refused.
-/

namespace Tabular

namespace Decimal

theorem parse_eq_ok_iff {text : String} {d : Decimal} :
    parse text = .ok d ↔ ofChars? (Text.trim text.toList) = some d := by
  rw [parse, ofText?]
  cases ofChars? (Text.trim text.toList) with
  | none => simp [failure]
  | some read => simp

/-- A number that is read holds no brace that would open a cost. -/
theorem brace_not_mem_of_parse {text : String} {d : Decimal} (h : parse text = .ok d) :
    '\x7b' ∉ text.toList := by
  intro hMem
  obtain ⟨spelling, hSpells⟩ := Spelling.exists_spells_of_ofChars? (parse_eq_ok_iff.mp h)
  by_cases hTrim : '\x7b' ∈ Text.trim text.toList
  · exact absurd (hSpells.mem hTrim) (by decide)
  · exact absurd (Text.isBlank_of_not_mem_trim hMem hTrim) (by decide)

end Decimal

/-- Every number that is read was written in some way, and has a minus sign exactly if the text begins
with one. Its value is that of the written digits, as a whole number with its sign, times ten to the
exponent less the places; its scale is the places less the exponent, or 0. It is read whenever this
is within the bounds, and everything else is refused by an error that names the text and no cell. -/
theorem Decimal.parse_is_exact (text : String) :
    (∀ d, Decimal.parse text = .ok d →
      (∃ spelling : Spelling, spelling.Spells (Text.trim text.toList)) ∧
        (d.negative = true ↔ (Text.trim text.toList).head? = some '-') ∧
        d.mantissa < 2 ^ 96 ∧ d.scale ≤ 28 ∧
        ∀ spelling : Spelling, spelling.Spells (Text.trim text.toList) →
          d.value = (Spelling.signed spelling.negative spelling.digits : Rat) *
              10 ^ (spelling.exponent - spelling.places) ∧
            (d.scale : Int) = max (spelling.places - spelling.exponent) 0) ∧
    (∀ spelling : Spelling, spelling.Spells (Text.trim text.toList) →
      ((∃ d, Decimal.parse text = .ok d) ↔ spelling.Fits)) ∧
    ((∃ d, Decimal.parse text = .ok d) ∨
      Decimal.parse text =
        failure (.invalidDecimal (String.ofList (Text.trim text.toList)))) := by
  refine ⟨fun d hRead => ?_, fun spelling hSpells => ?_, ?_⟩
  · have hChars := parse_eq_ok_iff.mp hRead
    refine ⟨Spelling.exists_spells_of_ofChars? hChars, (denotedBy_of_ofChars? hChars).2,
      d.mantissa_lt, d.scale_le, fun spelling hSpells => ?_⟩
    rw [hSpells.ofChars?_eq] at hChars
    obtain ⟨-, -, -, hScale⟩ := Spelling.read?_eq_some_iff.mp hChars
    exact ⟨Spelling.value_of_read? hChars, by omega⟩
  · simp only [parse_eq_ok_iff, hSpells.ofChars?_eq]
    constructor
    · rintro ⟨d, hRead⟩
      exact (Spelling.read?_eq_some_iff.mp hRead).1
    · exact Spelling.Fits.exists_read?
  · rw [parse]
    cases ofText? text with
    | none => exact Or.inr rfl
    | some d => exact Or.inl ⟨d, rfl⟩

/-- Grouped digits and an exponent that uses up one of two places. -/
theorem Decimal.grouped_digits_with_exponent_are_exact :
    let text := "\t-1_2.50E+1 "
    let spelling : Spelling := ⟨true, ['1', '_', '2'], ['5', '0'], 1⟩
    spelling.Spells (Text.trim text.toList) ∧ spelling.Fits ∧
      ∃ d, Decimal.parse text = .ok d ∧ d.value = -125 ∧ d.scale = 1 ∧ d.negative = true := by
  intro text spelling
  have hSpells : spelling.Spells (Text.trim text.toList) := by
    have hText : Text.trim text.toList =
        ['-'] ++ (['1', '_', '2'] ++ '.' :: ['5', '0']) ++ 'E' :: (['+'] ++ ['1']) := by
      decide +kernel
    have hOne : Spelling.signed false (Numeral.whole ['1']) = 1 := by decide
    have hExponent : Spelling.ExponentText 1 ('E' :: (['+'] ++ ['1'])) := by
      rw [← hOne]
      exact .marked (by decide) .plus (by decide) (by simp [Char.isDigit])
    rw [hText]
    exact .mk .minus ⟨by simp [spelling, Char.isDigit], ⟨'1', rfl, rfl⟩, by decide⟩ (.point ['5', '0']) hExponent
  have hFits : spelling.Fits := ⟨by decide, by decide, by decide, by decide⟩
  obtain ⟨hExact, hAccepted, -⟩ := Decimal.parse_is_exact text
  obtain ⟨d, hRead⟩ := (hAccepted spelling hSpells).mpr hFits
  obtain ⟨-, hSign, -, -, hParts⟩ := hExact d hRead
  obtain ⟨hValue, hScale⟩ := hParts spelling hSpells
  have hDigits : Spelling.signed spelling.negative spelling.digits = -1250 := by decide
  have hPlaces : spelling.places = 2 := by decide
  refine ⟨hSpells, hFits, d, hRead, ?_, ?_, hSign.mpr (by decide +kernel)⟩
  · rw [hValue, hDigits, hPlaces]
    norm_num [spelling]
  · rw [hPlaces] at hScale
    simpa [spelling] using hScale

end Tabular

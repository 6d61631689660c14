import Tabular.Position.Reader
import Tabular.Proofs.Decimal.Exactness
import Tabular.Proofs.Text.Words

/-!
Reading a printed number back. Zeros that are added to a number become digits of the number that is
read, so that a number of many digits can be printed as one that no longer fits.
-/

namespace Tabular.Decimal

/-- A printed number is read as the number with the zeros that were added to it, if this fits. -/
theorem ofChars?_charsTo (d : Decimal) (places : Nat) :
    ofChars? (d.charsTo places) =
      ofParts? d.negative (d.mantissa * 10 ^ (places - d.scale)) (max d.scale places) := by
  rw [(d.spells_charsTo places).ofChars?_eq, Spelling.read?_of_exponent_eq_zero rfl,
    digits_spelling, places_spelling]
  rfl

/-- A number is read from its own text as it was, with its sign and its scale, however large it is
and whatever blanks stand around the text. -/
theorem parse_of_trim {d : Decimal} {text : String} (h : Text.trim text.toList = d.chars) :
    parse text = .ok d := by
  have hRead : ofText? text = some d := by
    rw [ofText?, h, ← charsTo_zero, ofChars?_charsTo]
    exact ofParts?_eq_some_iff.mpr ⟨rfl, by simp, by simp⟩
  rw [parse, hRead]

/-- Printing is undone by reading, to the sign of zero and the zeros at the end of a fraction, with
blanks around the text or without. -/
theorem parse_text_between_blanks (d : Decimal) {before after : String}
    (hBefore : ∀ c ∈ before.toList, Text.isBlank c = true)
    (hAfter : ∀ c ∈ after.toList, Text.isBlank c = true) :
    parse (before ++ d.text ++ after) = .ok d := by
  apply parse_of_trim
  rw [String.toList_append, String.toList_append, toList_text,
    Text.trim_append_append hBefore hAfter]
  exact Text.trim_eq_self fun _ => isBlank_of_mem_chars

/-- A zero with a sign and as many places as a number can have, between blanks of two kinds. -/
theorem parse_negative_zero_between_blanks :
    let zero : Decimal := ⟨true, 0, 28, by decide, by decide⟩
    (∀ c ∈ "\t".toList, Text.isBlank c = true) ∧ (∀ c ∈ "\u3000".toList, Text.isBlank c = true) ∧
      zero.text = "-0.0000000000000000000000000000" ∧
        parse ("\t" ++ zero.text ++ "\u3000") = .ok zero := by
  intro zero
  have hBefore : ∀ c ∈ "\t".toList, Text.isBlank c = true := by simp [Text.isBlank]
  have hAfter : ∀ c ∈ "\u3000".toList, Text.isBlank c = true := by simp [Text.isBlank]
  exact ⟨hBefore, hAfter, by decide +kernel, parse_text_between_blanks zero hBefore hAfter⟩

section
variable {d : Decimal} {places : Nat} {text : String}

/-- A printed number to which few enough zeros were added is read back with its value and its
sign. -/
theorem exists_read_of_lt (hText : Text.trim text.toList = d.charsTo places)
    (hPlaces : max d.scale places ≤ 28)
    (hFits : d.mantissa * 10 ^ (places - d.scale) < mantissaLimit) :
    ∃ read, parse text = .ok read ∧ read.value = d.value ∧ read.negative = d.negative ∧
      read.scale = max d.scale places := by
  let read : Decimal :=
    ⟨d.negative, d.mantissa * 10 ^ (places - d.scale), max d.scale places, hFits, hPlaces⟩
  have hChars : ofChars? (d.charsTo places) = some read := by
    rw [ofChars?_charsTo]
    exact ofParts?_eq_some_iff.mpr ⟨rfl, rfl, rfl⟩
  have hValue : some read.value = some d.value :=
    (denotedBy_of_ofChars? hChars).1.symm.trans (d.denotedBy_charsTo places).1
  refine ⟨read, ?_, Option.some.inj hValue, rfl, rfl⟩
  rw [parse, ofText?, hText, hChars]

/-- A printed number that the zeros made too long is refused. -/
theorem parse_of_le (hText : Text.trim text.toList = d.charsTo places)
    (hLong : mantissaLimit ≤ d.mantissa * 10 ^ (places - d.scale)) :
    parse text = failure (.invalidDecimal (String.ofList (d.charsTo places))) := by
  have hNone : ofText? text = none := by
    rw [ofText?, hText, ofChars?_charsTo, ofParts?]
    exact dif_neg fun hBounds => Nat.not_lt_of_le hLong hBounds.1
  rw [parse, hNone, hText]

end

end Tabular.Decimal

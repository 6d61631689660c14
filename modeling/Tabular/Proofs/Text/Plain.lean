import Tabular.Text.Separator

/-!
Texts of which every character takes one column. Numbers, dates and the frame of a table are written
in such characters. A digit is one of them although a selector after it can make it a picture, so it
does not separate: the width of such a text is its length only as long as nothing joins it from
behind.
-/

namespace Tabular.Text

/-- A character of Basic Latin or Latin-1 that is no line end. -/
def isPlain (c : Char) : Bool :=
  c.toNat ≤ 0xA0 && c != '\n' && c != '\r'

theorem toNat_of_isDigit {c : Char} (h : c.isDigit = true) : 48 ≤ c.toNat ∧ c.toNat ≤ 57 := by
  simpa [Char.isDigit, UInt32.le_iff_toNat_le] using h

theorem isPlain_of_isDigit {c : Char} (h : c.isDigit = true) : isPlain c = true := by
  have hRange := toNat_of_isDigit h
  have hFeed : c ≠ '\n' := by
    rintro rfl
    exact absurd hRange.1 (by decide)
  have hReturn : c ≠ '\r' := by
    rintro rfl
    exact absurd hRange.1 (by decide)
  simp only [isPlain, Bool.and_eq_true, decide_eq_true_eq, bne_iff_ne]
  exact ⟨⟨by omega, hFeed⟩, hReturn⟩

/-- In front of a text that joins with nothing, a plain character takes its own column. -/
theorem step_plain_of_isPlain {c : Char} (h : isPlain c = true) : step c .plain = (1, .plain) := by
  simp only [isPlain, Bool.and_eq_true, decide_eq_true_eq, bne_iff_ne, ne_eq] at h
  obtain ⟨⟨hLow, hFeed⟩, -⟩ := h
  simp [step, Ahead.wantsEmoji, Ahead.held, hLow, hFeed]

theorem measure_of_isPlain {cs : List Char} (h : ∀ c ∈ cs, isPlain c = true) :
    measure cs = (cs.length, .plain) := by
  induction cs with
  | nil => rfl
  | cons c cs ih =>
      obtain ⟨hHead, hTail⟩ := List.forall_mem_cons.mp h
      rw [measure, ih hTail]
      simp [step_plain_of_isPlain hHead]

/-- A plain text takes a column for each of its characters. -/
theorem columns_of_isPlain {cs : List Char} (h : ∀ c ∈ cs, isPlain c = true) :
    columns cs = cs.length := by
  rw [columns, measure_of_isPlain h]
  rfl

end Tabular.Text

import Tabular.Text.Width

/-!
Characters at which the width of a text is additive: they take one column and join with nothing.
Spaces and the characters of a table's frame are such.
-/

namespace Tabular.Text

/-- A character that takes one column and joins with nothing on either side of it. -/
def separates (c : Char) : Bool :=
  c.toNat ≤ 0xA0 && c != '\n' && c != '\r' && !emojiVariation.has c

theorem Ahead.held_dropEmoji {ahead : Ahead} (h : ahead.wantsEmoji = true) :
    ahead.dropEmoji.held = ahead.held := by
  cases ahead with
  | ligature letter asText asEmoji => cases letter <;> rfl
  | emojiSelector => rfl
  | joined keycap selected => rfl
  | _ => simp [Ahead.wantsEmoji] at h

theorem step_of_separates {c : Char} (h : separates c = true) (ahead : Ahead) :
    step c ahead = (ahead.held + 1, .plain) := by
  simp only [separates, Bool.and_eq_true, decide_eq_true_eq, bne_iff_ne, ne_eq,
    Bool.not_eq_true'] at h
  obtain ⟨⟨⟨hLow, hFeed⟩, hReturn⟩, hBase⟩ := h
  cases hWants : ahead.wantsEmoji with
  | false => simp [step, hWants, hLow, hFeed, hReturn]
  | true => simp [step, hWants, hBase, hLow, hFeed, hReturn, Ahead.held_dropEmoji hWants]

/-- A separating character settles all that follows it. -/
theorem measure_cons_of_separates {c : Char} (h : separates c = true) (cs : List Char) :
    measure (c :: cs) = (columns cs + 1, .plain) := by
  simp [measure, step_of_separates h, columns, Nat.add_assoc]

theorem measure_append_of_plain {count : Nat} (front : List Char) {back : List Char}
    (h : measure back = (count, .plain)) :
    measure (front ++ back) = ((measure front).1 + count, (measure front).2) := by
  induction front with
  | nil => simp [measure, h]
  | cons c front ih =>
    simp only [List.cons_append, measure, ih]
    exact Prod.ext (by simp only; omega) rfl

/-- The width is additive at a separating character. -/
theorem columns_append_cons {c : Char} (h : separates c = true) (front back : List Char) :
    columns (front ++ c :: back) = columns front + 1 + columns back := by
  have hMeasure := measure_append_of_plain front (measure_cons_of_separates h back)
  have hFront : columns front = (measure front).1 + (measure front).2.held := rfl
  rw [columns, hMeasure]
  simp only
  omega

@[simp] theorem columns_nil : columns [] = 0 :=
  rfl

theorem columns_cons {c : Char} (h : separates c = true) (cs : List Char) :
    columns (c :: cs) = columns cs + 1 := by
  have := columns_append_cons h [] cs
  simp only [List.nil_append, columns_nil] at this
  omega

/-- Text of separating characters takes a column for each. -/
theorem columns_replicate {c : Char} (h : separates c = true) (count : Nat) :
    columns (List.replicate count c) = count := by
  induction count with
  | zero => rfl
  | succ count ih => rw [List.replicate_succ, columns_cons h, ih]

theorem columns_append_replicate {c : Char} (h : separates c = true) (front : List Char)
    (count : Nat) :
    columns (front ++ List.replicate count c) = columns front + count := by
  cases count with
  | zero => simp
  | succ count =>
    rw [List.replicate_succ, columns_append_cons h, columns_replicate h]
    omega

theorem separates_space : separates ' ' = true := by decide

end Tabular.Text

import Tabular.Proofs.Text.Ligatures

/-!
The columns of a text as a fold over its characters from the last to the first, and what they are for
the sequences of characters that belong together. The columns of a text are those of the sequences
that it consists of, as long as none of them joins with what stands behind it.
-/

namespace Tabular.Text

/-- Read one character more, in front of what is already read. -/
def readBefore (c : Char) (after : Nat × Ahead) : Nat × Ahead :=
  (after.1 + (step c after.2).1, (step c after.2).2)

theorem measure_cons_eq_readBefore (c : Char) (cs : List Char) :
    measure (c :: cs) = readBefore c (measure cs) :=
  rfl

/-- All columns of what is read, those that are kept back included. -/
def total (read : Nat × Ahead) : Nat :=
  read.1 + read.2.held

theorem measure_eq_foldr (cs : List Char) : measure cs = cs.foldr readBefore (0, .plain) := by
  induction cs with
  | nil => rfl
  | cons c cs ih => rw [measure_cons_eq_readBefore, ih, List.foldr_cons]

/-- Characters that belong together, and their columns. -/
inductive Sequence : List Char → Nat → Prop where
  | single (c : Char) : Sequence [c] (ownColumns c)
  | lineEnd : Sequence ['\r', '\n'] 0
  | picture {cs : List Char} (h : Picture cs) : Sequence cs 2
  | asText {c : Char} (h : hasTextForm c = true) : Sequence [c, '\ufe0e'] 1
  | flags {cs : List Char} (h : ∀ c ∈ cs, regionals.has c = true) : Sequence cs cs.length
  | letters {cs : List Char} {count : Nat} (h : Ligated cs count) : Sequence cs count

/-- Letters of flags have a column each, so that a flag has two. -/
theorem measure_regionals {cs : List Char} (h : ∀ c ∈ cs, regionals.has c = true) :
    (measure cs).1 = cs.length ∧
      ((measure cs).2 = .plain ∨ (measure cs).2 = .regional ∨ (measure cs).2 = .regionals) := by
  induction cs with
  | nil => exact ⟨rfl, Or.inl rfl⟩
  | cons c cs ih =>
      obtain ⟨hRegional, hOthers⟩ := List.forall_mem_cons.mp h
      obtain ⟨hCount, hAhead⟩ := ih hOthers
      have hStep : step c (measure cs).2 = (1, .regional) ∨
          step c (measure cs).2 = (1, .regionals) := by
        rcases hAhead with hAhead | hAhead | hAhead <;> rw [hAhead]
        · have hBounds := CodePoints.bounds_of_has 0x1F1E6 0x1F1FF hRegional (by decide)
          exact Or.inl (by rw [step_plain (by omega), alone_of_regionals hRegional])
        · exact Or.inr (step_regional hRegional rfl rfl
            (by simp [joinEmoji?, isRegional_eq, hRegional]))
        · exact Or.inr (step_regional hRegional rfl rfl
            (by simp [joinEmoji?, isRegional_eq, hRegional]))
      rw [measure, List.length_cons, ← hCount]
      rcases hStep with hStep | hStep <;> simp [hStep]

theorem columns_regionals {cs : List Char} (h : ∀ c ∈ cs, regionals.has c = true) :
    columns cs = cs.length := by
  obtain ⟨hCount, hAhead⟩ := measure_regionals h
  rw [columns, hCount]
  rcases hAhead with hAhead | hAhead | hAhead <;> rw [hAhead] <;> rfl

theorem columns_asText {c : Char} (h : hasTextForm c = true) : columns [c, '\ufe0e'] = 1 := by
  have hPicture : emojiPresentation.has c = true := by
    simp only [hasTextForm, Bool.and_eq_true] at h
    exact h.1.2
  have hBounds := CodePoints.bounds_of_has 0x231A 0x1FAF8 hPicture (by decide)
  have hHigh : ¬ c.toNat ≤ 0xA0 := by omega
  have hSelector : c.toNat ≠ 0xFE0F := CodePoints.ne_of_has _ hPicture (by decide)
  have hText : c.toNat ≠ 0xFE0E := CodePoints.ne_of_has _ hPicture (by decide)
  have hBack : measure ['\ufe0e'] = (0, .textSelector) := by decide
  have hStep : step c .textSelector = (1, .plain) := by
    simp [step, Ahead.wantsEmoji, hHigh, stepWide, hSelector, hText, Ahead.wantsText, h, Ahead.held]
  rw [columns, measure_cons hBack hStep]
  rfl

theorem Sequence.columns_eq {cs : List Char} {count : Nat} (h : Sequence cs count) :
    columns cs = count := by
  cases h with
  | single c => exact columns_singleton c
  | lineEnd => decide
  | picture hPicture => exact hPicture.columns_eq
  | asText hText => exact columns_asText hText
  | flags hFlags => exact columns_regionals hFlags
  | letters hLetters => exact hLetters.columns_eq

/-- The last character in front is read as if nothing stood behind it. -/
def Apart (front back : List Char) : Prop :=
  ∀ c ∈ front.getLast?, step c (measure back).2 = settle (measure back).2 (step c .plain)

instance (front back : List Char) : Decidable (Apart front back) :=
  Option.decidableForallMem front.getLast?

theorem measure_append_of_apart {front back : List Char} (hFront : front ≠ [])
    (h : Apart front back) :
    measure (front ++ back) = (columns back + (measure front).1, (measure front).2) := by
  induction front with
  | nil => exact absurd rfl hFront
  | cons c front ih =>
      cases front with
      | nil =>
          have hStep := h c rfl
          simp [measure, hStep, settle, columns, Nat.add_assoc]
      | cons next front =>
          have hRest := ih (List.cons_ne_nil next front) h
          rw [List.cons_append, measure_cons_eq_readBefore, hRest, readBefore, Nat.add_assoc]
          rfl

/-- Sequences that do not join take the columns of both. -/
theorem columns_append_of_apart {front back : List Char} (h : Apart front back) :
    columns (front ++ back) = columns front + columns back := by
  by_cases hFront : front = []
  · rw [hFront, List.nil_append, columns_nil, Nat.zero_add]
  · rw [columns, measure_append_of_apart hFront h]
    exact (Nat.add_assoc _ _ _).trans (Nat.add_comm _ _)

/-- A text that consists of sequences none of which joins with what stands behind it, and the columns
of all of them. -/
inductive Composed : List Char → Nat → Prop where
  | nil : Composed [] 0
  | cons {front back : List Char} {count rest : Nat} (h : Sequence front count)
      (hBack : Composed back rest) (hApart : Apart front back) :
      Composed (front ++ back) (count + rest)

theorem Composed.columns_eq {cs : List Char} {count : Nat} (h : Composed cs count) :
    columns cs = count := by
  induction h with
  | nil => rfl
  | cons hFront hBack hApart ih => rw [columns_append_of_apart hApart, hFront.columns_eq, ih]

end Tabular.Text

import Tabular.Proofs.Text.Alone

/-!
Pictures made of several characters. A picture takes two columns, and none if a joiner and a picture
stand behind it: then it is a part of that picture.
-/

namespace Tabular.Text

/-- The characters in the name of a region. -/
def tags : CodePoints :=
  [(0xE0020, 0xE007F)]

/-- A letter in the name of a region, behind a flag. -/
def isTagLetter (c : Char) : Bool :=
  0xE0061 ≤ c.toNat && c.toNat ≤ 0xE007A

/-- A digit in the name of a region. -/
def isTagDigit (c : Char) : Bool :=
  0xE0030 ≤ c.toNat && c.toNat ≤ 0xE0039

/-- The name of a region: three to six letters, or three digits and up to four letters. -/
inductive RegionName : List Char → Prop where
  | letters {name : List Char} (h : ∀ c ∈ name, isTagLetter c = true)
      (hLow : 3 ≤ name.length) (hHigh : name.length ≤ 6) : RegionName name
  | digits {first second third : Char} {letters : List Char} (hFirst : isTagDigit first = true)
      (hSecond : isTagDigit second = true) (hThird : isTagDigit third = true)
      (h : ∀ c ∈ letters, isTagLetter c = true) (hHigh : letters.length ≤ 4) :
      RegionName (first :: second :: third :: letters)

/-- Characters that are shown as one picture. -/
inductive Picture : List Char → Prop where
  | presented {c : Char} (h : emojiPresentation.has c = true) : Picture [c]
  | selected {c : Char} (h : emojiVariation.has c = true) : Picture [c, '\ufe0f']
  | keycap {c : Char} (h : emojiVariation.has c = true) : Picture [c, '\ufe0f', '\u20e3']
  | toned {c tone : Char} (h : modifierBase.has c = true) (hTone : modifiers.has tone = true) :
      Picture [c, tone]
  | flag {first second : Char} (hFirst : regionals.has first = true)
      (hSecond : regionals.has second = true) : Picture [first, second]
  | region {name : List Char} (h : RegionName name) :
      Picture (Char.ofNat 0x1F3F4 :: name ++ [Char.ofNat 0xE007F])
  | joined {front back : List Char} (hFront : Picture front) (hBack : Picture back) :
      Picture (front ++ '\u200d' :: back)

/-- What a picture is to the character in front of it. -/
def Ahead.isPicture : Ahead → Bool
  | .emoji | .modifier | .regionals | .joinedEven => true
  | _ => false

/-- What a picture may stand in front of, and the columns that it takes there. -/
inductive Ground : Ahead → Nat → Prop where
  | plain : Ground .plain 2
  | joined : Ground (.joined false false) 0

/-- In front of `ahead` the characters take so many columns and are a picture. -/
def ShownBefore (cs : List Char) (ahead : Ahead) (own : Nat) : Prop :=
  ∀ back count, measure back = (count, ahead) →
    ∃ shown, Ahead.isPicture shown = true ∧ measure (cs ++ back) = (count + own, shown)

theorem measure_cons {back : List Char} {c : Char} {count own : Nat} {ahead here : Ahead}
    (hBack : measure back = (count, ahead)) (hStep : step c ahead = (own, here)) :
    measure (c :: back) = (count + own, here) := by
  simp [measure, hBack, hStep]

theorem step_joiner {shown : Ahead} (h : shown.isPicture = true) :
    step '\u200d' shown = (0, .joined false false) := by
  cases shown with
  | emoji | modifier | regionals | joinedEven => decide
  | _ => cases h

/-- A character that joins with what stands behind it. -/
theorem step_of_joinEmoji {c : Char} {ahead : Ahead} {result : Nat × Ahead}
    (hHigh : 0xA0 < c.toNat) (hException : exceptional.has c = false)
    (hEmoji : ahead.wantsEmoji = false) (hText : ahead.wantsText = false)
    (h : joinEmoji? c ahead = some result) : step c ahead = result := by
  have hOther := (exceptional_eq_false_iff c).mp hException
  have hPlain : ahead ≠ .plain := by
    rintro rfl
    cases h
  have hJoin : join? c ahead = some result := by
    cases ahead with
    | ligature letter asText asEmoji => cases h
    | _ => exact h
  simp [step, hEmoji, Nat.not_le_of_lt hHigh, stepWide, hPlain, hOther, hText, hJoin]

theorem step_tone {tone : Char} {ahead : Ahead} {own : Nat} (h : modifiers.has tone = true)
    (hGround : Ground ahead own) : step tone ahead = (own, .modifier) := by
  have hBounds := CodePoints.bounds_of_has 0x1F3FB 0x1F3FF h (by decide)
  cases hGround with
  | plain => rw [step_plain (by omega), alone_of_modifiers h]
  | joined =>
      apply step_of_joinEmoji (by omega) (CodePoints.not_has_of_apartFrom _ h (by decide))
        rfl rfl
      have hRegional : regionals.has tone = false :=
        CodePoints.not_has_of_apartFrom _ h (by decide)
      have hKeycap : tone.toNat ≠ 0x20E3 := by omega
      simp [joinEmoji?, isRegional_eq, hRegional, isModifier_eq, h, hKeycap]

theorem step_presented {c : Char} {ahead : Ahead} {own : Nat} (h : emojiPresentation.has c = true)
    (hGround : Ground ahead own) :
    step c ahead = (own, if modifiers.has c then .modifier else .emoji) := by
  have hBounds := CodePoints.bounds_of_has 0x231A 0x1FAF8 h (by decide)
  cases hGround with
  | plain => rw [step_plain (by omega), alone_of_emojiPresentation h]
  | joined =>
      apply step_of_joinEmoji (by omega) (CodePoints.not_has_of_apartFrom _ h (by decide))
        rfl rfl
      have hRegional : regionals.has c = false :=
        CodePoints.not_has_of_apartFrom _ h (by decide)
      have hKeycap : c.toNat ≠ 0x20E3 := by omega
      have hEnd : c.toNat ≠ 0xE007F := by omega
      simp only [joinEmoji?, isRegional_eq, hRegional, isModifier_eq, h, hKeycap, hEnd, beq_iff_eq,
        if_false, Bool.false_eq_true, if_true]
      split <;> rfl

theorem shownBefore_presented {c : Char} {ahead : Ahead} {own : Nat}
    (h : emojiPresentation.has c = true) (hGround : Ground ahead own) :
    ShownBefore [c] ahead own := by
  intro back count hBack
  refine ⟨_, ?_, measure_cons hBack (step_presented h hGround)⟩
  split <;> rfl

/-- What a character with U+FE0F behind it may stand in front of to be a picture, and the columns that
it takes there. -/
inductive SelectGround : Ahead → Nat → Prop where
  | plain : SelectGround .plain 2
  | joined (keycap : Bool) : SelectGround (.joined keycap false) 0

theorem Ground.select {ahead : Ahead} {own : Nat} (h : Ground ahead own) :
    SelectGround ahead own := by
  cases h with
  | plain => exact .plain
  | joined => exact .joined false

theorem shownBefore_selected {c : Char} {ahead : Ahead} {own : Nat}
    (h : emojiVariation.has c = true) (hGround : SelectGround ahead own) :
    ShownBefore [c, '\ufe0f'] ahead own := by
  intro back count hBack
  refine ⟨.emoji, rfl, ?_⟩
  cases hGround with
  | plain =>
      have hSelector : step '\ufe0f' .plain = (0, .emojiSelector) := by decide
      have hBase : step c .emojiSelector = (2, .emoji) := by
        simp [step, Ahead.wantsEmoji, h, Ahead.held]
      exact measure_cons (measure_cons hBack hSelector) hBase
  | joined keycap =>
      have hSelector : step '\ufe0f' (.joined keycap false) = (0, .joined keycap true) := by
        cases keycap <;> decide
      have hBase : step c (.joined keycap true) = (0, .emoji) := by
        simp [step, Ahead.wantsEmoji, h, Ahead.held]
      exact measure_cons (measure_cons hBack hSelector) hBase

theorem shownBefore_keycap {c : Char} {ahead : Ahead} {own : Nat}
    (h : emojiVariation.has c = true) (hGround : Ground ahead own) :
    ShownBefore [c, '\ufe0f', '\u20e3'] ahead own := by
  intro back count hBack
  cases hGround with
  | plain =>
      have hKeycap : step '\u20e3' .plain = (0, .plain) := by decide
      exact shownBefore_selected h .plain _ _ (measure_cons hBack hKeycap)
  | joined =>
      have hKeycap : step '\u20e3' (.joined false false) = (0, .joined true false) := by
        decide
      exact shownBefore_selected h (.joined true) _ _ (measure_cons hBack hKeycap)

theorem shownBefore_toned {c tone : Char} {ahead : Ahead} {own : Nat}
    (h : modifierBase.has c = true) (hTone : modifiers.has tone = true)
    (hGround : Ground ahead own) : ShownBefore [c, tone] ahead own := by
  intro back count hBack
  have hBounds := CodePoints.bounds_of_has 0x261D 0x1FAF8 h (by decide)
  have hBase : step c .modifier = (0, .emoji) := by
    apply step_of_joinEmoji (by omega) (CodePoints.not_has_of_apartFrom _ h (by decide))
      rfl rfl
    rw [joinEmoji?, if_pos h]
  have hBoth := measure_cons (measure_cons hBack (step_tone hTone hGround)) hBase
  exact ⟨.emoji, rfl, hBoth⟩

theorem step_regional {c : Char} {ahead : Ahead} {result : Nat × Ahead}
    (h : regionals.has c = true) (hEmoji : ahead.wantsEmoji = false)
    (hText : ahead.wantsText = false) (hJoin : joinEmoji? c ahead = some result) :
    step c ahead = result := by
  have hBounds := CodePoints.bounds_of_has 0x1F1E6 0x1F1FF h (by decide)
  exact step_of_joinEmoji (by omega) (CodePoints.not_has_of_apartFrom _ h (by decide))
    hEmoji hText hJoin

theorem shownBefore_flag {first second : Char} {ahead : Ahead} {own : Nat}
    (hFirst : regionals.has first = true) (hSecond : regionals.has second = true)
    (hGround : Ground ahead own) : ShownBefore [first, second] ahead own := by
  intro back count hBack
  cases hGround with
  | plain =>
      have hBounds := CodePoints.bounds_of_has 0x1F1E6 0x1F1FF hSecond (by decide)
      have hLast : step second .plain = (1, .regional) := by
        rw [step_plain (by omega), alone_of_regionals hSecond]
      have hPair : step first .regional = (1, .regionals) :=
        step_regional hFirst rfl rfl (by simp [joinEmoji?, isRegional_eq, hFirst])
      have hBoth := measure_cons (measure_cons hBack hLast) hPair
      exact ⟨.regionals, rfl, hBoth⟩
  | joined =>
      have hBounds := CodePoints.bounds_of_has 0x1F1E6 0x1F1FF hSecond (by decide)
      have hKeycap : second.toNat ≠ 0x20E3 := by omega
      have hLast : step second (.joined false false) = (0, .joinedRegional) :=
        step_regional hSecond rfl rfl (by simp [joinEmoji?, isRegional_eq, hSecond, hKeycap])
      have hPair : step first .joinedRegional = (0, .joinedEven) :=
        step_regional hFirst rfl rfl (by simp [joinEmoji?, isRegional_eq, hFirst])
      have hBoth := measure_cons (measure_cons hBack hLast) hPair
      exact ⟨.joinedEven, rfl, hBoth⟩

theorem step_tag {c : Char} {ahead : Ahead} {result : Nat × Ahead}
    (h : 0xE0020 ≤ c.toNat) (hLast : c.toNat ≤ 0xE007F) (hEmoji : ahead.wantsEmoji = false)
    (hText : ahead.wantsText = false) (hJoin : joinEmoji? c ahead = some result) :
    step c ahead = result := by
  have hException : exceptional.has c = false := (exceptional_eq_false_iff c).mpr (by omega)
  exact step_of_joinEmoji (by omega) hException hEmoji hText hJoin

/-- Letters of a name in front of the end of a region that is joined. -/
theorem measure_letters {letters back : List Char} {count behind : Nat}
    (h : ∀ c ∈ letters, isTagLetter c = true) (hBack : measure back = (count, .tagLetters behind))
    (hLength : letters.length + behind ≤ 6) :
    measure (letters ++ back) = (count, .tagLetters (letters.length + behind)) := by
  induction letters with
  | nil => simpa using hBack
  | cons c letters ih =>
      obtain ⟨hLetter, hLetters⟩ := List.forall_mem_cons.mp h
      rw [List.length_cons] at hLength
      have hRest := ih hLetters (by omega)
      simp only [isTagLetter, Bool.and_eq_true, decide_eq_true_eq] at hLetter
      have hFits : letters.length + behind ≤ 5 := by omega
      have hStep : step c (.tagLetters (letters.length + behind)) =
          (0, .tagLetters (letters.length + behind + 1)) :=
        step_tag (by omega) (by omega) rfl rfl (by simp [joinEmoji?, hLetter, hFits])
      have hAll := measure_cons hRest hStep
      rwa [Nat.add_zero, Nat.add_right_comm] at hAll

theorem alone_of_tags {c : Char} (h : tags.has c = true) : alone c = (0, .plain) := by
  have hOther := CodePoints.not_has_of_apartFrom (regionals ++ modifiers ++ emojiPresentation) h
    (by decide)
  simp only [CodePoints.has_append, Bool.or_eq_false_iff] at hOther
  have hExtend : graphemeExtend.has c = true := CodePoints.has_of_within _ h (by decide +kernel)
  have hTifinagh : c.toNat ≠ 0x2D7F := CodePoints.ne_of_has _ h (by decide)
  have hInvisible : isInvisible c = true := by simp [isInvisible, hExtend, hTifinagh]
  rw [alone_eq (CodePoints.not_has_of_apartFrom _ h (by decide))
    (CodePoints.not_has_of_apartFrom _ h (by decide)), hOther.1.1, hOther.1.2, hOther.2,
    hInvisible]
  rfl

theorem step_lastDigit {c : Char} {letters : Nat} (h : isTagDigit c = true)
    (hFits : letters ≤ 4) : step c (.tagLetters letters) = (0, .tagDigits 1) := by
  simp only [isTagDigit, Bool.and_eq_true, decide_eq_true_eq] at h
  have hLetter : ¬ 0xE0061 ≤ c.toNat := by omega
  exact step_tag (by omega) (by omega) rfl rfl (by simp [joinEmoji?, h, hFits, hLetter])

theorem step_digit {c : Char} {behind : Nat} (h : isTagDigit c = true) (hFits : behind ≤ 2) :
    step c (.tagDigits behind) = (0, .tagDigits (behind + 1)) := by
  simp only [isTagDigit, Bool.and_eq_true, decide_eq_true_eq] at h
  exact step_tag (by omega) (by omega) rfl rfl (by simp [joinEmoji?, h, hFits])

/-- A name by itself has no columns. -/
theorem measure_tags {name back : List Char} {count : Nat} (h : ∀ c ∈ name, tags.has c = true)
    (hBack : measure back = (count, .plain)) : measure (name ++ back) = (count, .plain) := by
  induction name with
  | nil => exact hBack
  | cons c name ih =>
      obtain ⟨hTag, hName⟩ := List.forall_mem_cons.mp h
      have hBounds := CodePoints.bounds_of_has 0xE0020 0xE007F hTag (by decide)
      have hStep : step c .plain = (0, .plain) := by rw [step_plain (by omega), alone_of_tags hTag]
      exact measure_cons (ih hName) hStep

theorem RegionName.tags {name : List Char} (h : RegionName name) :
    ∀ c ∈ name, Text.tags.has c = true := by
  have hLetter {c : Char} (hLetter : isTagLetter c = true) : Text.tags.has c = true := by
    simp only [isTagLetter, Bool.and_eq_true, decide_eq_true_eq] at hLetter
    rw [Text.tags, CodePoints.has_cons, Bool.or_eq_true, decide_eq_true_eq]
    omega
  have hDigit {c : Char} (hDigit : isTagDigit c = true) : Text.tags.has c = true := by
    simp only [isTagDigit, Bool.and_eq_true, decide_eq_true_eq] at hDigit
    rw [Text.tags, CodePoints.has_cons, Bool.or_eq_true, decide_eq_true_eq]
    omega
  cases h with
  | letters hLetters _ _ => exact fun c hMem => hLetter (hLetters c hMem)
  | digits hFirst hSecond hThird hLetters _ =>
      simp only [List.forall_mem_cons]
      exact ⟨hDigit hFirst, hDigit hSecond, hDigit hThird, fun c hMem => hLetter (hLetters c hMem)⟩

/-- In front of the end of a region that is joined, a name makes the flag before it a part of the
picture. -/
theorem RegionName.step_flag {name back : List Char} {count : Nat} (h : RegionName name)
    (hBack : measure back = (count, .tagLetters 0)) :
    ∃ ahead, measure (name ++ back) = (count, ahead) ∧
      step (Char.ofNat 0x1F3F4) ahead = (0, .emoji) := by
  cases h with
  | letters hLetters hLow hHigh =>
      refine ⟨_, measure_letters hLetters hBack hHigh, ?_⟩
      exact step_of_joinEmoji (by decide) (by decide) rfl rfl
        (by simp [joinEmoji?, hLow])
  | @digits first second third letters hFirst hSecond hThird hLetters hHigh =>
      have hName := measure_letters hLetters hBack (by omega)
      have hLast := measure_cons hName (step_lastDigit hThird hHigh)
      have hMiddle := measure_cons hLast (step_digit hSecond (by omega))
      have hAll := measure_cons hMiddle (step_digit hFirst (by omega))
      exact ⟨_, hAll, by decide⟩

theorem shownBefore_region {name : List Char} {ahead : Ahead} {own : Nat} (h : RegionName name)
    (hGround : Ground ahead own) :
    ShownBefore (Char.ofNat 0x1F3F4 :: name ++ [Char.ofNat 0xE007F]) ahead own := by
  intro back count hBack
  refine ⟨.emoji, rfl, ?_⟩
  rw [List.append_assoc, List.cons_append]
  cases hGround with
  | plain =>
      have hEnd : step (Char.ofNat 0xE007F) .plain = (0, .plain) := by
        rw [step_plain (by decide), alone_of_tags (by decide)]
      have hFlag : step (Char.ofNat 0x1F3F4) .plain = (2, .emoji) := by decide
      exact measure_cons (measure_tags h.tags (measure_cons hBack hEnd)) hFlag
  | joined =>
      have hEnd : step (Char.ofNat 0xE007F) (.joined false false) = (0, .tagLetters 0) := by
        decide
      obtain ⟨behind, hName, hFlag⟩ := h.step_flag (measure_cons hBack hEnd)
      exact measure_cons hName hFlag

/-- A picture in front of what joins with nothing takes two columns. In front of a joiner and a
picture it takes none. -/
theorem Picture.shownBefore {cs : List Char} (h : Picture cs) {ahead : Ahead} {own : Nat}
    (hGround : Ground ahead own) : ShownBefore cs ahead own := by
  induction h generalizing ahead own with
  | presented hBase => exact shownBefore_presented hBase hGround
  | selected hBase => exact shownBefore_selected hBase hGround.select
  | keycap hBase => exact shownBefore_keycap hBase hGround
  | toned hBase hTone => exact shownBefore_toned hBase hTone hGround
  | flag hFirst hSecond => exact shownBefore_flag hFirst hSecond hGround
  | region hName => exact shownBefore_region hName hGround
  | @joined front picture _ _ ihFront ihBack =>
      intro back count hBack
      -- the picture behind settles the columns of both: over the joiner the one in front adds none
      obtain ⟨behind, hBehind, hPicture⟩ := ihBack hGround back count hBack
      have hJoiner := measure_cons hPicture (step_joiner hBehind)
      obtain ⟨shown, hShown, hAll⟩ := ihFront .joined _ _ hJoiner
      refine ⟨shown, hShown, ?_⟩
      rw [List.append_assoc, List.cons_append]
      exact hAll

theorem Picture.columns_eq {cs : List Char} (h : Picture cs) : columns cs = 2 := by
  obtain ⟨shown, hShown, hMeasure⟩ := h.shownBefore .plain [] 0 rfl
  have hHeld : shown.held = 0 := by
    cases shown with
    | emoji | modifier | regionals | joinedEven => rfl
    | _ => cases hShown
  rw [List.append_nil] at hMeasure
  rw [columns, hMeasure, hHeld]

end Tabular.Text

import Tabular.Proofs.Text.Pictures

/-!
Letters that are written as one. Characters without a column may stand between the letters, and some
scripts join only over a zero width joiner. A letter that may join is carried over what stands
between until the letter in front decides on it.
-/

namespace Tabular.Text

/-- A character that may stand between two joined letters, Arabic ones apart. -/
def isLink (c : Char) : Bool :=
  isJoiner c || ligatureTransparent.has c

/-- A character that may stand between two joined Arabic letters. -/
def isArabicLink (c : Char) : Bool :=
  isInvisible c && !joinBreaking.has c

/-- The first of two Lisu tones. -/
def isFirstTone (c : Char) : Bool :=
  0xA4F8 ≤ c.toNat && c.toNat ≤ 0xA4FB

/-- The second of two Lisu tones. -/
def isSecondTone (c : Char) : Bool :=
  0xA4FC ≤ c.toNat && c.toNat ≤ 0xA4FD

/-- Links, one of which is a zero width joiner. -/
def Joining (links : List Char) : Prop :=
  (∀ c ∈ links, isLink c = true) ∧ ∃ c ∈ links, isJoiner c = true

/-- Letters with links between them that are written as one, and its columns. -/
inductive Ligated : List Char → Nat → Prop where
  | arabic {lam alef : Char} {links : List Char} (hLam : lams.has lam = true)
      (hAlef : alefs.has alef = true) (h : ∀ c ∈ links, isArabicLink c = true) :
      Ligated (lam :: links ++ [alef]) 1
  | hebrew {links : List Char} (h : Joining links) : Ligated ('\u05d0' :: links ++ ['\u05dc']) 1
  | khmer {letter : Char} {links : List Char} (hLetter : coengLetters.has letter = true)
      (h : ∀ c ∈ links, isLink c = true) : Ligated ('\u17d2' :: links ++ [letter]) 0
  | buginese {vowelLinks links : List Char} (hVowel : ∀ c ∈ vowelLinks, isLink c = true)
      (h : Joining links) :
      Ligated ('\u1a15' :: vowelLinks ++ '\u1a17' :: links ++ ['\u1a10']) 1
  | tifinagh {first second : Char} {links : List Char}
      (hFirst : tifinaghConsonants.has first = true)
      (hSecond : tifinaghConsonants.has second = true) (h : Joining links) :
      Ligated (first :: links ++ [second]) 1
  | tifinaghJoiner {first second : Char} {links behind : List Char}
      (hFirst : tifinaghConsonants.has first = true)
      (hSecond : tifinaghConsonants.has second = true) (h : ∀ c ∈ links, isLink c = true)
      (hBehind : ∀ c ∈ behind, isLink c = true) :
      Ligated (first :: links ++ '\u2d7f' :: behind ++ [second]) 1
  | lisu {first second : Char} {links : List Char} (hFirst : isFirstTone first = true)
      (hSecond : isSecondTone second = true) (h : ∀ c ∈ links, isLink c = true) :
      Ligated (first :: links ++ [second]) 1
  | oldTurkic {links : List Char} (h : Joining links) :
      Ligated (Char.ofNat 0x10C32 :: links ++ [Char.ofNat 0x10C03]) 1

/-- The letter that stands next, whatever selectors stand before it. -/
def Ahead.letter? : Ahead → Option Ligature
  | .ligature letter _ _ => some letter
  | _ => none

/-- The letter with a zero width joiner in front of it. -/
def Ligature.afterJoiner : Ligature → Ligature
  | .lamed _ => .lamed true
  | .ya _ => .ya true
  | .consonant _ => .consonant true
  | .oldTurkic _ => .oldTurkic true
  | letter => letter

/-- So many columns of the text are settled, and this letter stands first in it, or only selectors do
before it. What the letter keeps back is not among the columns. -/
def Carries (cs : List Char) (count : Nat) (letter : Ligature) : Prop :=
  (measure cs).1 = count ∧ (measure cs).2.letter? = some letter

theorem Ahead.exists_of_letter? {ahead : Ahead} {letter : Ligature}
    (h : ahead.letter? = some letter) :
    ∃ asText asEmoji, ahead = .ligature letter asText asEmoji := by
  cases ahead with
  | ligature other asText asEmoji =>
      obtain rfl : other = letter := Option.some.inj h
      exact ⟨asText, asEmoji, rfl⟩
  | _ => cases h

/-- A selector leaves the letter standing next. -/
theorem step_selector {c : Char} {ahead : Ahead} {letter : Ligature}
    (h : c.toNat = 0xFE0E ∨ c.toNat = 0xFE0F) (hAhead : ahead.letter? = some letter) :
    (step c ahead).1 = 0 ∧ (step c ahead).2.letter? = some letter := by
  obtain ⟨asText, asEmoji, rfl⟩ := Ahead.exists_of_letter? hAhead
  have hVariation : emojiVariation.has c = false := by
    rcases h with hPoint | hPoint <;> rw [eq_ofNat hPoint] <;> decide
  -- what is kept back depends on the letter only, so that it cancels
  rcases h with hPoint | hPoint <;> cases asEmoji <;>
    simp [step, stepWide, hVariation, hPoint, Ahead.wantsEmoji, Ahead.dropEmoji,
      Ahead.selectEmoji, Ahead.selectText, Ahead.letter?] <;>
    cases letter <;> rfl

/-- In front of a letter a character joins with it if it can. -/
theorem step_letter {c : Char} {ahead : Ahead} {letter : Ligature} {result : Nat × Ahead}
    (hHigh : 0xA0 < c.toNat) (hSelector : c.toNat ≠ 0xFE0E ∧ c.toNat ≠ 0xFE0F)
    (hVariation : emojiVariation.has c = false) (hAhead : ahead.letter? = some letter)
    (h : joinLetter? c letter = some result) : step c ahead = result := by
  obtain ⟨asText, asEmoji, rfl⟩ := Ahead.exists_of_letter? hAhead
  have hText : hasTextForm c = false := by simp [hasTextForm, hVariation]
  have hJoin (asText asEmoji) : join? c (.ligature letter asText asEmoji) = some result := h
  cases asText <;> cases asEmoji <;>
    simp [step, stepWide, hVariation, Nat.not_le_of_lt hHigh, hSelector, Ahead.wantsEmoji,
      Ahead.dropEmoji, Ahead.wantsText, Ahead.dropText, hText, hJoin]

/-- The characters that may be links. -/
def linkPoints : CodePoints :=
  (0x200D, 0x200D) :: ligatureTransparent

theorem isLink_eq (c : Char) : isLink c = linkPoints.has c := by
  have hJoiner : c.toNat = 0x200D ↔ 0x200D ≤ c.toNat ∧ c.toNat ≤ 0x200D := by omega
  rw [Bool.eq_iff_iff]
  simp only [isLink, isJoiner, linkPoints, CodePoints.has_cons, Bool.or_eq_true, beq_iff_eq,
    decide_eq_true_eq, hJoiner]

theorem joinLetter?_of_isLink {c : Char} {letter : Ligature} (h : isLink c = true)
    (hLetter : letter ≠ .alef) :
    joinLetter? c letter =
      some (0, .ligature (if isJoiner c then letter.afterJoiner else letter) false false) := by
  cases hJoiner : isJoiner c with
  | true => cases letter <;> simp [joinLetter?, hJoiner, Ligature.afterJoiner] at hLetter ⊢
  | false =>
      have hTransparent : ligatureTransparent.has c = true := by simpa [isLink, hJoiner] using h
      cases letter <;> simp [joinLetter?, hJoiner, hTransparent] at hLetter ⊢

theorem step_link {c : Char} {ahead : Ahead} {letter : Ligature} (h : isLink c = true)
    (hLetter : letter ≠ .alef) (hAhead : ahead.letter? = some letter) :
    (step c ahead).1 = 0 ∧
      (step c ahead).2.letter? = some (if isJoiner c then letter.afterJoiner else letter) := by
  by_cases hSelector : c.toNat = 0xFE0E ∨ c.toNat = 0xFE0F
  · have hJoiner : isJoiner c = false := by
      rw [isJoiner, beq_eq_false_iff_ne]
      omega
    rw [hJoiner]
    exact step_selector hSelector hAhead
  · have hPoint := isLink_eq c ▸ h
    have hBounds := CodePoints.bounds_of_has 0x34F 0xE01EF hPoint (by decide)
    rw [step_letter (by omega) (by omega)
      (CodePoints.not_has_of_apartFrom _ hPoint (by decide)) hAhead
      (joinLetter?_of_isLink h hLetter)]
    exact ⟨rfl, rfl⟩

theorem Carries.cons {c : Char} {back : List Char} {count : Nat} {letter next : Ligature}
    (hBack : Carries back count letter)
    (h : (step c (measure back).2).1 = 0 ∧ (step c (measure back).2).2.letter? = some next) :
    Carries (c :: back) count next :=
  ⟨by rw [measure, h.1, hBack.1]; rfl, h.2⟩

theorem Carries.links {links back : List Char} {count : Nat} {letter : Ligature}
    (hBack : Carries back count letter) (hLetter : letter ≠ .alef)
    (h : ∀ c ∈ links, isLink c = true) :
    Carries (links ++ back) count (if links.any isJoiner then letter.afterJoiner else letter) := by
  induction links with
  | nil => exact hBack
  | cons c links ih =>
      obtain ⟨hLink, hLinks⟩ := List.forall_mem_cons.mp h
      have hRest := ih hLinks
      have hOther : (if links.any isJoiner then letter.afterJoiner else letter) ≠ .alef := by
        split
        · cases letter <;> simp [Ligature.afterJoiner] at hLetter ⊢
        · exact hLetter
      have hStep := step_link hLink hOther hRest.2
      -- a letter that has passed one joiner is not changed by the next
      have hTwice : letter.afterJoiner.afterJoiner = letter.afterJoiner := by
        cases letter <;> rfl
      have hAll := hRest.cons hStep
      rw [List.any_cons]
      cases hJoiner : isJoiner c <;> cases hAny : links.any isJoiner <;>
        simpa [hJoiner, hAny, hTwice] using hAll

/-- Links that hold a zero width joiner. -/
theorem Carries.joining {links back : List Char} {count : Nat} {letter : Ligature}
    (hBack : Carries back count letter) (hLetter : letter ≠ .alef) (h : Joining links) :
    Carries (links ++ back) count letter.afterJoiner := by
  obtain ⟨hLinks, hJoiner⟩ := h
  have hAll := hBack.links hLetter hLinks
  rwa [List.any_eq_true.mpr hJoiner, if_pos rfl] at hAll

/-- Links in front of a letter that does not need a zero width joiner. -/
theorem Carries.carried {links back : List Char} {count : Nat} {letter : Ligature}
    (hBack : Carries back count letter) (hLetter : letter ≠ .alef)
    (hJoined : letter.afterJoiner = letter) (h : ∀ c ∈ links, isLink c = true) :
    Carries (links ++ back) count letter := by
  have hAll := hBack.links hLetter h
  rwa [hJoined, ite_self] at hAll

/-- Where the characters are that U+FE0F makes pictures. -/
def variationRanges : CodePoints :=
  [(0x23, 0xA9), (0xAE, 0xAE), (0x203C, 0x2049), (0x2122, 0x2B55), (0x3030, 0x303D),
    (0x3297, 0x3299), (0x1F004, 0x1F6F3)]

theorem step_arabicLink {c : Char} {ahead : Ahead} (h : isArabicLink c = true)
    (hAhead : ahead.letter? = some .alef) :
    (step c ahead).1 = 0 ∧ (step c ahead).2.letter? = some .alef := by
  by_cases hSelector : c.toNat = 0xFE0E ∨ c.toNat = 0xFE0F
  · exact step_selector hSelector hAhead
  · have hParts := h
    simp only [isArabicLink, isInvisible, Bool.and_eq_true] at hParts
    have hPoint : (graphemeExtend ++ invisible).has c = true := by
      rw [CodePoints.has_append]
      exact hParts.1.1
    have hOther := CodePoints.not_has_of_apartFrom ((0, 0xA0) :: (lams ++ variationRanges)) hPoint
      (by decide +kernel)
    rw [CodePoints.has_cons, CodePoints.has_append, Bool.or_eq_false_iff, Bool.or_eq_false_iff,
      decide_eq_false_iff_not] at hOther
    obtain ⟨hHigh, hLam, hOutside⟩ := hOther
    rw [isArabicLink] at h
    have hJoin : joinLetter? c .alef = some (0, .ligature .alef false false) := by
      simp [joinLetter?, hLam, h]
    have hVariation : emojiVariation.has c = false := by
      rw [Bool.eq_false_iff] at hOutside ⊢
      exact fun h => hOutside (CodePoints.has_of_within _ h (by decide))
    rw [step_letter (by omega) (by omega) hVariation hAhead hJoin]
    exact ⟨rfl, rfl⟩

theorem Carries.arabicLinks {links back : List Char} {count : Nat}
    (hBack : Carries back count .alef) (h : ∀ c ∈ links, isArabicLink c = true) :
    Carries (links ++ back) count .alef := by
  induction links with
  | nil => exact hBack
  | cons c links ih =>
      obtain ⟨hLink, hLinks⟩ := List.forall_mem_cons.mp h
      have hRest := ih hLinks
      exact hRest.cons (step_arabicLink hLink hRest.2)

theorem carries_singleton {c : Char} {count : Nat} {letter : Ligature} (hHigh : 0xA0 < c.toNat)
    (h : alone c = (count, .ligature letter false false)) : Carries [c] count letter := by
  have hMeasure : measure [c] = alone c := by simp [measure, step_plain hHigh]
  rw [Carries, hMeasure, h]
  exact ⟨rfl, rfl⟩

theorem alone_of_alefs {c : Char} (h : alefs.has c = true) :
    alone c = (1, .ligature .alef false false) := by
  have hBounds := CodePoints.bounds_of_has 0x622 0x882 h (by decide)
  have hOther : c.toNat ≠ 0xFE0E ∧ c.toNat ≠ 0xFE0F ∧ c.toNat ≠ 0x5DC := by omega
  simp [alone, hOther, h]

theorem alone_of_coengLetters {c : Char} (h : coengLetters.has c = true) :
    alone c = (0, .ligature .coengLetter false false) := by
  have hBounds := CodePoints.bounds_of_has 0x1780 0x17AF h (by decide)
  have hOther : c.toNat ≠ 0xFE0E ∧ c.toNat ≠ 0xFE0F ∧ c.toNat ≠ 0x5DC := by omega
  have hAlef : alefs.has c = false := CodePoints.not_has_of_apartFrom _ h (by decide)
  simp [alone, hOther, hAlef, h]

theorem alone_of_tifinaghConsonants {c : Char} (h : tifinaghConsonants.has c = true) :
    alone c = (1, .ligature (.consonant false) false false) := by
  have hBounds := CodePoints.bounds_of_has 0x2D31 0x2D6F h (by decide)
  have hOther : c.toNat ≠ 0xFE0E ∧ c.toNat ≠ 0xFE0F ∧ c.toNat ≠ 0x5DC ∧ c.toNat ≠ 0x17D8 ∧
      c.toNat ≠ 0x17A4 ∧ c.toNat ≠ 0x115F ∧ c.toNat ≠ 0x1A10 := by omega
  have hAlef : alefs.has c = false := CodePoints.not_has_of_apartFrom _ h (by decide)
  have hCoeng : coengLetters.has c = false :=
    CodePoints.not_has_of_apartFrom _ h (by decide)
  simp [alone, hOther, hAlef, hCoeng, h]

theorem alone_of_isSecondTone {c : Char} (h : isSecondTone c = true) :
    alone c = (1, .ligature .lisuTone false false) := by
  simp only [isSecondTone, Bool.and_eq_true, decide_eq_true_eq] at h
  have hTone : c.toNat = 0xA4FC ∨ c.toNat = 0xA4FD := by omega
  rcases hTone with hPoint | hPoint <;> rw [eq_ofNat hPoint] <;> decide

/-- Characters that join with a letter behind them. -/
def leadingLetters : CodePoints :=
  lams ++ tifinaghConsonants ++
    [(0x5D0, 0x5D0), (0x17D2, 0x17D2), (0x1A15, 0x1A15), (0x1A17, 0x1A17), (0x2D7F, 0x2D7F),
      (0xA4F8, 0xA4FB), (0x10C32, 0x10C32)]

theorem Carries.step_leading {c : Char} {back : List Char} {count : Nat} {letter : Ligature}
    {result : Nat × Ahead} (hBack : Carries back count letter)
    (h : leadingLetters.has c = true) (hJoin : joinLetter? c letter = some result) :
    step c (measure back).2 = result := by
  have hBounds := CodePoints.bounds_of_has 0x5D0 0x10C32 h (by decide)
  have hText : c.toNat ≠ 0xFE0E := CodePoints.ne_of_has _ h (by decide)
  have hEmoji : c.toNat ≠ 0xFE0F := CodePoints.ne_of_has _ h (by decide)
  exact step_letter (by omega) ⟨hText, hEmoji⟩
    (CodePoints.not_has_of_apartFrom _ h (by decide)) hBack.2 hJoin

/-- The first letter of a ligature adds no column to those of the letters behind it. -/
theorem Carries.columns_eq {c : Char} {back : List Char} {count : Nat} {letter : Ligature}
    (hBack : Carries back count letter) (h : leadingLetters.has c = true)
    (hJoin : joinLetter? c letter = some (0, .plain)) : columns (c :: back) = count := by
  rw [columns, measure, hBack.step_leading h hJoin, hBack.1]
  rfl

/-- A letter within a ligature takes the place of the letter behind it. -/
theorem Carries.leading {c : Char} {back : List Char} {count : Nat} {letter next : Ligature}
    (hBack : Carries back count letter) (h : leadingLetters.has c = true)
    (hJoin : joinLetter? c letter = some (0, .ligature next false false)) :
    Carries (c :: back) count next := by
  apply hBack.cons
  rw [hBack.step_leading h hJoin]
  exact ⟨rfl, rfl⟩

theorem joinLetter?_of_tifinaghConsonants {c : Char} {letter : Ligature}
    (h : tifinaghConsonants.has c = true)
    (hLetter : letter = .consonant true ∨ letter = .consonantJoiner) :
    joinLetter? c letter = some (0, .plain) := by
  have hLink : linkPoints.has c = false := CodePoints.not_has_of_apartFrom _ h (by decide)
  rw [← isLink_eq, isLink, Bool.or_eq_false_iff] at hLink
  have hPoint : c.toNat ≠ 0x2D7F := CodePoints.ne_of_has _ h (by decide)
  rcases hLetter with rfl | rfl <;> simp [joinLetter?, hLink, hPoint, h]

theorem joinLetter?_of_isFirstTone {c : Char} (h : isFirstTone c = true) :
    joinLetter? c .lisuTone = some (0, .plain) := by
  simp only [isFirstTone, Bool.and_eq_true, decide_eq_true_eq] at h
  have hTone : c.toNat = 0xA4F8 ∨ c.toNat = 0xA4F9 ∨ c.toNat = 0xA4FA ∨ c.toNat = 0xA4FB := by
    omega
  rcases hTone with hPoint | hPoint | hPoint | hPoint <;> rw [eq_ofNat hPoint] <;> decide

/-- Letters that are written as one take the columns of one letter. A Khmer letter below the line
takes none. -/
theorem Ligated.columns_eq {cs : List Char} {count : Nat} (h : Ligated cs count) :
    columns cs = count := by
  cases h with
  | @arabic lam alef links hLam hAlef hLinks =>
      have hBounds := CodePoints.bounds_of_has 0x622 0x882 hAlef (by decide)
      have hBack := (carries_singleton (by omega) (alone_of_alefs hAlef)).arabicLinks hLinks
      exact hBack.columns_eq (CodePoints.has_of_within _ hLam (by decide))
        (by simp [joinLetter?, hLam])
  | @hebrew links hLinks =>
      have hLamed : Carries ['\u05dc'] 1 (.lamed false) := ⟨by decide, by decide⟩
      have hBack := hLamed.joining (by decide) hLinks
      exact hBack.columns_eq (by decide) (by decide)
  | @khmer letter links hLetter hLinks =>
      have hBounds := CodePoints.bounds_of_has 0x1780 0x17AF hLetter (by decide)
      have hBelow := carries_singleton (by omega) (alone_of_coengLetters hLetter)
      have hBack := hBelow.carried (by decide) rfl hLinks
      exact hBack.columns_eq (by decide) (by decide)
  | @buginese vowelLinks links hVowel hLinks =>
      have hYa : Carries ['\u1a10'] 1 (.ya false) := ⟨by decide, by decide⟩
      have hJoined := hYa.joining (by decide) hLinks
      have hVowelYa : Carries ('\u1a17' :: (links ++ ['\u1a10'])) 1 .vowelYa :=
        hJoined.leading (by decide) (by decide)
      have hBack := hVowelYa.carried (by decide) rfl hVowel
      rw [List.append_assoc]
      exact hBack.columns_eq (by decide) (by decide)
  | @tifinagh first second links hFirst hSecond hLinks =>
      have hBounds := CodePoints.bounds_of_has 0x2D31 0x2D6F hSecond (by decide)
      have hConsonant := carries_singleton (by omega) (alone_of_tifinaghConsonants hSecond)
      have hBack := hConsonant.joining (by decide) hLinks
      exact hBack.columns_eq (CodePoints.has_of_within _ hFirst (by decide))
        (joinLetter?_of_tifinaghConsonants hFirst (Or.inl rfl))
  | @tifinaghJoiner first second links behind hFirst hSecond hLinks hBehind =>
      have hBounds := CodePoints.bounds_of_has 0x2D31 0x2D6F hSecond (by decide)
      have hConsonant := carries_singleton (by omega) (alone_of_tifinaghConsonants hSecond)
      have hCarried := hConsonant.links (by decide) hBehind
      have hJoiner : Carries ('\u2d7f' :: (behind ++ [second])) 1 .consonantJoiner := by
        apply hCarried.leading (by decide)
        split <;> decide
      have hBack := hJoiner.carried (by decide) rfl hLinks
      rw [List.append_assoc]
      exact hBack.columns_eq (CodePoints.has_of_within _ hFirst (by decide))
        (joinLetter?_of_tifinaghConsonants hFirst (Or.inr rfl))
  | @lisu first second links hFirst hSecond hLinks =>
      have hTone := alone_of_isSecondTone hSecond
      simp only [isSecondTone, Bool.and_eq_true, decide_eq_true_eq] at hSecond
      have hBack := (carries_singleton (by omega) hTone).carried (by decide) rfl hLinks
      have hLeading : leadingLetters.has first = true := by
        simp only [isFirstTone, Bool.and_eq_true, decide_eq_true_eq] at hFirst
        simp [leadingLetters, CodePoints.has_append, CodePoints.has_cons, hFirst]
      exact hBack.columns_eq hLeading (joinLetter?_of_isFirstTone hFirst)
  | @oldTurkic links hLinks =>
      have hLetter : Carries [Char.ofNat 0x10C03] 1 (.oldTurkic false) :=
        ⟨by decide, by decide⟩
      have hBack := hLetter.joining (by decide) hLinks
      exact hBack.columns_eq (by decide) (by decide)

end Tabular.Text

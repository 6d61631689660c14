import Mathlib.Data.List.Basic
import Tabular.Proofs.Text.Words

/-!
Texts taken apart at their blanks. A piece that ends where the next one begins is found in one way
only, and so are the two words of a text that has two.
-/

namespace Tabular.Text

/-- Nothing but blanks. -/
def AllBlank (cs : List Char) : Prop :=
  ∀ c ∈ cs, isBlank c = true

/-- A word: it is not empty and holds no blank. -/
structure IsWord (cs : List Char) : Prop where
  ne_nil : cs ≠ []
  isBlank_eq_false : ∀ c ∈ cs, isBlank c = false

/-- What is taken from a text ends where the first character stands that does not satisfy `p`. -/
theorem takeWhile_append_of_head {p : Char → Bool} {xs rest : List Char}
    (hXs : ∀ c ∈ xs, p c = true) (hRest : ∀ c ∈ rest.head?, p c = false) :
    (xs ++ rest).takeWhile p = xs := by
  rw [List.takeWhile_append_of_pos hXs]
  cases rest with
  | nil => rw [List.takeWhile_nil, List.append_nil]
  | cons c rest => rw [List.takeWhile_cons_of_neg (by simp [hRest c rfl]), List.append_nil]

/-- A text is cut in one way into characters that satisfy `p` and a rest that begins with none. -/
theorem append_inj_of_head {p : Char → Bool} {xs ys front back : List Char}
    (hXs : ∀ c ∈ xs, p c = true) (hFront : ∀ c ∈ front.head?, p c = false)
    (hYs : ∀ c ∈ ys, p c = true) (hBack : ∀ c ∈ back.head?, p c = false)
    (h : xs ++ front = ys ++ back) : xs = ys ∧ front = back := by
  have hTake := congrArg (List.takeWhile p) h
  rw [takeWhile_append_of_head hXs hFront, takeWhile_append_of_head hYs hBack] at hTake
  subst hTake
  exact ⟨rfl, List.append_cancel_left h⟩

/-- A text is cut in one way at the first `mark` in it. -/
theorem append_cons_inj {mark : Char} {xs ys front back : List Char} (hXs : mark ∉ xs)
    (hYs : mark ∉ ys) (h : xs ++ mark :: front = ys ++ mark :: back) : xs = ys ∧ front = back := by
  have hNone {cs : List Char} (hCs : mark ∉ cs) : ∀ c ∈ cs, (c != mark) = true := fun c hMem =>
    bne_iff_ne.mpr (ne_of_mem_of_not_mem hMem hCs)
  obtain ⟨hSame, hRest⟩ :=
    append_inj_of_head (hNone hXs) (by simp) (hNone hYs) (by simp) h
  exact ⟨hSame, (List.cons.inj hRest).2⟩

/-- A text is cut in one way at the last `mark` in it, if only blanks stand behind. -/
theorem append_mark_blanks_inj {mark : Char} (hMark : isBlank mark = false)
    {xs ys front back : List Char} (hFront : AllBlank front) (hBack : AllBlank back)
    (h : xs ++ mark :: front = ys ++ mark :: back) : xs = ys ∧ front = back := by
  have hReverse := congrArg List.reverse h
  simp only [List.reverse_append, List.reverse_cons, List.append_assoc,
    List.singleton_append] at hReverse
  obtain ⟨hBlanks, hRest⟩ := append_inj_of_head (p := isBlank)
    (fun c hMem => hFront c (List.mem_reverse.mp hMem)) (by simpa using hMark)
    (fun c hMem => hBack c (List.mem_reverse.mp hMem)) (by simpa using hMark) hReverse
  exact ⟨List.reverse_inj.mp (List.cons.inj hRest).2, List.reverse_inj.mp hBlanks⟩

theorem IsWord.head? {word : List Char} (h : IsWord word) (rest : List Char) :
    ∀ c ∈ (word ++ rest).head?, isBlank c = false := by
  intro c hHead
  rw [List.head?_append_of_ne_nil _ h.ne_nil] at hHead
  exact h.isBlank_eq_false c (List.mem_of_mem_head? hHead)

theorem AllBlank.head? {blanks : List Char} (h : AllBlank blanks) :
    ∀ c ∈ blanks.head?, isBlank c = true :=
  fun c hHead => h c (List.mem_of_mem_head? hHead)

/-- A word is the first of a text that goes on with a blank, or not at all. -/
theorem words_append_of_head {word rest : List Char} (h : IsWord word)
    (hRest : ∀ c ∈ rest.head?, isBlank c = true) : words (word ++ rest) = word :: words rest := by
  have hWord := words_eq_singleton h.ne_nil h.isBlank_eq_false
  cases rest with
  | nil => rw [List.append_nil, hWord, words_nil]
  | cons c rest =>
      have hBlank := hRest c rfl
      rw [words_append_cons hBlank, hWord, ← List.nil_append (c :: rest),
        words_append_cons hBlank, words_nil]
      rfl

/-- A text is blank, or has a first word. -/
theorem allBlank_or_exists_word (cs : List Char) :
    AllBlank cs ∨ ∃ before word rest, AllBlank before ∧ IsWord word ∧
      (∀ c ∈ rest.head?, isBlank c = true) ∧ cs = before ++ (word ++ rest) := by
  have hStart : cs.takeWhile isBlank ++ trimStart cs = cs := List.takeWhile_append_dropWhile
  have hBefore : AllBlank (cs.takeWhile isBlank) := fun _ => List.mem_takeWhile_imp
  cases hTrim : trimStart cs with
  | nil =>
      rw [hTrim, List.append_nil] at hStart
      exact Or.inl (hStart ▸ hBefore)
  | cons c tail =>
      have hFirst : isBlank c = false := by
        have hHead := List.head?_dropWhile_not isBlank cs
        rw [← trimStart, hTrim] at hHead
        simpa using hHead
      refine Or.inr ⟨_, (c :: tail).takeWhile (!isBlank ·), (c :: tail).dropWhile (!isBlank ·),
        hBefore, ⟨?_, fun x hMem => ?_⟩, fun x hHead => ?_, ?_⟩
      · rw [List.takeWhile_cons_of_pos (by simp [hFirst])]
        exact List.cons_ne_nil _ _
      · simpa using List.mem_takeWhile_imp hMem
      · have hNext := List.head?_dropWhile_not (!isBlank ·) (c :: tail)
        rw [Option.mem_def.mp hHead] at hNext
        simpa using hNext
      · rw [List.takeWhile_append_dropWhile, ← hTrim, hStart]

/-- Nothing is left of a blank text once it is trimmed, and of no other. -/
theorem trim_eq_nil_iff {cs : List Char} : trim cs = [] ↔ AllBlank cs := by
  refine ⟨fun h c hMem => isBlank_of_not_mem_trim hMem (by simp [h]), fun h => ?_⟩
  rw [trim, trimStart, List.dropWhile_eq_nil_iff.mpr h]
  rfl

theorem words_eq_nil_iff {cs : List Char} : words cs = [] ↔ AllBlank cs := by
  refine ⟨fun h => ?_, words_of_blanks⟩
  rcases allBlank_or_exists_word cs with hBlank | ⟨before, word, rest, hBefore, hWord, hRest, rfl⟩
  · exact hBlank
  · rw [words_blanks_append hBefore, words_append_of_head hWord hRest] at h
    cases h

theorem words_eq_cons_iff {cs word : List Char} {more : List (List Char)} :
    words cs = word :: more ↔
      ∃ before rest, cs = before ++ (word ++ rest) ∧ AllBlank before ∧ IsWord word ∧
        (∀ c ∈ rest.head?, isBlank c = true) ∧ words rest = more := by
  constructor
  · intro h
    rcases allBlank_or_exists_word cs with
      hBlank | ⟨before, first, rest, hBefore, hWord, hRest, rfl⟩
    · rw [words_of_blanks hBlank] at h
      cases h
    · rw [words_blanks_append hBefore, words_append_of_head hWord hRest] at h
      obtain ⟨rfl, hMore⟩ := List.cons.inj h
      exact ⟨before, rest, rfl, hBefore, hWord, hRest, hMore⟩
  · rintro ⟨before, rest, rfl, hBefore, hWord, hRest, rfl⟩
    rw [words_blanks_append hBefore, words_append_of_head hWord hRest]

/-- A text has these two words if it is the two of them with blanks between them, and blanks around
them or none. -/
theorem words_eq_pair_iff {cs first second : List Char} :
    words cs = [first, second] ↔
      IsWord first ∧ IsWord second ∧ ∃ before between after, AllBlank before ∧
        (between ≠ [] ∧ AllBlank between) ∧ AllBlank after ∧
          cs = before ++ (first ++ (between ++ (second ++ after))) := by
  rw [words_eq_cons_iff]
  simp only [words_eq_cons_iff, words_eq_nil_iff]
  constructor
  · rintro ⟨before, _, rfl, hBefore, hFirst, hHead, between, after, rfl, hBetween, hSecond, -,
      hAfter⟩
    refine ⟨hFirst, hSecond, before, between, after, hBefore, ⟨?_, hBetween⟩, hAfter, rfl⟩
    -- without blanks between them the second word would go on where the first one ends
    rintro rfl
    obtain ⟨c, rest, rfl⟩ := List.exists_cons_of_ne_nil hSecond.ne_nil
    have hBlank := hHead c rfl
    rw [hSecond.isBlank_eq_false c List.mem_cons_self] at hBlank
    cases hBlank
  · rintro ⟨hFirst, hSecond, before, between, after, hBefore, ⟨hNe, hBetween⟩, hAfter, rfl⟩
    refine ⟨before, _, rfl, hBefore, hFirst, fun c hHead => ?_, between, after, rfl, hBetween,
      hSecond, hAfter.head?, hAfter⟩
    rw [List.head?_append_of_ne_nil _ hNe] at hHead
    exact hBetween.head? c hHead

end Tabular.Text

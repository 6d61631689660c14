import Mathlib.Data.List.TakeWhile
import Tabular.Proofs.Text.Plain
import Tabular.Text.Blank

/-!
Words and trimmed texts. A word holds no blank, and a text without blanks is trimmed already.
-/

namespace Tabular.Text

theorem isBlank_of_isDigit {c : Char} (h : c.isDigit = true) : isBlank c = false := by
  have hRange := toNat_of_isDigit h
  simp only [isBlank, Bool.or_eq_false_iff, Bool.and_eq_false_iff, decide_eq_false_iff_not,
    beq_eq_false_iff_ne, ne_eq]
  omega

theorem isBlank_of_mem_spaces {c : Char} {count : Nat} (h : c ∈ List.replicate count ' ') :
    isBlank c = true := by
  rw [(List.mem_replicate.mp h).2]
  rfl

/-- A text that does not begin with a blank keeps its beginning. -/
theorem trimStart_eq_self {cs : List Char} (h : ∀ c ∈ cs.head?, isBlank c = false) :
    trimStart cs = cs := by
  cases cs with
  | nil => rfl
  | cons c cs =>
      have hFirst := h c rfl
      rw [trimStart, List.dropWhile_cons_of_neg (by simp [hFirst])]

/-- A text that neither begins nor ends with a blank is trimmed already. -/
theorem trim_of_ends {cs : List Char} (hFirst : ∀ c ∈ cs.head?, isBlank c = false)
    (hLast : ∀ c ∈ cs.getLast?, isBlank c = false) : trim cs = cs := by
  have hReverse : ∀ c ∈ cs.reverse.head?, isBlank c = false := by simpa using hLast
  have hEnd := trimStart_eq_self hReverse
  rw [trimStart] at hEnd
  rw [trim, trimStart_eq_self hFirst, trimEnd, hEnd, List.reverse_reverse]

/-- A text without blanks is trimmed already. -/
theorem trim_eq_self {cs : List Char} (h : ∀ c ∈ cs, isBlank c = false) : trim cs = cs :=
  trim_of_ends (fun c hFirst => h c (List.mem_of_mem_head? hFirst)) fun c hLast =>
    h c (List.mem_of_getLast? hLast)

/-- What begins and ends with a word is trimmed already. -/
theorem trim_between {first last : List Char} (hFirst : first ≠ [])
    (hFirstBlank : ∀ c ∈ first, isBlank c = false) (hLast : last ≠ [])
    (hLastBlank : ∀ c ∈ last, isBlank c = false) (middle : List Char) :
    trim (first ++ middle ++ last) = first ++ middle ++ last := by
  refine trim_of_ends (fun c hHead => hFirstBlank c ?_) fun c hEnd => hLastBlank c ?_
  · rw [List.append_assoc, List.head?_append, List.head?_eq_some_head hFirst, Option.some_or,
      Option.mem_some_iff] at hHead
    exact hHead ▸ List.head_mem hFirst
  · rw [List.getLast?_append, List.getLast?_eq_some_getLast hLast, Option.some_or,
      Option.mem_some_iff] at hEnd
    exact hEnd ▸ List.getLast_mem hLast

/-- Blanks around a text make no difference once it is trimmed. -/
theorem trim_append_append {before after : List Char} (hBefore : ∀ c ∈ before, isBlank c = true)
    (hAfter : ∀ c ∈ after, isBlank c = true) (cs : List Char) :
    trim (before ++ cs ++ after) = trim cs := by
  have hDrop : (after ++ []).dropWhile isBlank = [].dropWhile isBlank :=
    List.dropWhile_append_of_pos hAfter
  have hNone : after.dropWhile isBlank = [] := by rwa [List.append_nil] at hDrop
  have hReverse : ∀ c ∈ after.reverse, isBlank c = true := fun c hMem =>
    hAfter c (List.mem_reverse.mp hMem)
  rw [List.append_assoc, trim, trimStart, List.dropWhile_append_of_pos hBefore,
    List.dropWhile_append, trim, trimStart]
  split
  · next hEmpty => rw [hNone, List.isEmpty_iff.mp hEmpty]
  · rw [trimEnd, List.reverse_append, List.dropWhile_append_of_pos hReverse, trimEnd]

/-- What stands between separators is part of the text and holds none of them. -/
theorem mem_and_eq_false_of_mem_splitOnP {p : Char → Bool} {cs piece : List Char}
    (h : piece ∈ cs.splitOnP p) {c : Char} (hMem : c ∈ piece) : c ∈ cs ∧ p c = false := by
  induction cs generalizing piece with
  | nil =>
      rw [List.splitOnP_nil, List.mem_singleton] at h
      subst h
      cases hMem
  | cons x cs ih =>
      have hLater {other : List Char} (hOther : other ∈ cs.splitOnP p) (hIn : c ∈ other) :
          c ∈ x :: cs ∧ p c = false :=
        (ih hOther hIn).imp_left (List.mem_cons_of_mem x)
      rw [List.splitOnP_cons_eq_if_modifyHead] at h
      split at h
      · rcases List.mem_cons.mp h with rfl | hRest
        · cases hMem
        · exact hLater hRest hMem
      · next hSep =>
        obtain ⟨first, rest, hSplit⟩ := List.exists_cons_of_ne_nil (List.splitOnP_ne_nil p cs)
        rw [hSplit, List.modifyHead_cons] at h
        rcases List.mem_cons.mp h with rfl | hRest
        · rcases List.mem_cons.mp hMem with rfl | hFirst
          · exact ⟨List.mem_cons_self, by simpa using hSep⟩
          · exact hLater (hSplit ▸ List.mem_cons_self) hFirst
        · exact hLater (hSplit ▸ List.mem_cons_of_mem _ hRest) hMem

theorem mem_of_mem_words {cs word : List Char} (h : word ∈ words cs) {c : Char}
    (hMem : c ∈ word) : c ∈ cs :=
  (mem_and_eq_false_of_mem_splitOnP (List.mem_filter.mp h).1 hMem).1

theorem isBlank_of_mem_words {cs word : List Char} (h : word ∈ words cs) {c : Char}
    (hMem : c ∈ word) : isBlank c = false :=
  (mem_and_eq_false_of_mem_splitOnP (List.mem_filter.mp h).1 hMem).2

theorem ne_nil_of_mem_words {cs word : List Char} (h : word ∈ words cs) : word ≠ [] := by
  have hSome := (List.mem_filter.mp h).2
  simpa using hSome

/-- A word is trimmed already. -/
theorem trim_of_mem_words {cs word : List Char} (h : word ∈ words cs) : trim word = word :=
  trim_eq_self fun _ hMem => isBlank_of_mem_words h hMem

/-- A blank stands between the words before it and those behind it. -/
theorem words_append_cons {c : Char} (h : isBlank c = true) (front back : List Char) :
    words (front ++ c :: back) = words front ++ words back := by
  rw [words, List.splitOnP_append_cons front back h, List.filter_append]
  rfl

/-- A text without blanks is one word, if it is not empty. -/
theorem words_eq_singleton {word : List Char} (hNe : word ≠ [])
    (h : ∀ c ∈ word, isBlank c = false) : words word = [word] := by
  rw [words, List.splitOnP_eq_singleton h]
  simp [hNe]

/-- Blanks alone hold no word. -/
theorem words_of_blanks {cs : List Char} (h : ∀ c ∈ cs, isBlank c = true) : words cs = [] := by
  induction cs with
  | nil => exact words_nil
  | cons c cs ih =>
      obtain ⟨hHead, hTail⟩ := List.forall_mem_cons.mp h
      rw [← List.nil_append (c :: cs), words_append_cons hHead, words_nil, ih hTail]
      rfl

theorem words_append_blanks (cs : List Char) {after : List Char}
    (h : ∀ c ∈ after, isBlank c = true) : words (cs ++ after) = words cs := by
  cases after with
  | nil => rw [List.append_nil]
  | cons c after =>
      obtain ⟨hHead, hTail⟩ := List.forall_mem_cons.mp h
      rw [words_append_cons hHead, words_of_blanks hTail, List.append_nil]

theorem words_blanks_append {before : List Char} (h : ∀ c ∈ before, isBlank c = true)
    (cs : List Char) : words (before ++ cs) = words cs := by
  induction before with
  | nil => rfl
  | cons c before ih =>
      obtain ⟨hHead, hTail⟩ := List.forall_mem_cons.mp h
      rw [List.cons_append, ← List.nil_append (c :: _), words_append_cons hHead, words_nil,
        List.nil_append, ih hTail]

theorem words_trimStart (cs : List Char) : words (trimStart cs) = words cs := by
  have hText : cs.takeWhile isBlank ++ trimStart cs = cs := List.takeWhile_append_dropWhile
  rw [← words_blanks_append (fun _ => List.mem_takeWhile_imp) (trimStart cs), hText]

/-- Trimming drops blanks at the two ends, and nothing else. -/
theorem exists_eq_append_trim (cs : List Char) :
    ∃ before after, (∀ c ∈ before, isBlank c = true) ∧ (∀ c ∈ after, isBlank c = true) ∧
      cs = before ++ trim cs ++ after := by
  refine ⟨cs.takeWhile isBlank, ((trimStart cs).reverse.takeWhile isBlank).reverse,
    fun _ => List.mem_takeWhile_imp, fun c hMem => ?_, ?_⟩
  · exact List.mem_takeWhile_imp (List.mem_reverse.mp hMem)
  · have hStart : cs.takeWhile isBlank ++ trimStart cs = cs := List.takeWhile_append_dropWhile
    have hEnd : trim cs ++ ((trimStart cs).reverse.takeWhile isBlank).reverse = trimStart cs := by
      rw [trim, trimEnd, ← List.reverse_append, List.takeWhile_append_dropWhile,
        List.reverse_reverse]
    rw [List.append_assoc, hEnd, hStart]

theorem words_trim (cs : List Char) : words (trim cs) = words cs := by
  obtain ⟨before, after, hBefore, hAfter, hText⟩ := exists_eq_append_trim cs
  have hWords : words (before ++ trim cs ++ after) = words (trim cs) := by
    rw [words_append_blanks _ hAfter, words_blanks_append hBefore]
  rw [← hWords, ← hText]

theorem trim_trimStart (cs : List Char) : trim (trimStart cs) = trim cs := by
  have hText : cs.takeWhile isBlank ++ trimStart cs = cs := List.takeWhile_append_dropWhile
  have hBefore : ∀ c ∈ cs.takeWhile isBlank, isBlank c = true := fun _ => List.mem_takeWhile_imp
  have hAfter : ∀ c ∈ ([] : List Char), isBlank c = true := by simp
  rw [← trim_append_append hBefore hAfter (trimStart cs), List.append_nil, hText]

theorem trim_trim (cs : List Char) : trim (trim cs) = trim cs := by
  obtain ⟨before, after, hBefore, hAfter, hText⟩ := exists_eq_append_trim cs
  rw [← trim_append_append hBefore hAfter (trim cs), ← hText]

/-- What is not part of the trimmed text is blank. -/
theorem isBlank_of_not_mem_trim {cs : List Char} {c : Char} (hMem : c ∈ cs) (h : c ∉ trim cs) :
    isBlank c = true := by
  obtain ⟨before, after, hBefore, hAfter, hText⟩ := exists_eq_append_trim cs
  rw [hText, List.mem_append, List.mem_append] at hMem
  rcases hMem with (hMem | hMem) | hMem
  · exact hBefore c hMem
  · exact absurd hMem h
  · exact hAfter c hMem

theorem mem_of_mem_trim {cs : List Char} {c : Char} (h : c ∈ trim cs) : c ∈ cs := by
  obtain ⟨before, after, -, -, hText⟩ := exists_eq_append_trim cs
  rw [hText, List.mem_append, List.mem_append]
  exact Or.inl (Or.inr h)

end Tabular.Text

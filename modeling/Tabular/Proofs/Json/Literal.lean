import Tabular.Proofs.Decimal.Spelling
import Tabular.Proofs.Json.Scanner
import Tabular.Proofs.Text.Pieces

/-!
The number literals of JSON. Wherever one stands, by itself or between quotes, all of it is read.
What is kept of a bare one has another exponent mark and sign, but is the same decimal number.
-/

namespace Tabular.Json

/-- A number does not end in front of these characters. -/
def continuesNumber (x : Char) : Bool :=
  x.isDigit || x == '.' || Decimal.isExponentMark x

/-- Whether a number is written with a small letter or a capital, and with a plus sign or without,
it is read alike. -/
theorem KeptAs.ofChars?_eq {raw kept : List Char} (h : KeptAs raw kept) :
    Decimal.ofChars? raw = Decimal.ofChars? kept := by
  refine h.map_eq (fun _ hBase _ hMark => Decimal.ofChars?_append_mark hBase hMark)
    fun base x rest hDigit => ?_
  have hSign : Decimal.takeSign ('+' :: x :: rest) = (false, x :: rest) := rfl
  simp only [Decimal.exponent?, Decimal.takeSign_of_isDigit hDigit, hSign]

namespace Cursor

/-- Where `raw` stands and the character behind it does not satisfy `continues`, the reader takes
`raw`, no more and no less, and gives `a`. -/
def Reads {α : Type} (read : Cursor → Except Fault (α × Cursor)) (continues : Char → Bool)
    (raw : List Char) (a : α) : Prop :=
  ∀ c after, c.rest = raw ++ after → (∀ x ∈ after.head?, continues x = false) →
    ∃ place, read c = .ok (a, place) ∧ place.rest = after

theorem takeWhile_of_rest {p : Char → Bool} {c : Cursor} {taken after : List Char}
    (hRest : c.rest = taken ++ after) (hTaken : ∀ x ∈ taken, p x = true)
    (hAfter : ∀ x ∈ after.head?, p x = false) :
    (c.takeWhile p).1 = taken ∧ (c.takeWhile p).2.rest = after := by
  have hFirst : (c.takeWhile p).1 = taken := by
    rw [takeWhile, hRest, Text.takeWhile_append_of_head hTaken hAfter]
  refine ⟨hFirst, ?_⟩
  have hParts := rest_eq_takeWhile p c
  rw [hFirst, hRest] at hParts
  exact (List.append_cancel_left hParts).symm

/-- The blanks of JSON are blank in any text. -/
theorem isBlank_eq_false {x : Char} (h : Text.isBlank x = false) : isBlank x = false := by
  by_contra hBlank
  simp only [isBlank, Bool.not_eq_false, Bool.or_eq_true, beq_iff_eq] at hBlank
  rcases hBlank with ((rfl | rfl) | rfl) | rfl <;> exact absurd h (by decide)

theorem rest_skipBlanks {c : Cursor} {blanks cs : List Char} (hRest : c.rest = blanks ++ cs)
    (hBlanks : Blanks blanks) (hFirst : ∀ x ∈ cs.head?, isBlank x = false) :
    c.skipBlanks.rest = cs :=
  (takeWhile_of_rest hRest hBlanks hFirst).2

end Cursor

theorem IsDigits.reads {digits : List Char} (h : IsDigits digits) (reach : Nat) :
    Cursor.Reads (Cursor.someDigits reach) Char.isDigit digits digits := by
  intro c after hRest hAfter
  obtain ⟨hTaken, hPlace⟩ := Cursor.takeWhile_of_rest hRest h.isDigit hAfter
  obtain ⟨x, rest, rfl⟩ := List.exists_cons_of_ne_nil h.ne_nil
  refine ⟨c.digits.2, ?_, hPlace⟩
  have hDigits : c.digits = (x :: rest, c.digits.2) := Prod.ext hTaken rfl
  rw [Cursor.someDigits, hRest]
  simp only [List.cons_append, h.isDigit x List.mem_cons_self, if_true]
  rw [← hDigits]

theorem IsDigits.reads_whole {whole : List Char} (h : IsDigits whole)
    (hZero : whole.head? = some '0' → whole.length = 1) (reach : Nat) :
    Cursor.Reads (Cursor.wholeNumber reach) Char.isDigit whole whole := by
  intro c after hRest hAfter
  obtain ⟨place, hRead, hPlace⟩ := h.reads reach c after hRest hAfter
  refine ⟨place, ?_, hPlace⟩
  rw [Cursor.wholeNumber, hRead, ok_bind]
  exact if_neg fun hBad => hBad.2 (hZero hBad.1)

theorem IsFraction.reads {fraction : List Char} (h : IsFraction fraction) :
    Cursor.Reads Cursor.fraction (fun x => x.isDigit || x == '.') fraction fraction := by
  intro c after hRest hAfter
  rw [Cursor.fraction]
  cases h with
  | absent =>
      rw [List.nil_append] at hRest
      split
      · next rest hPoint =>
        have hNot := hAfter '.' (by rw [← hRest, hPoint]; rfl)
        simp at hNot
      · exact ⟨c, rfl, hRest⟩
  | @point digits hDigits =>
      have hNext : c.next.rest = digits ++ after := Cursor.rest_next_of_cons hRest
      obtain ⟨place, hRead, hPlace⟩ := hDigits.reads 1 c.next after hNext
        fun x hMem => (Bool.or_eq_false_iff.mp (hAfter x hMem)).1
      refine ⟨place, ?_, hPlace⟩
      rw [hRest]
      simp only [List.cons_append, hRead, ok_bind]

namespace Cursor

section

variable {c : Cursor} {mark : Char} (hMark : Decimal.isExponentMark mark = true) (reach : Nat)

include hMark

theorem exponent_of_digit {x : Char} {rest : List Char} (hRest : c.rest = mark :: x :: rest)
    (hDigit : x.isDigit = true) :
    c.exponent reach =
      c.next.someDigits reach >>= fun read => .ok ('e' :: '+' :: read.1, read.2) := by
  have hNext : c.next.rest = x :: rest := rest_next_of_cons hRest
  rw [exponent, if_pos ((peek?_eq_mark_iff hRest).mpr hMark)]
  dsimp only
  rw [hNext]
  split
  · next hPlus =>
    obtain ⟨rfl, -⟩ := List.cons.inj hPlus
    simp at hDigit
  · next hMinus =>
    obtain ⟨rfl, -⟩ := List.cons.inj hMinus
    simp at hDigit
  · rfl

theorem exponent_of_sign {sign : Char} {rest : List Char} (hRest : c.rest = mark :: sign :: rest)
    (hSign : sign = '+' ∨ sign = '-') :
    c.exponent reach =
      c.next.next.someDigits reach >>= fun read => .ok ('e' :: sign :: read.1, read.2) := by
  have hNext : c.next.rest = sign :: rest := rest_next_of_cons hRest
  rw [exponent, if_pos ((peek?_eq_mark_iff hRest).mpr hMark)]
  dsimp only
  rw [hNext]
  rcases hSign with rfl | rfl <;> rfl

end

end Cursor

/-- An exponent is taken whole, and kept with a small letter and a sign. -/
theorem IsExponent.exists_reads {written : List Char} (h : IsExponent written) :
    ∃ kept, ExponentKeptAs written kept ∧
      ∀ reach, Cursor.Reads (Cursor.exponent reach) continuesNumber written kept := by
  have hEnd {after : List Char} (hAfter : ∀ x ∈ after.head?, continuesNumber x = false) :
      ∀ x ∈ after.head?, x.isDigit = false := by
    intro x hMem
    have hContinues := hAfter x hMem
    simp only [continuesNumber, Bool.or_eq_false_iff] at hContinues
    exact hContinues.1.1
  cases h with
  | absent =>
      refine ⟨[], .absent, fun reach c after hRest hAfter => ⟨c, if_neg ?_, hRest⟩⟩
      rw [List.nil_append] at hRest
      cases after with
      | nil => simp [Cursor.peek?, hRest]
      | cons x rest =>
          have hContinues := hAfter x rfl
          rw [continuesNumber, Bool.or_eq_false_iff] at hContinues
          rw [Cursor.peek?_eq_mark_iff hRest, hContinues.2]
          exact Bool.false_ne_true
  | @unsigned mark digits hMark hDigits =>
      refine ⟨_, .unsigned hMark hDigits.ne_nil hDigits.isDigit, ?_⟩
      intro reach c after hRest hAfter
      have hNext : c.next.rest = digits ++ after := Cursor.rest_next_of_cons hRest
      obtain ⟨place, hRead, hPlace⟩ := hDigits.reads reach c.next after hNext (hEnd hAfter)
      refine ⟨place, ?_, hPlace⟩
      obtain ⟨x, rest, rfl⟩ := List.exists_cons_of_ne_nil hDigits.ne_nil
      rw [Cursor.exponent_of_digit hMark reach hRest (hDigits.isDigit x List.mem_cons_self), hRead,
        ok_bind]
  | @signed mark sign digits hMark hSign hDigits =>
      refine ⟨_, .signed hMark hSign hDigits.isDigit, ?_⟩
      intro reach c after hRest hAfter
      have hNext : c.next.next.rest = digits ++ after :=
        Cursor.rest_next_of_cons (Cursor.rest_next_of_cons hRest)
      obtain ⟨place, hRead, hPlace⟩ := hDigits.reads reach c.next.next after hNext (hEnd hAfter)
      refine ⟨place, ?_, hPlace⟩
      rw [Cursor.exponent_of_sign hMark reach hRest hSign, hRead, ok_bind]

theorem not_continues_of_isExponentMark {mark : Char} (h : Decimal.isExponentMark mark = true) :
    (mark.isDigit || mark == '.') = false := by
  simp only [Decimal.isExponentMark, Bool.or_eq_true, beq_iff_eq] at h
  rcases h with rfl | rfl <;> decide

theorem IsUnsigned.exists_cons {raw : List Char} (h : IsUnsigned raw) :
    ∃ x rest, raw = x :: rest ∧ x.isDigit = true := by
  obtain ⟨hWhole, -, -, -⟩ := h
  obtain ⟨x, rest, rfl⟩ := List.exists_cons_of_ne_nil hWhole.ne_nil
  exact ⟨x, _, rfl, hWhole.isDigit x List.mem_cons_self⟩

/-- The parts of a number are read one after the other. None of them goes on where the next one
begins. -/
theorem IsUnsigned.exists_reads {raw : List Char} (h : IsUnsigned raw) :
    ∃ kept, KeptAs raw kept ∧
      ∀ reach, Cursor.Reads (Cursor.unsignedNumber reach) continuesNumber raw kept := by
  obtain ⟨hWhole, hZero, hFraction, hExponent⟩ := h
  next whole fraction written =>
  obtain ⟨kept, hKept, hReads⟩ := hExponent.exists_reads
  refine ⟨_, hKept.after_parts hWhole hFraction, fun reach c after hRest hAfter => ?_⟩
  have hEnd : ∀ x ∈ (written ++ after).head?, (x.isDigit || x == '.') = false := by
    cases hExponent with
    | absent =>
        intro x hMem
        exact (Bool.or_eq_false_iff.mp (hAfter x hMem)).1
    | unsigned hMark _ | signed hMark _ _ =>
        rintro x ⟨⟩
        exact not_continues_of_isExponentMark hMark
  have hPoint : ∀ x ∈ (fraction ++ (written ++ after)).head?, x.isDigit = false := by
    cases hFraction with
    | absent =>
        intro x hMem
        exact (Bool.or_eq_false_iff.mp (hEnd x hMem)).1
    | point _ =>
        rintro x ⟨⟩
        decide
  obtain ⟨c₁, hFirst, hRest₁⟩ := hWhole.reads_whole hZero reach c _ (by simpa using hRest) hPoint
  obtain ⟨c₂, hSecond, hRest₂⟩ := hFraction.reads c₁ _ hRest₁ hEnd
  obtain ⟨c₃, hThird, hRest₃⟩ := hReads reach c₂ after hRest₂ hAfter
  refine ⟨c₃, ?_, hRest₃⟩
  rw [Cursor.unsignedNumber, hFirst, ok_bind]
  dsimp only
  rw [hSecond, ok_bind]
  dsimp only
  rw [hThird, ok_bind, List.append_assoc]

/-- A literal is taken whole, and kept as the same number. -/
theorem IsLiteral.exists_reads {raw : List Char} (h : IsLiteral raw) :
    ∃ kept, KeptAs raw kept ∧ Cursor.Reads Cursor.number continuesNumber raw kept := by
  cases h with
  | unsigned hUnsigned =>
      obtain ⟨kept, hKept, hReads⟩ := hUnsigned.exists_reads
      refine ⟨kept, hKept, fun c after hRest hAfter => ?_⟩
      obtain ⟨place, hRead, hPlace⟩ := hReads 1 c after hRest hAfter
      refine ⟨place, ?_, hPlace⟩
      rw [Cursor.number, Cursor.numberReaching]
      split
      · next hMinus =>
        obtain ⟨x, rest, rfl, hDigit⟩ := hUnsigned.exists_cons
        rw [hRest] at hMinus
        obtain ⟨rfl, -⟩ := List.cons.inj hMinus
        simp at hDigit
      · exact hRead
  | @minus raw hUnsigned =>
      obtain ⟨kept, hKept, hReads⟩ := hUnsigned.exists_reads
      refine ⟨'-' :: kept, hKept.minus, fun c after hRest hAfter => ?_⟩
      have hNext : c.next.rest = raw ++ after := Cursor.rest_next_of_cons hRest
      obtain ⟨place, hRead, hPlace⟩ := hReads 1 c.next after hNext hAfter
      refine ⟨place, ?_, hPlace⟩
      rw [Cursor.number, Cursor.numberReaching, hRest]
      simp only [List.cons_append, hRead, ok_bind]

theorem IsLiteral.exists_cons {raw : List Char} (h : IsLiteral raw) :
    ∃ x rest, raw = x :: rest ∧ (x = '-' ∨ x.isDigit = true) := by
  cases h with
  | unsigned hUnsigned =>
      obtain ⟨x, rest, rfl, hDigit⟩ := hUnsigned.exists_cons
      exact ⟨x, rest, rfl, Or.inr hDigit⟩
  | minus hUnsigned => exact ⟨'-', _, rfl, Or.inl rfl⟩

/-- The characters of a number stand for themselves between quotes. -/
theorem unescaped_of_isNumeralChar {x : Char} (h : isNumeralChar x = true) :
    x ≠ '"' ∧ x ≠ '\\' ∧ 0x20 ≤ x.toNat := by
  rcases isNumeralChar_iff.mp h with hDigit | rfl | rfl | rfl | rfl | rfl
  · have hRange := Text.toNat_of_isDigit hDigit
    refine ⟨?_, ?_, by omega⟩
    · rintro rfl
      simp at hDigit
    · rintro rfl
      simp at hDigit
  all_goals decide

namespace Cursor

theorem reads_stringWithin {raw : List Char} (h : ∀ x ∈ raw, isNumeralChar x = true) {fuel : Nat}
    (hFuel : raw.length < fuel) :
    Reads (stringWithin fuel) (fun _ => false) (raw ++ ['"']) raw := by
  induction raw generalizing fuel with
  | nil =>
      intro c after hRest _
      obtain ⟨fuel, rfl⟩ := Nat.exists_eq_succ_of_ne_zero (Nat.ne_zero_of_lt hFuel)
      refine ⟨c.next, ?_, rest_next_of_cons hRest⟩
      rw [stringWithin, hRest]
      rfl
  | cons x raw ih =>
      intro c after hRest hAfter
      obtain ⟨fuel, rfl⟩ := Nat.exists_eq_succ_of_ne_zero (Nat.ne_zero_of_lt hFuel)
      obtain ⟨hFirst, hOthers⟩ := List.forall_mem_cons.mp h
      obtain ⟨hQuote, hBackslash, hControl⟩ := unescaped_of_isNumeralChar hFirst
      have hNext : c.next.rest = raw ++ ['"'] ++ after := rest_next_of_cons hRest
      obtain ⟨place, hRead, hPlace⟩ :=
        ih hOthers (Nat.lt_of_succ_lt_succ hFuel) c.next after hNext hAfter
      refine ⟨place, ?_, hPlace⟩
      rw [stringWithin, hRest]
      split
      · next hEmpty => cases hEmpty
      · next hEq => exact absurd (List.cons.inj hEq).1 hQuote
      · next hEq => exact absurd (List.cons.inj hEq).1 hBackslash
      · next y rest _ _ hEq =>
        obtain ⟨rfl, -⟩ := List.cons.inj hEq
        rw [if_neg (Nat.not_lt.mpr hControl), hRead, ok_bind]

/-- Between quotes, the characters of a number are the text that is read. -/
theorem reads_string {raw : List Char} (h : ∀ x ∈ raw, isNumeralChar x = true)
    {blanks : List Char} (hBlanks : Blanks blanks) (depth : Nat) :
    Reads (value depth) (fun _ => false) (blanks ++ '"' :: (raw ++ ['"']))
      (.string (String.ofList raw)) := by
  intro c after hRest hAfter
  rw [List.append_assoc] at hRest
  have hStart := rest_skipBlanks hRest hBlanks (by rintro x ⟨⟩; decide)
  have hNext : c.skipBlanks.next.rest = raw ++ ['"'] ++ after := rest_next_of_cons hStart
  have hFuel : raw.length < c.skipBlanks.next.rest.length + 1 := by
    rw [hNext, List.length_append, List.length_append]
    omega
  obtain ⟨place, hRead, hPlace⟩ := reads_stringWithin h hFuel _ after hNext hAfter
  refine ⟨place, ?_, hPlace⟩
  have hRest : c.skipBlanks.next.stringRest = .ok (String.ofList raw, place) := by
    rw [stringRest, hRead, ok_bind]
  unfold value
  simp only [hStart, List.cons_append]
  simp [hRest, ok_bind]

end Cursor

/-- Wherever a value may stand, a literal is read as the number that it is kept as. -/
theorem IsLiteral.exists_reads_value {raw : List Char} (h : IsLiteral raw) :
    ∃ kept : String, KeptAs raw kept.toList ∧ ∀ blanks, Blanks blanks → ∀ depth,
      Cursor.Reads (Cursor.value depth) continuesNumber (blanks ++ raw) (.number kept) := by
  obtain ⟨kept, hKept, hReads⟩ := h.exists_reads
  refine ⟨String.ofList kept, by rwa [String.toList_ofList], ?_⟩
  intro blanks hBlanks depth c after hRest hAfter
  rw [List.append_assoc] at hRest
  obtain ⟨x, rest, rfl, hFirst⟩ := h.exists_cons
  have hNumeral : isNumeralChar x = true := hKept.isNumeralChar_of_mem (Or.inl List.mem_cons_self)
  have hStart := Cursor.rest_skipBlanks hRest hBlanks
    (by rintro y ⟨⟩; exact Cursor.isBlank_eq_false (isBlank_of_isNumeralChar hNumeral))
  obtain ⟨place, hRead, hPlace⟩ := hReads c.skipBlanks after hStart hAfter
  refine ⟨place, ?_, hPlace⟩
  have hWords : x ≠ 'n' ∧ x ≠ 't' ∧ x ≠ 'f' := by
    rcases hFirst with rfl | hDigit
    · decide
    · refine ⟨?_, ?_, ?_⟩ <;> (rintro rfl; simp at hDigit)
  unfold Cursor.value
  simp only [hStart, List.cons_append]
  rw [if_neg hWords.1, if_neg hWords.2.1, if_neg hWords.2.2, if_pos hFirst, hRead, ok_bind]

end Tabular.Json

import Tabular.Json.Kind
import Tabular.Proofs.Json.Grammar
import Tabular.Proofs.Outcome

/-!
What the readers of numbers, strings and single characters take from a text. Where they succeed,
what they took stands for what they give.
-/

namespace Tabular.Json

namespace Cursor

@[simp] theorem rest_next (c : Cursor) : c.next.rest = c.rest.tail := by
  unfold next
  split
  · next h => rw [h]; rfl
  · next h => rw [h]; rfl
  · next h => rw [h]; rfl

theorem rest_next_of_cons {c : Cursor} {x : Char} {rest : List Char} (h : c.rest = x :: rest) :
    c.next.rest = rest := by
  rw [rest_next, h, List.tail_cons]

theorem rest_foldl_next (xs : List Char) (c : Cursor) :
    (xs.foldl (fun place _ => place.next) c).rest = c.rest.drop xs.length := by
  induction xs generalizing c with
  | nil => rfl
  | cons x xs ih => rw [List.foldl_cons, ih, rest_next, List.length_cons, List.drop_tail]

/-- The characters that are taken are those that stand at the place. -/
theorem rest_eq_takeWhile (p : Char → Bool) (c : Cursor) :
    c.rest = (c.takeWhile p).1 ++ (c.takeWhile p).2.rest := by
  rw [takeWhile, rest_foldl_next]
  exact (List.prefix_iff_eq_append.mp (List.takeWhile_prefix p)).symm

theorem someDigits_spec {reach : Nat} {c after : Cursor} {digits : List Char}
    (h : c.someDigits reach = .ok (digits, after)) :
    c.rest = digits ++ after.rest ∧ IsDigits digits := by
  rw [someDigits] at h
  split at h
  · cases h
  · next x rest hRest =>
    split at h
    · next hDigit =>
      have hPair : c.takeWhile Char.isDigit = (digits, after) := Except.ok.inj h
      have hTaken := rest_eq_takeWhile Char.isDigit c
      rw [hPair] at hTaken
      have hDigits : digits = c.rest.takeWhile Char.isDigit := (congrArg Prod.fst hPair).symm
      refine ⟨hTaken, ?_, ?_⟩
      · rw [hDigits, hRest, List.takeWhile_cons_of_pos hDigit]
        exact List.cons_ne_nil _ _
      · intro y hMem
        rw [hDigits] at hMem
        exact List.mem_takeWhile_imp hMem
    · cases h

theorem wholeNumber_spec {reach : Nat} {c after : Cursor} {digits : List Char}
    (h : c.wholeNumber reach = .ok (digits, after)) :
    c.rest = digits ++ after.rest ∧ IsDigits digits ∧
      (digits.head? = some '0' → digits.length = 1) := by
  obtain ⟨⟨taken, place⟩, hDigits, hChecked⟩ := bind_eq_ok_iff.mp h
  dsimp only at hChecked
  split at hChecked
  · cases hChecked
  · next hZero =>
    obtain ⟨rfl, rfl⟩ := Prod.mk.inj (Except.ok.inj hChecked)
    obtain ⟨hTaken, hAll⟩ := someDigits_spec hDigits
    exact ⟨hTaken, hAll, fun hHead => by_contra fun hLong => hZero ⟨hHead, hLong⟩⟩

theorem fraction_spec {c after : Cursor} {cs : List Char} (h : c.fraction = .ok (cs, after)) :
    c.rest = cs ++ after.rest ∧ IsFraction cs := by
  rw [fraction] at h
  split at h
  · next rest hRest =>
    obtain ⟨⟨digits, place⟩, hDigits, hPair⟩ := bind_eq_ok_iff.mp h
    obtain ⟨rfl, rfl⟩ := Prod.mk.inj (Except.ok.inj hPair)
    obtain ⟨hTaken, hAll⟩ := someDigits_spec hDigits
    rw [rest_next_of_cons hRest] at hTaken
    exact ⟨by rw [hRest, hTaken]; rfl, .point hAll⟩
  · obtain ⟨rfl, rfl⟩ := Prod.mk.inj (Except.ok.inj h)
    exact ⟨rfl, .absent⟩

theorem peek?_eq_mark_iff {c : Cursor} {x : Char} {rest : List Char} (h : c.rest = x :: rest) :
    (c.peek? = some 'e' ∨ c.peek? = some 'E') ↔ Decimal.isExponentMark x = true := by
  simp [peek?, h, Decimal.isExponentMark]

theorem exponent_spec {reach : Nat} {c after : Cursor} {kept : List Char}
    (h : c.exponent reach = .ok (kept, after)) :
    ∃ raw, c.rest = raw ++ after.rest ∧ IsExponent raw ∧ ExponentKeptAs raw kept := by
  rw [exponent] at h
  split at h
  · next hPeek =>
    obtain ⟨mark, rest, hRest, hMark⟩ :
        ∃ mark rest, c.rest = mark :: rest ∧ Decimal.isExponentMark mark = true := by
      cases hRest : c.rest with
      | nil => simp [peek?, hRest] at hPeek
      | cons mark rest => exact ⟨mark, rest, rfl, (peek?_eq_mark_iff hRest).mp hPeek⟩
    have hStart : c.next.rest = rest := rest_next_of_cons hRest
    have hRead {sign : Char} {start : Cursor}
        (hDo : (start.someDigits reach >>= fun read => .ok ('e' :: sign :: read.1, read.2)) =
          .ok (kept, after)) :
        ∃ digits, kept = 'e' :: sign :: digits ∧ start.rest = digits ++ after.rest ∧
          IsDigits digits := by
      obtain ⟨⟨digits, place⟩, hDigits, hPair⟩ := bind_eq_ok_iff.mp hDo
      obtain ⟨rfl, rfl⟩ := Prod.mk.inj (Except.ok.inj hPair)
      exact ⟨digits, rfl, someDigits_spec hDigits⟩
    dsimp only at h
    rw [hStart] at h
    split at h
    · obtain ⟨digits, rfl, hTaken, hAll⟩ := hRead h
      rw [rest_next_of_cons hStart] at hTaken
      exact ⟨mark :: '+' :: digits, by rw [hRest, hTaken]; rfl,
        .signed hMark (Or.inl rfl) hAll, .signed hMark (Or.inl rfl) hAll.isDigit⟩
    · obtain ⟨digits, rfl, hTaken, hAll⟩ := hRead h
      rw [rest_next_of_cons hStart] at hTaken
      exact ⟨mark :: '-' :: digits, by rw [hRest, hTaken]; rfl,
        .signed hMark (Or.inr rfl) hAll, .signed hMark (Or.inr rfl) hAll.isDigit⟩
    · obtain ⟨digits, rfl, hTaken, hAll⟩ := hRead h
      rw [hStart] at hTaken
      exact ⟨mark :: digits, by rw [hRest, hTaken]; rfl,
        .unsigned hMark hAll, .unsigned hMark hAll.ne_nil hAll.isDigit⟩
  · obtain ⟨rfl, rfl⟩ := Prod.mk.inj (Except.ok.inj h)
    exact ⟨[], rfl, .absent, .absent⟩

theorem unsignedNumber_spec {reach : Nat} {c after : Cursor} {kept : List Char}
    (h : c.unsignedNumber reach = .ok (kept, after)) :
    ∃ raw, c.rest = raw ++ after.rest ∧ IsUnsigned raw ∧ KeptAs raw kept := by
  obtain ⟨⟨whole, c₁⟩, hFirst, h⟩ := bind_eq_ok_iff.mp h
  obtain ⟨⟨fraction, c₂⟩, hSecond, h⟩ := bind_eq_ok_iff.mp h
  obtain ⟨⟨exponent, c₃⟩, hThird, hPair⟩ := bind_eq_ok_iff.mp h
  obtain ⟨rfl, rfl⟩ := Prod.mk.inj (Except.ok.inj hPair)
  obtain ⟨hTaken₁, hWhole, hZero⟩ := wholeNumber_spec hFirst
  obtain ⟨hTaken₂, hFraction⟩ := fraction_spec hSecond
  obtain ⟨written, hTaken₃, hExponent, hKept⟩ := exponent_spec hThird
  refine ⟨whole ++ (fraction ++ written), ?_, .mk hWhole hZero hFraction hExponent,
    hKept.after_parts hWhole hFraction⟩
  rw [hTaken₁, hTaken₂, hTaken₃, List.append_assoc, List.append_assoc]

/-- What is read as a number is a literal. It is kept as it is written, up to its exponent. -/
theorem numberReaching_spec {reach : Nat} {c after : Cursor} {kept : List Char}
    (h : c.numberReaching reach = .ok (kept, after)) :
    ∃ raw, c.rest = raw ++ after.rest ∧ IsLiteral raw ∧ KeptAs raw kept := by
  rw [numberReaching] at h
  split at h
  · next rest hRest =>
    obtain ⟨⟨digits, place⟩, hDigits, hPair⟩ := bind_eq_ok_iff.mp h
    obtain ⟨rfl, rfl⟩ := Prod.mk.inj (Except.ok.inj hPair)
    obtain ⟨raw, hTaken, hUnsigned, hKept⟩ := unsignedNumber_spec hDigits
    rw [rest_next_of_cons hRest] at hTaken
    refine ⟨'-' :: raw, ?_, .minus hUnsigned, hKept.minus⟩
    rw [hRest, hTaken]
    rfl
  · obtain ⟨raw, hTaken, hUnsigned, hKept⟩ := unsignedNumber_spec h
    exact ⟨raw, hTaken, .unsigned hUnsigned, hKept⟩

/-- Past the blanks stands what is read next. -/
theorem exists_blanks (c : Cursor) :
    ∃ blanks, Blanks blanks ∧ c.rest = blanks ++ c.skipBlanks.rest :=
  ⟨(c.takeWhile isBlank).1, fun _ hMem => List.mem_takeWhile_imp hMem, rest_eq_takeWhile isBlank c⟩

theorem utf8Size_of_hexDigit? {x : Char} {value : Nat} (h : hexDigit? x = some value) :
    x.utf8Size = 1 := by
  have hAscii : x.val ≤ 0x7F := by
    rw [UInt32.le_iff_toNat_le]
    show x.toNat ≤ 127
    simp only [hexDigit?, Char.isDigit, ge_iff_le, Bool.and_eq_true, decide_eq_true_eq,
      Char.le_def, UInt32.le_iff_toNat_le] at h
    split at h
    · next hDigit => exact Nat.le_trans hDigit.2 (by decide)
    · split at h
      · next hSmall => exact Nat.le_trans hSmall.2 (by decide)
      · split at h
        · next hCapital => exact Nat.le_trans hCapital.2 (by decide)
        · cases h
  exact if_pos hAscii

theorem foldl_utf8Size_of_hexDigits {digits : List Char} {values : List Nat}
    (h : digits.mapM hexDigit? = some values) (bytes : Nat) :
    digits.foldl (fun bytes x => bytes + x.utf8Size) bytes = bytes + digits.length := by
  induction digits generalizing values bytes with
  | nil => rfl
  | cons x digits ih =>
      simp only [List.mapM_cons, Option.bind_eq_bind, Option.bind_eq_some_iff] at h
      obtain ⟨value, hValue, rest, hRest, -⟩ := h
      rw [List.foldl_cons, utf8Size_of_hexDigit? hValue, ih hRest, List.length_cons]
      omega

theorem hexUnit_spec {c after : Cursor} {unit : Nat} (h : c.hexUnit = .ok (unit, after)) :
    ∃ digits, c.rest = digits ++ after.rest ∧ HexText digits unit := by
  rw [hexUnit] at h
  split at h
  · cases h
  · next hBytes =>
    split at h
    · next values hValues =>
      obtain ⟨rfl, rfl⟩ := Prod.mk.inj (Except.ok.inj h)
      have hLength := foldl_utf8Size_of_hexDigits hValues 0
      refine ⟨c.rest.take 4, ?_, ?_, by rw [hValues]; rfl⟩
      · simp only [rest_next, ← List.drop_one, List.drop_drop, List.take_append_drop]
      · have hAtMost := List.length_take_le 4 c.rest
        omega
    · cases h

theorem expectEscape_spec {c after : Cursor} {expected : Char}
    (h : c.expectEscape expected = .ok after) : c.rest = expected :: after.rest := by
  rw [expectEscape] at h
  split at h
  · cases h
  · next x rest hRest =>
    split at h
    · next hExpected =>
      obtain rfl := Except.ok.inj h
      rw [rest_next, hRest, hExpected, List.tail_cons]
    · cases h

theorem unicodeEscape_spec {c after : Cursor} {x : Char} (h : c.unicodeEscape = .ok (x, after)) :
    ∃ raw, c.rest = raw ++ after.rest ∧ EscapeText ('u' :: raw) x := by
  obtain ⟨⟨lead, c₁⟩, hLead, h⟩ := bind_eq_ok_iff.mp h
  obtain ⟨digits, hTaken, hDigits⟩ := hexUnit_spec hLead
  dsimp only at h
  split at h
  · cases h
  · next hNoTrail =>
    split at h
    · next hRange =>
      obtain ⟨c₂, hBackslash, h⟩ := bind_eq_ok_iff.mp h
      obtain ⟨c₃, hLetter, h⟩ := bind_eq_ok_iff.mp h
      obtain ⟨⟨trail, c₄⟩, hTrail, h⟩ := bind_eq_ok_iff.mp h
      obtain ⟨trailDigits, hTrailTaken, hTrailDigits⟩ := hexUnit_spec hTrail
      dsimp only at h
      split at h
      · next hTrailRange =>
        obtain ⟨rfl, rfl⟩ := Prod.mk.inj (Except.ok.inj h)
        refine ⟨digits ++ '\\' :: 'u' :: trailDigits, ?_,
          .surrogates hDigits hRange hTrailDigits hTrailRange⟩
        rw [hTaken, expectEscape_spec hBackslash, expectEscape_spec hLetter, hTrailTaken]
        simp
      · cases h
    · next hNoLead =>
      obtain ⟨rfl, rfl⟩ := Prod.mk.inj (Except.ok.inj h)
      exact ⟨digits, hTaken, .unit hDigits (by omega)⟩

theorem escape_spec {c after : Cursor} {x : Char} (h : c.escape = .ok (x, after)) :
    ∃ raw, c.rest = raw ++ after.rest ∧ EscapeText raw x := by
  rw [escape] at h
  split at h
  · cases h
  · next letter rest hRest =>
    have hNext : c.rest = letter :: c.next.rest := by rw [rest_next_of_cons hRest, hRest]
    split at h
    · next hUnicode =>
      obtain ⟨raw, hTaken, hEscape⟩ := unicodeEscape_spec h
      exact ⟨'u' :: raw, by rw [hNext, hUnicode, hTaken]; rfl, hEscape⟩
    · split at h
      · next y hLetter =>
        obtain ⟨rfl, rfl⟩ := Prod.mk.inj (Except.ok.inj h)
        exact ⟨[letter], hNext, .letter hLetter⟩
      · cases h

/-- A string ends with the first quote that is not escaped. -/
theorem stringWithin_spec {fuel : Nat} {c after : Cursor} {xs : List Char}
    (h : stringWithin fuel c = .ok (xs, after)) :
    ∃ raw, c.rest = raw ++ '"' :: after.rest ∧ StringText raw xs := by
  induction fuel generalizing c xs with
  | zero => cases h
  | succ fuel ih =>
      rw [stringWithin] at h
      split at h
      · cases h
      · next rest hRest =>
        obtain ⟨rfl, rfl⟩ := Prod.mk.inj (Except.ok.inj h)
        exact ⟨[], by rw [rest_next_of_cons hRest, hRest]; rfl, .nil⟩
      · next rest hRest =>
        obtain ⟨⟨x, c₁⟩, hEscape, h⟩ := bind_eq_ok_iff.mp h
        obtain ⟨⟨ys, c₂⟩, hMore, hPair⟩ := bind_eq_ok_iff.mp h
        obtain ⟨rfl, rfl⟩ := Prod.mk.inj (Except.ok.inj hPair)
        obtain ⟨escaped, hTaken, hEscaped⟩ := escape_spec hEscape
        obtain ⟨raw, hRaw, hText⟩ := ih hMore
        rw [rest_next_of_cons hRest] at hTaken
        refine ⟨'\\' :: (escaped ++ raw), ?_, .escape hEscaped hText⟩
        rw [hRest, hTaken, hRaw]
        simp
      · next x rest hQuote hBackslash hRest =>
        split at h
        · cases h
        · next hControl =>
          obtain ⟨⟨ys, c₁⟩, hMore, hPair⟩ := bind_eq_ok_iff.mp h
          obtain ⟨rfl, rfl⟩ := Prod.mk.inj (Except.ok.inj hPair)
          obtain ⟨raw, hRaw, hText⟩ := ih hMore
          rw [rest_next_of_cons hRest] at hRaw
          exact ⟨x :: raw, by rw [hRest, hRaw]; rfl,
            .char hQuote hBackslash (Nat.le_of_not_lt hControl) hText⟩

theorem stringRest_spec {c after : Cursor} {text : String} (h : c.stringRest = .ok (text, after)) :
    ∃ raw, c.rest = raw ++ '"' :: after.rest ∧ StringText raw text.toList := by
  obtain ⟨⟨xs, place⟩, hText, hPair⟩ := bind_eq_ok_iff.mp h
  obtain ⟨rfl, rfl⟩ := Prod.mk.inj (Except.ok.inj hPair)
  rw [String.toList_ofList]
  exact stringWithin_spec hText

theorem word_spec {letters : List Char} {c after : Cursor} (h : c.word letters = .ok after) :
    c.rest = letters ++ after.rest := by
  induction letters generalizing c with
  | nil =>
      obtain rfl := Except.ok.inj h
      rfl
  | cons letter letters ih =>
      rw [word] at h
      split at h
      · cases h
      · next x rest hRest =>
        split at h
        · next hLetter =>
          have hTaken := ih h
          rw [rest_next_of_cons hRest] at hTaken
          rw [hRest, hTaken, hLetter]
          rfl
        · cases h
end Cursor

end Tabular.Json

import Tabular.Proofs.Decimal.Reading
import Tabular.Proofs.Position.Reader
import Tabular.Proofs.Text.Pieces

/-!
The grammar of positions. A text is read as a position exactly if it can be taken apart into the
words of its units and, in braces behind them, those of its cost, with blanks around all of them. It
can be taken apart in one way only, and what is read follows from the words. All other texts are
refused, for the first of their faults.
-/

namespace Tabular

/-- An error of reading a text: it is a parse error, and concerns no cell. -/
structure Error.IsOfText (e : Error) : Prop where
  kind : e.kind = .parse
  position : e.position = none

theorem Error.isOfText_of_failure {α : Type} {cause : Cause} {e : Error}
    (hKind : cause.kind = .parse) (h : (failure cause : Except Error α) = .error e) :
    e.IsOfText := by
  obtain rfl := Except.error.inj h
  exact ⟨hKind, rfl⟩

theorem Decimal.isOfText_of_parse {text : String} {e : Error} (h : parse text = .error e) :
    e.IsOfText := by
  rw [parse] at h
  split at h
  · cases h
  · exact Error.isOfText_of_failure rfl h

theorem Amount.isOfText_of_ofChars {cs : List Char} {e : Error} (h : ofChars cs = .error e) :
    e.IsOfText := by
  rw [ofChars] at h
  split at h
  · exact Decimal.isOfText_of_parse (bind_ok_eq_error_iff.mp h)
  · exact Error.isOfText_of_failure rfl h

/-- The words of an amount: its number and its currency. -/
structure AmountWords where
  number : String
  currency : String

namespace AmountWords

/-- The amount that the words make. -/
def read (words : AmountWords) : Except Error Amount := do
  .ok ⟨← Decimal.parse words.number, words.currency⟩

/-- Both are words. -/
structure AreWords (words : AmountWords) : Prop where
  number : Text.IsWord words.number.toList
  currency : Text.IsWord words.currency.toList

/-- An amount is read from its words, whatever blanks stand around them. -/
theorem ofChars_eq_read {words : AmountWords} {cs : List Char}
    (h : Text.words cs = [words.number.toList, words.currency.toList]) :
    Amount.ofChars cs = words.read := by
  rw [Amount.ofChars, h]
  simp only [String.ofList_toList]
  rfl

end AmountWords

/-- The words of a position: those of its units and, if it has a cost, those of its cost. -/
structure PositionWords where
  units : AmountWords
  cost : Option AmountWords

/-- The position that the words make. -/
def PositionWords.read (words : PositionWords) : Except Error Position := do
  let units ← words.units.read
  match words.cost with
  | none => .ok ⟨units, none⟩
  | some cost => .ok ⟨units, some (← cost.read)⟩

/-- The words of an amount in a text, and the blanks in front of, between and behind them. -/
structure AmountPieces extends AmountWords where
  before : List Char
  between : List Char
  after : List Char

namespace AmountPieces

/-- The text that the pieces make. -/
def chars (pieces : AmountPieces) : List Char :=
  pieces.before ++ (pieces.number.toList ++ (pieces.between ++
    (pieces.currency.toList ++ pieces.after)))

/-- The words are words, of which the first is a number, and there are blanks between them. -/
structure Legal (pieces : AmountPieces) : Prop where
  words : pieces.toAmountWords.AreWords
  number : ∃ d, Decimal.parse pieces.number = .ok d
  before : Text.AllBlank pieces.before
  between : pieces.between ≠ [] ∧ Text.AllBlank pieces.between
  after : Text.AllBlank pieces.after

theorem Legal.words_chars {pieces : AmountPieces} (h : pieces.Legal) :
    Text.words pieces.chars = [pieces.number.toList, pieces.currency.toList] :=
  Text.words_eq_pair_iff.mpr ⟨h.words.number, h.words.currency, pieces.before, pieces.between,
    pieces.after, h.before, h.between, h.after, rfl⟩

theorem Legal.ofChars_eq_read {pieces : AmountPieces} (h : pieces.Legal) :
    Amount.ofChars pieces.chars = pieces.toAmountWords.read :=
  AmountWords.ofChars_eq_read h.words_chars

theorem Legal.exists_amount {pieces : AmountPieces} (h : pieces.Legal) :
    ∃ amount, Amount.ofChars pieces.chars = .ok amount := by
  obtain ⟨d, hNumber⟩ := h.number
  exact ⟨⟨d, pieces.currency⟩, by rw [h.ofChars_eq_read, AmountWords.read, hNumber]; rfl⟩

/-- What is read as an amount can be taken apart. -/
theorem exists_of_ofChars {cs : List Char} {amount : Amount}
    (h : Amount.ofChars cs = .ok amount) :
    ∃ pieces : AmountPieces, pieces.Legal ∧ pieces.chars = cs ∧
      pieces.currency = amount.currency := by
  obtain ⟨number, hWords, hNumber⟩ := Amount.ofChars_eq_ok_iff.mp h
  obtain ⟨hFirst, hSecond, before, between, after, hBefore, hBetween, hAfter, rfl⟩ :=
    Text.words_eq_pair_iff.mp hWords
  refine ⟨⟨⟨String.ofList number, amount.currency⟩, before, between, after⟩,
    ⟨⟨?_, hSecond⟩, ⟨amount.number, hNumber⟩, hBefore, hBetween, hAfter⟩, ?_, rfl⟩
  · rwa [String.toList_ofList]
  · rw [chars, String.toList_ofList]

/-- An amount can be taken apart in one way only: each word ends at the first blank behind it. -/
theorem Legal.eq_of_chars_eq {pieces other : AmountPieces} (h : pieces.Legal)
    (hOther : other.Legal) (hChars : pieces.chars = other.chars) : pieces = other := by
  have hNotBlank {word : List Char} (hWord : Text.IsWord word) :
      ∀ c ∈ word, (!Text.isBlank c) = true := fun c hMem => by
    rw [hWord.isBlank_eq_false c hMem]
    rfl
  have hBlankHead {blanks : List Char} (hBlanks : Text.AllBlank blanks) :
      ∀ c ∈ blanks.head?, (!Text.isBlank c) = false := fun c hHead => by
    rw [hBlanks.head? c hHead]
    rfl
  have hBetweenHead {between : List Char} (hBetween : between ≠ [] ∧ Text.AllBlank between)
      (rest : List Char) : ∀ c ∈ (between ++ rest).head?, (!Text.isBlank c) = false := by
    rw [List.head?_append_of_ne_nil _ hBetween.1]
    exact hBlankHead hBetween.2
  obtain ⟨⟨number, currency⟩, before, between, after⟩ := pieces
  obtain ⟨⟨number', currency'⟩, before', between', after'⟩ := other
  obtain ⟨rfl, hFromNumber⟩ := Text.append_inj_of_head h.before (h.words.number.head? _)
    hOther.before (hOther.words.number.head? _) hChars
  obtain ⟨hNumber, hFromBetween⟩ := Text.append_inj_of_head (hNotBlank h.words.number)
    (hBetweenHead h.between _) (hNotBlank hOther.words.number) (hBetweenHead hOther.between _)
    hFromNumber
  obtain ⟨rfl, hFromCurrency⟩ := Text.append_inj_of_head h.between.2 (h.words.currency.head? _)
    hOther.between.2 (hOther.words.currency.head? _) hFromBetween
  obtain ⟨hCurrency, rfl⟩ := Text.append_inj_of_head (hNotBlank h.words.currency)
    (hBlankHead h.after) (hNotBlank hOther.words.currency) (hBlankHead hOther.after) hFromCurrency
  obtain rfl := String.toList_inj.mp hNumber
  obtain rfl := String.toList_inj.mp hCurrency
  rfl

/-- No brace stands in an amount but in its currency. -/
theorem Legal.brace_not_mem {pieces : AmountPieces} (h : pieces.Legal)
    (hCurrency : '\x7b' ∉ pieces.currency.toList) : '\x7b' ∉ pieces.chars := by
  have hBlank {blanks : List Char} (hBlanks : Text.AllBlank blanks) : '\x7b' ∉ blanks :=
    fun hMem => absurd (hBlanks _ hMem) (by decide)
  obtain ⟨d, hNumber⟩ := h.number
  simp only [chars, List.mem_append, not_or]
  exact ⟨hBlank h.before, Decimal.brace_not_mem_of_parse hNumber, hBlank h.between.2, hCurrency,
    hBlank h.after⟩

end AmountPieces

/-- The pieces of a cost in braces, and the blanks behind the closing one. -/
structure CostPieces where
  amount : AmountPieces
  after : List Char

/-- The pieces of a position: its units and, if it has one, its cost. -/
structure PositionPieces where
  units : AmountPieces
  cost : Option CostPieces

namespace PositionPieces

/-- The text that the pieces make. -/
def chars (pieces : PositionPieces) : List Char :=
  match pieces.cost with
  | none => pieces.units.chars
  | some paid => pieces.units.chars ++ '\x7b' :: (paid.amount.chars ++ '\x7d' :: paid.after)

/-- The words among the pieces. -/
def words (pieces : PositionPieces) : PositionWords :=
  ⟨pieces.units.toAmountWords, pieces.cost.map fun paid => paid.amount.toAmountWords⟩

/-- Both amounts are legal. The currency of the units holds no brace that would open a cost; that of
the cost may hold braces of both kinds. -/
structure Legal (pieces : PositionPieces) : Prop where
  units : pieces.units.Legal
  noBrace : '\x7b' ∉ pieces.units.currency.toList
  cost : ∀ paid ∈ pieces.cost, paid.amount.Legal ∧ Text.AllBlank paid.after

/-- The text is made of these pieces, and they are legal. -/
structure TakeApart (pieces : PositionPieces) (cs : List Char) : Prop where
  legal : pieces.Legal
  chars_eq : pieces.chars = cs

end PositionPieces

namespace Position

/-- A closing brace is the last of the text, up to blanks. -/
def IsClosed (cs : List Char) : Prop :=
  ∃ back after, cs = back ++ '\x7d' :: after ∧ Text.AllBlank after

/-- Without an opening brace there are only units. -/
theorem ofChars_of_not_mem {cs : List Char} (h : '\x7b' ∉ cs) :
    ofChars cs = Amount.ofChars cs >>= fun units => .ok ⟨units, none⟩ := by
  rw [ofChars, ofTrimmed_of_not_mem fun hMem => h (Text.mem_of_mem_trim hMem), Amount.ofChars_trim]

/-- A cost that is closed is read after the units in front of it. -/
theorem ofChars_append_cost {front back after : List Char} (hFront : '\x7b' ∉ front)
    (hAfter : Text.AllBlank after) :
    ofChars (front ++ '\x7b' :: (back ++ '\x7d' :: after)) =
      Amount.ofChars front >>= fun units =>
        Amount.ofChars back >>= fun cost => .ok ⟨units, some cost⟩ := by
  have hStart : '\x7b' ∉ Text.trimStart front := fun hMem =>
    hFront ((List.dropWhile_sublist _).mem hMem)
  rw [ofChars, trim_append_cost hAfter, ofTrimmed_append_cons hStart, List.getLast?_concat,
    if_pos rfl, List.dropLast_concat, Amount.ofChars_trimStart]

/-- A cost that is not closed is refused before anything is read. -/
theorem ofChars_of_not_isClosed {front rest : List Char} (hFront : '\x7b' ∉ front)
    (hRest : ¬ IsClosed rest) :
    ofChars (front ++ '\x7b' :: rest) =
      failure (.unterminatedCost (String.ofList (Text.trim (front ++ '\x7b' :: rest)))) := by
  obtain ⟨before, after, hBefore, hAfter, hText⟩ :=
    Text.exists_eq_append_trim (front ++ '\x7b' :: rest)
  have hBrace : '\x7b' ∈ Text.trim (front ++ '\x7b' :: rest) := by
    by_contra hNone
    exact absurd (Text.isBlank_of_not_mem_trim (by simp) hNone) (by decide)
  obtain ⟨units, cost, hTrim, hUnits⟩ := List.eq_append_cons_of_mem hBrace
  rw [ofChars, hTrim, ofTrimmed_append_cons hUnits]
  refine if_neg fun hLast => hRest ?_
  -- the brace that ends the trimmed text closes the cost in the text itself
  have hNoBrace : '\x7b' ∉ before ++ units := by
    rw [List.mem_append]
    rintro (hMem | hMem)
    · exact absurd (hBefore _ hMem) (by decide)
    · exact hUnits hMem
  have hCut : front ++ '\x7b' :: rest = (before ++ units) ++ '\x7b' :: (cost ++ after) := by
    rw [hText, hTrim]
    simp
  obtain ⟨-, rfl⟩ := Text.append_cons_inj hFront hNoBrace hCut
  refine ⟨cost.dropLast, after, ?_, hAfter⟩
  conv_lhs => rw [← List.dropLast_append_getLast? '\x7d' hLast]
  simp

/-- The fault for which a text is refused. A cost that is not closed comes first; otherwise units
that cannot be read come before a cost that cannot. -/
inductive RefusedFor : List Char → Error → Prop where
  | units {cs : List Char} {e : Error} (hNone : '\x7b' ∉ cs) (h : Amount.ofChars cs = .error e) :
      RefusedFor cs e
  | notClosed {front rest : List Char} (hFront : '\x7b' ∉ front) (h : ¬ IsClosed rest) :
      RefusedFor (front ++ '\x7b' :: rest)
        ⟨.unterminatedCost (String.ofList (Text.trim (front ++ '\x7b' :: rest))), none⟩
  | unitsWithCost {front back after : List Char} {e : Error} (hFront : '\x7b' ∉ front)
      (hAfter : Text.AllBlank after) (h : Amount.ofChars front = .error e) :
      RefusedFor (front ++ '\x7b' :: (back ++ '\x7d' :: after)) e
  | cost {front back after : List Char} {units : Amount} {e : Error} (hFront : '\x7b' ∉ front)
      (hAfter : Text.AllBlank after) (hUnits : Amount.ofChars front = .ok units)
      (h : Amount.ofChars back = .error e) :
      RefusedFor (front ++ '\x7b' :: (back ++ '\x7d' :: after)) e

theorem RefusedFor.ofChars_eq {cs : List Char} {e : Error} (h : RefusedFor cs e) :
    ofChars cs = .error e := by
  cases h with
  | units hNone h => rw [ofChars_of_not_mem hNone, h]; rfl
  | notClosed hFront h => exact ofChars_of_not_isClosed hFront h
  | unitsWithCost hFront hAfter h => rw [ofChars_append_cost hFront hAfter, h]; rfl
  | cost hFront hAfter hUnits h => rw [ofChars_append_cost hFront hAfter, hUnits, h]; rfl

/-- A text that is refused is refused for one of these faults. -/
theorem ofChars_eq_error_iff {cs : List Char} {e : Error} :
    ofChars cs = .error e ↔ RefusedFor cs e := by
  refine ⟨fun h => ?_, RefusedFor.ofChars_eq⟩
  by_cases hBrace : '\x7b' ∈ cs
  · obtain ⟨front, rest, rfl, hFront⟩ := List.eq_append_cons_of_mem hBrace
    by_cases hClosed : IsClosed rest
    · obtain ⟨back, after, rfl, hAfter⟩ := hClosed
      rw [ofChars_append_cost hFront hAfter] at h
      rcases bind_eq_error_iff.mp h with hUnits | ⟨units, hUnits, hCost⟩
      · exact .unitsWithCost hFront hAfter hUnits
      · exact .cost hFront hAfter hUnits (bind_ok_eq_error_iff.mp hCost)
    · obtain rfl := Except.error.inj ((ofChars_of_not_isClosed hFront hClosed).symm.trans h)
      exact .notClosed hFront hClosed
  · rw [ofChars_of_not_mem hBrace] at h
    exact .units hBrace (bind_ok_eq_error_iff.mp h)

theorem RefusedFor.isOfText {cs : List Char} {e : Error} (h : RefusedFor cs e) : e.IsOfText := by
  cases h with
  | units _ h => exact Amount.isOfText_of_ofChars h
  | notClosed _ _ => exact ⟨rfl, rfl⟩
  | unitsWithCost _ _ h => exact Amount.isOfText_of_ofChars h
  | cost _ _ _ h => exact Amount.isOfText_of_ofChars h

end Position

namespace PositionPieces

theorem Legal.brace_not_mem {pieces : PositionPieces} (h : pieces.Legal) :
    '\x7b' ∉ pieces.units.chars :=
  h.units.brace_not_mem h.noBrace

/-- What is read follows from the words. -/
theorem Legal.ofChars_eq_read {pieces : PositionPieces} (h : pieces.Legal) :
    Position.ofChars pieces.chars = pieces.words.read := by
  obtain ⟨units, cost⟩ := pieces
  have hUnits : Amount.ofChars units.chars = units.toAmountWords.read := h.units.ofChars_eq_read
  have hBrace : '\x7b' ∉ units.chars := h.brace_not_mem
  cases cost with
  | none =>
      rw [chars, Position.ofChars_of_not_mem hBrace, hUnits]
      rfl
  | some paid =>
      obtain ⟨hPaid, hAfter⟩ := h.cost paid rfl
      rw [chars, Position.ofChars_append_cost hBrace hAfter, hUnits, hPaid.ofChars_eq_read]
      rfl

theorem Legal.exists_position {pieces : PositionPieces} (h : pieces.Legal) :
    ∃ held, Position.ofChars pieces.chars = .ok held := by
  obtain ⟨units, cost⟩ := pieces
  obtain ⟨amount, hUnits⟩ := h.units.exists_amount
  have hBrace : '\x7b' ∉ units.chars := h.brace_not_mem
  cases cost with
  | none =>
      refine ⟨⟨amount, none⟩, ?_⟩
      rw [chars, Position.ofChars_of_not_mem hBrace, hUnits]
      rfl
  | some paid =>
      obtain ⟨hPaid, hAfter⟩ := h.cost paid rfl
      obtain ⟨cost, hCost⟩ := hPaid.exists_amount
      refine ⟨⟨amount, some cost⟩, ?_⟩
      rw [chars, Position.ofChars_append_cost hBrace hAfter, hUnits, hCost]
      rfl

/-- What is read as a position can be taken apart. -/
theorem exists_takeApart_of_ofChars {cs : List Char} {held : Position}
    (h : Position.ofChars cs = .ok held) : ∃ pieces : PositionPieces, pieces.TakeApart cs := by
  have hNoBrace {front : List Char} {pieces : AmountPieces} (hFront : '\x7b' ∉ front)
      (hChars : pieces.chars = front) : '\x7b' ∉ pieces.currency.toList := by
    intro hMem
    refine hFront (hChars ▸ ?_)
    simp [AmountPieces.chars, hMem]
  rcases Position.ofChars_eq_ok_iff.mp h with ⟨hFront, hUnits, -⟩ |
    ⟨front, back, after, cost, rfl, hFront, hAfter, hUnits, hBack, -⟩
  · obtain ⟨units, hLegal, hChars, -⟩ := AmountPieces.exists_of_ofChars hUnits
    exact ⟨⟨units, none⟩, ⟨hLegal, hNoBrace hFront hChars, by simp⟩, hChars⟩
  · obtain ⟨units, hLegal, hChars, -⟩ := AmountPieces.exists_of_ofChars hUnits
    obtain ⟨paid, hPaid, hCost, -⟩ := AmountPieces.exists_of_ofChars hBack
    refine ⟨⟨units, some ⟨paid, after⟩⟩, ⟨hLegal, hNoBrace hFront hChars, ?_⟩, ?_⟩
    · rintro _ ⟨⟩
      exact ⟨hPaid, hAfter⟩
    · rw [← hChars, ← hCost]
      rfl

/-- A position can be taken apart in one way only: its cost begins at the first opening brace, and
ends at the last closing one. -/
theorem Legal.eq_of_chars_eq {pieces other : PositionPieces} (h : pieces.Legal)
    (hOther : other.Legal) (hChars : pieces.chars = other.chars) : pieces = other := by
  have hBrace := h.brace_not_mem
  have hOtherBrace := hOther.brace_not_mem
  obtain ⟨units, cost⟩ := pieces
  obtain ⟨units', cost'⟩ := other
  have hClosing : Text.isBlank '\x7d' = false := by decide
  cases cost with
  | none =>
      cases cost' with
      | none =>
          obtain rfl := h.units.eq_of_chars_eq hOther.units hChars
          rfl
      | some paid' =>
          have hUnits : units.chars = units'.chars ++ '\x7b' :: _ := hChars
          exact absurd (by simp [hUnits]) hBrace
  | some paid =>
      cases cost' with
      | none =>
          have hUnits : units'.chars = units.chars ++ '\x7b' :: _ := hChars.symm
          exact absurd (by simp [hUnits]) hOtherBrace
      | some paid' =>
          obtain ⟨hPaid, hAfter⟩ := h.cost paid rfl
          obtain ⟨hPaid', hAfter'⟩ := hOther.cost paid' rfl
          obtain ⟨hUnits, hRest⟩ := Text.append_cons_inj hBrace hOtherBrace hChars
          obtain ⟨hAmount, hBlanks⟩ :=
            Text.append_mark_blanks_inj hClosing hAfter hAfter' hRest
          obtain rfl := h.units.eq_of_chars_eq hOther.units hUnits
          obtain ⟨amount, after⟩ := paid
          obtain ⟨amount', after'⟩ := paid'
          obtain rfl := hPaid.eq_of_chars_eq hPaid' hAmount
          obtain rfl : after = after' := hBlanks
          rfl

end PositionPieces

/-- A text is read as a position exactly if it can be taken apart into legal pieces. There is only
one way to do so, and what is read is what the words among the pieces make. Every other text is
refused by a parse error that concerns no cell: for a cost that is not closed, or else for its
units, and for its cost only if the units can be read. -/
theorem Position.parse_iff_taken_apart (text : String) :
    ((∃ held, Position.parse text = .ok held) ↔
      ∃ pieces : PositionPieces, pieces.TakeApart text.toList) ∧
    (∀ pieces : PositionPieces, pieces.TakeApart text.toList →
      Position.parse text = pieces.words.read ∧
        ∀ other : PositionPieces, other.TakeApart text.toList → other = pieces) ∧
    ((∃ held, Position.parse text = .ok held) ∨
      ∃ e, Position.parse text = .error e ∧ e.IsOfText) ∧
    ∀ e, Position.parse text = .error e ↔ Position.RefusedFor text.toList e := by
  have hReads {pieces : PositionPieces} (h : pieces.TakeApart text.toList) :
      Position.parse text = Position.ofChars pieces.chars := by
    rw [Position.parse, h.chars_eq]
  refine ⟨⟨?_, ?_⟩, fun pieces h => ⟨?_, fun other hOther => ?_⟩, ?_, fun e => ?_⟩
  · rintro ⟨held, hRead⟩
    exact PositionPieces.exists_takeApart_of_ofChars hRead
  · rintro ⟨pieces, h⟩
    rw [hReads h]
    exact h.legal.exists_position
  · rw [hReads h, h.legal.ofChars_eq_read]
  · exact hOther.legal.eq_of_chars_eq h.legal (hOther.chars_eq.trans h.chars_eq.symm)
  · cases hRead : Position.parse text with
    | ok held => exact Or.inl ⟨held, rfl⟩
    | error e => exact Or.inr ⟨e, rfl, (Position.ofChars_eq_error_iff.mp hRead).isOfText⟩
  · exact Position.ofChars_eq_error_iff

/-- Braces in both currencies, and blanks of several kinds around the words. -/
theorem Position.braces_in_currencies_are_taken_apart :
    let text := "\t10 A\x7d \x7b5.0\u3000\x7bB\x7d\x7d "
    let units : AmountPieces := ⟨⟨"10", "A\x7d"⟩, ['\t'], [' '], [' ']⟩
    let paid : AmountPieces := ⟨⟨"5.0", "\x7bB\x7d"⟩, [], ['\u3000'], []⟩
    let pieces : PositionPieces := ⟨units, some ⟨paid, [' ']⟩⟩
    pieces.TakeApart text.toList ∧
      Position.parse text = .ok ⟨⟨⟨false, 10, 0, by decide, by decide⟩, "A\x7d"⟩,
        some ⟨⟨false, 50, 1, by decide, by decide⟩, "\x7bB\x7d"⟩⟩ ∧
      (∀ other : PositionPieces, other.TakeApart text.toList → other = pieces) ∧
      Position.parse "x \x7by\x7d" = .error ⟨.malformedAmount "x", none⟩ := by
  intro text units paid pieces
  have hUnits : units.Legal :=
    ⟨⟨⟨by decide, by simp [units, Text.isBlank]⟩, ⟨by decide, by simp [units, Text.isBlank]⟩⟩,
      ⟨⟨false, 10, 0, by decide, by decide⟩, by decide +kernel⟩,
      by simp [units, Text.AllBlank, Text.isBlank],
      ⟨by decide, by simp [units, Text.AllBlank, Text.isBlank]⟩,
      by simp [units, Text.AllBlank, Text.isBlank]⟩
  have hPaid : paid.Legal :=
    ⟨⟨⟨by decide, by simp [paid, Text.isBlank]⟩, ⟨by decide, by simp [paid, Text.isBlank]⟩⟩,
      ⟨⟨false, 50, 1, by decide, by decide⟩, by decide +kernel⟩,
      by simp [paid, Text.AllBlank],
      ⟨by decide, by simp [paid, Text.AllBlank, Text.isBlank]⟩, by simp [paid, Text.AllBlank]⟩
  have hPieces : pieces.TakeApart text.toList :=
    ⟨⟨hUnits, by decide, by simp [pieces, hPaid, Text.AllBlank, Text.isBlank]⟩, by decide +kernel⟩
  obtain ⟨-, hRead, -⟩ := Position.parse_iff_taken_apart text
  obtain ⟨hWords, hUnique⟩ := hRead pieces hPieces
  have hRefused : Position.RefusedFor "x \x7by\x7d".toList ⟨.malformedAmount "x", none⟩ := by
    have hText : "x \x7by\x7d".toList = ['x', ' '] ++ '\x7b' :: (['y'] ++ '\x7d' :: []) := by
      decide
    rw [hText]
    exact .unitsWithCost (by decide) (by simp [Text.AllBlank]) (by decide +kernel)
  obtain ⟨-, -, -, hError⟩ := Position.parse_iff_taken_apart "x \x7by\x7d"
  refine ⟨hPieces, hWords.trans (by decide +kernel), hUnique, (hError _).mpr hRefused⟩

/-- Units that cannot be read are not what a text is refused for if its cost is not closed. -/
theorem Position.cost_not_closed_comes_before_units :
    let text := "x HOOL \x7b5 USD"
    text.toList = "x HOOL ".toList ++ '\x7b' :: "5 USD".toList ∧
      Amount.parse "x HOOL " = .error ⟨.invalidDecimal "x", none⟩ ∧
      Position.parse text = .error ⟨.unterminatedCost text, none⟩ ∧
      Position.parse text ≠ .error ⟨.invalidDecimal "x", none⟩ := by
  decide +kernel

end Tabular

import Tabular.Proofs.Document.Conversion
import Tabular.Proofs.Position.Grammar

/-!
The spellings of positions and inventories in a document. A position is a text, or an object whose
members hold the words of the text; an inventory is a text with commas between its positions, or an
array. All spellings of the same words are converted alike, to the same value or to the same error.
-/

namespace Tabular

namespace AmountWords

/-- The two words, with a space between them. -/
def text (words : AmountWords) : String :=
  words.number ++ " " ++ words.currency

/-- The words stand in a text, or in the members of an object. -/
inductive SpelledBy (words : AmountWords) : Json → Prop where
  | text : SpelledBy words (.string words.text)
  | members {members : List (String × Json)}
      (hNumber : members.lookup "number" = some (.string words.number))
      (hCurrency : members.lookup "currency" = some (.string words.currency)) :
      SpelledBy words (.object members)

theorem AreWords.words_text {words : AmountWords} (h : words.AreWords) :
    Text.words words.text.toList = [words.number.toList, words.currency.toList] :=
  Text.words_eq_pair_iff.mpr ⟨h.number, h.currency, [], [' '], [], by simp [Text.AllBlank],
    ⟨by simp, by simp [Text.AllBlank, Text.isBlank]⟩, by simp [Text.AllBlank], by simp [text]⟩

theorem SpelledBy.ne_null {words : AmountWords} {json : Json} (h : words.SpelledBy json) :
    json ≠ .null := by
  cases h with
  | text => nofun
  | members _ _ => nofun

/-- However an amount is spelled, it is the one that its words make. -/
theorem SpelledBy.toAmount_eq {words : AmountWords} {json : Json} (h : words.SpelledBy json)
    (hWords : words.AreWords) : json.toAmount = words.read := by
  cases h with
  | text => exact ofChars_eq_read hWords.words_text
  | @members members hNumber hCurrency =>
      change Json.toAmountOfMembers (.object members) = _
      rw [Json.toAmountOfMembers, Json.member?, hNumber, Json.member?, hCurrency]
      rfl

end AmountWords

namespace PositionWords

/-- The words of the units and, if there is a cost, those of the cost in braces. -/
def text (words : PositionWords) : String :=
  match words.cost with
  | none => words.units.text
  | some cost => words.units.text ++ " \x7b" ++ cost.text ++ "\x7d"

/-- All of them are words, and no brace in those of the units would open a cost. -/
structure AreWords (words : PositionWords) : Prop where
  units : words.units.AreWords
  number : '\x7b' ∉ words.units.number.toList
  currency : '\x7b' ∉ words.units.currency.toList
  cost : ∀ cost ∈ words.cost, cost.AreWords

/-- The member of a cost is spelled in either way. It is absent or null if there is none. -/
inductive CostSpelledBy : Option AmountWords → Option Json → Prop where
  | absent : CostSpelledBy none none
  | null : CostSpelledBy none (some .null)
  | amount {cost : AmountWords} {json : Json} (h : cost.SpelledBy json) :
      CostSpelledBy (some cost) (some json)

/-- The words stand in a text, or in the members of an object. -/
inductive SpelledBy (words : PositionWords) : Json → Prop where
  | text : SpelledBy words (.string words.text)
  | members {members : List (String × Json)} (hUnits : words.units.SpelledBy (.object members))
      (hCost : CostSpelledBy words.cost (members.lookup "cost")) :
      SpelledBy words (.object members)

theorem AreWords.brace_not_mem {words : PositionWords} (h : words.AreWords) :
    '\x7b' ∉ words.units.text.toList := by
  simp [AmountWords.text, h.number, h.currency]

/-- The text of a position is read as the position that its words make. -/
theorem AreWords.parse_text {words : PositionWords} (h : words.AreWords) :
    Position.parse words.text = words.read := by
  obtain ⟨units, cost⟩ := words
  have hUnits : Text.words units.text.toList = _ := h.units.words_text
  have hBrace : '\x7b' ∉ units.text.toList := h.brace_not_mem
  rw [Position.parse]
  cases cost with
  | none =>
      rw [text, Position.ofChars_of_not_mem hBrace, AmountWords.ofChars_eq_read hUnits]
      rfl
  | some cost =>
      have hText : (text ⟨units, some cost⟩).toList =
          (units.text.toList ++ [' ']) ++ '\x7b' :: (cost.text.toList ++ '\x7d' :: []) := by
        simp [text]
      -- the space in front of the cost belongs to the text of the units
      have hSpace : '\x7b' ∉ units.text.toList ++ [' '] := by simp [hBrace]
      have hFront : Text.words (units.text.toList ++ [' ']) = _ :=
        (Text.words_append_blanks _ (by simp [Text.isBlank])).trans hUnits
      have hCost : Text.words cost.text.toList = _ := (h.cost cost rfl).words_text
      rw [hText, Position.ofChars_append_cost hSpace (by simp [Text.AllBlank]),
        AmountWords.ofChars_eq_read hFront, AmountWords.ofChars_eq_read hCost]
      rfl

/-- However a position is spelled, it is the one that its words make. -/
theorem SpelledBy.toPosition_eq {words : PositionWords} {json : Json} (h : words.SpelledBy json)
    (hWords : words.AreWords) : json.toPosition = words.read := by
  cases h with
  | text => exact hWords.parse_text
  | @members members hUnits hCost =>
      obtain ⟨units, cost⟩ := words
      rw [Json.toPosition, hUnits.toAmount_eq hWords.units]
      cases hMember : members.lookup "cost" with
      | none =>
          rw [hMember] at hCost
          cases hCost
          rw [Json.toCost, Json.member?, hMember]
          rfl
      | some json =>
          rw [hMember] at hCost
          cases hCost with
          | null =>
              rw [Json.toCost, Json.member?, hMember]
              rfl
          | amount hPaid =>
              rw [Json.toCost_of_ne_null hMember hPaid.ne_null,
                hPaid.toAmount_eq (hWords.cost _ rfl)]
              simp only [read, bind_assoc]
              rfl

/-- However a position is spelled, the cell holds the one that its words make. -/
theorem SpelledBy.toCell_eq {words : PositionWords} {json : Json} (h : words.SpelledBy json)
    (hWords : words.AreWords) :
    json.toCell .position = words.read >>= fun held => .ok (some (.position held)) := by
  have hNull : json ≠ .null := by
    cases h with
    | text => nofun
    | members _ _ => nofun
  rw [Json.toCell_of_ne_null hNull, Json.toValue, h.toPosition_eq hWords, bind_assoc]
  rfl

/-- An array of positions is converted as their words are, one after the other. -/
theorem toCell_array_eq {all : List PositionWords} {elements : List Json}
    (hWords : ∀ words ∈ all, words.AreWords) (h : List.Forall₂ SpelledBy all elements) :
    (Json.array elements).toCell .inventory =
      all.mapM read >>= fun held => .ok (some (.inventory ⟨held⟩)) := by
  have hRead : all.mapM read = elements.mapM Json.toPosition := by
    have hBoth := (List.forall₂_and_left all elements).mpr ⟨hWords, h⟩
    exact mapM_eq_mapM_of_forall₂
      (hBoth.imp fun _ _ hPair => (hPair.2.toPosition_eq hPair.1).symm)
  rw [Json.toCell_of_ne_null (by nofun), Json.toValue, Json.toInventory, ← hRead]
  simp only [bind_assoc]
  rfl

end PositionWords

/-- All spellings of the same words are converted alike, to the position that the words make or to
the error that they give: a text, an object with the cost as an object or as a text, and an object
in which a missing cost is absent or null. So are arrays of positions, whatever spelling each of
their elements has. -/
theorem Json.spellings_of_positions_agree :
    (∀ words : PositionWords, words.AreWords → ∀ json other : Json,
      words.SpelledBy json → words.SpelledBy other →
        json.toCell .position = other.toCell .position ∧
          json.toCell .position = do .ok (some (.position (← words.read)))) ∧
    ∀ all : List PositionWords, (∀ words ∈ all, words.AreWords) → ∀ elements others : List Json,
      List.Forall₂ PositionWords.SpelledBy all elements →
        List.Forall₂ PositionWords.SpelledBy all others →
          (array elements).toCell .inventory = (array others).toCell .inventory := by
  refine ⟨fun words hWords json other hJson hOther => ?_,
    fun all hWords elements others hElements hOthers => ?_⟩
  · exact ⟨(hJson.toCell_eq hWords).trans (hOther.toCell_eq hWords).symm, hJson.toCell_eq hWords⟩
  · exact (PositionWords.toCell_array_eq hWords hElements).trans
      (PositionWords.toCell_array_eq hWords hOthers).symm

/-- Braces and a comma in the currencies, and a cost that is no number: the three spellings of one
position fail alike, alone and among others. -/
theorem Json.spellings_of_unreadable_cost_agree :
    let words : PositionWords := ⟨⟨"1e2", "A\x7d"⟩, some ⟨"x", "B,\x7d"⟩⟩
    let plain : PositionWords := ⟨⟨"-0.0", "EUR"⟩, none⟩
    let text : Json := .string "1e2 A\x7d \x7bx B,\x7d\x7d"
    let cost : Json := .object [("currency", .string "B,\x7d"), ("number", .string "x")]
    let nested : Json :=
      .object [("cost", cost), ("currency", .string "A\x7d"), ("number", .string "1e2")]
    let mixed : Json :=
      .object [("cost", .string "x B,\x7d"), ("currency", .string "A\x7d"),
        ("number", .string "1e2")]
    let unpaid : Json :=
      .object [("cost", .null), ("currency", .string "EUR"), ("number", .string "-0.0")]
    words.AreWords ∧ plain.AreWords ∧
      text.toCell .position = .error ⟨.invalidDecimal "x", none⟩ ∧
      nested.toCell .position = text.toCell .position ∧
      mixed.toCell .position = text.toCell .position ∧
      unpaid.toCell .position = (string "-0.0 EUR").toCell .position ∧
      (array [unpaid, nested]).toCell .inventory =
        (array [.string "-0.0 EUR", text]).toCell .inventory := by
  intro words plain text cost nested mixed unpaid
  have hWords : words.AreWords :=
    ⟨⟨⟨by decide, by simp [words, Text.isBlank]⟩, ⟨by decide, by simp [words, Text.isBlank]⟩⟩,
      by decide, by decide, by
        rintro _ ⟨⟩
        exact ⟨⟨by decide, by simp [Text.isBlank]⟩, ⟨by decide, by simp [Text.isBlank]⟩⟩⟩
  have hPlain : plain.AreWords :=
    ⟨⟨⟨by decide, by simp [plain, Text.isBlank]⟩, ⟨by decide, by simp [plain, Text.isBlank]⟩⟩,
      by decide, by decide, by simp [plain]⟩
  have hText : words.SpelledBy text := .text
  have hNested : words.SpelledBy nested := .members (.members rfl rfl) (.amount (.members rfl rfl))
  have hMixed : words.SpelledBy mixed := .members (.members rfl rfl) (.amount .text)
  have hUnpaid : plain.SpelledBy unpaid := .members (.members rfl rfl) .null
  have hPlainText : plain.SpelledBy (string "-0.0 EUR") := .text
  have hBoth : ∀ held ∈ [plain, words], held.AreWords := by
    simp [hWords, hPlain]
  obtain ⟨hAlone, hAmong⟩ := spellings_of_positions_agree
  refine ⟨hWords, hPlain, ?_, (hAlone words hWords _ _ hNested hText).1,
    (hAlone words hWords _ _ hMixed hText).1, (hAlone plain hPlain _ _ hUnpaid hPlainText).1,
    hAmong [plain, words] hBoth _ _ (.cons hUnpaid (.cons hNested .nil))
      (.cons hPlainText (.cons hText .nil))⟩
  rw [(hAlone words hWords _ _ hText hText).2]
  decide +kernel

/-- The text of a position is read with blanks around it as without them. -/
theorem Position.ofChars_trim (cs : List Char) : ofChars (Text.trim cs) = ofChars cs := by
  rw [ofChars, ofChars, Text.trim_trim]

/-- Positions that are joined by commas are converted as those of an array. -/
theorem Json.toInventory_intercalate {texts : List String}
    (h : ∀ text ∈ texts, ',' ∉ text.toList ∧ ¬ Text.AllBlank text.toList) :
    (string (String.intercalate "," texts)).toInventory =
      (array (texts.map string)).toInventory := by
  have hParts : Inventory.parts (String.intercalate "," texts).toList =
      texts.map fun text => Text.trim text.toList :=
    Inventory.parts_intercalate fun text hMem =>
      ⟨(h text hMem).1, fun hNil => (h text hMem).2 (Text.trim_eq_nil_iff.mp hNil)⟩
  have hRead : (texts.map fun text => Text.trim text.toList).mapM Position.ofChars =
      (texts.map string).mapM toPosition := by
    refine mapM_eq_mapM_of_forall₂ ?_
    rw [List.forall₂_map_left_iff, List.forall₂_map_right_iff, List.forall₂_same]
    exact fun text _ => Position.ofChars_trim text.toList
  rw [toInventory, Inventory.parse, hParts, hRead, toInventory]

/-- Texts of inventories that are joined by a comma are read one after the other: both, or the first
of them that is refused. And texts of positions without commas, none of them blank, are converted
alike as the elements of an array and joined by commas. -/
theorem Json.inventory_texts_are_lists :
    (∀ front back : String,
      (∀ first second, Inventory.parse front = .ok first → Inventory.parse back = .ok second →
        Inventory.parse (front ++ "," ++ back) = .ok ⟨first.positions ++ second.positions⟩) ∧
      (∀ e, Inventory.parse front = .error e →
        Inventory.parse (front ++ "," ++ back) = .error e) ∧
      ∀ first e, Inventory.parse front = .ok first → Inventory.parse back = .error e →
        Inventory.parse (front ++ "," ++ back) = .error e) ∧
    ∀ texts : List String,
      (∀ text ∈ texts, ',' ∉ text.toList ∧ ¬ Text.AllBlank text.toList) →
        (array (texts.map string)).toCell .inventory =
          (string (String.intercalate "," texts)).toCell .inventory := by
  refine ⟨fun front back => ⟨?_, ?_, ?_⟩, fun texts hTexts => ?_⟩
  · intro first second hFirst hSecond
    rw [Inventory.parse_append_comma, hFirst, hSecond]
    rfl
  · intro e hError
    rw [Inventory.parse_append_comma, hError]
    rfl
  · intro first e hFirst hError
    rw [Inventory.parse_append_comma, hFirst, hError]
    rfl
  · rw [toCell_of_ne_null (by nofun), toCell_of_ne_null (by nofun), toValue, toValue,
      toInventory_intercalate hTexts]

/-- Empty parts between commas are left out, and a text that is refused hides those behind it. -/
theorem Json.inventory_texts_with_empty_parts_are_lists :
    let one : Position := ⟨⟨⟨false, 1, 0, by decide, by decide⟩, "A"⟩, none⟩
    let two : Position := ⟨⟨⟨false, 20, 1, by decide, by decide⟩, "B"⟩, none⟩
    let texts : List String := ["\t1 A", "x ", "\x7b"]
    Inventory.parse ", 1 A,," = .ok ⟨[one]⟩ ∧ Inventory.parse "2.0 B," = .ok ⟨[two]⟩ ∧
      Inventory.parse (", 1 A,," ++ "," ++ "2.0 B,") = .ok ⟨[one, two]⟩ ∧
      Inventory.parse ("1 A,x" ++ "," ++ "\x7b") = .error ⟨.malformedAmount "x", none⟩ ∧
      Inventory.parse ("2.0 B," ++ "," ++ "\x7b") = .error ⟨.unterminatedCost "\x7b", none⟩ ∧
      (∀ text ∈ texts, ',' ∉ text.toList ∧ ¬ Text.AllBlank text.toList) ∧
      (array (texts.map string)).toCell .inventory =
        (string "\t1 A,x ,\x7b").toCell .inventory := by
  intro one two texts
  have hOne : Inventory.parse ", 1 A,," = .ok ⟨[one]⟩ := by decide +kernel
  have hTwo : Inventory.parse "2.0 B," = .ok ⟨[two]⟩ := by decide +kernel
  have hBad : Inventory.parse "1 A,x" = .error ⟨.malformedAmount "x", none⟩ := by decide +kernel
  have hWorse : Inventory.parse "\x7b" = .error ⟨.unterminatedCost "\x7b", none⟩ := by
    decide +kernel
  have hTexts : ∀ text ∈ texts, ',' ∉ text.toList ∧ ¬ Text.AllBlank text.toList := by
    simp [texts, Text.AllBlank, Text.isBlank]
  obtain ⟨hLists, hArrays⟩ := inventory_texts_are_lists
  exact ⟨hOne, hTwo, (hLists _ _).1 _ _ hOne hTwo, (hLists _ _).2.1 _ hBad,
    (hLists _ _).2.2 _ _ hTwo hWorse, hTexts, hArrays texts hTexts⟩

end Tabular

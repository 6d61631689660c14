import Tabular.Proofs.Document.Conversion
import Tabular.Proofs.Json.Grammar
import Tabular.Proofs.Position.Denoted
import Tabular.Proofs.Position.Reader

/-!
The texts of the numbers that a document gives for a cell: as a number, in a string, or in the
members of an object. The cell is converted to exactly the numbers that these texts denote, with
their signs.
-/

namespace Tabular

namespace Json

/-- A number as it is written, or in a string with blanks around it. -/
inductive SpellsNumber : Json → List Char → Prop where
  | string (text : String) : SpellsNumber (.string text) (Text.trim text.toList)
  | number {raw : List Char} {literal : String} (h : KeptAs raw literal.toList) :
      SpellsNumber (.number literal) raw

/-- The number of an amount: the first of two words, or the member `number` of an object. -/
inductive SpellsAmount : Json → List Char → Prop where
  | string {text : String} {number currency : List Char}
      (hWords : Text.words text.toList = [number, currency]) : SpellsAmount (.string text) number
  | object {members : List (String × Json)} {digits : Json} {source : List Char}
      (hMember : members.lookup "number" = some digits) (hSource : digits.SpellsNumber source) :
      SpellsAmount (.object members) source

/-- The numbers of a position: in a string the cost stands in braces behind the units, in an object
it is the member `cost`. -/
inductive SpellsPosition : Json → NumberTexts → Prop where
  | string {text : String} {number currency : List Char}
      (hUnits : Text.words (Text.trim text.toList) = [number, currency])
      (hNoCost : '\x7b' ∉ Text.trim text.toList) : SpellsPosition (.string text) ⟨number, none⟩
  | stringWithCost {text : String} {front back number currency cost costCurrency : List Char}
      (hText : Text.trim text.toList = front ++ '\x7b' :: (back ++ ['\x7d']))
      (hFront : '\x7b' ∉ front) (hUnits : Text.words front = [number, currency])
      (hCost : Text.words back = [cost, costCurrency]) :
      SpellsPosition (.string text) ⟨number, some cost⟩
  | object {members : List (String × Json)} {units : List Char}
      (hUnits : SpellsAmount (.object members) units)
      (hNoCost : members.lookup "cost" = none ∨ members.lookup "cost" = some .null) :
      SpellsPosition (.object members) ⟨units, none⟩
  | objectWithCost {members : List (String × Json)} {paid : Json} {units cost : List Char}
      (hUnits : SpellsAmount (.object members) units)
      (hMember : members.lookup "cost" = some paid) (hCost : SpellsAmount paid cost) :
      SpellsPosition (.object members) ⟨units, some cost⟩

/-- The numbers of an inventory: of the parts of a string between commas, or of the elements of an
array. -/
inductive SpellsInventory : Json → List NumberTexts → Prop where
  | string {text : String} {sources : List NumberTexts}
      (h : List.Forall₂ (fun part source => SpellsPosition (.string (String.ofList part)) source)
        (Inventory.parts text.toList) sources) : SpellsInventory (.string text) sources
  | array {elements : List Json} {sources : List NumberTexts}
      (h : List.Forall₂ SpellsPosition elements sources) : SpellsInventory (.array elements) sources

/-- The numbers that a value gives for a cell of a type. Texts, dates and empty cells have none. -/
inductive SpellsCell : Json → ValueType → List NumberTexts → Prop where
  | null (type : ValueType) : SpellsCell .null type []
  | string (json : Json) : SpellsCell json .string []
  | date (json : Json) : SpellsCell json .date []
  | decimal {json : Json} {source : List Char} (h : json.SpellsNumber source) :
      SpellsCell json .decimal [⟨source, none⟩]
  | position {json : Json} {source : NumberTexts} (h : json.SpellsPosition source) :
      SpellsCell json .position [source]
  | inventory {json : Json} {sources : List NumberTexts} (h : json.SpellsInventory sources) :
      SpellsCell json .inventory sources

end Json

/-- A text that is read is the source of the number. -/
theorem Decimal.denotedBy_of_parse {text : String} {d : Decimal} (h : Decimal.parse text = .ok d) :
    d.DenotedBy (Text.trim text.toList) := by
  rw [Decimal.parse] at h
  split at h
  · next number hRead =>
    obtain rfl := Except.ok.inj h
    exact Decimal.denotedBy_of_ofChars? hRead
  · cases h

namespace Json

theorem SpellsNumber.denotedBy {json : Json} {source : List Char} (h : json.SpellsNumber source)
    {d : Decimal} (hRead : json.toDecimal = .ok d) : d.DenotedBy source := by
  obtain ⟨text, hText, hParse⟩ := bind_eq_ok_iff.mp hRead
  cases h with
  | string text =>
      obtain rfl := Except.ok.inj hText
      exact Decimal.denotedBy_of_parse hParse
  | @number raw literal hKept =>
      obtain rfl := Except.ok.inj hText
      have hFrom := Decimal.denotedBy_of_parse hParse
      rw [Text.trim_eq_self fun _ => hKept.isBlank_eq_false] at hFrom
      rwa [Decimal.DenotedBy, hKept.value?_eq, hKept.head?_eq]

/-- Every number has a source. -/
theorem Written.exists_number {raw : List Char} {json : Json} (h : Written raw json) {d : Decimal}
    (hRead : json.toDecimal = .ok d) : ∃ source, json.SpellsNumber source := by
  obtain ⟨text, hText, -⟩ := bind_eq_ok_iff.mp hRead
  cases h with
  | number hKept => exact ⟨_, .number hKept⟩
  | string hText => exact ⟨_, .string _⟩
  | numberObject _ _ _ _ _ _ hKept => exact ⟨_, .number hKept⟩
  | _ => cases hText

end Json

/-- The number of an amount is read from the first of its two words. -/
theorem Amount.ofChars_eq_ok {cs : List Char} {amount : Amount}
    (h : Amount.ofChars cs = .ok amount) :
    ∃ number currency, Text.words cs = [number, currency] ∧ amount.number.DenotedBy number := by
  obtain ⟨number, hWords, hNumber⟩ := Amount.ofChars_eq_ok_iff.mp h
  have hFrom := Decimal.denotedBy_of_parse hNumber
  have hMem : number ∈ Text.words cs := hWords ▸ List.mem_cons_self
  rw [String.toList_ofList, Text.trim_of_mem_words hMem] at hFrom
  exact ⟨number, _, hWords, hFrom⟩

theorem Amount.denotedBy_of_words {cs number currency : List Char}
    (hWords : Text.words cs = [number, currency]) {amount : Amount}
    (h : Amount.ofChars cs = .ok amount) : amount.number.DenotedBy number := by
  obtain ⟨other, _, hOther, hFrom⟩ := Amount.ofChars_eq_ok h
  rw [hWords] at hOther
  obtain ⟨rfl, -⟩ := List.cons.inj hOther
  exact hFrom

namespace Json

theorem SpellsAmount.denotedBy {json : Json} {source : List Char} (h : json.SpellsAmount source)
    {amount : Amount} (hRead : json.toAmount = .ok amount) : amount.number.DenotedBy source := by
  cases h with
  | string hWords => exact Amount.denotedBy_of_words hWords hRead
  | @object members digits source hMember hSource =>
      change toAmountOfMembers (.object members) = _ at hRead
      rw [toAmountOfMembers, show member? "number" (.object members) = some digits from hMember]
        at hRead
      dsimp only at hRead
      split at hRead
      · cases hRead
      · obtain ⟨d, hDigits, hOk⟩ := bind_eq_ok_iff.mp hRead
        obtain rfl := Except.ok.inj hOk
        exact hSource.denotedBy hDigits

theorem Written.exists_amount {raw : List Char} {json : Json} (h : Written raw json)
    {amount : Amount} (hRead : json.toAmount = .ok amount) :
    ∃ source, json.SpellsAmount source := by
  cases json with
  | string text =>
      obtain ⟨number, currency, hWords, -⟩ := Amount.ofChars_eq_ok hRead
      exact ⟨number, .string hWords⟩
  | object members =>
      change toAmountOfMembers (.object members) = _ at hRead
      rw [toAmountOfMembers] at hRead
      split at hRead
      · cases hRead
      · next digits hMember =>
        split at hRead
        · cases hRead
        · obtain ⟨d, hDigits, -⟩ := bind_eq_ok_iff.mp hRead
          obtain ⟨inner, hInner⟩ := h.exists_of_lookup hMember
          obtain ⟨source, hSource⟩ := hInner.exists_number hDigits
          exact ⟨source, .object hMember hSource⟩
  | _ => cases hRead

theorem toCost_eq_none {members : List (String × Json)}
    (h : members.lookup "cost" = none ∨ members.lookup "cost" = some .null) :
    toCost (.object members) = .ok none := by
  rw [toCost, member?]
  rcases h with hNone | hNull
  · rw [hNone]
  · rw [hNull]

theorem SpellsAmount.ne_null {paid : Json} {cost : List Char} (h : SpellsAmount paid cost) :
    paid ≠ .null := by
  cases h with
  | string _ => nofun
  | object _ _ => nofun

/-- A position has the numbers that its texts denote. -/
theorem SpellsPosition.denotedBy {json : Json} {source : NumberTexts}
    (h : json.SpellsPosition source) {position : Position} (hRead : json.toPosition = .ok position) :
    position.DenotedBy source := by
  cases h with
  | @string text number currency hUnits hNoCost =>
      change Position.ofTrimmed (Text.trim text.toList) = _ at hRead
      rw [Position.ofTrimmed_of_not_mem hNoCost] at hRead
      obtain ⟨units, hAmount, hOk⟩ := bind_eq_ok_iff.mp hRead
      obtain rfl := Except.ok.inj hOk
      exact ⟨Amount.denotedBy_of_words hUnits hAmount, .none⟩
  | @stringWithCost text front back number currency cost costCurrency hText hFront hUnits hCost =>
      change Position.ofTrimmed (Text.trim text.toList) = _ at hRead
      rw [hText, Position.ofTrimmed_append_cons hFront, List.getLast?_concat, if_pos rfl,
        List.dropLast_concat] at hRead
      obtain ⟨units, hAmount, hRest⟩ := bind_eq_ok_iff.mp hRead
      obtain ⟨paid, hPaid, hOk⟩ := bind_eq_ok_iff.mp hRest
      obtain rfl := Except.ok.inj hOk
      exact ⟨Amount.denotedBy_of_words hUnits hAmount,
        .some (Amount.denotedBy_of_words hCost hPaid)⟩
  | @object members number hUnits hNoCost =>
      obtain ⟨units, hAmount, hRest⟩ := bind_eq_ok_iff.mp hRead
      obtain ⟨paid, hPaid, hOk⟩ := bind_eq_ok_iff.mp hRest
      obtain rfl := Except.ok.inj hOk
      rw [toCost_eq_none hNoCost] at hPaid
      obtain rfl := Except.ok.inj hPaid
      exact ⟨hUnits.denotedBy hAmount, .none⟩
  | @objectWithCost members paid number cost hUnits hMember hCost =>
      obtain ⟨units, hAmount, hRest⟩ := bind_eq_ok_iff.mp hRead
      obtain ⟨costRead, hPaid, hOk⟩ := bind_eq_ok_iff.mp hRest
      obtain rfl := Except.ok.inj hOk
      rw [toCost_of_ne_null hMember hCost.ne_null] at hPaid
      obtain ⟨amount, hCostRead, hSome⟩ := bind_eq_ok_iff.mp hPaid
      obtain rfl := Except.ok.inj hSome
      exact ⟨hUnits.denotedBy hAmount, .some (hCost.denotedBy hCostRead)⟩

theorem exists_position_of_string {text : String} {position : Position}
    (h : Position.parse text = .ok position) :
    ∃ source, SpellsPosition (.string text) source := by
  rcases Position.ofTrimmed_eq_ok_iff.mp h with ⟨hNoCost, hUnits, -⟩ |
    ⟨front, back, cost, hText, hFront, hUnits, hCost, -⟩
  · obtain ⟨number, currency, hWords, -⟩ := Amount.ofChars_eq_ok hUnits
    exact ⟨_, .string hWords hNoCost⟩
  · obtain ⟨number, currency, hWords, -⟩ := Amount.ofChars_eq_ok hUnits
    obtain ⟨paid, costCurrency, hCostWords, -⟩ := Amount.ofChars_eq_ok hCost
    exact ⟨_, .stringWithCost hText hFront hWords hCostWords⟩

theorem Written.exists_position {raw : List Char} {json : Json} (h : Written raw json)
    {position : Position} (hRead : json.toPosition = .ok position) :
    ∃ source, json.SpellsPosition source := by
  cases json with
  | string text => exact exists_position_of_string hRead
  | object members =>
      obtain ⟨units, hAmount, hRest⟩ := bind_eq_ok_iff.mp hRead
      obtain ⟨paid, hPaid, -⟩ := bind_eq_ok_iff.mp hRest
      obtain ⟨number, hUnits⟩ := h.exists_amount hAmount
      rw [toCost, member?] at hPaid
      split at hPaid
      · next hNone => exact ⟨_, .object hUnits (Or.inl hNone)⟩
      · next hNull => exact ⟨_, .object hUnits (Or.inr hNull)⟩
      · next json _ hMember =>
        obtain ⟨amount, hCostRead, -⟩ := bind_eq_ok_iff.mp hPaid
        obtain ⟨inner, hInner⟩ := h.exists_of_lookup hMember
        obtain ⟨cost, hCost⟩ := hInner.exists_amount hCostRead
        exact ⟨_, .objectWithCost hUnits hMember hCost⟩
  | _ => cases hRead

/-- What is converted one by one from texts that all have sources has them one by one. -/
theorem denotedBy_of_forall₂ {jsons : List Json} {positions : List Position}
    {sources : List NumberTexts} (hSources : List.Forall₂ SpellsPosition jsons sources)
    (hRead : List.Forall₂ (fun json position => toPosition json = .ok position) jsons positions) :
    List.Forall₂ Position.DenotedBy positions sources := by
  induction hSources generalizing positions with
  | nil =>
      cases hRead with
      | nil => exact .nil
  | cons hSource hRest ih =>
      cases hRead with
      | cons hHead hTail => exact .cons (hSource.denotedBy hHead) (ih hTail)

theorem SpellsInventory.denotedBy {json : Json} {sources : List NumberTexts}
    (h : json.SpellsInventory sources) {held : Inventory} (hRead : json.toInventory = .ok held) :
    List.Forall₂ Position.DenotedBy held.positions sources := by
  cases h with
  | @string text sources hParts =>
      obtain ⟨positions, hPositions, hOk⟩ := bind_eq_ok_iff.mp hRead
      obtain rfl := Except.ok.inj hOk
      have hJsons : List.Forall₂ SpellsPosition
          ((Inventory.parts text.toList).map fun part => .string (String.ofList part)) sources :=
        List.forall₂_map_left_iff.mpr hParts
      refine denotedBy_of_forall₂ hJsons (List.forall₂_map_left_iff.mpr ?_)
      refine (mapM_eq_ok_iff.mp hPositions).imp fun part position hPosition => ?_
      rw [toPosition, Position.parse, String.toList_ofList]
      exact hPosition
  | @array elements sources hElements =>
      obtain ⟨positions, hPositions, hOk⟩ := bind_eq_ok_iff.mp hRead
      obtain rfl := Except.ok.inj hOk
      exact denotedBy_of_forall₂ hElements (mapM_eq_ok_iff.mp hPositions)

/-- If each item that is converted has a source, then the list has a list of them. -/
theorem exists_sources {α : Type} {convert : α → Except Error Position}
    {Spells : α → NumberTexts → Prop} {items : List α} {positions : List Position}
    (hRead : items.mapM convert = .ok positions)
    (h : ∀ item ∈ items, ∀ position, convert item = .ok position →
      ∃ source, Spells item source) :
    ∃ sources, List.Forall₂ Spells items sources := by
  rw [mapM_eq_ok_iff] at hRead
  induction hRead with
  | nil => exact ⟨[], .nil⟩
  | cons hHead hTail ih =>
      obtain ⟨hFirst, hOthers⟩ := List.forall_mem_cons.mp h
      obtain ⟨source, hSource⟩ := hFirst _ hHead
      obtain ⟨sources, hSources⟩ := ih hOthers
      exact ⟨source :: sources, .cons hSource hSources⟩

theorem Written.exists_inventory {raw : List Char} {json : Json} (h : Written raw json)
    {held : Inventory} (hRead : json.toInventory = .ok held) :
    ∃ sources, json.SpellsInventory sources := by
  cases json with
  | string text =>
      obtain ⟨positions, hPositions, -⟩ := bind_eq_ok_iff.mp hRead
      obtain ⟨sources, hSources⟩ : ∃ sources, List.Forall₂
          (fun part source => SpellsPosition (.string (String.ofList part)) source)
          (Inventory.parts text.toList) sources := by
        refine exists_sources hPositions fun part _ position hPosition => ?_
        have hParse : Position.parse (String.ofList part) = .ok position := by
          rwa [Position.parse, String.toList_ofList]
        exact exists_position_of_string hParse
      exact ⟨sources, .string hSources⟩
  | array elements =>
      obtain ⟨positions, hPositions, -⟩ := bind_eq_ok_iff.mp hRead
      cases h with
      | array hElements =>
          obtain ⟨sources, hSources⟩ := exists_sources hPositions fun element hMem _ hPosition => by
            obtain ⟨inner, hInner⟩ := hElements.exists_of_mem hMem
            exact hInner.exists_position hPosition
          exact ⟨sources, .array hSources⟩
  | _ => cases hRead

/-- A cell that is not null holds what its value is converted to. -/
theorem eq_some_of_toCell {json : Json} (hNull : json ≠ .null) {type : ValueType} {cell : Cell}
    (h : json.toCell type = .ok cell) :
    ∃ value, json.toValue type = .ok value ∧ cell = some value := by
  unfold toCell at h
  split at h
  · exact absurd rfl hNull
  · obtain ⟨value, hValue, hOk⟩ := bind_eq_ok_iff.mp h
    exact ⟨value, hValue, (Except.ok.inj hOk).symm⟩

/-- A cell has the numbers that its texts denote. -/
theorem SpellsCell.denotedBy {json : Json} {type : ValueType} {sources : List NumberTexts}
    (h : json.SpellsCell type sources) {cell : Cell} (hRead : json.toCell type = .ok cell) :
    cell.DenotedBy sources := by
  by_cases hNull : json = .null
  · subst hNull
    obtain rfl := Except.ok.inj hRead
    cases h with
    | decimal hSource => cases hSource
    | position hSource => cases hSource
    | inventory hSources => cases hSources
    | _ => rfl
  · obtain ⟨value, hValue, rfl⟩ := eq_some_of_toCell hNull hRead
    cases h with
    | null type => exact absurd rfl hNull
    | string json =>
        obtain ⟨text, -, hOk⟩ := bind_eq_ok_iff.mp hValue
        obtain rfl := Except.ok.inj hOk
        rfl
    | date json =>
        obtain ⟨day, -, hOk⟩ := bind_eq_ok_iff.mp hValue
        obtain rfl := Except.ok.inj hOk
        rfl
    | decimal hSource =>
        obtain ⟨number, hNumber, hOk⟩ := bind_eq_ok_iff.mp hValue
        obtain rfl := Except.ok.inj hOk
        exact ⟨_, rfl, hSource.denotedBy hNumber⟩
    | position hSource =>
        obtain ⟨held, hHeld, hOk⟩ := bind_eq_ok_iff.mp hValue
        obtain rfl := Except.ok.inj hOk
        exact ⟨_, rfl, hSource.denotedBy hHeld⟩
    | inventory hSources =>
        obtain ⟨held, hHeld, hOk⟩ := bind_eq_ok_iff.mp hValue
        obtain rfl := Except.ok.inj hOk
        exact hSources.denotedBy hHeld

/-- Every cell that is converted has its numbers from texts. -/
theorem Written.exists_cell {raw : List Char} {json : Json} (h : Written raw json)
    {type : ValueType} {cell : Cell} (hRead : json.toCell type = .ok cell) :
    ∃ sources, json.SpellsCell type sources := by
  by_cases hNull : json = .null
  · subst hNull
    exact ⟨[], .null type⟩
  · obtain ⟨value, hValue, -⟩ := eq_some_of_toCell hNull hRead
    cases type with
    | string => exact ⟨[], .string json⟩
    | date => exact ⟨[], .date json⟩
    | decimal =>
        obtain ⟨number, hNumber, -⟩ := bind_eq_ok_iff.mp hValue
        obtain ⟨source, hSource⟩ := h.exists_number hNumber
        exact ⟨_, .decimal hSource⟩
    | position =>
        obtain ⟨held, hHeld, -⟩ := bind_eq_ok_iff.mp hValue
        obtain ⟨source, hSource⟩ := h.exists_position hHeld
        exact ⟨_, .position hSource⟩
    | inventory =>
        obtain ⟨held, hHeld, -⟩ := bind_eq_ok_iff.mp hValue
        obtain ⟨sources, hSources⟩ := h.exists_inventory hHeld
        exact ⟨_, .inventory hSources⟩

end Json

end Tabular

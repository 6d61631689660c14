import Mathlib
import Tabular.Json.Reader
import Tabular.Proofs.Decimal.Numeral
import Tabular.Proofs.Text.Words

/-!
What JSON text stands for which value, said without reading it: a relation of texts and values for
each kind of value. A number stands for its text, save that its exponent gets a small letter and a
sign, which changes neither the number that the text denotes nor its sign.
-/

namespace Tabular.Json

/-- An exponent as it is written, and as it is kept. -/
inductive ExponentKeptAs : List Char → List Char → Prop where
  | absent : ExponentKeptAs [] []
  | unsigned {mark : Char} {digits : List Char} (hMark : Decimal.isExponentMark mark = true)
      (hNe : digits ≠ []) (hDigits : ∀ x ∈ digits, x.isDigit = true) :
      ExponentKeptAs (mark :: digits) ('e' :: '+' :: digits)
  | signed {mark sign : Char} {digits : List Char} (hMark : Decimal.isExponentMark mark = true)
      (hSign : sign = '+' ∨ sign = '-') (hDigits : ∀ x ∈ digits, x.isDigit = true) :
      ExponentKeptAs (mark :: sign :: digits) ('e' :: sign :: digits)

/-- What a number is written with before its exponent. -/
def isBaseChar (x : Char) : Bool :=
  x.isDigit || x == '-' || x == '.'

/-- A number as it is written, and as it is kept. The two agree up to the exponent. -/
inductive KeptAs : List Char → List Char → Prop where
  | mk {base written exponent : List Char} (hNe : base ≠ [])
      (hBase : ∀ x ∈ base, isBaseChar x = true) (hExponent : ExponentKeptAs written exponent) :
      KeptAs (base ++ written) (base ++ exponent)

/-- At least one digit. -/
structure IsDigits (cs : List Char) : Prop where
  ne_nil : cs ≠ []
  isDigit : ∀ x ∈ cs, x.isDigit = true

/-- What may follow the whole part of a number: a point and digits. -/
inductive IsFraction : List Char → Prop where
  | absent : IsFraction []
  | point {digits : List Char} (h : IsDigits digits) : IsFraction ('.' :: digits)

/-- What may follow these: a letter, a sign or none, and digits. -/
inductive IsExponent : List Char → Prop where
  | absent : IsExponent []
  | unsigned {mark : Char} {digits : List Char} (hMark : Decimal.isExponentMark mark = true)
      (h : IsDigits digits) : IsExponent (mark :: digits)
  | signed {mark sign : Char} {digits : List Char} (hMark : Decimal.isExponentMark mark = true)
      (hSign : sign = '+' ∨ sign = '-') (h : IsDigits digits) :
      IsExponent (mark :: sign :: digits)

/-- A number without its sign. No zero stands in front of another digit of its whole part. -/
inductive IsUnsigned : List Char → Prop where
  | mk {whole fraction exponent : List Char} (hWhole : IsDigits whole)
      (hZero : whole.head? = some '0' → whole.length = 1) (hFraction : IsFraction fraction)
      (hExponent : IsExponent exponent) : IsUnsigned (whole ++ (fraction ++ exponent))

/-- A number as JSON writes it. -/
inductive IsLiteral : List Char → Prop where
  | unsigned {raw : List Char} (h : IsUnsigned raw) : IsLiteral raw
  | minus {raw : List Char} (h : IsUnsigned raw) : IsLiteral ('-' :: raw)

/-- Nothing but blank characters. -/
def Blanks (cs : List Char) : Prop :=
  ∀ x ∈ cs, Cursor.isBlank x = true

/-- Four hexadecimal digits and their value. -/
def HexText (digits : List Char) (unit : Nat) : Prop :=
  digits.length = 4 ∧
    (digits.mapM Cursor.hexDigit?).map (fun values => values.foldl (16 * · + ·) 0) = some unit

/-- What stands after a backslash, and the character that it stands for. -/
inductive EscapeText : List Char → Char → Prop where
  | letter {letter x : Char} (h : Cursor.escaped? letter = some x) : EscapeText [letter] x
  | unit {digits : List Char} {unit : Nat} (h : HexText digits unit)
      (hPlane : unit < 0xD800 ∨ 0xDFFF < unit) : EscapeText ('u' :: digits) (Char.ofNat unit)
  | surrogates {digits trailDigits : List Char} {lead trail : Nat} (hLead : HexText digits lead)
      (hLeadRange : 0xD800 ≤ lead ∧ lead ≤ 0xDBFF) (hTrail : HexText trailDigits trail)
      (hTrailRange : 0xDC00 ≤ trail ∧ trail ≤ 0xDFFF) :
      EscapeText ('u' :: (digits ++ '\\' :: 'u' :: trailDigits))
        (Char.ofNat (0x10000 + 0x400 * (lead - 0xD800) + (trail - 0xDC00)))

/-- What stands between the quotes of a string, and the characters that it stands for. -/
inductive StringText : List Char → List Char → Prop where
  | nil : StringText [] []
  | char {x : Char} {raw xs : List Char} (hQuote : x ≠ '"') (hBackslash : x ≠ '\\')
      (hControl : 0x20 ≤ x.toNat) (hRest : StringText raw xs) : StringText (x :: raw) (x :: xs)
  | escape {x : Char} {escaped raw xs : List Char} (hEscape : EscapeText escaped x)
      (hRest : StringText raw xs) : StringText ('\\' :: (escaped ++ raw)) (x :: xs)

/-- Items with commas between them and blanks around them. -/
inductive ItemsText {α : Type} (Item : List Char → α → Prop) : List Char → List α → Prop where
  | last {front raw back : List Char} {item : α} (hFront : Blanks front) (hItem : Item raw item)
      (hBack : Blanks back) : ItemsText Item (front ++ (raw ++ back)) [item]
  | cons {front raw back rest : List Char} {item : α} {items : List α} (hFront : Blanks front)
      (hItem : Item raw item) (hBack : Blanks back) (hRest : ItemsText Item rest items) :
      ItemsText Item (front ++ (raw ++ (back ++ ',' :: rest))) (item :: items)

/-- An array, and what its elements stand for. -/
inductive ArrayText {α : Type} (Item : List Char → α → Prop) : List Char → List α → Prop where
  | empty {blanks : List Char} (hBlanks : Blanks blanks) :
      ArrayText Item ('[' :: (blanks ++ [']'])) []
  | items {inner : List Char} {items : List α} (hItems : ItemsText Item inner items) :
      ArrayText Item ('[' :: (inner ++ [']'])) items

/-- A member of an object: its name and its value. -/
inductive MemberText (Value : List Char → Json → Prop) : List Char → String × Json → Prop where
  | mk {rawName between before raw : List Char} {name : String} {value : Json}
      (hName : StringText rawName name.toList) (hBetween : Blanks between)
      (hBefore : Blanks before) (hValue : Value raw value) :
      MemberText Value ('"' :: (rawName ++ '"' :: (between ++ ':' :: (before ++ raw))))
        (name, value)

/-- A value. Of members of one name the last counts. An object whose only member is named
`numberName` stands for the number that is spelled in it. -/
inductive Written : List Char → Json → Prop where
  | null : Written ['n', 'u', 'l', 'l'] .null
  | true : Written ['t', 'r', 'u', 'e'] (.bool true)
  | false : Written ['f', 'a', 'l', 's', 'e'] (.bool false)
  | number {raw : List Char} {literal : String} (h : KeptAs raw literal.toList) :
      Written raw (.number literal)
  | string {raw : List Char} {text : String} (h : StringText raw text.toList) :
      Written ('"' :: (raw ++ ['"'])) (.string text)
  | array {raw : List Char} {elements : List Json} (h : ArrayText Written raw elements) :
      Written raw (.array elements)
  | emptyObject {blanks : List Char} (hBlanks : Blanks blanks) :
      Written ('\x7b' :: (blanks ++ ['\x7d'])) (.object [])
  | object {inner : List Char} {first : String × Json} {members : List (String × Json)}
      (hName : first.1 ≠ numberName)
      (hMembers : ItemsText (MemberText Written) inner (first :: members)) :
      Written ('\x7b' :: (inner ++ ['\x7d']))
        (.object ((first :: members).foldl (fun all member => insertMember member.1 member.2 all)
          []))
  | numberObject {front back rawName between before rawDigits digits : List Char}
      {literal : String} (hFront : Blanks front) (hName : StringText rawName numberName.toList)
      (hBetween : Blanks between) (hBefore : Blanks before) (hDigits : StringText rawDigits digits)
      (hBack : Blanks back) (h : KeptAs digits literal.toList) :
      Written ('\x7b' :: (front ++ '"' :: (rawName ++ '"' :: (between ++ ':' :: (before ++
        '"' :: (rawDigits ++ '"' :: (back ++ ['\x7d']))))))) (.number literal)

theorem Blanks.nil : Blanks [] :=
  fun _ hMem => absurd hMem List.not_mem_nil

theorem Blanks.append {front back : List Char} (hFront : Blanks front) (hBack : Blanks back) :
    Blanks (front ++ back) :=
  List.forall_mem_append.mpr ⟨hFront, hBack⟩

theorem isExponentMark_of_isBaseChar {x : Char} (h : isBaseChar x = true) :
    Decimal.isExponentMark x = false := by
  simp only [isBaseChar, Bool.or_eq_true, beq_iff_eq] at h
  rcases h with (hDigit | rfl) | rfl
  · exact Decimal.isExponentMark_of_isDigit hDigit
  · decide
  · decide

theorem isBaseChar_of_isDigit {x : Char} (h : x.isDigit = true) : isBaseChar x = true := by
  simp [isBaseChar, h]

theorem IsFraction.isBaseChar_of_mem {fraction : List Char} (h : IsFraction fraction) {x : Char}
    (hMem : x ∈ fraction) : isBaseChar x = true := by
  cases h with
  | absent => cases hMem
  | point hDigits =>
      rcases List.mem_cons.mp hMem with rfl | hDigit
      · decide
      · exact isBaseChar_of_isDigit (hDigits.isDigit x hDigit)

/-- What stands in front of an exponent is kept as it is. -/
theorem ExponentKeptAs.after_parts {whole fraction written kept : List Char}
    (h : ExponentKeptAs written kept) (hWhole : IsDigits whole) (hFraction : IsFraction fraction) :
    KeptAs (whole ++ (fraction ++ written)) (whole ++ fraction ++ kept) := by
  rw [← List.append_assoc]
  refine .mk (by simp [hWhole.ne_nil]) ?_ h
  intro x hMem
  rcases List.mem_append.mp hMem with hDigit | hMem
  · exact isBaseChar_of_isDigit (hWhole.isDigit x hDigit)
  · exact hFraction.isBaseChar_of_mem hMem

/-- What a number is written with. -/
def isNumeralChar (x : Char) : Bool :=
  isBaseChar x || Decimal.isExponentMark x || x == '+'

theorem isNumeralChar_of_isBaseChar {x : Char} (h : isBaseChar x = true) :
    isNumeralChar x = true := by
  simp [isNumeralChar, h]

theorem isNumeralChar_of_isDigit {x : Char} (h : x.isDigit = true) : isNumeralChar x = true := by
  simp [isNumeralChar, isBaseChar, h]

/-- A character of a number is a digit, a sign, a point, or a letter that announces an exponent. -/
theorem isNumeralChar_iff {x : Char} :
    isNumeralChar x = true ↔
      x.isDigit = true ∨ x = '-' ∨ x = '.' ∨ x = 'e' ∨ x = 'E' ∨ x = '+' := by
  simp [isNumeralChar, isBaseChar, Decimal.isExponentMark, or_assoc]

theorem isBlank_of_isNumeralChar {x : Char} (h : isNumeralChar x = true) :
    Text.isBlank x = false := by
  rcases isNumeralChar_iff.mp h with hDigit | rfl | rfl | rfl | rfl | rfl
  · exact Text.isBlank_of_isDigit hDigit
  all_goals decide

theorem ExponentKeptAs.isNumeralChar_of_mem {raw kept : List Char} (h : ExponentKeptAs raw kept)
    {x : Char} (hMem : x ∈ raw ∨ x ∈ kept) : isNumeralChar x = true := by
  have hLetter {mark : Char} (hMark : Decimal.isExponentMark mark = true) :
      isNumeralChar mark = true := by
    simp [isNumeralChar, hMark]
  have hSmall : isNumeralChar 'e' = true := by decide
  have hSigns : isNumeralChar '+' = true ∧ isNumeralChar '-' = true := by decide
  cases h with
  | absent => simp at hMem
  | unsigned hMark _ hDigits =>
      have hAll := fun y hDigit => isNumeralChar_of_isDigit (hDigits y hDigit)
      simp only [List.mem_cons] at hMem
      rcases hMem with (rfl | hDigit) | rfl | rfl | hDigit
      exacts [hLetter hMark, hAll x hDigit, hSmall, hSigns.1, hAll x hDigit]
  | @signed _ sign _ hMark hSign hDigits =>
      have hAll := fun y hDigit => isNumeralChar_of_isDigit (hDigits y hDigit)
      have hSignChar : isNumeralChar sign = true := by
        rcases hSign with rfl | rfl
        exacts [hSigns.1, hSigns.2]
      simp only [List.mem_cons] at hMem
      rcases hMem with (rfl | rfl | hDigit) | rfl | rfl | hDigit
      exacts [hLetter hMark, hSignChar, hAll x hDigit, hSmall, hSignChar, hAll x hDigit]

namespace KeptAs

theorem minus {raw kept : List Char} (h : KeptAs raw kept) : KeptAs ('-' :: raw) ('-' :: kept) := by
  obtain ⟨-, hBase, hExponent⟩ := h
  exact .mk (List.cons_ne_nil '-' _) (List.forall_mem_cons.mpr ⟨by decide, hBase⟩) hExponent

/-- What depends neither on the letter that announces an exponent nor on a plus sign in it is the
same for a number as it is written and as it is kept. -/
theorem map_eq {β : Type} {f : List Char → β} {g : List Char → List Char → β}
    (hMark : ∀ base, (∀ x ∈ base, Decimal.isExponentMark x = false) → ∀ mark,
      Decimal.isExponentMark mark = true →
        ∀ exponent, f (base ++ mark :: exponent) = g base exponent)
    (hPlus : ∀ base x rest, Char.isDigit x = true → g base ('+' :: x :: rest) = g base (x :: rest))
    {raw kept : List Char} (h : KeptAs raw kept) : f raw = f kept := by
  obtain ⟨-, hBase, hExponent⟩ := h
  have hNoMark := fun x hMem => isExponentMark_of_isBaseChar (hBase x hMem)
  have hSmall : Decimal.isExponentMark 'e' = true := by decide
  cases hExponent with
  | absent => rfl
  | unsigned hLetter hNe hDigits =>
      obtain ⟨x, rest, rfl⟩ := List.exists_cons_of_ne_nil hNe
      rw [hMark _ hNoMark _ hLetter, hMark _ hNoMark _ hSmall,
        hPlus _ _ _ (hDigits x List.mem_cons_self)]
  | signed hLetter _ _ => rw [hMark _ hNoMark _ hLetter, hMark _ hNoMark _ hSmall]

/-- A small letter and a sign in the exponent do not change the number. -/
theorem value?_eq {raw kept : List Char} (h : KeptAs raw kept) :
    Numeral.value? raw = Numeral.value? kept := by
  refine h.map_eq (fun _ hBase _ hMark => Numeral.value?_append_mark hBase hMark)
    fun base x rest hDigit => ?_
  have hSign : Decimal.takeSign ('+' :: x :: rest) = (false, x :: rest) := rfl
  simp only [Numeral.exponent?, Decimal.takeSign_of_isDigit hDigit, hSign]

theorem head?_eq {raw kept : List Char} (h : KeptAs raw kept) : raw.head? = kept.head? := by
  obtain ⟨hNe, -, -⟩ := h
  rw [List.head?_append_of_ne_nil _ hNe, List.head?_append_of_ne_nil _ hNe]

/-- What is written and what is kept holds only characters of numbers. -/
theorem isNumeralChar_of_mem {raw kept : List Char} (h : KeptAs raw kept) {x : Char}
    (hMem : x ∈ raw ∨ x ∈ kept) : isNumeralChar x = true := by
  obtain ⟨-, hBase, hExponent⟩ := h
  simp only [List.mem_append] at hMem
  rcases hMem with (hFront | hWritten) | hFront | hExponentMem
  · exact isNumeralChar_of_isBaseChar (hBase x hFront)
  · exact hExponent.isNumeralChar_of_mem (Or.inl hWritten)
  · exact isNumeralChar_of_isBaseChar (hBase x hFront)
  · exact hExponent.isNumeralChar_of_mem (Or.inr hExponentMem)

/-- No blank is kept. -/
theorem isBlank_eq_false {raw kept : List Char} (h : KeptAs raw kept) {x : Char}
    (hMem : x ∈ kept) : Text.isBlank x = false :=
  isBlank_of_isNumeralChar (h.isNumeralChar_of_mem (Or.inr hMem))

end KeptAs

section

variable {α : Type} {Item : List Char → α → Prop}

/-- Every item of a list has a text. -/
theorem ItemsText.exists_of_mem {raw : List Char} {items : List α} (h : ItemsText Item raw items)
    {item : α} (hMem : item ∈ items) : ∃ inner, Item inner item := by
  induction h with
  | last hFront hItem hBack =>
      obtain rfl := List.mem_singleton.mp hMem
      exact ⟨_, hItem⟩
  | cons hFront hItem hBack hRest ih =>
      rcases List.mem_cons.mp hMem with rfl | hMore
      · exact ⟨_, hItem⟩
      · exact ih hMore

theorem ArrayText.exists_of_mem {raw : List Char} {items : List α} (h : ArrayText Item raw items)
    {item : α} (hMem : item ∈ items) : ∃ inner, Item inner item := by
  cases h with
  | empty hBlanks => cases hMem
  | items hItems => exact hItems.exists_of_mem hMem

end

theorem mem_insertMember {name : String} {value : Json} {members : List (String × Json)}
    {member : String × Json} (h : member ∈ insertMember name value members) :
    member = (name, value) ∨ member ∈ members := by
  induction members with
  | nil => simpa [insertMember] using h
  | cons first rest ih =>
      rw [insertMember] at h
      split at h
      · simpa using h
      · split at h
        · rcases List.mem_cons.mp h with hNew | hRest
          · exact Or.inl hNew
          · exact Or.inr (List.mem_cons_of_mem _ hRest)
        · rcases List.mem_cons.mp h with rfl | hRest
          · exact Or.inr List.mem_cons_self
          · exact (ih hRest).imp_right (List.mem_cons_of_mem _)

theorem mem_foldl_insertMember {added members : List (String × Json)} {member : String × Json}
    (h : member ∈ added.foldl (fun all new => insertMember new.1 new.2 all) members) :
    member ∈ members ∨ member ∈ added := by
  induction added generalizing members with
  | nil => exact Or.inl h
  | cons first added ih =>
      rcases ih h with hMem | hAdded
      · rcases mem_insertMember hMem with rfl | hOld
        · exact Or.inr List.mem_cons_self
        · exact Or.inl hOld
      · exact Or.inr (List.mem_cons_of_mem _ hAdded)

/-- Every member of an object has a text. -/
theorem Written.exists_of_lookup {raw : List Char} {members : List (String × Json)}
    (h : Written raw (.object members)) {name : String} {json : Json}
    (hMember : members.lookup name = some json) : ∃ inner, Written inner json := by
  cases h with
  | emptyObject hBlanks => cases hMember
  | object hName hMembers =>
      obtain ⟨front, back, hSplit, -⟩ := List.lookup_eq_some_iff.mp hMember
      have hMem : (name, json) ∈ front ++ (name, json) :: back :=
        List.mem_append_right _ List.mem_cons_self
      rw [← hSplit] at hMem
      rcases mem_foldl_insertMember hMem with hNone | hSome
      · cases hNone
      · obtain ⟨inner, hText⟩ := hMembers.exists_of_mem hSome
        cases hText with
        | mk hName hBetween hBefore hValue => exact ⟨_, hValue⟩

end Tabular.Json

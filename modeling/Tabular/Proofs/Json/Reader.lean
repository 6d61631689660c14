import Tabular.Json.Record
import Tabular.Proofs.Json.Scanner

/-!
What is read as a value is the text of that value, by the grammar. Each reader takes a text that
stands for what it gives, with blanks before it.
-/

namespace Tabular.Json

namespace Cursor

/-- Past blanks, the reader has taken a text of which, with what it gives, `P` holds. -/
def Takes {α : Type} (P : List Char → α → Prop) (c : Cursor) (r : α × Cursor) : Prop :=
  ∃ blanks raw, Blanks blanks ∧ c.rest = blanks ++ (raw ++ r.2.rest) ∧ P raw r.1

/-- To skip blanks first makes no difference. -/
theorem Takes.of_skipBlanks {α : Type} {P : List Char → α → Prop} {c : Cursor} {r : α × Cursor}
    (h : ∃ raw, c.skipBlanks.rest = raw ++ r.2.rest ∧ P raw r.1) : Takes P c r := by
  obtain ⟨raw, hTaken, hP⟩ := h
  obtain ⟨blanks, hBlanks, hRest⟩ := c.exists_blanks
  exact ⟨blanks, raw, hBlanks, by rw [hRest, hTaken], hP⟩

theorem colon_spec {c after : Cursor} (h : c.colon = .ok after) :
    ∃ blanks, Blanks blanks ∧ c.rest = blanks ++ ':' :: after.rest := by
  obtain ⟨blanks, hBlanks, hRest⟩ := c.exists_blanks
  rw [colon] at h
  split at h
  · cases h
  · next rest hColon =>
    obtain rfl := Except.ok.inj h
    exact ⟨blanks, hBlanks, by rw [hRest, rest_next, hColon]; rfl⟩
  · cases h

theorem closeObject_spec {c after : Cursor} (h : c.closeObject = .ok after) :
    ∃ blanks, Blanks blanks ∧ c.rest = blanks ++ '\x7d' :: after.rest := by
  obtain ⟨blanks, hBlanks, hRest⟩ := c.exists_blanks
  rw [closeObject] at h
  split at h
  · cases h
  · next rest hClose =>
    obtain rfl := Except.ok.inj h
    exact ⟨blanks, hBlanks, by rw [hRest, rest_next, hClose]; rfl⟩
  · cases h
  · cases h

/-- There is no further element in front of a closing bracket. -/
theorem nextElement_false {first : Bool} {c after : Cursor}
    (h : c.nextElement first = .ok (false, after)) :
    ∃ blanks, Blanks blanks ∧ c.rest = blanks ++ ']' :: after.next.rest := by
  obtain ⟨blanks, hBlanks, hRest⟩ := c.exists_blanks
  rw [nextElement] at h
  split at h
  · cases h
  · next rest hClose =>
    obtain ⟨-, rfl⟩ := Prod.mk.inj (Except.ok.inj h)
    exact ⟨blanks, hBlanks, by rw [hRest, rest_next, hClose]; rfl⟩
  · split at h
    · cases h
    · dsimp only at h
      split at h <;> cases h
  · split at h <;> cases h

/-- The first element of an array stands behind blanks. -/
theorem nextElement_first {c after : Cursor} (h : c.nextElement true = .ok (true, after)) :
    ∃ blanks, Blanks blanks ∧ c.rest = blanks ++ after.rest := by
  obtain ⟨blanks, hBlanks, hRest⟩ := c.exists_blanks
  rw [nextElement] at h
  split at h
  · cases h
  · cases h
  · obtain ⟨-, rfl⟩ := Prod.mk.inj (Except.ok.inj h)
    exact ⟨blanks, hBlanks, hRest⟩
  · obtain ⟨-, rfl⟩ := Prod.mk.inj (Except.ok.inj h)
    exact ⟨blanks, hBlanks, hRest⟩

/-- A further element stands behind a comma. -/
theorem nextElement_more {c after : Cursor} (h : c.nextElement false = .ok (true, after)) :
    ∃ blanks front, Blanks blanks ∧ Blanks front ∧
      c.rest = blanks ++ ',' :: (front ++ after.rest) := by
  obtain ⟨blanks, hBlanks, hRest⟩ := c.exists_blanks
  rw [nextElement] at h
  split at h
  · cases h
  · cases h
  · next rest hComma =>
    obtain ⟨front, hFront, hNext⟩ := c.skipBlanks.next.exists_blanks
    split at h
    · next hFirst => cases hFirst
    · dsimp only at h
      split at h
      · cases h
      · cases h
      · obtain ⟨-, rfl⟩ := Prod.mk.inj (Except.ok.inj h)
        refine ⟨blanks, front, hBlanks, hFront, ?_⟩
        rw [← hNext, rest_next, hComma, hRest, hComma]
        rfl
  · cases h

/-- There is no further member in front of a closing brace. -/
theorem nextMember_false {first : Bool} {c after : Cursor}
    (h : c.nextMember first = .ok (false, after)) :
    ∃ blanks, Blanks blanks ∧ c.rest = blanks ++ '\x7d' :: after.next.rest := by
  obtain ⟨blanks, hBlanks, hRest⟩ := c.exists_blanks
  rw [nextMember] at h
  split at h
  · cases h
  · next rest hClose =>
    obtain ⟨-, rfl⟩ := Prod.mk.inj (Except.ok.inj h)
    exact ⟨blanks, hBlanks, by rw [hRest, rest_next, hClose]; rfl⟩
  · split at h
    · split at h <;> cases h
    · split at h
      · dsimp only at h
        split at h <;> cases h
      · cases h

/-- The first member of an object begins with a quote behind blanks. -/
theorem nextMember_first {c after : Cursor} (h : c.nextMember true = .ok (true, after)) :
    ∃ blanks, Blanks blanks ∧ c.rest = blanks ++ '"' :: after.next.rest := by
  obtain ⟨blanks, hBlanks, hRest⟩ := c.exists_blanks
  rw [nextMember] at h
  split at h
  · cases h
  · cases h
  · next x rest _ hQuote =>
    rw [if_pos rfl] at h
    split at h
    · next hEq =>
      obtain ⟨-, rfl⟩ := Prod.mk.inj (Except.ok.inj h)
      exact ⟨blanks, hBlanks, by rw [hRest, rest_next, hQuote, hEq]; rfl⟩
    · cases h

/-- A further member begins with a quote behind a comma. -/
theorem nextMember_more {c after : Cursor} (h : c.nextMember false = .ok (true, after)) :
    ∃ blanks front, Blanks blanks ∧ Blanks front ∧
      c.rest = blanks ++ ',' :: (front ++ '"' :: after.next.rest) := by
  obtain ⟨blanks, hBlanks, hRest⟩ := c.exists_blanks
  rw [nextMember] at h
  split at h
  · cases h
  · cases h
  · next x rest _ hComma =>
    obtain ⟨front, hFront, hNext⟩ := c.skipBlanks.next.exists_blanks
    split at h
    · next hFirst => cases hFirst
    · split at h
      · next hEq =>
        dsimp only at h
        split at h
        · cases h
        · next name hQuote =>
          obtain ⟨-, rfl⟩ := Prod.mk.inj (Except.ok.inj h)
          refine ⟨blanks, front, hBlanks, hFront, ?_⟩
          rw [rest_next_of_cons hComma] at hNext
          rw [hRest, hComma, hEq, hNext, rest_next, hQuote, List.tail_cons]
        · cases h
        · cases h
      · cases h

end Cursor

section

variable {α : Type} {Item : List Char → α → Prop}

/-- What may follow an item: the text that closes the list, or a comma and further items. -/
def ItemsEnd (Item : List Char → α → Prop) (closing cs : List Char) (items : List α) : Prop :=
  ∃ blanks, Blanks blanks ∧
    (cs = blanks ++ closing ∧ items = [] ∨
      ∃ inner, cs = blanks ++ ',' :: (inner ++ closing) ∧ ItemsText Item inner items)

/-- An item and what may follow it are items and the text that closes them. -/
theorem ItemsEnd.cons {closing cs front raw : List Char} {item : α} {items : List α}
    (h : ItemsEnd Item closing cs items) (hFront : Blanks front) (hItem : Item raw item) :
    ∃ inner, front ++ (raw ++ cs) = inner ++ closing ∧ ItemsText Item inner (item :: items) := by
  obtain ⟨back, hBack, ⟨rfl, rfl⟩ | ⟨inner, rfl, hItems⟩⟩ := h
  · exact ⟨front ++ (raw ++ back), by simp, .last hFront hItem hBack⟩
  · exact ⟨front ++ (raw ++ (back ++ ',' :: inner)), by simp, .cons hFront hItem hBack hItems⟩

end

namespace Cursor

section

variable {α : Type} {read : Cursor → Except Fault (α × Cursor)} {Item : List Char → α → Prop}

theorem elementsWithin_spec (hRead : ∀ c, Gives (read c) (Takes Item c)) {fuel : Nat}
    {c after : Cursor} {items : List α}
    (h : c.elementsWithin read false fuel = .ok (items, after)) :
    ItemsEnd Item (']' :: after.rest) c.rest items := by
  induction fuel generalizing c items with
  | zero => cases h
  | succ fuel ih =>
      rw [elementsWithin] at h
      obtain ⟨⟨found, place⟩, hNext, h⟩ := bind_eq_ok_iff.mp h
      cases found with
      | false =>
          obtain ⟨rfl, rfl⟩ := Prod.mk.inj (Except.ok.inj h)
          obtain ⟨blanks, hBlanks, hRest⟩ := nextElement_false hNext
          exact ⟨blanks, hBlanks, Or.inl ⟨hRest, rfl⟩⟩
      | true =>
          obtain ⟨⟨item, c₁⟩, hItem, h⟩ := bind_eq_ok_iff.mp h
          obtain ⟨⟨others, c₂⟩, hOthers, hPair⟩ := bind_eq_ok_iff.mp h
          obtain ⟨rfl, rfl⟩ := Prod.mk.inj (Except.ok.inj hPair)
          obtain ⟨blanks, front, hBlanks, hFront, hRest⟩ := nextElement_more hNext
          obtain ⟨more, raw, hMore, hTaken, hRaw⟩ := hRead _ _ hItem
          obtain ⟨inner, hInner, hItems⟩ := (ih hOthers).cons (hFront.append hMore) hRaw
          refine ⟨blanks, hBlanks, Or.inr ⟨inner, ?_, hItems⟩⟩
          rw [hRest, hTaken, ← hInner, List.append_assoc]

/-- The elements of an array with its brackets. -/
theorem elements_spec (hRead : ∀ c, Gives (read c) (Takes Item c)) {c after : Cursor}
    {items : List α} (h : c.elements read = .ok (items, after)) :
    ∃ raw, '[' :: c.rest = raw ++ after.rest ∧ ArrayText Item raw items := by
  rw [elements, elementsWithin] at h
  obtain ⟨⟨found, place⟩, hNext, h⟩ := bind_eq_ok_iff.mp h
  cases found with
  | false =>
      obtain ⟨rfl, rfl⟩ := Prod.mk.inj (Except.ok.inj h)
      obtain ⟨blanks, hBlanks, hRest⟩ := nextElement_false hNext
      exact ⟨_, by rw [hRest]; simp, .empty hBlanks⟩
  | true =>
      obtain ⟨⟨item, c₁⟩, hItem, h⟩ := bind_eq_ok_iff.mp h
      obtain ⟨⟨others, c₂⟩, hOthers, hPair⟩ := bind_eq_ok_iff.mp h
      obtain ⟨rfl, rfl⟩ := Prod.mk.inj (Except.ok.inj hPair)
      obtain ⟨front, hFront, hRest⟩ := nextElement_first hNext
      obtain ⟨more, raw, hMore, hTaken, hRaw⟩ := hRead _ _ hItem
      obtain ⟨inner, hInner, hItems⟩ :=
        (elementsWithin_spec hRead hOthers).cons (hFront.append hMore) hRaw
      refine ⟨_, ?_, .items hItems⟩
      rw [hRest, hTaken, ← List.append_assoc, hInner]
      simp

theorem gives_array (hRead : ∀ c, Gives (read c) (Takes Item c)) (c : Cursor) :
    Gives (c.array read) (Takes (ArrayText Item) c) := by
  intro ⟨items, after⟩ h
  rw [array] at h
  split at h
  · next rest hOpen =>
    obtain ⟨raw, hTaken, hArray⟩ := elements_spec hRead h
    refine .of_skipBlanks ⟨raw, ?_, hArray⟩
    rw [← hTaken, rest_next, hOpen, List.tail_cons]
  · cases h

end

/-- A number that is spelled in a string is kept as any other. -/
theorem numberString_spec {c after : Cursor} {kept : List Char}
    (h : c.numberString = .ok (kept, after)) :
    ∃ blanks raw digits, Blanks blanks ∧ c.rest = blanks ++ '"' :: (raw ++ '"' :: after.rest) ∧
      StringText raw digits ∧ KeptAs digits kept := by
  obtain ⟨blanks, hBlanks, hRest⟩ := c.exists_blanks
  rw [numberString] at h
  split at h
  · next rest hQuote =>
    obtain ⟨⟨text, c₁⟩, hText, h⟩ := bind_eq_ok_iff.mp h
    obtain ⟨literal, hLiteral, hPair⟩ := bind_eq_ok_iff.mp h
    obtain ⟨rfl, rfl⟩ := Prod.mk.inj (Except.ok.inj hPair)
    obtain ⟨raw, hTaken, hString⟩ := stringRest_spec hText
    rw [rest_next_of_cons hQuote] at hTaken
    refine ⟨blanks, raw, text.toList, hBlanks, by rw [hRest, hQuote, hTaken], hString, ?_⟩
    rw [onlyNumber] at hLiteral
    split at hLiteral
    · cases hLiteral
    · split at hLiteral
      · obtain ⟨⟨number, c₂⟩, hNumber, hEnd⟩ := bind_eq_ok_iff.mp hLiteral
        dsimp only at hEnd
        split at hEnd
        · next hNone =>
          obtain rfl := Except.ok.inj hEnd
          obtain ⟨digits, hDigits, -, hKept⟩ := numberReaching_spec hNumber
          rw [List.isEmpty_iff.mp hNone, List.append_nil] at hDigits
          rwa [show text.toList = digits from hDigits]
        · cases hEnd
      · cases hLiteral
  · cases h

section

variable {read : Cursor → Except Fault (Json × Cursor)}

/-- A name, a colon and a value are a member. -/
theorem member_spec (hRead : ∀ c, Gives (read c) (Takes Written c)) {c c₁ c₂ after : Cursor}
    {name : String} {value : Json} (hName : c.stringRest = .ok (name, c₁))
    (hColon : c₁.colon = .ok c₂) (hValue : read c₂ = .ok (value, after)) :
    ∃ raw, '"' :: c.rest = raw ++ after.rest ∧ MemberText Written raw (name, value) := by
  obtain ⟨rawName, hNameTaken, hString⟩ := stringRest_spec hName
  obtain ⟨between, hBetween, hColonTaken⟩ := colon_spec hColon
  obtain ⟨before, raw, hBefore, hTaken, hWritten⟩ := hRead _ _ hValue
  refine ⟨_, ?_, .mk hString hBetween hBefore hWritten⟩
  rw [hNameTaken, hColonTaken, hTaken]
  simp

theorem membersWithin_spec (hRead : ∀ c, Gives (read c) (Takes Written c)) {fuel : Nat}
    {c after : Cursor} {members all : List (String × Json)}
    (h : c.membersWithin read fuel members = .ok (all, after)) :
    ∃ more, ItemsEnd (MemberText Written) ('\x7d' :: after.rest) c.rest more ∧
      all = more.foldl (fun all member => insertMember member.1 member.2 all) members := by
  induction fuel generalizing c members with
  | zero => cases h
  | succ fuel ih =>
      rw [membersWithin] at h
      obtain ⟨⟨found, place⟩, hNext, h⟩ := bind_eq_ok_iff.mp h
      cases found with
      | false =>
          obtain ⟨rfl, rfl⟩ := Prod.mk.inj (Except.ok.inj h)
          obtain ⟨blanks, hBlanks, hRest⟩ := nextMember_false hNext
          exact ⟨[], ⟨blanks, hBlanks, Or.inl ⟨hRest, rfl⟩⟩, rfl⟩
      | true =>
          obtain ⟨⟨name, c₁⟩, hName, h⟩ := bind_eq_ok_iff.mp h
          obtain ⟨c₂, hColon, h⟩ := bind_eq_ok_iff.mp h
          obtain ⟨⟨value, c₃⟩, hValue, hOthers⟩ := bind_eq_ok_iff.mp h
          obtain ⟨blanks, front, hBlanks, hFront, hRest⟩ := nextMember_more hNext
          obtain ⟨raw, hTaken, hMember⟩ := member_spec hRead hName hColon hValue
          obtain ⟨more, hEnd, rfl⟩ := ih hOthers
          obtain ⟨inner, hInner, hItems⟩ := hEnd.cons hFront hMember
          refine ⟨(name, value) :: more, ⟨blanks, hBlanks, Or.inr ⟨inner, ?_, hItems⟩⟩, rfl⟩
          rw [hRest, hTaken, hInner]

/-- The members of an object with its braces. -/
theorem object_spec (hRead : ∀ c, Gives (read c) (Takes Written c)) {c after : Cursor}
    {json : Json} (h : c.object read = .ok (json, after)) :
    ∃ raw, '\x7b' :: c.rest = raw ++ after.rest ∧ Written raw json := by
  rw [object] at h
  obtain ⟨⟨found, place⟩, hNext, h⟩ := bind_eq_ok_iff.mp h
  cases found with
  | false =>
      obtain ⟨rfl, rfl⟩ := Prod.mk.inj (Except.ok.inj h)
      obtain ⟨blanks, hBlanks, hRest⟩ := nextMember_false hNext
      exact ⟨_, by rw [hRest]; simp, .emptyObject hBlanks⟩
  | true =>
      obtain ⟨⟨name, c₁⟩, hName, h⟩ := bind_eq_ok_iff.mp h
      obtain ⟨c₂, hColon, h⟩ := bind_eq_ok_iff.mp h
      obtain ⟨front, hFront, hRest⟩ := nextMember_first hNext
      dsimp only at h
      split at h
      · next hNumber =>
        obtain ⟨⟨literal, c₃⟩, hLiteral, h⟩ := bind_eq_ok_iff.mp h
        obtain ⟨c₄, hClose, hPair⟩ := bind_eq_ok_iff.mp h
        obtain ⟨rfl, rfl⟩ := Prod.mk.inj (Except.ok.inj hPair)
        obtain ⟨rawName, hNameTaken, hString⟩ := stringRest_spec hName
        obtain ⟨between, hBetween, hColonTaken⟩ := colon_spec hColon
        obtain ⟨before, rawDigits, digits, hBefore, hTaken, hDigits, hKept⟩ :=
          numberString_spec hLiteral
        obtain ⟨back, hBack, hCloseTaken⟩ := closeObject_spec hClose
        rw [hNumber] at hString
        refine ⟨_, ?_, .numberObject hFront hString hBetween hBefore hDigits hBack
          (by rwa [String.toList_ofList])⟩
        rw [hRest, hNameTaken, hColonTaken, hTaken, hCloseTaken]
        simp
      · next hOther =>
        obtain ⟨⟨value, c₃⟩, hValue, h⟩ := bind_eq_ok_iff.mp h
        obtain ⟨⟨members, c₄⟩, hMembers, hPair⟩ := bind_eq_ok_iff.mp h
        obtain ⟨rfl, rfl⟩ := Prod.mk.inj (Except.ok.inj hPair)
        obtain ⟨raw, hTaken, hMember⟩ := member_spec hRead hName hColon hValue
        obtain ⟨more, hEnd, rfl⟩ := membersWithin_spec hRead hMembers
        obtain ⟨inner, hInner, hItems⟩ := hEnd.cons hFront hMember
        refine ⟨_, ?_, .object hOther hItems⟩
        rw [hRest, hTaken, hInner]
        simp

end

/-- A value is read by its first character. Only arrays and objects hold further values, which are
nested less deep. -/
theorem gives_value_of_deeper {depth : Nat}
    (hDeeper : ∀ less, depth = less + 1 → ∀ c, Gives (value less c) (Takes Written c))
    (c : Cursor) : Gives (c.value depth) (Takes Written c) := by
  intro ⟨json, after⟩ h
  apply Takes.of_skipBlanks
  rw [value.eq_def] at h
  dsimp only at h
  split at h
  · cases h
  · next x rest hRest =>
    have hNext : c.skipBlanks.rest = x :: c.skipBlanks.next.rest := by
      rw [rest_next, hRest, List.tail_cons]
    split at h
    · next hFirst =>
      obtain ⟨place, hWord, hPair⟩ := bind_eq_ok_iff.mp h
      obtain ⟨rfl, rfl⟩ := Prod.mk.inj (Except.ok.inj hPair)
      exact ⟨_, by rw [hNext, hFirst, word_spec hWord]; rfl, .null⟩
    · split at h
      · next hFirst =>
        obtain ⟨place, hWord, hPair⟩ := bind_eq_ok_iff.mp h
        obtain ⟨rfl, rfl⟩ := Prod.mk.inj (Except.ok.inj hPair)
        exact ⟨_, by rw [hNext, hFirst, word_spec hWord]; rfl, .true⟩
      · split at h
        · next hFirst =>
          obtain ⟨place, hWord, hPair⟩ := bind_eq_ok_iff.mp h
          obtain ⟨rfl, rfl⟩ := Prod.mk.inj (Except.ok.inj hPair)
          exact ⟨_, by rw [hNext, hFirst, word_spec hWord]; rfl, .false⟩
        · split at h
          · obtain ⟨⟨literal, place⟩, hLiteral, hPair⟩ := bind_eq_ok_iff.mp h
            obtain ⟨rfl, rfl⟩ := Prod.mk.inj (Except.ok.inj hPair)
            obtain ⟨raw, hTaken, -, hKept⟩ := numberReaching_spec hLiteral
            exact ⟨raw, hTaken, .number (by rwa [String.toList_ofList])⟩
          · split at h
            · next hQuote =>
              obtain ⟨⟨text, place⟩, hText, hPair⟩ := bind_eq_ok_iff.mp h
              obtain ⟨rfl, rfl⟩ := Prod.mk.inj (Except.ok.inj hPair)
              obtain ⟨raw, hTaken, hString⟩ := stringRest_spec hText
              refine ⟨_, ?_, .string hString⟩
              rw [hNext, hQuote, hTaken]
              simp
            · split at h
              · next hOpen =>
                split at h
                · cases h
                · next less =>
                  have hRead := hDeeper less rfl
                  split at h
                  · next hBracket =>
                    obtain ⟨⟨elements, place⟩, hElements, hPair⟩ := bind_eq_ok_iff.mp h
                    obtain ⟨rfl, rfl⟩ := Prod.mk.inj (Except.ok.inj hPair)
                    obtain ⟨raw, hTaken, hArray⟩ := elements_spec hRead hElements
                    exact ⟨raw, by rw [hNext, hBracket, hTaken], .array hArray⟩
                  · next hNoBracket =>
                    obtain ⟨raw, hTaken, hObject⟩ := object_spec hRead h
                    exact ⟨raw, by rw [hNext, hOpen.resolve_left hNoBracket, hTaken], hObject⟩
              · cases h

/-- What is read as a value is its text by the grammar, however deep it is. -/
theorem gives_value (depth : Nat) (c : Cursor) : Gives (c.value depth) (Takes Written c) := by
  induction depth generalizing c with
  | zero => exact gives_value_of_deeper (fun less hLess => absurd hLess (by simp)) c
  | succ depth ih =>
      refine gives_value_of_deeper (fun less hLess => ?_) c
      obtain rfl := Nat.succ.inj hLess
      exact ih

end Cursor

end Tabular.Json

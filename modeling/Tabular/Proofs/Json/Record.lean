import Tabular.Proofs.Json.Reader

/-!
Reading records, and passing over what a record does not ask for. The second field of a record is
read from a text that stands somewhere in that of the record.
-/

namespace Tabular.Json

namespace Cursor

/-- What is left of the text at the place is the end of what was left at the other. -/
def Ends (after c : Cursor) : Prop :=
  after.rest <:+ c.rest

theorem Ends.refl (c : Cursor) : c.Ends c :=
  List.suffix_rfl

theorem Ends.trans {a b c : Cursor} (hLeft : a.Ends b) (hRight : b.Ends c) : a.Ends c :=
  List.IsSuffix.trans hLeft hRight

theorem ends_of_append {after c : Cursor} (taken : List Char) (h : c.rest = taken ++ after.rest) :
    after.Ends c :=
  ⟨taken, h.symm⟩

theorem next_ends (c : Cursor) : c.next.Ends c := by
  rw [Ends, rest_next]
  exact List.tail_suffix c.rest

theorem skipBlanks_ends (c : Cursor) : c.skipBlanks.Ends c := by
  obtain ⟨blanks, -, hRest⟩ := c.exists_blanks
  exact ends_of_append _ hRest

theorem Takes.ends {α : Type} {P : List Char → α → Prop} {c : Cursor} {r : α × Cursor}
    (h : Takes P c r) : r.2.Ends c := by
  obtain ⟨blanks, raw, -, hRest, -⟩ := h
  exact ends_of_append (blanks ++ raw) (by rw [hRest, List.append_assoc])

theorem takes_of_ends {α : Type} {c : Cursor} {r : α × Cursor} (h : r.2.Ends c) :
    Takes (fun _ _ => True) c r := by
  obtain ⟨taken, hRest⟩ := h
  exact ⟨[], taken, Blanks.nil, hRest.symm, trivial⟩

theorem gives_word (letters : List Char) (c : Cursor) :
    Gives (c.word letters) fun after => after.Ends c :=
  fun _ h => ends_of_append _ (word_spec h)

theorem gives_colon (c : Cursor) : Gives c.colon fun after => after.Ends c := by
  intro after h
  obtain ⟨blanks, -, hRest⟩ := colon_spec h
  exact ends_of_append (blanks ++ [':']) (by rw [hRest]; simp)

theorem gives_stringRest (c : Cursor) : Gives c.stringRest fun r => r.2.Ends c := by
  intro ⟨text, after⟩ h
  obtain ⟨raw, hRest, -⟩ := stringRest_spec h
  exact ends_of_append (raw ++ ['"']) (by rw [hRest]; simp)

theorem gives_string (c : Cursor) : Gives c.string fun r => r.2.Ends c := by
  rw [string]
  split
  · exact fun r h => ((gives_stringRest _ r h).trans (next_ends _)).trans (skipBlanks_ends c)
  · exact gives_error _

theorem gives_hexUnit (c : Cursor) : Gives c.hexUnit fun r => r.2.Ends c := by
  intro ⟨unit, after⟩ h
  obtain ⟨digits, hRest, -⟩ := hexUnit_spec h
  exact ends_of_append _ hRest

theorem gives_skipEscape (c : Cursor) : Gives c.skipEscape fun after => after.Ends c := by
  rw [skipEscape]
  split
  · exact gives_error _
  · split
    · intro after h
      cases hUnit : c.next.hexUnit with
      | error fault =>
          rw [hUnit] at h
          cases h
      | ok r =>
          rw [hUnit] at h
          obtain rfl := Except.ok.inj h
          exact (gives_hexUnit _ r hUnit).trans (next_ends c)
    · split
      · exact gives_ok (next_ends c)
      · exact gives_error _

theorem gives_skipStringWithin (fuel : Nat) (c : Cursor) :
    Gives (skipStringWithin fuel c) fun after => after.Ends c := by
  induction fuel generalizing c with
  | zero => exact gives_error _
  | succ fuel ih =>
      rw [skipStringWithin]
      split
      · exact gives_error _
      · exact gives_ok (next_ends c)
      · refine gives_bind fun place hEscape after h => ?_
        exact ((ih place after h).trans (gives_skipEscape _ _ hEscape)).trans (next_ends c)
      · split
        · exact gives_error _
        · exact fun after h => (ih c.next after h).trans (next_ends c)

theorem gives_skipNumber (c : Cursor) : Gives c.skipNumber fun after => after.Ends c := by
  rw [skipNumber]
  split
  · next literal place hNumber =>
    obtain ⟨raw, hRest, -⟩ := numberReaching_spec hNumber
    exact gives_ok (ends_of_append _ hRest)
  · split
    · exact gives_error _
    · exact gives_error _

theorem gives_skipScalar (x : Char) (c : Cursor) :
    Gives (c.skipScalar x) fun after => after.Ends c := by
  have hWord (letters : List Char) : Gives (c.next.word letters) fun after => after.Ends c :=
    fun after h => (gives_word letters _ after h).trans (next_ends c)
  rw [skipScalar]
  split
  · exact hWord _
  · split
    · exact hWord _
    · split
      · exact hWord _
      · split
        · exact gives_skipNumber c
        · split
          · exact fun after h => (gives_skipStringWithin _ _ after h).trans (next_ends c)
          · exact gives_error _

theorem gives_skipName (c : Cursor) : Gives c.skipName fun after => after.Ends c := by
  rw [skipName]
  split
  · exact gives_error _
  · refine gives_bind fun place hName after h => ?_
    have hString := (gives_skipStringWithin _ _ _ hName).trans (next_ends _)
    exact ((gives_colon _ after h).trans hString).trans (skipBlanks_ends c)
  · exact gives_error _

section

variable {fuel : Nat}
  (hBetween : ∀ (comma : Bool) (enclosing : List Bracket) (c : Cursor),
    Gives (skipBetween fuel comma enclosing c) fun after => after.Ends c)

include hBetween

theorem gives_skipWithin_succ (enclosing : List Bracket) (c : Cursor) :
    Gives (skipWithin (fuel + 1) enclosing c) fun after => after.Ends c := by
  have hOpen (bracket : Bracket) :
      Gives (skipBetween fuel false (bracket :: enclosing) c.skipBlanks.next)
        fun after => after.Ends c :=
    fun after h => ((hBetween _ _ _ after h).trans (next_ends _)).trans (skipBlanks_ends c)
  rw [skipWithin]
  split
  · exact gives_error _
  · exact hOpen .square
  · exact hOpen .brace
  · refine gives_bind fun place hScalar after h => ?_
    exact ((hBetween _ _ _ after h).trans (gives_skipScalar _ _ _ hScalar)).trans
      (skipBlanks_ends c)

theorem gives_skipBetween_succ
    (hWithin : ∀ (enclosing : List Bracket) (c : Cursor),
      Gives (skipWithin fuel enclosing c) fun after => after.Ends c)
    (comma : Bool) (enclosing : List Bracket) (c : Cursor) :
    Gives (skipBetween (fuel + 1) comma enclosing c) fun after => after.Ends c := by
  cases enclosing with
  | nil =>
      rw [skipBetween]
      exact gives_ok (Ends.refl c)
  | cons bracket enclosing =>
      have hElement (bracket : Bracket) (place : Cursor) (hPlace : place.Ends c) :
          Gives (skipWithin fuel (bracket :: enclosing) place) fun after => after.Ends c :=
        fun after h => (hWithin _ _ after h).trans hPlace
      have hMember (bracket : Bracket) (place : Cursor) (hPlace : place.Ends c) :
          Gives (place.skipName >>= skipWithin fuel (bracket :: enclosing))
            fun after => after.Ends c :=
        gives_bind fun named hName =>
          hElement bracket named ((gives_skipName _ _ hName).trans hPlace)
      have hNext : c.skipBlanks.next.Ends c := (next_ends _).trans (skipBlanks_ends c)
      rw [skipBetween.eq_def]
      dsimp only
      split
      · exact gives_error _
      · split
        · split
          · exact hElement _ _ hNext
          · exact hMember _ _ hNext
        · split
          · exact fun after h => (hBetween _ _ _ after h).trans hNext
          · split
            · exact gives_error _
            · split
              · exact hElement _ _ (skipBlanks_ends c)
              · exact hMember _ _ (skipBlanks_ends c)

end

/-- To pass over a value, or over what stands between two, only takes from the front, however the
brackets are nested. -/
theorem gives_skip (fuel : Nat) :
    (∀ (enclosing : List Bracket) (c : Cursor),
      Gives (skipWithin fuel enclosing c) fun after => after.Ends c) ∧
    ∀ (comma : Bool) (enclosing : List Bracket) (c : Cursor),
      Gives (skipBetween fuel comma enclosing c) fun after => after.Ends c := by
  induction fuel with
  | zero =>
      refine ⟨fun enclosing c => by rw [skipWithin]; exact gives_error _, ?_⟩
      intro comma enclosing c
      rw [skipBetween.eq_def]
      cases enclosing with
      | nil => exact gives_ok (Ends.refl c)
      | cons bracket enclosing => exact gives_error _
  | succ fuel ih =>
      obtain ⟨hWithin, hBetween⟩ := ih
      exact ⟨gives_skipWithin_succ hBetween, gives_skipBetween_succ hBetween hWithin⟩

theorem gives_skipValue (c : Cursor) : Gives c.skipValue fun after => after.Ends c :=
  (gives_skip _).1 [] c

theorem nextElement_ends {first found : Bool} {c after : Cursor}
    (h : c.nextElement first = .ok (found, after)) :
    after.next.Ends c ∧ (found = true → after.Ends c) := by
  cases found with
  | false =>
      obtain ⟨blanks, -, hRest⟩ := nextElement_false h
      exact ⟨ends_of_append (blanks ++ [']']) (by rw [hRest]; simp), nofun⟩
  | true =>
      have hEnds : after.Ends c := by
        cases first with
        | true =>
            obtain ⟨blanks, -, hRest⟩ := nextElement_first h
            exact ends_of_append _ hRest
        | false =>
            obtain ⟨blanks, front, -, -, hRest⟩ := nextElement_more h
            exact ends_of_append (blanks ++ ',' :: front) (by rw [hRest]; simp)
      exact ⟨(next_ends after).trans hEnds, fun _ => hEnds⟩

theorem nextMember_ends {first found : Bool} {c after : Cursor}
    (h : c.nextMember first = .ok (found, after)) : after.next.Ends c := by
  cases found with
  | false =>
      obtain ⟨blanks, -, hRest⟩ := nextMember_false h
      exact ends_of_append (blanks ++ ['\x7d']) (by rw [hRest]; simp)
  | true =>
      cases first with
      | true =>
          obtain ⟨blanks, -, hRest⟩ := nextMember_first h
          exact ends_of_append (blanks ++ ['"']) (by rw [hRest]; simp)
      | false =>
          obtain ⟨blanks, front, -, -, hRest⟩ := nextMember_more h
          exact ends_of_append (blanks ++ ',' :: (front ++ ['"'])) (by rw [hRest]; simp)

theorem gives_closeArray (c : Cursor) : Gives c.closeArray fun after => after.Ends c := by
  rw [closeArray]
  split
  · exact gives_error _
  · exact gives_ok ((next_ends _).trans (skipBlanks_ends c))
  · exact gives_error _
  · exact gives_error _

end Cursor

namespace RecordShape

variable {α β : Type} {shape : RecordShape α β} {Item : List Char → β → Prop}

/-- The field is what it is when it is missing, or it was read from a text that stands behind the
place. -/
def SecondFrom (shape : RecordShape α β) (Item : List Char → β → Prop) (start : Cursor)
    (second : β) : Prop :=
  shape.absent = some second ∨ ∃ raw, raw <:+: start.rest ∧ Item raw second

theorem secondFrom_of_takes {start c : Cursor} {r : β × Cursor} (h : Cursor.Takes Item c r)
    (hEnds : c.Ends start) : shape.SecondFrom Item start r.1 := by
  obtain ⟨blanks, raw, -, hRest, hItem⟩ := h
  have hInfix : raw <:+: c.rest := ⟨blanks, r.2.rest, by rw [hRest, List.append_assoc]⟩
  exact Or.inr ⟨raw, hInfix.trans hEnds.isInfix, hItem⟩

variable (hFirst : ∀ c, Gives (shape.first c) fun r => r.2.Ends c)
  (hSecond : ∀ c, Gives (shape.second c) (Cursor.Takes Item c))

include hFirst hSecond

theorem gives_readArray (c : Cursor) :
    Gives (shape.readArray c) fun r => r.2.Ends c ∧ shape.SecondFrom Item c r.1.2 := by
  rw [readArray]
  refine gives_bind fun ⟨found, c₁⟩ hNext => ?_
  cases found with
  | false => exact gives_error _
  | true =>
      have hEnds₁ : c₁.Ends c := (Cursor.nextElement_ends hNext).2 rfl
      refine gives_bind fun ⟨first, c₂⟩ hRead => ?_
      have hEnds₂ : c₂.Ends c := (hFirst _ _ hRead).trans hEnds₁
      refine gives_bind fun ⟨more, c₃⟩ hMore => ?_
      cases more with
      | true =>
          have hEnds₃ : c₃.Ends c := ((Cursor.nextElement_ends hMore).2 rfl).trans hEnds₂
          refine gives_bind fun ⟨second, c₄⟩ hReadSecond => ?_
          have hTakes := hSecond _ _ hReadSecond
          refine gives_bind fun c₅ hClose => gives_ok ⟨?_, secondFrom_of_takes hTakes hEnds₃⟩
          exact ((Cursor.gives_closeArray _ _ hClose).trans hTakes.ends).trans hEnds₃
      | false =>
          dsimp only
          split
          · next second hMissing =>
            exact gives_ok ⟨(Cursor.nextElement_ends hMore).1.trans hEnds₂, Or.inl hMissing⟩
          · exact gives_error _

theorem gives_readMembers {start : Cursor} {fuel : Nat} (first? : Option α) {second? : Option β}
    (hKnown : ∀ second ∈ second?, shape.SecondFrom Item start second) (isFirst : Bool) {c : Cursor}
    (hEnds : c.Ends start) :
    Gives (shape.readMembers first? second? isFirst fuel c) fun r =>
      r.2.Ends start ∧ shape.SecondFrom Item start r.1.2 := by
  induction fuel generalizing first? second? isFirst c with
  | zero => exact gives_error _
  | succ fuel ih =>
      rw [readMembers]
      refine gives_bind fun ⟨found, c₁⟩ hNext => ?_
      have hEnds₁ : c₁.next.Ends start := (Cursor.nextMember_ends hNext).trans hEnds
      cases found with
      | false =>
          dsimp only
          split
          · next first second hSome =>
            refine gives_ok ⟨hEnds₁, ?_⟩
            rcases Option.or_eq_some_iff.mp hSome with hOld | ⟨-, hMissing⟩
            · exact hKnown second hOld
            · exact Or.inl hMissing
          · exact gives_error _
          · exact gives_error _
      | true =>
          refine gives_bind fun ⟨name, c₂⟩ hName => ?_
          have hEnds₂ : c₂.Ends start := (Cursor.gives_stringRest _ _ hName).trans hEnds₁
          dsimp only
          split
          · split
            · exact gives_error _
            · refine gives_bind fun c₃ hColon => ?_
              refine gives_bind fun ⟨first, c₄⟩ hRead => ih _ hKnown _ ?_
              exact ((hFirst _ _ hRead).trans (Cursor.gives_colon _ _ hColon)).trans hEnds₂
          · split
            · split
              · exact gives_error _
              · refine gives_bind fun c₃ hColon => ?_
                have hEnds₃ := (Cursor.gives_colon _ _ hColon).trans hEnds₂
                refine gives_bind fun ⟨second, c₄⟩ hRead => ?_
                have hTakes := hSecond _ _ hRead
                refine ih _ (fun other hOther => ?_) _ (hTakes.ends.trans hEnds₃)
                obtain rfl := Option.some.inj hOther
                exact secondFrom_of_takes hTakes hEnds₃
            · refine gives_bind fun c₃ hColon => ?_
              refine gives_bind fun c₄ hSkip => ih _ hKnown _ ?_
              exact ((Cursor.gives_skipValue _ _ hSkip).trans
                (Cursor.gives_colon _ _ hColon)).trans hEnds₂

/-- Whether it is written as an array or as an object, with its fields in either order and others
beside them: the second field of a record is read from a text that stands in the record. -/
theorem gives_read (c : Cursor) :
    Gives (shape.read c) fun r => r.2.Ends c ∧ shape.SecondFrom Item c r.1.2 := by
  have hStart : c.skipBlanks.next.Ends c := (Cursor.next_ends _).trans (Cursor.skipBlanks_ends c)
  rw [read]
  split
  · intro r h
    obtain ⟨hEnds, hSecondFrom⟩ := gives_readArray hFirst hSecond _ r h
    refine ⟨hEnds.trans hStart, hSecondFrom.imp_right ?_⟩
    rintro ⟨raw, hInfix, hItem⟩
    exact ⟨raw, hInfix.trans hStart.isInfix, hItem⟩
  · exact gives_readMembers hFirst hSecond none (by simp) true hStart
  · exact gives_error _

end RecordShape

end Tabular.Json

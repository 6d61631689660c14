import Mathlib
import Tabular.Error

/-!
Outcomes read backwards: what their parts must have been if they are a value, and which part failed
first if they are an error.
-/

namespace Tabular

variable {ε α β : Type}

theorem ok_bind (a : α) (next : α → Except ε β) : (.ok a : Except ε α) >>= next = next a :=
  rfl

theorem bind_eq_ok_iff {outcome : Except ε α} {next : α → Except ε β} {b : β} :
    outcome >>= next = .ok b ↔ ∃ a, outcome = .ok a ∧ next a = .ok b := by
  cases outcome with
  | error e => simp [bind, Except.bind]
  | ok a => simp [bind, Except.bind]

theorem bind_eq_error_iff {outcome : Except ε α} {next : α → Except ε β} {e : ε} :
    outcome >>= next = .error e ↔
      outcome = .error e ∨ ∃ a, outcome = .ok a ∧ next a = .error e := by
  cases outcome with
  | error other => simp [bind, Except.bind]
  | ok a => simp [bind, Except.bind]

/-- To go on with the value changes no error. -/
theorem bind_ok_eq_error_iff {outcome : Except ε α} {f : α → β} {e : ε} :
    (do .ok (f (← outcome))) = (.error e : Except ε β) ↔ outcome = .error e := by
  cases outcome with
  | error other => simp [bind, Except.bind]
  | ok a => simp [bind, Except.bind]

/-- What follows a check is reached if the check passes. -/
theorem check_bind_eq_ok_iff {check : Except ε Unit} {next : Unit → Except ε β} {b : β} :
    check >>= next = .ok b ↔ check = .ok () ∧ next () = .ok b := by
  rw [bind_eq_ok_iff]
  constructor
  · rintro ⟨⟨⟩, h⟩
    exact h
  · intro h
    exact ⟨(), h⟩

/-- A list is converted if each of its elements is. -/
theorem mapM_eq_ok_iff {convert : α → Except ε β} {as : List α} {bs : List β} :
    as.mapM convert = .ok bs ↔ List.Forall₂ (fun a b => convert a = .ok b) as bs := by
  induction as generalizing bs with
  | nil => cases bs <;> simp [pure, Except.pure]
  | cons a as ih =>
      rw [List.mapM_cons, bind_eq_ok_iff]
      simp only [bind_eq_ok_iff, ih, pure, Except.pure, Except.ok.injEq]
      constructor
      · rintro ⟨b, hHead, bs', hTail, rfl⟩
        exact .cons hHead hTail
      · intro h
        cases h with
        | cons hHead hTail => exact ⟨_, hHead, _, hTail, rfl⟩

/-- Two lists are converted alike if their elements are, one after the other. -/
theorem mapM_eq_mapM_of_forall₂ {γ : Type} {convert : α → Except ε γ} {other : β → Except ε γ}
    {as : List α} {bs : List β} (h : List.Forall₂ (fun a b => convert a = other b) as bs) :
    as.mapM convert = bs.mapM other := by
  induction h with
  | nil => rfl
  | cons hHead hTail ih => rw [List.mapM_cons, List.mapM_cons, hHead, ih]

theorem atCell_eq_ok_iff {row column : Nat} {outcome : Except Error α} {a : α} :
    atCell row column outcome = .ok a ↔ outcome = .ok a := by
  cases outcome with
  | error e => simp
  | ok b => simp

theorem atCell_eq_error_iff {row column : Nat} {outcome : Except Error α} {e : Error} :
    atCell row column outcome = .error e ↔
      ∃ raw, outcome = .error raw ∧ e = raw.at ⟨row, column⟩ := by
  cases outcome with
  | error raw => simp [eq_comm]
  | ok a => simp

/-- Of the steps for the elements of a list, counted from `index`, the one at this place is the
first that fails. -/
structure FailsAt (step : Nat → α → Except ε β) (index : Nat) (as : List α) (place : Nat)
    (e : ε) : Prop where
  fails : ∃ a, as[place]? = some a ∧ step (index + place) a = .error e
  first : ∀ earlier < place, ∀ a, as[earlier]? = some a → ∃ b, step (index + earlier) a = .ok b

theorem not_failsAt_nil {step : Nat → α → Except ε β} {index place : Nat} {e : ε} :
    ¬ FailsAt step index [] place e := by
  rintro ⟨⟨a, hAt, -⟩, -⟩
  cases hAt

/-- The steps for a list fail with its first element or, if that passes, with one behind it. -/
theorem exists_failsAt_cons_iff {step : Nat → α → Except ε β} {index : Nat} {a : α} {as : List α}
    {e : ε} :
    (∃ place, FailsAt step index (a :: as) place e) ↔
      step index a = .error e ∨
        ∃ b, step index a = .ok b ∧ ∃ place, FailsAt step (index + 1) as place e := by
  have hShift (k : Nat) : index + 1 + k = index + (k + 1) := by omega
  constructor
  · rintro ⟨place, ⟨c, hAt, hFails⟩, hFirst⟩
    cases place with
    | zero =>
        obtain rfl : a = c := by simpa using hAt
        exact Or.inl hFails
    | succ place =>
        refine Or.inr ?_
        obtain ⟨b, hPasses⟩ := hFirst 0 (Nat.succ_pos place) a rfl
        refine ⟨b, hPasses, place, ⟨c, by simpa using hAt, (hShift place).symm ▸ hFails⟩, ?_⟩
        intro earlier hEarlier d hd
        rw [hShift]
        exact hFirst (earlier + 1) (Nat.succ_lt_succ hEarlier) d (by simpa using hd)
  · rintro (hFails | ⟨b, hPasses, place, ⟨c, hAt, hFails⟩, hFirst⟩)
    · exact ⟨0, ⟨a, rfl, hFails⟩, fun _ hEarlier => absurd hEarlier (Nat.not_lt_zero _)⟩
    · refine ⟨place + 1, ⟨c, by simpa using hAt, hShift place ▸ hFails⟩, ?_⟩
      intro earlier hEarlier d hd
      cases earlier with
      | zero =>
          obtain rfl : a = d := by simpa using hd
          exact ⟨b, hPasses⟩
      | succ earlier =>
          rw [← hShift]
          exact hFirst earlier (Nat.lt_of_succ_lt_succ hEarlier) d (by simpa using hd)

/-- A list is refused for the first of its elements that is. -/
theorem mapM_eq_error_iff {convert : α → Except ε β} {index : Nat} {as : List α} {e : ε} :
    as.mapM convert = .error e ↔ ∃ place, FailsAt (fun _ => convert) index as place e := by
  induction as generalizing index with
  | nil => simp [not_failsAt_nil, pure, Except.pure]
  | cons a as ih =>
      rw [List.mapM_cons, bind_eq_error_iff, exists_failsAt_cons_iff, ← ih]
      simp only [bind_eq_error_iff, pure, Except.pure, reduceCtorEq, and_false, exists_false,
        or_false]

/-- If the outcome is a value, then one that satisfies `P`. -/
def Gives (outcome : Except ε α) (P : α → Prop) : Prop :=
  ∀ a, outcome = .ok a → P a

theorem gives_ok {P : α → Prop} {a : α} (h : P a) : Gives (.ok a : Except ε α) P := by
  intro b hOk
  obtain rfl := Except.ok.inj hOk
  exact h

theorem gives_error {P : α → Prop} (e : ε) : Gives (.error e : Except ε α) P := by
  intro a hOk
  cases hOk

/-- What follows an outcome may rely on the value being that of the outcome. -/
theorem gives_bind {outcome : Except ε α} {next : α → Except ε β} {P : β → Prop}
    (h : ∀ a, outcome = .ok a → Gives (next a) P) : Gives (outcome >>= next) P := by
  intro b hOk
  obtain ⟨a, hOutcome, hNext⟩ := bind_eq_ok_iff.mp hOk
  exact h a hOutcome b hNext

/-- Both outcomes are the same value, or both are errors, be it different ones. -/
def AgreeOnValues (left right : Except ε α) : Prop :=
  ∀ a, left = .ok a ↔ right = .ok a

namespace AgreeOnValues

theorem refl (outcome : Except ε α) : AgreeOnValues outcome outcome :=
  fun _ => Iff.rfl

theorem bind {left right : Except ε α} {next other : α → Except ε β}
    (h : AgreeOnValues left right) (hNext : ∀ a, AgreeOnValues (next a) (other a)) :
    AgreeOnValues (left >>= next) (right >>= other) := by
  intro b
  rw [bind_eq_ok_iff, bind_eq_ok_iff]
  exact exists_congr fun a => and_congr (h a) (hNext a b)

/-- A list may have one element replaced by another that is converted to the same value. -/
theorem mapM_append_cons {convert : α → Except ε β} {left right : α}
    (h : AgreeOnValues (convert left) (convert right)) (front back : List α) :
    AgreeOnValues ((front ++ left :: back).mapM convert)
      ((front ++ right :: back).mapM convert) := by
  rw [List.mapM_append, List.mapM_append, List.mapM_cons, List.mapM_cons]
  exact (refl _).bind fun _ => (h.bind fun _ => refl _).bind fun _ => refl _

end AgreeOnValues

end Tabular

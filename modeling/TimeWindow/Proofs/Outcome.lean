import Mathlib.Tactic.Basic

/-!
# Outcomes of composed operations

An operation that is followed by another one succeeds when both do, and fails
with the fault of the first that fails.  `FailsWithin` bounds the faults of an
operation by those of its parts, `Gives` says what its result is like, and
`Alike` relates the outcomes of two operations.
-/

namespace TimeWindow.Proofs.Outcome

variable {ε α β α' β' : Type}

theorem bind_eq_ok {x : Except ε α} {f : α → Except ε β} {b : β} :
    (x >>= f) = .ok b ↔ ∃ a, x = .ok a ∧ f a = .ok b := by
  cases x with
  | error e => simp [Bind.bind, Except.bind]
  | ok a => simp [Bind.bind, Except.bind]

theorem bind_eq_error {x : Except ε α} {f : α → Except ε β} {e : ε} :
    (x >>= f) = .error e ↔ x = .error e ∨ ∃ a, x = .ok a ∧ f a = .error e := by
  cases x with
  | error e => simp [Bind.bind, Except.bind]
  | ok a => simp [Bind.bind, Except.bind]

theorem pure_eq_ok {a b : α} : (pure a : Except ε α) = .ok b ↔ a = b := by
  simp [pure, Except.pure]

theorem map_eq_ok {x : Except ε α} {f : α → β} {b : β} :
    x.map f = .ok b ↔ ∃ a, x = .ok a ∧ f a = b := by
  cases x with
  | error e => simp [Except.map]
  | ok a => simp [Except.map]

theorem mapError_eq_ok {ε' : Type} {x : Except ε α} {f : ε → ε'} {a : α} :
    x.mapError f = .ok a ↔ x = .ok a := by
  constructor
  · intro h
    cases x with
    | error e => cases h
    | ok b =>
      cases h
      rfl
  · rintro rfl
    rfl

theorem map_inj {f : α → β} (hf : ∀ a a', f a = f a' → a = a')
    {x y : Except ε α} (h : x.map f = y.map f) : x = y := by
  cases x with
  | error e =>
    cases y with
    | error e' =>
      injection h with he
      rw [he]
    | ok b => cases h
  | ok a =>
    cases y with
    | error e' => cases h
    | ok b =>
      injection h with hab
      rw [hf a b hab]

def FailsWithin (kind : ε → Prop) (x : Except ε α) : Prop :=
  ∀ e, x = .error e → kind e

variable {kind : ε → Prop}

theorem failsWithin_ok (a : α) : FailsWithin kind (.ok a : Except ε α) := by
  intro e h
  cases h

theorem failsWithin_error {e : ε} (h : kind e) :
    FailsWithin kind (.error e : Except ε α) := by
  intro e' he
  cases he
  exact h

theorem FailsWithin.mono {kind' : ε → Prop} {x : Except ε α}
    (h : FailsWithin kind x) (hkind : ∀ e, kind e → kind' e) :
    FailsWithin kind' x :=
  fun e he => hkind e (h e he)

theorem FailsWithin.bind {x : Except ε α} {f : α → Except ε β}
    (hx : FailsWithin kind x) (hf : ∀ a, x = .ok a → FailsWithin kind (f a)) :
    FailsWithin kind (x >>= f) := by
  intro e h
  rcases bind_eq_error.1 h with h | ⟨a, ha, h⟩
  · exact hx e h
  · exact hf a ha e h

theorem FailsWithin.foldlM {f : β → α → Except ε β}
    (hf : ∀ b a, FailsWithin kind (f b a)) (as : List α) (b : β) :
    FailsWithin kind (as.foldlM f b) := by
  induction as generalizing b with
  | nil => exact failsWithin_ok b
  | cons a as ih =>
    rw [List.foldlM_cons]
    exact (hf b a).bind fun b' _ => ih b'

def Gives (P : α → Prop) (x : Except ε α) : Prop := ∀ a, x = .ok a → P a

section

variable {P : α → Prop} {Q : β → Prop}

theorem gives_ok {a : α} (h : P a) : Gives P (.ok a : Except ε α) := by
  intro b hb
  cases hb
  exact h

theorem gives_error (e : ε) : Gives P (.error e : Except ε α) := by
  intro a h
  cases h

theorem Gives.bind {x : Except ε α} {f : α → Except ε β} (hx : Gives P x)
    (hf : ∀ a, P a → Gives Q (f a)) : Gives Q (x >>= f) := by
  intro b h
  obtain ⟨a, ha, hb⟩ := bind_eq_ok.1 h
  exact hf a (hx a ha) b hb

theorem Gives.foldlM {f : β → α → Except ε β}
    (hf : ∀ b a, Q b → Gives Q (f b a)) (as : List α) {b : β} (h : Q b) :
    Gives Q (as.foldlM f b) := by
  induction as generalizing b with
  | nil => exact gives_ok h
  | cons a as ih =>
    rw [List.foldlM_cons]
    exact (hf b a h).bind fun b' hb' => ih hb'

end

/-- Two operations fail with one fault, or succeed with results that are
related. -/
inductive Alike (R : α → α' → Prop) : Except ε α → Except ε α' → Prop where
  | ok {a : α} {a' : α'} (related : R a a') : Alike R (.ok a) (.ok a')
  | error (e : ε) : Alike R (.error e) (.error e)

theorem alike_refl {R : α → α → Prop} (hR : ∀ a, R a a) (x : Except ε α) :
    Alike R x x := by
  cases x with
  | error e => exact .error e
  | ok a => exact .ok (hR a)

theorem Alike.mono {R S : α → α' → Prop} {x : Except ε α} {x' : Except ε α'}
    (h : Alike R x x') (hRS : ∀ a a', R a a' → S a a') : Alike S x x' := by
  cases h with
  | ok related => exact .ok (hRS _ _ related)
  | error e => exact .error e

theorem Alike.ok_left {R : α → α' → Prop} {x : Except ε α} {a' : α'}
    (h : Alike R x (.ok a')) :
    ∃ a, x = .ok a ∧ R a a' := by
  cases h with
  | ok related => exact ⟨_, rfl, related⟩

theorem Alike.ok_right {R : α → α' → Prop} {a : α} {x' : Except ε α'}
    (h : Alike R (.ok a) x') :
    ∃ a', x' = .ok a' ∧ R a a' := by
  cases h with
  | ok related => exact ⟨_, rfl, related⟩

theorem Alike.bind {R : α → α' → Prop} {S : β → β' → Prop} {x : Except ε α}
    {x' : Except ε α'} {f : α → Except ε β} {f' : α' → Except ε β'}
    (hx : Alike R x x') (hf : ∀ a a', R a a' → Alike S (f a) (f' a')) :
    Alike S (x >>= f) (x' >>= f') := by
  cases hx with
  | ok related => exact hf _ _ related
  | error e => exact .error e

theorem alike_bind {S : β → β' → Prop} {f : α → Except ε β}
    {f' : α → Except ε β'} (x : Except ε α) (hf : ∀ a, Alike S (f a) (f' a)) :
    Alike S (x >>= f) (x >>= f') :=
  (alike_refl (R := Eq) (fun _ => rfl) x).bind fun a _ ha => ha ▸ hf a

theorem alike_bind_of_gives {P : α → Prop} {S : β → β' → Prop}
    {f : α → Except ε β} {f' : α → Except ε β'} {x : Except ε α}
    (hx : Gives P x) (hf : ∀ a, P a → Alike S (f a) (f' a)) :
    Alike S (x >>= f) (x >>= f') := by
  cases x with
  | error e => exact .error e
  | ok a => exact hf a (hx a rfl)

theorem Alike.and_bind {R : α → α' → Prop} {S : β → β' → Prop}
    {x : Except ε α} {x' : Except ε α'} {f : α → Except ε β}
    {f' : α' → Except ε β'} (hx : Alike R x x')
    (hf : Alike S (x >>= f) (x' >>= f')) :
    Alike (fun a a' => R a a' ∧ Alike S (f a) (f' a')) x x' := by
  cases hx with
  | ok related => exact .ok ⟨related, hf⟩
  | error e => exact .error e

theorem Alike.foldlM {R : β → β' → Prop} {f : β → α → Except ε β}
    {f' : β' → α → Except ε β'}
    (hf : ∀ b b' a, R b b' → Alike R (f b a) (f' b' a)) (as : List α) {b : β}
    {b' : β'} (h : R b b') : Alike R (as.foldlM f b) (as.foldlM f' b') := by
  induction as generalizing b b' with
  | nil => exact .ok h
  | cons a as ih =>
    rw [List.foldlM_cons, List.foldlM_cons]
    exact (hf b b' a h).bind fun _ _ => ih

end TimeWindow.Proofs.Outcome

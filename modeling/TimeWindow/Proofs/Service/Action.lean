import TimeWindow.Service.Session

/-!
# Running actions

An action that is followed by another one runs it in the session it leaves
behind, or fails as it fails.  Building settings and engines does not touch what
is present.
-/

namespace TimeWindow.Proofs.Service.Action

variable {α β : Type}

theorem run_bind (x : Action α) (f : α → Action β) (s : Session) :
    (x >>= f).run.run s =
      match x.run.run s with
      | (.ok a, s') => (f a).run.run s'
      | (.error e, s') => (.error e, s') := by
  rcases hx : x s with ⟨outcome, s'⟩
  change (let (outcome, s') := x s; (ExceptT.bindCont f outcome) s') =
    match x s with
    | (.ok a, s') => f a s'
    | (.error e, s') => (.error e, s')
  rw [hx]
  cases outcome <;> rfl

/-! ## What is present -/

def KeepsHere (x : Action α) : Prop := ∀ s, (x.run.run s).2.here = s.here

theorem keepsHere_bind {x : Action α} {f : α → Action β} (hx : KeepsHere x)
    (hf : ∀ a, KeepsHere (f a)) : KeepsHere (x >>= f) := by
  intro s
  have hfirst := hx s
  rw [run_bind]
  rcases h : x.run.run s with ⟨outcome, s'⟩
  rw [h] at hfirst
  cases outcome with
  | error e => exact hfirst
  | ok a => exact (hf a s').trans hfirst

theorem keepsHere_pure (a : α) : KeepsHere (pure a) := fun _ => rfl

theorem keepsHere_get : KeepsHere (get : Action Session) := fun _ => rfl

theorem keepsHere_pureResult (e : Except Fault α) :
    KeepsHere (Session.pureResult e) :=
  fun _ => rfl

theorem getSettings_keepsHere : KeepsHere Session.getSettings := by
  refine keepsHere_bind keepsHere_get fun here => ?_
  split
  · exact keepsHere_pure _
  · exact keepsHere_bind (keepsHere_pureResult _) fun settings =>
      keepsHere_bind (fun _ => rfl) fun _ => keepsHere_pure settings

theorem getEngine_keepsHere : KeepsHere Session.getEngine := by
  -- an engine that is there is handed out; else it is built and kept
  refine keepsHere_bind (keepsHere_bind keepsHere_get fun here => ?_) fun _ =>
    keepsHere_pure _
  split
  · exact keepsHere_pure _
  · exact keepsHere_bind getSettings_keepsHere fun settings =>
      keepsHere_bind (keepsHere_pureResult _) fun e =>
        keepsHere_bind (fun _ => rfl) fun _ => keepsHere_pure _

end TimeWindow.Proofs.Service.Action

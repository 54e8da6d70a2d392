import TimeWindow.Http.Server
import TimeWindow.Proofs.Outcome
import TimeWindow.Proofs.Service.Action

/-!
# What a request is answered

A request that is routed to an operation is handled once its payload is read and
the engine of the session is there.  The reply is then the result of the
handler, or says that the handling broke off (`answer_result`,
`answer_failure`).
-/

namespace TimeWindow.Proofs.Http.Answers

open TimeWindow.Http Outcome Service.Action
open TimeWindow.DateMath (Present)

/-- A request for an operation, with a payload that stands for a value, whether
or not the service is documented. -/
structure Asks (r : Request) (op : Operation) (v : Json) : Prop where
  route (documented : Bool) :
    Route.find documented (Text.upper r.method)
      (Target.read r.target r.query).path = .operation op
  payload : r.payload.read = .ok v

/-- The engine that a session has, or builds when it is first used. -/
def EngineOf (s : Session) (e : Engine) : Prop :=
  (Session.getEngine.run.run s).1 = .ok e

def replyOf (s : Server) (r : Request) : Except Fault Reply → Reply
  | .ok reply => reply
  | .error f => s.failure r f

section

variable {s : Server} {r : Request} {op : Operation} {v : Json}

theorem status_failure (s : Server) (r : Request) (f : Fault) :
    (s.failure r f).status = 500 := by
  unfold Server.failure
  split <;> rfl

theorem failure_ne_content {s : Server} {r : Request} {f : Fault}
    {body : Json} :
    s.failure r f ≠ .content 200 body := by
  intro h
  have hstatus := congrArg Reply.status h
  rw [status_failure] at hstatus
  cases hstatus

theorem preflight_of_route {documented : Bool} {method : String}
    {path : List Char} (h : Route.find documented method path = .operation op)
    (settings : Settings) (hs : Headers) :
    Preflight.answer? settings method hs = none := by
  have hmethod : method ≠ "OPTIONS" := by
    rintro rfl
    unfold Route.find at h
    split at h
    · rename_i found _
      have hnot : found.methods.contains "OPTIONS" = false := by
        cases found with
        | document | interpret => rfl
        | _ => decide
      rw [hnot] at h
      cases h
    · split at h <;> cases h
  unfold Preflight.answer?
  split
  · exact if_neg hmethod
  · rfl

theorem handle_operation (h : Asks r op v) :
    s.handle r = s.perform (Target.read r.target r.query) r.payload op >>=
      Reply.send := by
  unfold Server.handle
  rw [preflight_of_route (h.route true)]
  dsimp only
  unfold Server.route
  rw [h.route]
  rfl

theorem answer_operation (h : Asks r op v) :
    (s.answer r).1 = replyOf s r
      ((s.perform (Target.read r.target r.query) r.payload op >>=
        Reply.send).run.run s.session).1 := by
  rw [← handle_operation h]
  unfold Server.answer
  rcases (s.handle r).run.run s.session with ⟨outcome, session⟩
  cases outcome <;> rfl

theorem perform_resolve (s : Server) (target : Target) (p : Payload) :
    s.perform target p .resolve =
      Server.withEngine p ResolveBody.read fun e here b =>
      (Handler.resolve e here b).map (·.json) :=
  rfl

theorem perform_interval (s : Server) (target : Target) (p : Payload) :
    s.perform target p .interval =
      Server.withEngine p IntervalBody.read fun e here b =>
      (Handler.interval e s.settings.defaultResolution here b).map (·.json) :=
  rfl

theorem perform_toRelative (s : Server) (target : Target) (p : Payload) :
    s.perform target p .toRelative =
      Server.withEngine p RangeBody.read fun e here b =>
      (Handler.toRelative e here b).map fun (start, stop) =>
        distancesJson start stop :=
  rfl

theorem withEngine_run {α : Type} {p : Payload} {read : Json → Checked α}
    {session : Session} {e : Engine} {a : α}
    (handle : Engine → Present → α → Except Rejection Json)
    (hp : p.read = .ok v) (he : EngineOf session e) (hread : read v = .ok a) :
    ∃ session', (Server.withEngine p read handle).run.run session =
      (Reply.ofResult (handle e session.here a)).run.run session' := by
  have hhere := getEngine_keepsHere session
  -- the engine is asked for before the body is looked at
  unfold EngineOf at he
  unfold Server.withEngine Server.withPayload
  rw [hp]
  dsimp only
  rw [run_bind]
  rcases hrun : Session.getEngine.run.run session with ⟨outcome, session'⟩
  rw [hrun] at he hhere
  dsimp only at he hhere
  subst he
  refine ⟨session', ?_⟩
  dsimp only
  rw [hread]
  change (Reply.ofResult (handle e session'.here a)).run.run session' = _
  rw [hhere]

variable {α : Type} {read : Json → Checked α}
  {handle : Engine → Present → α → Except Rejection Json}
  {e : Engine} {a : α} (h : Asks r op v)
  (hperform : s.perform (Target.read r.target r.query) r.payload op =
    Server.withEngine r.payload read handle)
  (he : EngineOf s.session e) (hread : read v = .ok a)

include h hperform he hread

theorem answer_withEngine :
    ∃ session', (s.answer r).1 = replyOf s r
      ((Reply.ofResult (handle e s.session.here a) >>= Reply.send).run.run
        session').1 := by
  obtain ⟨session', hrun⟩ := withEngine_run handle h.payload he hread
  refine ⟨session', ?_⟩
  rw [answer_operation h, hperform, run_bind, run_bind, hrun]

theorem answer_failure {f : Fault}
    (hresult : handle e s.session.here a = .error (.failed f)) :
    (s.answer r).1 = s.failure r f := by
  obtain ⟨session', hanswer⟩ := answer_withEngine h hperform he hread
  rw [hanswer, hresult]
  rfl

theorem answer_result {body : Json}
    (hresult : handle e s.session.here a = .ok body)
    (hinfinite : body.hasInfinite = false) (hhalf : body.hasHalf = false) :
    (s.answer r).1 = .content 200 body := by
  obtain ⟨session', hanswer⟩ := answer_withEngine h hperform he hread
  rw [hanswer, hresult]
  change replyOf _ _ ((Reply.send (.content 200 body)).run.run session').1 = _
  have hsend : Reply.send (.content 200 body) = pure (.content 200 body) := by
    unfold Reply.send Reply.values
    simp [hinfinite, hhalf]
  rw [hsend]
  rfl

end

/-- Content with the status of success was sent as it is, and holds no half of a
surrogate pair. -/
theorem content_of_send {s : Server} {r : Request} {reply : Reply}
    {session : Session} {body : Json}
    (h : replyOf s r (reply.send.run.run session).1 = .content 200 body) :
    reply = .content 200 body ∧ body.hasHalf = false := by
  unfold Reply.send at h
  split at h
  · exact absurd h failure_ne_content
  · split at h
    · exact absurd h failure_ne_content
    · rename_i hhalf
      have hreply : reply = .content 200 body := h
      subst hreply
      exact ⟨rfl, by simpa [Reply.values] using hhalf⟩

theorem hasHalf_of_content {s : Server} {r : Request} {op : Operation}
    {v : Json} (h : Asks r op v) {body : Json}
    (hanswer : (s.answer r).1 = .content 200 body) : body.hasHalf = false := by
  rw [answer_operation h, run_bind] at hanswer
  rcases hrun : (s.perform (Target.read r.target r.query) r.payload op).run.run
    s.session with
    ⟨outcome, session⟩
  rw [hrun] at hanswer
  cases outcome with
  | error f => exact absurd hanswer failure_ne_content
  | ok reply => exact (content_of_send hanswer).2

section

variable {s : Server} {r : Request} {op : Operation} {v : Json} {α : Type}
  {read : Json → Checked α}
  {handle : Engine → Present → α → Except Rejection Json} {a : α} (h : Asks r op v)
  (hperform : s.perform (Target.read r.target r.query) r.payload op =
    Server.withEngine r.payload read handle)

include h hperform

theorem answer_without_engine {f : Fault}
    (he : (Session.getEngine.run.run s.session).1 = .error f) :
    (s.answer r).1 = s.failure r f := by
  have hrun :
      ((Server.withEngine r.payload read handle).run.run s.session).1 =
        .error f := by
    unfold Server.withEngine Server.withPayload
    rw [h.payload]
    dsimp only
    rw [run_bind]
    rcases hrun : Session.getEngine.run.run s.session with ⟨outcome, session'⟩
    rw [hrun] at he
    dsimp only at he
    subst he
    rfl
  rw [answer_operation h, hperform, run_bind]
  rcases hsplit : (Server.withEngine r.payload read handle).run.run
    s.session with ⟨outcome, session'⟩
  rw [hsplit] at hrun
  dsimp only at hrun
  subst hrun
  rfl

theorem result_of_content (hread : read v = .ok a) {body : Json}
    (hanswer : (s.answer r).1 = .content 200 body) :
    ∃ e, EngineOf s.session e ∧ handle e s.session.here a = .ok body := by
  cases he : (Session.getEngine.run.run s.session).1 with
  | error f =>
    rw [answer_without_engine h hperform he] at hanswer
    exact absurd hanswer failure_ne_content
  | ok e =>
    refine ⟨e, he, ?_⟩
    obtain ⟨session', hreply⟩ := answer_withEngine h hperform he hread
    rw [hanswer] at hreply
    cases hresult : handle e s.session.here a with
    | ok body' =>
      rw [hresult] at hreply
      have hsent :
          replyOf s r ((Reply.content 200 body').send.run.run session').1 =
          .content 200 body :=
        hreply.symm
      cases (content_of_send hsent).1
      rfl
    | error rejection =>
      rw [hresult] at hreply
      cases rejection with
      | failed f => exact absurd hreply.symm failure_ne_content
      | refused refusal =>
        have hsent :
            replyOf s r ((Reply.refusal refusal).send.run.run session').1 =
            .content 200 body :=
          hreply.symm
        cases (content_of_send hsent).1

end

/-! ## Ranges that are resolved -/

theorem route_resolve (documented : Bool) :
    Route.find documented (Text.upper "POST")
      (Target.read "/api/v1/ranges/resolve" []).path =
      .operation .resolve := by
  cases documented <;> decide +kernel

def shownRange (raw : RawRange) (range : TimeRange)
    (display abbreviation : String) : ResolvedRange where
  range := range
  display := some display
  isRelative := raw.isRelative
  isFiscal := range.isFiscal
  abbreviation := some abbreviation

theorem handler_resolve_eq_ok {e : Engine} {here : Present} {b : ResolveBody}
    {x : ResolvedRange} :
    Handler.resolve e here b = .ok x ↔
      ∃ range display abbreviation,
        b.range.resolve e ⟨b.timeZone, b.fiscalStart⟩
          (Handler.presentOf here b.now) = .ok range ∧
        b.range.describe e b.timeZone (Handler.presentOf here b.now) =
          .ok display ∧
        range.abbreviation e b.timeZone (Handler.presentOf here b.now) =
          .ok abbreviation ∧
        x = shownRange b.range range display abbreviation := by
  unfold Handler.resolve
  constructor
  · intro h
    obtain ⟨range, hrange, h⟩ := bind_eq_ok.1 h
    obtain ⟨display, hdisplay, h⟩ := bind_eq_ok.1 h
    obtain ⟨abbreviation, habbreviation, h⟩ := bind_eq_ok.1 h
    exact ⟨range, display, abbreviation, mapError_eq_ok.1 hrange,
      mapError_eq_ok.1 hdisplay, mapError_eq_ok.1 habbreviation,
      (pure_eq_ok.1 h).symm⟩
  · rintro ⟨range, display, abbreviation, hrange, hdisplay, habbreviation, rfl⟩
    exact bind_eq_ok.2 ⟨range, mapError_eq_ok.2 hrange,
      bind_eq_ok.2 ⟨display, mapError_eq_ok.2 hdisplay,
      bind_eq_ok.2 ⟨abbreviation, mapError_eq_ok.2 habbreviation, rfl⟩⟩⟩

end TimeWindow.Proofs.Http.Answers

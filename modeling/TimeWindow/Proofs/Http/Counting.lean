import TimeWindow.Proofs.Http.Answers
import TimeWindow.Proofs.Outcome
import Mathlib.Data.List.TakeWhile

/-!
# Which answers are counted

Every request is timed, and it is counted unless its handling breaks off.
Handling that does not break off never ends in status 500, so that the tally
misses exactly the answers with this status (`tally_after`).  Those that it
counts are counted by a label, which is the decoded path only where that path
does not look like the written form of more than a path (`counted_eq_exact`).
Following redirections is asking several times (`serveWithin_run`), and a
request for the counts is answered with those of the requests before it
(`answer_metrics`).
-/

namespace TimeWindow.Proofs.Http.Counting

open TimeWindow.Http Outcome Service.Action Answers

/-! ## Handling that does not break off -/

def Replies (P : Reply → Prop) (x : Action Reply) : Prop :=
  ∀ s, Gives P (x.run.run s).1

section

variable {α : Type} {P : Reply → Prop}

theorem replies_pure {reply : Reply} (h : P reply) : Replies P (pure reply) :=
  fun _ => gives_ok h

theorem replies_throw (f : Fault) : Replies P (throw f) :=
  fun _ => gives_error f

theorem replies_bind {x : Action α} {f : α → Action Reply}
    (hf : ∀ a, Replies P (f a)) : Replies P (x >>= f) := by
  intro s
  rw [run_bind]
  rcases x.run.run s with ⟨outcome, s'⟩
  cases outcome with
  | error e => exact gives_error e
  | ok a => exact hf a s'

theorem replies_bind_reply {Q : Reply → Prop} {x : Action Reply}
    {f : Reply → Action Reply} (hx : Replies Q x)
    (hf : ∀ reply, Q reply → Replies P (f reply)) : Replies P (x >>= f) := by
  intro s
  have hfirst := hx s
  rw [run_bind]
  rcases hrun : x.run.run s with ⟨outcome, s'⟩
  rw [hrun] at hfirst
  cases outcome with
  | error e => exact gives_error e
  | ok reply => exact hf reply (hfirst reply rfl) s'

end

def regular : List Nat := [200, 307, 400, 404, 405, 422]

def Regular (reply : Reply) : Prop := reply.status ∈ regular

theorem replies_regular {reply : Reply} {status : Nat}
    (h : reply.status = status) (hstatus : status ∈ regular) :
    Replies Regular (pure reply) := by
  refine replies_pure ?_
  unfold Regular
  rwa [h]

theorem content_regular (body : Json) :
    Replies Regular (pure (.content 200 body)) :=
  replies_regular rfl (by decide : 200 ∈ regular)

theorem ofResult_regular (e : Except Rejection Json) :
    Replies Regular (Reply.ofResult e) := by
  unfold Reply.ofResult
  split
  · exact content_regular _
  · exact replies_regular rfl (by decide : 400 ∈ regular)
  · exact replies_throw _

theorem ofChecked_regular {α : Type} (c : Checked α)
    {handle : α → Action Reply} (h : ∀ a, Replies Regular (handle a)) :
    Replies Regular (Reply.ofChecked c handle) := by
  unfold Reply.ofChecked
  split
  · exact h _
  · exact replies_regular rfl (by decide : 422 ∈ regular)

theorem withPayload_regular (p : Payload) {handle : Json → Action Reply}
    (h : ∀ v, Replies Regular (handle v)) :
    Replies Regular (Server.withPayload p handle) := by
  unfold Server.withPayload
  split
  · exact h _
  · exact replies_regular rfl (by decide : 422 ∈ regular)
  · exact replies_regular rfl (by decide : 400 ∈ regular)

theorem withEngine_regular {α : Type} (p : Payload) (read : Json → Checked α)
    (handle : Engine → DateMath.Present → α → Except Rejection Json) :
    Replies Regular (Server.withEngine p read handle) :=
  withPayload_regular p fun _ => replies_bind fun _ =>
    ofChecked_regular _ fun _ => replies_bind fun _ =>
    ofResult_regular _

theorem perform_regular (s : Server) (target : Target) (p : Payload)
    (op : Operation) :
    Replies Regular (s.perform target p op) := by
  unfold Server.perform
  cases op with
  | health | liveness | readiness =>
    exact replies_bind fun _ => content_regular _
  | resolve | describe | interval | toRelative => exact withEngine_regular _ _ _
  | describeText | validate =>
    dsimp only
    exact ofChecked_regular _ fun _ => ofResult_regular _
  | toAbsolute =>
    exact withPayload_regular _ fun _ => ofChecked_regular _ fun _ =>
      replies_bind fun _ => ofResult_regular _
  | interpret duration => exact ofResult_regular _
  | metrics => exact replies_regular rfl (by decide : 200 ∈ regular)
  | document | options | root => exact content_regular _

theorem send_regular {reply : Reply} (h : Regular reply) :
    Replies Regular reply.send := by
  unfold Reply.send
  split
  · exact replies_throw _
  · split
    · exact replies_throw _
    · exact replies_pure h

theorem follow_regular (s : Server) (target : Target) (p : Payload)
    (route : Route) :
    Replies Regular (s.follow target p route) := by
  cases route with
  | operation op =>
    exact replies_bind_reply (perform_regular s target p op) fun _ =>
      send_regular
  | wrongMethod => exact replies_regular rfl (by decide : 405 ∈ regular)
  | redirected => exact replies_regular rfl (by decide : 307 ∈ regular)
  | nowhere => exact replies_regular rfl (by decide : 404 ∈ regular)

theorem preflight_regular {settings : Settings} {method : String}
    {hs : Headers} {status : Nat} {text : String}
    (h : Preflight.answer? settings method hs = some (status, text)) :
    status ∈ regular := by
  unfold Preflight.answer? at h
  split at h
  · split at h
    · split at h
      · cases h
        decide
      · cases h
        decide
    · cases h
  · cases h

theorem handle_regular (s : Server) (r : Request) :
    Replies Regular (s.handle r) := by
  unfold Server.handle
  split
  · rename_i status text hanswer
    have hstatus : (Reply.plainText status text).status = status := rfl
    exact replies_regular hstatus (preflight_regular hanswer)
  · exact follow_regular s _ _ _

/-! ## One answer -/

/-- An answered request: its method, where it was addressed to, and the status
of the reply. -/
structure Answered where
  method : String
  target : Target
  status : Nat

namespace Answered

def of (s : Server) (r : Request) : Answered :=
  ⟨Text.upper r.method, Target.read r.target r.query, (s.answer r).1.status⟩

/-- The method, the decoded path and the status of an answer. -/
def exact (a : Answered) : Label :=
  ⟨a.method, String.ofList a.target.path, toString a.status⟩

def counted (a : Answered) : Label :=
  ⟨a.method, a.target.label, toString a.status⟩

/-- Whether handling broke off before the answer. -/
def broken (a : Answered) : Bool := a.status = 500

def note (t : Tally) (a : Answered) : Tally :=
  if a.broken then t.time else t.time.record a.counted

end Answered

theorem answer_cases (s : Server) (r : Request) :
    (∃ f, (s.answer r).1 = s.failure r f ∧ (s.answer r).2.tally = s.tally.time) ∨
      Regular (s.answer r).1 ∧
      (s.answer r).2.tally = s.tally.time.record (Answered.of s r).counted := by
  have hregular := handle_regular s r s.session
  unfold Answered.counted Answered.of Server.answer
  rcases hrun : (s.handle r).run.run s.session with ⟨outcome, session⟩
  rw [hrun] at hregular
  cases outcome with
  | error f => exact .inl ⟨f, rfl, rfl⟩
  | ok reply => exact .inr ⟨hregular reply rfl, rfl⟩

theorem answer_tally (s : Server) (r : Request) :
    (s.answer r).2.tally = (Answered.of s r).note s.tally := by
  unfold Answered.note
  rcases answer_cases s r with ⟨f, hfailure, htally⟩ | ⟨hregular, htally⟩
  · have hbroken : (Answered.of s r).broken = true := by
      unfold Answered.broken Answered.of
      rw [hfailure, status_failure]
      rfl
    rw [if_pos hbroken, htally]
  · have hbroken : ¬(Answered.of s r).broken = true := by
      intro h
      have hstatus : (s.answer r).1.status = 500 := of_decide_eq_true h
      unfold Regular at hregular
      rw [hstatus] at hregular
      exact absurd hregular (by decide)
    rw [if_neg hbroken, htally]

theorem answered_status (s : Server) (r : Request) :
    (Answered.of s r).status ∈ 500 :: regular := by
  rcases answer_cases s r with ⟨f, hfailure, -⟩ | ⟨hregular, -⟩
  · have hstatus : (s.answer r).1.status = 500 := by
      rw [hfailure, status_failure]
    exact List.mem_cons.2 (.inl hstatus)
  · exact List.mem_cons_of_mem _ hregular

theorem broken_of_text {status : Nat} (h : status ∈ 500 :: regular)
    (htext : toString status = "500") :
    status = 500 := by
  revert htext
  revert status
  decide

/-! ## Labels -/

/-- The path can be written without percent signs: nothing in it ends a path,
and nothing in it is dropped. -/
def Answered.Plain (a : Answered) : Prop :=
  ∀ c ∈ a.target.path, c ∉ ['\t', '\n', '\r', '?', '#']

theorem label_plain {t : Target} {c : Char} (h : c ∈ t.label.toList) :
    c ∉ ['\t', '\n', '\r', '?', '#'] := by
  unfold Target.label at h
  rw [String.toList_ofList] at h
  have hends := List.all_eq_true.1 List.all_takeWhile c h
  have hdropped := (List.mem_filter.1 ((List.takeWhile_prefix _).subset h)).2
  simp only [Bool.not_or, Bool.and_eq_true, Bool.not_eq_true',
    decide_eq_false_iff_not, decide_eq_true_eq]
    at hends hdropped
  simp [hends, hdropped]

theorem counted_eq_exact {a : Answered} : a.counted = a.exact ↔ a.Plain := by
  unfold Answered.counted Answered.exact
  constructor
  · intro h c hc
    injection h with _ hpath
    refine label_plain (t := a.target) ?_
    rwa [hpath, String.toList_ofList]
  · intro h
    have hfilter :
        a.target.path.filter (fun c => !(c = '\t' || c = '\n' || c = '\r')) =
          a.target.path := by
      refine List.filter_eq_self.2 fun c hc => ?_
      have hplain := h c hc
      simp at hplain
      simp [hplain]
    have htake :
        a.target.path.takeWhile (fun c => c ≠ '?' && c ≠ '#') =
          a.target.path := by
      refine List.takeWhile_eq_self_iff.2 fun c hc => ?_
      have hplain := h c hc
      simp at hplain
      simp [hplain]
    unfold Target.label
    rw [hfilter, htake]

/-! ## Runs -/

/-- What happens to a server: it is asked, or what is around it changes. -/
inductive Event where
  | request (r : Request)
  | change (session : Session)

def next (s : Server) : Event → Server
  | .request r => (s.answer r).2
  | .change session => { s with session }

def answers : Server → List Event → List Answered
  | _, [] => []
  | s, .request r :: es => .of s r :: answers (next s (.request r)) es
  | s, .change session :: es => answers (next s (.change session)) es

theorem tally_after (s : Server) (es : List Event) :
    (es.foldl next s).tally = (answers s es).foldl Answered.note s.tally := by
  induction es generalizing s with
  | nil => rfl
  | cons e es ih =>
    cases e with
    | request r =>
      rw [List.foldl_cons, ih]
      exact congrArg (List.foldl Answered.note · _) (answer_tally s r)
    | change session => exact ih _

theorem status_of_mem_answers {s : Server} {es : List Event} {a : Answered}
    (h : a ∈ answers s es) :
    a.status ∈ 500 :: regular := by
  induction es generalizing s with
  | nil => cases h
  | cons e es ih =>
    cases e with
    | request r =>
      rcases List.mem_cons.1 h with rfl | h
      · exact answered_status s r
      · exact ih h
    | change session => exact ih h

theorem serveWithin_run (n : Nat) (s : Server) (r : Request) :
    ∃ rs : List Request, (Server.serveWithin n s r).2 =
      (rs.map Event.request).foldl next s := by
  induction n generalizing s r with
  | zero => exact ⟨[r], rfl⟩
  | succ n ih =>
    unfold Server.serveWithin
    split
    · rename_i path s' hanswer
      obtain ⟨rs, hrs⟩ := ih s' (r.redirect path)
      have hnext : next s (.request r) = s' := congrArg Prod.snd hanswer
      refine ⟨r :: rs, ?_⟩
      rw [hrs, List.map_cons, List.foldl_cons, hnext]
    · exact ⟨[r], rfl⟩

section

variable (t : Tally) (as : List Answered)

theorem timed_note (a : Answered) : (a.note t).timed = t.timed + 1 := by
  unfold Answered.note
  split <;> rfl

theorem total_note (a : Answered) :
    (a.note t).total = t.total + if a.broken then 0 else 1 := by
  unfold Answered.note
  split
  · rfl
  · exact Tally.total_record _ _

theorem count_note (a : Answered) (l : Label) :
    (a.note t).count l = t.count l + if !a.broken && a.counted = l then 1
      else 0 := by
  unfold Answered.note
  cases a.broken with
  | true => rfl
  | false =>
    rw [if_neg Bool.false_ne_true, Tally.count_record]
    simp [eq_comm]

theorem timed_notes :
    (as.foldl Answered.note t).timed = t.timed + as.length := by
  induction as generalizing t with
  | nil => rfl
  | cons a as ih =>
    rw [List.foldl_cons, ih, timed_note, List.length_cons]
    omega

theorem total_notes :
    (as.foldl Answered.note t).total + as.countP (·.broken) =
      t.total + as.length := by
  induction as generalizing t with
  | nil => rfl
  | cons a as ih =>
    have hrest := ih (a.note t)
    rw [total_note] at hrest
    rw [List.foldl_cons, List.countP_cons, List.length_cons]
    cases hbroken : a.broken <;> simp only [hbroken] at hrest ⊢
      <;> simp at hrest ⊢ <;> omega

theorem count_notes (l : Label) :
    (as.foldl Answered.note t).count l = t.count l + as.countP fun a =>
      !a.broken && a.counted = l := by
  induction as generalizing t with
  | nil => rfl
  | cons a as ih =>
    rw [List.foldl_cons, ih, count_note, List.countP_cons]
    omega

end

theorem answer_metrics {s : Server} {r : Request}
    (h : s.route r = .operation .metrics) :
    (s.answer r).1 = .tally s.tally := by
  unfold Server.answer Server.handle
  rw [preflight_of_route h, h]
  rfl

/-! ## A server from its beginning -/

/-- The server before it has been asked anything. -/
def fresh (s : Server) : Server := { s with tally := {} }

/-- A server that has been asked for the instant that lies `10 ^ 15` seconds
ago, and then for a path with an escaped question mark. -/
def asked : Server × List Event :=
  ({  session := { clock := ⟨0⟩ }
      settings :=
        ⟨"", "test", false, "", none, "", 0, "", "utc", 0, .sunday, 100⟩ },
    [.request {
        method := "POST", target := "/api/v1/ranges/to-absolute",
        payload := .value (.obj [("from", .num (.int 1000000000000000)),
          ("to", .num (.int 0))]) },
      .request { target := "/health%3F" }])

end TimeWindow.Proofs.Http.Counting

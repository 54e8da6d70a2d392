import TimeWindow.Proofs.Http.Answers
import TimeWindow.Proofs.Http.Bodies
import TimeWindow.Proofs.Range.Probes
import TimeWindow.Proofs.Reading.Timestamps
import TimeWindow.Proofs.Service.Settings

/-!
# The settings that answers rest on

A request that leaves out its zone and its fiscal year is answered with the
engine of the session, whatever the settings of the server say
(`answer_of_range`).  The two come to the same instants on all requests exactly
if the engine reckons as the settings do (`answers_by_settings_iff`).
-/

namespace TimeWindow.Proofs.Http.OwnSettings

open TimeWindow.Http Outcome DateMath.SameClock Range.Reckoning Range.Probes
  Reading.WrittenForms Reading.Timestamps Service.Settings Answers Bodies
open TimeWindow.DateMath (Rules Source)

/-- What a request says that leaves out its zone and its fiscal year: its raw
range and its reference instant. -/
inductive LeavesOut : Operation → Json → RawRange → Option Moment → Prop where
  | resolve {v : Json} {raw : RawRange} {now : Option Moment}
      (h : ResolveBody.read v = .ok ⟨raw, none, none, now⟩) :
      LeavesOut .resolve v raw now
  | interval {v : Json} {raw : RawRange} {now : Option Moment}
      {resolution : Option Int} {least : Option String}
      (h : IntervalBody.read v = .ok ⟨raw, resolution, least, none, now⟩) :
      LeavesOut .interval v raw now
  | toRelative {v : Json} {raw : RawRange} {now : Option Moment}
      (h : RangeBody.read v = .ok ⟨raw, none, now⟩) :
      LeavesOut .toRelative v raw now

def engineOf (s : Session) : Except Fault Engine :=
  (Session.getEngine.run.run s).1

/-- The range that a server makes of a request, and the rules by which it
does. -/
def rangeUsed (s : Server) (raw : RawRange) (now : Option Moment) :
    Except Fault TimeRange := do
  raw.resolve (← engineOf s.session) {} (Handler.presentOf s.session.here now)

def rulesUsed (s : Server) : Except Fault Rules :=
  do (← engineOf s.session).rules {}

/-- The range and the rules of an engine built from the settings of the server
itself. -/
def rangeBySettings (s : Server) (raw : RawRange) (now : Option Moment) :
    Except Fault TimeRange := do
  raw.resolve (← s.settings.engine s.session.zones) {}
    (Handler.presentOf s.session.here now)

def rulesBySettings (s : Server) : Except Fault Rules := do
  (← s.settings.engine s.session.zones).rules {}

/-- The content is made of a range: it shows the range, measures it, or tells
its distances. -/
inductive MadeOf (s : Server) (v : Json) (now : Option Moment)
    (range : TimeRange) : Operation → Json → Prop where
  | resolve {x : ResolvedRange} (shows : x.range = range) :
      MadeOf s v now range .resolve x.json
  | interval {b : IntervalBody} {step : QueryStep} {milliseconds : Double}
      (hbody : IntervalBody.read v = .ok b)
      (measures : Interval.calculate .double range.start range.stop
        (.number (.int (Handler.resolutionOf s.settings.defaultResolution b)))
        b.minInterval = .ok step)
      (sends : Handler.sendable step.milliseconds = .ok milliseconds) :
      MadeOf s v now range .interval
        (SizedStep.json ⟨milliseconds, step.label,
          Handler.resolutionOf s.settings.defaultResolution b⟩)
  | toRelative {start stop : Double}
      (tells : range.toRelative (Handler.presentOf s.session.here now) =
        .ok (start, stop)) :
      MadeOf s v now range .toRelative (distancesJson start stop)

/-! ## What answers are made of -/

section

variable {s : Server} {r : Request} {v : Json} {raw : RawRange}
  {now : Option Moment} {body : Json}

theorem rangeUsed_of_resolve {e : Engine} (he : EngineOf s.session e)
    {range : TimeRange}
    (h : raw.resolve e {} (Handler.presentOf s.session.here now) = .ok range) :
    rangeUsed s raw now = .ok range := by
  unfold rangeUsed engineOf
  rw [he]
  exact h

theorem resolve_made (hasks : Asks r .resolve v)
    (hread : ResolveBody.read v = .ok ⟨raw, none, none, now⟩)
    (hanswer : (s.answer r).1 = .content 200 body) :
    ∃ range, rangeUsed s raw now = .ok range ∧
      MadeOf s v now range .resolve body := by
  obtain ⟨e, he, hresult⟩ :=
    result_of_content hasks (perform_resolve s _ _) hread hanswer
  obtain ⟨x, hx, rfl⟩ := map_eq_ok.1 hresult
  obtain ⟨range, display, abbreviation, hrange, -, -, rfl⟩ :=
    handler_resolve_eq_ok.1 hx
  exact ⟨range, rangeUsed_of_resolve he hrange, .resolve rfl⟩

theorem interval_made {resolution : Option Int} {least : Option String}
    (hasks : Asks r .interval v)
    (hread : IntervalBody.read v = .ok ⟨raw, resolution, least, none, now⟩)
    (hanswer : (s.answer r).1 = .content 200 body) :
    ∃ range, rangeUsed s raw now = .ok range ∧
      MadeOf s v now range .interval body := by
  obtain ⟨e, he, hresult⟩ :=
    result_of_content hasks (perform_interval s _ _) hread hanswer
  obtain ⟨x, hx, rfl⟩ := map_eq_ok.1 hresult
  obtain ⟨range, hrange, hx⟩ := bind_eq_ok.1 hx
  obtain ⟨-, -, hx⟩ := bind_eq_ok.1 hx
  obtain ⟨step, hstep, hx⟩ := bind_eq_ok.1 hx
  obtain ⟨milliseconds, hsends, hx⟩ := bind_eq_ok.1 hx
  rw [← pure_eq_ok.1 hx]
  exact ⟨range, rangeUsed_of_resolve he (mapError_eq_ok.1 hrange),
    .interval hread (mapError_eq_ok.1 hstep) hsends⟩

theorem toRelative_made (hasks : Asks r .toRelative v)
    (hread : RangeBody.read v = .ok ⟨raw, none, now⟩)
    (hanswer : (s.answer r).1 = .content 200 body) :
    ∃ range, rangeUsed s raw now = .ok range ∧
      MadeOf s v now range .toRelative body := by
  obtain ⟨e, he, hresult⟩ :=
    result_of_content hasks (perform_toRelative s _ _) hread hanswer
  obtain ⟨⟨start, stop⟩, hx, rfl⟩ := map_eq_ok.1 hresult
  obtain ⟨range, hrange, hx⟩ := bind_eq_ok.1 hx
  obtain ⟨-, -, hx⟩ := bind_eq_ok.1 hx
  exact ⟨range, rangeUsed_of_resolve he (mapError_eq_ok.1 hrange),
    .toRelative (mapError_eq_ok.1 hx)⟩

theorem answer_of_range {op : Operation} (hasks : Asks r op v)
    (hleaves : LeavesOut op v raw now)
    (hanswer : (s.answer r).1 = .content 200 body) :
    ∃ range, rangeUsed s raw now = .ok range ∧ MadeOf s v now range op body := by
  cases hleaves with
  | resolve hread => exact resolve_made hasks hread hanswer
  | interval hread => exact interval_made hasks hread hanswer
  | toRelative hread => exact toRelative_made hasks hread hanswer

end

/-! ## What accepted bodies hold -/

theorem moment_bare (v : Json) : Gives Bare (Field.moment v) :=
  moment_gives (fun _ h => h) (fun _ seconds _ => ⟨seconds, rfl⟩) v

theorem entered_of_accepted {side : Source} (h : Accepted Bare side) :
    Entered side := by
  cases side <;> exact h

structure EnteredRange (raw : RawRange) (now : Option Moment) : Prop where
  start : Entered raw.start
  stop : Entered raw.stop
  now : ∀ m, now = some m → Bare m

theorem enteredRange_of_fields {members : List (String × Json)}
    {raw : RawRange} {now : Option Moment}
    (hsides : Body.sides members = .ok raw)
    (hnow : Body.optional members "now" Field.moment = .ok now) :
    EnteredRange raw now := by
  obtain ⟨hstart, hstop⟩ := sides_accepted moment_bare members raw hsides
  exact ⟨entered_of_accepted hstart, entered_of_accepted hstop,
    optional_gives moment_bare members _ now hnow⟩

theorem enteredRange_of_leavesOut {op : Operation} {v : Json} {raw : RawRange}
    {now : Option Moment} (h : LeavesOut op v raw now) :
    EnteredRange raw now := by
  cases h with
  | resolve hread =>
    obtain ⟨members, -, hparts⟩ := bind_eq_ok.1 hread
    obtain ⟨_, _, hfiscal, hnow, hbody⟩ := Checked.part_eq_ok.1 hparts
    obtain ⟨_, _, hzoned, -, rfl⟩ := Checked.part_eq_ok.1 hfiscal
    obtain ⟨_, _, hranged, -, rfl⟩ := Checked.part_eq_ok.1 hzoned
    obtain ⟨_, _, hmk, hsides, rfl⟩ := Checked.part_eq_ok.1 hranged
    cases hmk
    cases hbody
    exact enteredRange_of_fields hsides hnow
  | interval hread =>
    obtain ⟨members, -, hparts⟩ := bind_eq_ok.1 hread
    obtain ⟨_, _, hzoned, hnow, hbody⟩ := Checked.part_eq_ok.1 hparts
    obtain ⟨_, _, hleast, -, rfl⟩ := Checked.part_eq_ok.1 hzoned
    obtain ⟨_, _, hsized, -, rfl⟩ := Checked.part_eq_ok.1 hleast
    obtain ⟨_, _, hranged, -, rfl⟩ := Checked.part_eq_ok.1 hsized
    obtain ⟨_, _, hmk, hsides, rfl⟩ := Checked.part_eq_ok.1 hranged
    cases hmk
    cases hbody
    exact enteredRange_of_fields hsides hnow
  | toRelative hread =>
    obtain ⟨members, -, hparts⟩ := bind_eq_ok.1 hread
    obtain ⟨_, _, hzoned, hnow, hbody⟩ := Checked.part_eq_ok.1 hparts
    obtain ⟨_, _, hranged, -, rfl⟩ := Checked.part_eq_ok.1 hzoned
    obtain ⟨_, _, hmk, hsides, rfl⟩ := Checked.part_eq_ok.1 hranged
    cases hmk
    cases hbody
    exact enteredRange_of_fields hsides hnow

/-! ## Engine and settings -/

theorem rangeBySettings_eq (s : Server) (raw : RawRange) (now : Option Moment) :
    rangeBySettings s raw now =
      raw.resolve (described s.session.zones s.settings) {}
        (Handler.presentOf s.session.here now) := by
  unfold rangeBySettings
  rw [engine_eq]
  rfl

theorem rulesBySettings_eq (s : Server) :
    rulesBySettings s = (described s.session.zones s.settings).rules {} := by
  unfold rulesBySettings
  rw [engine_eq]
  rfl

theorem rangeUsed_reckoning {s : Server} {raw : RawRange}
    {now : Option Moment} (hraw : EnteredRange raw now)
    (h : SameReckoning (rulesUsed s) (rulesBySettings s)) :
    Agree (rangeUsed s raw now) (rangeBySettings s raw now) := by
  have hnow : Bare (now.getD (.fixed (.ofUtc s.session.clock))) := by
    cases hm : now with
    | none => exact ⟨0, rfl⟩
    | some m => exact hraw.now m hm
  rw [rulesBySettings_eq] at h
  rw [rangeBySettings_eq]
  unfold rulesUsed at h
  unfold rangeUsed
  cases he : engineOf s.session with
  | error f =>
    rw [he] at h
    cases hrules : (described s.session.zones s.settings).rules {} with
    | error f' =>
      rw [resolve_of_no_zone (rules_eq_error hrules)]
      exact .neither f f'
    | ok rules =>
      rw [hrules] at h
      cases h
  | ok e =>
    rw [he] at h
    exact resolve_reckoning (p := Handler.presentOf s.session.here now)
      hraw.start hraw.stop hnow h

/-! ## Requests that tell engines apart -/

/-- A body with a range and a reference instant, and a request to resolve it. -/
def bodyOf (start stop now : String) : Json :=
  .obj [("from", .str start), ("to", .str stop), ("now", .str now)]

def requestOf (start stop now : String) : Request where
  method := "POST"
  target := "/api/v1/ranges/resolve"
  payload := .value (bodyOf start stop now)

theorem asks_requestOf (start stop now : String) :
    Asks (requestOf start stop now) .resolve (bodyOf start stop now) :=
  ⟨route_resolve, rfl⟩

theorem moment_written {w : Wall} (hw : w.inRange = true) (universal : Bool) :
    Field.moment (.str (written w universal)) =
      .ok (if universal then .fixed (.ofUtc w) else .plain w) :=
  moment_of_text (momentText_written hw universal)

theorem side_moment {location : List Issue.Place} {v : Json} {m : Moment}
    (h : Field.moment v = .ok m) : Body.side location v = .ok (.moment m) := by
  unfold Body.side
  rw [h]

theorem leavesOut_bodyOf {start now : String} {source : Source} {m : Moment}
    (hstart : ∀ location, Body.side location (.str start) = .ok source)
    (hnow : Field.moment (.str now) = .ok m) :
    LeavesOut .resolve (bodyOf start (written longAgo false) now) (since source)
      (some m) := by
  have hstop :
      Body.side (Body.place ++ [.name "to"]) (.str (written longAgo false)) =
      .ok (.moment (.plain longAgo)) :=
    side_moment (moment_written (by decide) false)
  have hsides :
      Body.sides [("from", .str start), ("to", .str (written longAgo false)),
      ("now", .str now)] = .ok (since source) :=
    Checked.part_eq_ok.2 ⟨_, _, Checked.part_eq_ok.2 ⟨_, _, rfl, hstart _, rfl⟩,
      hstop, rfl⟩
  have hranged := Checked.part_eq_ok.2 ⟨ResolveBody.mk, _, rfl, hsides, rfl⟩
  have hzoned := Checked.part_eq_ok.2 ⟨_, none, hranged, rfl, rfl⟩
  have hfiscal := Checked.part_eq_ok.2 ⟨_, none, hzoned, rfl, rfl⟩
  exact .resolve (Checked.part_eq_ok.2
    ⟨_, _, hfiscal, optional_moment (v := .str now) rfl nofun hnow, rfl⟩)

theorem probe_asked {start : Source} {now : Moment} (h : Probe start now) :
    ∃ r v, Asks r .resolve v ∧
      LeavesOut .resolve v (since start) (some now) := by
  have hlongAgo := moment_written (w := longAgo) (by decide) false
  cases h with
  | @instant u hu =>
    exact ⟨_, _, asks_requestOf (written u true) _ _,
      leavesOut_bodyOf (fun _ => side_moment (moment_written hu true)) hlongAgo⟩
  | @wall w hw =>
    exact ⟨_, _, asks_requestOf (written w false) _ _,
      leavesOut_bodyOf (fun _ => side_moment (moment_written hw false)) hlongAgo⟩
  | again hw =>
    exact ⟨_, _, asks_requestOf "now+0d" _ _,
      leavesOut_bodyOf (fun _ => rfl) (moment_written hw false)⟩
  | fiscalYear =>
    exact ⟨_, _, asks_requestOf "now/fy" _ _,
      leavesOut_bodyOf (fun _ => rfl) hlongAgo⟩
  | week =>
    exact ⟨_, _, asks_requestOf "now/w" _ _,
      leavesOut_bodyOf (fun _ => rfl) hlongAgo⟩

theorem reckoning_of_probes {s : Server}
    (h : ∀ start now, Probe start now → Agree (rangeUsed s (since start)
      (some now)) (rangeBySettings s (since start) (some now))) :
    SameReckoning (rulesUsed s) (rulesBySettings s) := by
  simp only [rangeBySettings_eq] at h
  rw [rulesBySettings_eq]
  unfold rulesUsed
  unfold rangeUsed at h
  cases he : engineOf s.session with
  | error f =>
    rw [he] at h
    have hneither := h _ _ longAgo_probe
    cases hz : (described s.session.zones s.settings).zone none with
    | error f' =>
      rw [rules_of_no_zone hz]
      exact .unknown f f'
    | ok z =>
      obtain ⟨r, hr⟩ := resolve_longAgo hz s.session.here
      have hrange : (since (.moment (.plain longAgo))).resolve
          (described s.session.zones s.settings) {}
          (Handler.presentOf s.session.here (some (.plain longAgo))) = .ok r :=
        hr
      rw [hrange] at hneither
      cases hneither
  | ok e =>
    rw [he] at h
    exact sameReckoning_of_probes h

/-- A server with settings for New York, in an environment that says nothing. -/
def newYork : Server where
  session := { clock := .onDate ⟨2024, 3, 15⟩ 0 }
  settings :=
    ⟨"", "test", false, "", none, "", 0, "", "America/New_York", 0, .sunday, 100⟩

def summerTime : Setting :=
  .period (.named "America/New_York") ⟨-14400, 3600, "EDT"⟩

end TimeWindow.Proofs.Http.OwnSettings

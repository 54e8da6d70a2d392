import TimeWindow.Proofs.Http.Answers
import TimeWindow.Proofs.Http.Bodies
import TimeWindow.Proofs.Interval.Steps
import TimeWindow.Proofs.Range.Resolution
import TimeWindow.Proofs.Service.Settings

/-!
# Requests for a query step

A request for a query step is refused for its zone, for a side of its range or
for its least interval, in this order, and else has a step.  `Handled` says all
that can come of it, and `Promised` what is meant to; the two differ for texts
that cannot be sent back and for least intervals that the reader of durations
takes for numbers that are none (`sized_as_promised`).  The resolution is never
at fault.
-/

namespace TimeWindow.Proofs.Http.Sizing

open TimeWindow.Http TimeWindow.DateMath TimeWindow.Text Outcome Occurrences
  DateMath.Faults Range.Resolution Interval.Durations Interval.Labels Answers
  Bodies

open Interval.Steps (Wants Rejected)

/-! ## What is promised -/

def rangeOf (e : Engine) (here : Present) (b : IntervalBody) :
    Except Fault TimeRange :=
  b.range.resolve e { timeZone := b.timeZone } (Handler.presentOf here b.now)

def Sides (e : Engine) (here : Present) (b : IntervalBody)
    (start stop : Option Instant) : Prop :=
  ∃ range, rangeOf e here b = .ok range ∧ range.start = start.map .fixed ∧
    range.stop = stop.map .fixed

def stepOf (standard : Int) (b : IntervalBody) (start stop : Instant) :
    Except Fault QueryStep :=
  Interval.calculate .double (some (.fixed start)) (some (.fixed stop))
    (.number (.int (Handler.resolutionOf standard b)))
    b.minInterval

def sized (standard : Int) (b : IntervalBody) (step : QueryStep) : SizedStep :=
  ⟨.ofRat step.milliseconds, step.label, Handler.resolutionOf standard b⟩

def unreadInterval : Refusal :=
  ⟨.invalidInterval, Duration.refusal.message?.getD "", some "min_interval"⟩

inductive Promised (e : Engine) (here : Present) (standard : Int)
    (b : IntervalBody) : Reply → Prop where
  | zone {f : Fault} (unknown : e.zone b.timeZone = .error f) :
      Promised e here standard b (.refusal (.unknownZone b.timeZone))
  | start {stop : Option Instant} (sides : Sides e here b none stop) :
      Promised e here standard b (.refusal (Handler.unresolved "from"))
  | stop {i : Instant} (sides : Sides e here b (some i) none) :
      Promised e here standard b (.refusal (Handler.unresolved "to"))
  | interval {i j : Instant} (sides : Sides e here b (some i) (some j))
      (rejected : Rejected b.minInterval) :
      Promised e here standard b (.refusal unreadInterval)
  | step {i j : Instant} {step : QueryStep}
      (sides : Sides e here b (some i) (some j))
      (accepted : ¬ Rejected b.minInterval)
      (calculated : stepOf standard b i j = .ok step) :
      Promised e here standard b (.content 200 (sized standard b step).json)

inductive LeavesRange : Fault → Prop where
  | placing {f : Fault} (h : PlacingFault f) : LeavesRange f
  | precision : LeavesRange .tooPrecise

/-- No date and no number of a body leaves its range. -/
structure InRange (e : Engine) (here : Present) (standard : Int)
    (b : IntervalBody) : Prop where
  resolves : ∀ f, rangeOf e here b = .error f → ¬ LeavesRange f
  calculates : ∀ i j, Sides e here b (some i) (some j) →
    stepOf standard b i j ≠ .error .numberTooLarge
  sends : ∀ i j step, Sides e here b (some i) (some j) →
    stepOf standard b i j = .ok step →
    Binary64.isFinite (Binary64.nearest step.milliseconds) = true
  digits : ∀ text, b.minInterval = some text → ShortRuns isDecimal text.toList

/-- The least interval is misread, or the name of the zone cannot be sent
back. -/
inductive Flaw (e : Engine) (here : Present) (b : IntervalBody) :
    Fault → Prop where
  | zone {f : Fault} (unknown : e.zone b.timeZone = .error f)
      (half : hasHalf (b.timeZone.getD "None") = true) :
      Flaw e here b .unpairedSurrogate
  | interval {i j : Instant} {text : String}
      (sides : Sides e here b (some i) (some j))
      (given : b.minInterval = some text) (separated : Separated text.toList) :
      Flaw e here b .notANumber

inductive Handled (e : Engine) (here : Present) (standard : Int)
    (b : IntervalBody) : Except Rejection SizedStep → Prop where
  | zone {f : Fault} (unknown : e.zone b.timeZone = .error f) :
      Handled e here standard b (.error (.refused (.unknownZone b.timeZone)))
  | astray {f : Fault} (range : rangeOf e here b = .error f)
      (leaves : LeavesRange f) :
      Handled e here standard b (.error (.failed f))
  | start {stop : Option Instant} (sides : Sides e here b none stop) :
      Handled e here standard b (.error (.refused (Handler.unresolved "from")))
  | stop {i : Instant} (sides : Sides e here b (some i) none) :
      Handled e here standard b (.error (.refused (Handler.unresolved "to")))
  | unread {i j : Instant} {text : String}
      (sides : Sides e here b (some i) (some j))
      (given : b.minInterval = some text) (nonempty : text ≠ "")
      (read : Duration.read text = .error Duration.refusal) :
      Handled e here standard b (.error (.refused unreadInterval))
  | misread {i j : Instant} {text : String}
      (sides : Sides e here b (some i) (some j))
      (given : b.minInterval = some text) (nonempty : text ≠ "")
      (read : Duration.read text = .error .notANumber) :
      Handled e here standard b (.error (.failed .notANumber))
  | tooLarge {i j : Instant} (sides : Sides e here b (some i) (some j))
      (calculated : stepOf standard b i j = .error .numberTooLarge) :
      Handled e here standard b (.error (.failed .numberTooLarge))
  | unwritable {i j : Instant} {step : QueryStep}
      (sides : Sides e here b (some i) (some j))
      (calculated : stepOf standard b i j = .ok step)
      (infinite : ¬ Binary64.isFinite (Binary64.nearest step.milliseconds) = true) :
      Handled e here standard b (.error (.failed .unwritableNumber))
  | step {i j : Instant} {step : QueryStep}
      (sides : Sides e here b (some i) (some j))
      (calculated : stepOf standard b i j = .ok step)
      (finite : Binary64.isFinite (Binary64.nearest step.milliseconds) = true) :
      Handled e here standard b (.ok (sized standard b step))

/-! ## Accepted bodies -/

/-- The sides are texts or moments, and a resolution is positive. -/
structure Usable (b : IntervalBody) : Prop where
  start : Accepted (fun _ => True) b.range.start
  stop : Accepted (fun _ => True) b.range.stop
  resolution : ∀ n, b.resolution = some n → 0 < n

theorem positiveInteger_gives (v : Json) :
    Gives (fun n => 0 < n) (Body.positiveInteger v) := by
  intro n h
  obtain ⟨m, -, h⟩ := bind_eq_ok.1 h
  split at h
  · rename_i hpos
    cases h
    exact hpos
  · cases h

theorem intervalBody_usable (v : Json) :
    Gives Usable (IntervalBody.read v) := by
  intro b h
  obtain ⟨members, -, hparts⟩ := bind_eq_ok.1 h
  obtain ⟨_, now, hzoned, -, rfl⟩ := Checked.part_eq_ok.1 hparts
  obtain ⟨_, timeZone, hleast, -, rfl⟩ := Checked.part_eq_ok.1 hzoned
  obtain ⟨_, least, hsized, -, rfl⟩ := Checked.part_eq_ok.1 hleast
  obtain ⟨_, resolution, hranged, hresolution, rfl⟩ :=
    Checked.part_eq_ok.1 hsized
  obtain ⟨_, range, hmk, hsides, rfl⟩ := Checked.part_eq_ok.1 hranged
  cases hmk
  have hany : ∀ v, Gives (fun _ => True) (Field.moment v) :=
    fun _ _ _ => trivial
  obtain ⟨hstart, hstop⟩ := sides_accepted hany members range hsides
  exact ⟨hstart, hstop,
    optional_gives positiveInteger_gives members _ resolution hresolution⟩

section

variable {e : Engine} {here : Present} {standard : Int} {b : IntervalBody}
  {start stop start' stop' : Option Instant}
  {i j : Instant}

theorem resolution_pos (hb : Usable b) (hstandard : 0 < standard) :
    0 < Handler.resolutionOf standard b := by
  unfold Handler.resolutionOf
  cases h : b.resolution with
  | none => exact hstandard
  | some n => exact hb.resolution n h

/-! ## Sides -/

theorem Sides.unique (h : Sides e here b start stop)
    (h' : Sides e here b start' stop') :
    start = start' ∧ stop = stop' := by
  obtain ⟨range, hrange, hstart, hstop⟩ := h
  obtain ⟨range', hrange', hstart', hstop'⟩ := h'
  cases hrange.symm.trans hrange'
  have hinj : Function.Injective (Option.map Moment.fixed) :=
    Option.map_injective fun _ _ h => Moment.fixed.inj h
  exact ⟨hinj (hstart.symm.trans hstart'), hinj (hstop.symm.trans hstop')⟩

theorem Sides.known {f : Fault} (h : Sides e here b start stop) :
    e.zone b.timeZone ≠ .error f := by
  obtain ⟨range, hrange, -⟩ := h
  obtain ⟨z, hz⟩ := zone_of_resolve hrange
  intro hzone
  cases hz.symm.trans hzone

theorem zone_fails (e : Engine) (timeZone : Option String) :
    FailsWithin (fun f => ∃ name, f = .unknownZone name) (e.zone timeZone) := by
  unfold Engine.zone Zone.resolve
  split
  · exact failsWithin_ok _
  · split
    · exact failsWithin_ok _
    · split
      · exact failsWithin_ok _
      · split
        · exact failsWithin_error ⟨_, rfl⟩
        · split
          · exact failsWithin_ok _
          · exact failsWithin_error ⟨_, rfl⟩

theorem leavesRange_of_misplaces {α : Type} {x : Except Fault α}
    (h : OnlyMisplaces x) : FailsWithin LeavesRange x :=
  fun f hf => .placing (h f hf)

theorem parseInstant_leavesRange {call : Engine.Call} {rules : Rules}
    {weekStart : WeekStart} {p : Present} {side : Source}
    (hrules : e.rules call = .ok rules)
    (hweek : rules.weekStart = some weekStart)
    (hside : Accepted (fun _ => True) side) :
    FailsWithin LeavesRange (e.parseInstant call p side) := by
  cases side with
  | text s =>
    rw [parseInstant_text hrules]
    split
    · exact leavesRange_of_misplaces (fallBack_fails hweek p s)
    · refine FailsWithin.bind ?_ fun m _ => ?_
      · unfold FreeForm.read
        dsimp only
        split
        · exact failsWithin_ok _
        · exact failsWithin_ok _
        · exact failsWithin_error .precision
      · cases m with
        | none => exact failsWithin_ok _
        | some m =>
          exact (leavesRange_of_misplaces (momentToZone_fails m _)).bind
            fun _ _ => failsWithin_ok _
  | moment m =>
    rw [parseInstant_moment hrules]
    intro f hf
    cases hm : m.toZone rules.zone with
    | ok i =>
      rw [hm] at hf
      cases hf
    | error f' =>
      rw [hm] at hf
      cases hf
      exact .placing (momentToZone_fails m _ _ hm)
  | number | flag | collection | absent => cases hside

theorem rangeOf_leavesRange {z : Zone} (hb : Usable b)
    (hz : e.zone b.timeZone = .ok z) :
    FailsWithin LeavesRange (rangeOf e here b) := by
  have hrules := rules_side (c := { timeZone := b.timeZone }) hz
  exact (parseInstant_leavesRange (hrules false) rfl hb.start).bind fun start _ =>
    (parseInstant_leavesRange (hrules true) rfl hb.stop).bind fun stop _ =>
      failsWithin_ok _

/-! ## The step -/

theorem points_ok (hb : Usable b) (hstandard : 0 < standard) :
    ∃ m, Interval.points (.number (.int (Handler.resolutionOf standard b))) =
      .ok m := by
  have hwants :
      Wants (.number (.int (Handler.resolutionOf standard b)))
        (Handler.resolutionOf standard b) :=
    ⟨rfl, Int.cast_pos.2 (resolution_pos hb hstandard)⟩
  obtain ⟨m, hpoints, -⟩ := Interval.Steps.points_of_wants hwants
  exact ⟨m, hpoints⟩

theorem stepOf_of_unread (hb : Usable b) (hstandard : 0 < standard)
    {text : String} {f : Fault} (hgiven : b.minInterval = some text)
    (hnonempty : text ≠ "") (hread : Duration.read text = .error f) :
    stepOf standard b i j = .error f := by
  obtain ⟨m, hpoints⟩ := points_ok hb hstandard
  unfold stepOf
  rw [hgiven]
  exact Interval.Steps.calculate_of_limit_error hpoints
    (Interval.Steps.lowLimit_of_unread hnonempty hread)

theorem not_rejected_of_step (hb : Usable b) (hstandard : 0 < standard)
    {step : QueryStep} (h : stepOf standard b i j = .ok step) :
    ¬ Rejected b.minInterval := by
  rintro ⟨text, hgiven, hnonempty, hrejected⟩
  cases hread : Duration.read text with
  | ok d => exact hrejected d hread
  | error f =>
    cases (stepOf_of_unread hb hstandard hgiven hnonempty hread).symm.trans h

theorem rejected_of_unread {text : String} {f : Fault}
    (hgiven : b.minInterval = some text) (hnonempty : text ≠ "")
    (hread : Duration.read text = .error f) : Rejected b.minInterval :=
  ⟨text, hgiven, hnonempty, fun _ hd => nomatch hread.symm.trans hd⟩

theorem rejected_of_separated {text : String}
    (hgiven : b.minInterval = some text) (h : Separated text.toList) :
    Rejected b.minInterval := by
  have hread := read_of_separated h
  refine rejected_of_unread hgiven ?_ hread
  rintro rfl
  exact absurd hread (by decide)

theorem fault_of_stepOf (hb : Usable b) (hstandard : 0 < standard) :
    FailsWithin (fun f => f = .numberTooLarge ∨
      ∃ text, b.minInterval = some text ∧ text ≠ "" ∧
        Duration.read text = .error f) (stepOf standard b i j) := by
  obtain ⟨m, hpoints⟩ := points_ok hb hstandard
  exact Interval.Steps.calculate_fails (.inl rfl) hpoints rfl
    fun text f hgiven hnonempty hread => .inr ⟨text, hgiven, hnonempty, hread⟩

end

/-! ## Handling -/

/-- A side without an instant, and its field; of two such sides it is the
start. -/
inductive Missing : Option Instant → Option Instant → String → Prop where
  | start {stop : Option Instant} : Missing none stop "from"
  | stop {i : Instant} : Missing (some i) none "to"

section

variable {e : Engine} {here : Present} {standard : Int} {b : IntervalBody}

theorem interval_of_unknown {name : String}
    (h : rangeOf e here b = .error (.unknownZone name)) :
    Handler.interval e standard here b =
      .error (.refused (.unknownZone b.timeZone)) := by
  unfold rangeOf at h
  unfold Handler.interval
  rw [h]
  rfl

theorem interval_of_astray {f : Fault} (h : rangeOf e here b = .error f)
    (hleaves : LeavesRange f) :
    Handler.interval e standard here b = .error (.failed f) := by
  unfold rangeOf at h
  unfold Handler.interval
  rw [h]
  cases hleaves with
  | placing hplacing => cases hplacing <;> rfl
  | precision => rfl

theorem interval_of_range {range : TimeRange}
    (h : rangeOf e here b = .ok range) :
    Handler.interval e standard here b = Handler.requireInstants range >>=
      fun _ => do
      let step ← Handler.inField "min_interval"
        (Interval.calculate .double range.start range.stop
        (.number (.int (Handler.resolutionOf standard b))) b.minInterval)
      return {
        milliseconds := ← Handler.sendable step.milliseconds, label := step.label,
        resolution := Handler.resolutionOf standard b } := by
  unfold rangeOf at h
  unfold Handler.interval
  rw [h]
  rfl

theorem interval_of_missing {start stop : Option Instant} {field : String}
    (h : Sides e here b start stop) (hmissing : Missing start stop field) :
    Handler.interval e standard here b =
      .error (.refused (Handler.unresolved field)) := by
  obtain ⟨range, hrange, hstart, hstop⟩ := h
  rw [interval_of_range hrange, Handler.requireInstants, hstart, hstop]
  cases hmissing <;> rfl

theorem interval_of_sides {i j : Instant}
    (h : Sides e here b (some i) (some j)) :
    Handler.interval e standard here b = do
      let step ← Handler.inField "min_interval" (stepOf standard b i j)
      return {
        milliseconds := ← Handler.sendable step.milliseconds, label := step.label,
        resolution := Handler.resolutionOf standard b } := by
  obtain ⟨range, hrange, hstart, hstop⟩ := h
  rw [interval_of_range hrange, Handler.requireInstants, hstart, hstop]
  rfl

theorem handled (hb : Usable b) (hstandard : 0 < standard) :
    Handled e here standard b (Handler.interval e standard here b) := by
  cases hz : e.zone b.timeZone with
  | error f =>
    obtain ⟨name, rfl⟩ := zone_fails e b.timeZone f hz
    have hrange : rangeOf e here b = .error (.unknownZone name) :=
      resolve_of_zone_error hz _ _
    rw [interval_of_unknown hrange]
    exact .zone hz
  | ok z =>
    cases hrange : rangeOf e here b with
    | error f =>
      have hleaves := rangeOf_leavesRange hb hz f hrange
      rw [interval_of_astray hrange hleaves]
      exact .astray hrange hleaves
    | ok range =>
      obtain ⟨start, stop, -, -, hstart, hstop⟩ := resolve_eq_ok hrange
      have hsides : Sides e here b start stop := ⟨range, hrange, hstart, hstop⟩
      cases start with
      | none =>
        rw [interval_of_missing hsides .start]
        exact .start hsides
      | some i =>
        cases stop with
        | none =>
          rw [interval_of_missing hsides .stop]
          exact .stop hsides
        | some j =>
          rw [interval_of_sides hsides]
          cases hstep : stepOf standard b i j with
          | error f =>
            rcases fault_of_stepOf hb hstandard f
              hstep with rfl | ⟨text, hgiven, hnonempty, hread⟩
            · exact .tooLarge hsides hstep
            · rcases Interval.Steps.fault_of_read hread with rfl | rfl
              · exact .unread hsides hgiven hnonempty hread
              · exact .misread hsides hgiven hnonempty hread
          | ok step =>
            change Handled e here standard b
              (Handler.sendable step.milliseconds >>= _)
            unfold Handler.sendable
            split
            · rename_i hfinite
              exact .step hsides hstep hfinite
            · rename_i hinfinite
              exact .unwritable hsides hstep hinfinite

/-- A body is refused for its zone, a side of its range or its least interval,
and never for its resolution. -/
theorem code_of_handled {refusal : Refusal}
    (h : Handled e here standard b (.error (.refused refusal))) :
    refusal.code ≠ .invalidResolution := by
  cases h <;> nofun

theorem field_of_handled {refusal : Refusal}
    (h : Handled e here standard b (.error (.refused refusal))) :
    ∀ name, refusal.field = some name → hasHalf name = false := by
  intro name hname
  cases h <;> cases hname <;> exact hasHalf_of_low (by decide)

end

/-! ## Sending -/

def refusalNames : List String :=
  ["detail", "error", "code", "message", "details", "field"]

theorem any_refusal {p : Json → Bool} {refusal : Refusal}
    (hnames : ∀ name ∈ refusalNames, p (.str name) = false)
    (hnull : p .null = false) (hcode : p (.str refusal.code.name) = false)
    (hfield : ∀ name, refusal.field = some name → p (.str name) = false) :
    Json.any p (.obj [("detail", refusal.body)]) =
      p (.str (if refusal.text = "" then refusal.code.standardText
        else refusal.text)) := by
  simp only [refusalNames, List.mem_cons, List.not_mem_nil, or_false,
    forall_eq_or_imp, forall_eq] at hnames
  have hdetails : Json.any p refusal.details = false := by
    unfold Refusal.details
    split
    · simpa [Json.any] using hnull
    · rename_i name hname
      split
      · simpa [Json.any] using hnull
      · simp [Json.any, Json.anyMember, hnames, hfield name hname]
  unfold Refusal.body ErrorCode.body
  dsimp only
  generalize (if refusal.text = "" then refusal.code.standardText
    else refusal.text) = text
  split <;> simp [Json.any, Json.anyMember, hnames, hcode, hdetails]

theorem hasInfinite_refusal (refusal : Refusal) :
    (Json.obj [("detail", refusal.body)]).hasInfinite = false :=
  any_refusal (fun _ _ => rfl) rfl rfl fun _ _ => rfl

theorem hasHalf_refusal {refusal : Refusal}
    (hfield : ∀ name, refusal.field = some name → hasHalf name = false) :
    (Json.obj [("detail", refusal.body)]).hasHalf = hasHalf refusal.text := by
  have hnames : ∀ name ∈ refusalNames, Low name.toList := by decide
  have hcodes : ∀ code ∈ ErrorCode.all, Low code.name.toList ∧
      Low code.standardText.toList := by decide
  obtain ⟨hname, hstandard⟩ :=
    hcodes refusal.code (by cases refusal.code <;> decide)
  refine (any_refusal (fun name hmem => hasHalf_of_low (hnames name hmem)) rfl
    (hasHalf_of_low hname) hfield).trans ?_
  dsimp only
  split
  · rename_i hempty
    rw [hempty, hasHalf_of_low hstandard]
    rfl
  · rfl

theorem code_of_refusal {refusal refusal' : Refusal}
    (h : Reply.refusal refusal = .refusal refusal') :
    refusal.code = refusal'.code := by
  have hname : refusal.code.name = refusal'.code.name := by
    simp only [Reply.refusal, Refusal.body, ErrorCode.body, Reply.content.injEq,
      Json.obj.injEq, List.cons.injEq, Prod.mk.injEq, List.cons_append,
      Json.str.injEq] at h
    exact h.2.1.2.1.2.1.2
  have hcode := ErrorCode.ofName_name refusal.code
  rw [hname, ErrorCode.ofName_name] at hcode
  exact (Except.ok.inj hcode).symm

theorem hasHalf_unknownZone (name : Option String) :
    hasHalf (Refusal.unknownZone name).text = hasHalf (name.getD "None") := by
  have hfront : hasHalf "Unknown time zone \x27" = false :=
    hasHalf_of_low (by decide)
  have hback : hasHalf "\x27." = false := hasHalf_of_low (by decide)
  unfold Refusal.unknownZone
  dsimp only
  rw [hasHalf_append, hasHalf_append, hfront, hback, Bool.false_or, Bool.or_false]

theorem written_sized (standard : Int) (b : IntervalBody) {step : QueryStep}
    (hlabel : hasHalf step.label = false)
    (hfinite : Binary64.isFinite (Binary64.nearest step.milliseconds) = true) :
    (sized standard b step).json.hasInfinite = false ∧
    (sized standard b step).json.hasHalf = false := by
  have hnames :
      hasHalf "interval_ms" = false ∧ hasHalf "interval" = false ∧
      hasHalf "resolution" = false :=
    ⟨hasHalf_of_low (by decide), hasHalf_of_low (by decide),
      hasHalf_of_low (by decide)⟩
  have hsent :
      Double.ofRat step.milliseconds =
        .finite (Binary64.nearest step.milliseconds) :=
    if_pos hfinite
  unfold sized SizedStep.json doubleJson
  rw [hsent]
  constructor
  · rfl
  · simp [Json.hasHalf, Json.any, Json.anyMember, hnames, hlabel]

section

variable {s : Server} {r : Request} {v : Json} {b : IntervalBody} {e : Engine}
  (hasks : Asks r .interval v)
  (he : EngineOf s.session e) (hbody : IntervalBody.read v = .ok b)

include hasks he hbody

theorem answer_of_failed {f : Fault}
    (h : Handler.interval e s.settings.defaultResolution s.session.here b =
      .error (.failed f)) :
    (s.answer r).1 = s.failure r f := by
  refine answer_failure hasks (perform_interval s _ _) he hbody ?_
  rw [h]
  rfl

theorem answer_of_sized {step : QueryStep}
    (h : Handler.interval e s.settings.defaultResolution s.session.here b =
      .ok (sized s.settings.defaultResolution b step))
    (hlabel : hasHalf step.label = false)
    (hfinite : Binary64.isFinite (Binary64.nearest step.milliseconds) = true) :
    (s.answer r).1 =
      .content 200 (sized s.settings.defaultResolution b step).json := by
  obtain ⟨hinfinite, hhalf⟩ :=
    written_sized s.settings.defaultResolution b hlabel hfinite
  refine answer_result hasks (perform_interval s _ _) he hbody ?_ hinfinite hhalf
  rw [h]
  rfl

variable (hstandard : 0 < s.settings.defaultResolution)

include hstandard

theorem answer_of_refused {refusal : Refusal}
    (h : Handler.interval e s.settings.defaultResolution s.session.here b =
      .error (.refused refusal)) :
    (s.answer r).1 =
      if hasHalf refusal.text = true then s.failure r .unpairedSurrogate
        else .refusal refusal := by
  have hfield :=
    field_of_handled (h ▸ handled (intervalBody_usable v b hbody) hstandard)
  have hvalues :
      (Reply.refusal refusal).values = [.obj [("detail", refusal.body)]] :=
    rfl
  obtain ⟨session', hanswer⟩ :=
    answer_withEngine hasks (perform_interval s _ _) he hbody
  rw [hanswer, h]
  change replyOf s r ((Reply.send (.refusal refusal)).run.run session').1 = _
  unfold Reply.send
  simp only [hvalues, List.any_cons, List.any_nil, Bool.or_false,
    hasInfinite_refusal, hasHalf_refusal hfield, Bool.false_eq_true, if_false]
  split <;> rfl

theorem answer_of_low {refusal : Refusal}
    (h : Handler.interval e s.settings.defaultResolution s.session.here b =
      .error (.refused refusal)) (hlow : Low refusal.text.toList) :
    (s.answer r).1 = .refusal refusal := by
  have hhalf : ¬ hasHalf refusal.text = true :=
    Bool.eq_false_iff.1 (hasHalf_of_low hlow)
  rw [answer_of_refused hasks he hbody hstandard h, if_neg hhalf]

end

/-! ## Keeping what is promised -/

section

variable {e : Engine} {here : Present} {standard : Int} {b : IntervalBody}
  {o o' : Reply}

theorem Promised.unique (h : Promised e here standard b o)
    (h' : Promised e here standard b o') : o = o' := by
  cases h with
  | zone hunknown =>
    cases h' with
    | zone => rfl
    | start hsides | stop hsides | interval hsides | step hsides =>
      exact absurd hunknown hsides.known
  | start hsides =>
    cases h' with
    | zone hunknown => exact absurd hunknown hsides.known
    | start => rfl
    | stop hsides' | interval hsides' | step hsides' =>
      cases (hsides.unique hsides').1
  | stop hsides =>
    cases h' with
    | zone hunknown => exact absurd hunknown hsides.known
    | start hsides' => cases (hsides.unique hsides').1
    | stop => rfl
    | interval hsides' | step hsides' => cases (hsides.unique hsides').2
  | interval hsides hrejected =>
    cases h' with
    | zone hunknown => exact absurd hunknown hsides.known
    | start hsides' => cases (hsides.unique hsides').1
    | stop hsides' => cases (hsides.unique hsides').2
    | interval => rfl
    | step _ haccepted => exact absurd hrejected haccepted
  | step hsides haccepted hstep =>
    cases h' with
    | zone hunknown => exact absurd hunknown hsides.known
    | start hsides' => cases (hsides.unique hsides').1
    | stop hsides' => cases (hsides.unique hsides').2
    | interval _ hrejected => exact absurd hrejected haccepted
    | step hsides' _ hstep' =>
      obtain ⟨hi, hj⟩ := hsides.unique hsides'
      cases hi
      cases hj
      cases hstep.symm.trans hstep'
      rfl

theorem Promised.status_ne (h : Promised e here standard b o) :
    o.status ≠ 500 := by
  cases h with
  | zone | start | stop | interval => exact (by decide : (400 : Nat) ≠ 500)
  | step => exact (by decide : (200 : Nat) ≠ 500)

theorem not_flaw_of_missing {start stop : Option Instant} {field : String}
    (hsides : Sides e here b start stop) (hmissing : Missing start stop field)
    (f : Fault) :
    ¬ Flaw e here b f := by
  intro hflaw
  cases hflaw with
  | zone hunknown => exact hsides.known hunknown
  | interval hsides' =>
    obtain ⟨rfl, rfl⟩ := hsides.unique hsides'
    cases hmissing

theorem Flaw.separated {start stop : Option Instant} {f : Fault}
    (h : Flaw e here b f) (hsides : Sides e here b start stop) :
    f = .notANumber ∧ ∃ text, b.minInterval = some text ∧
    Separated text.toList := by
  cases h with
  | zone hunknown => exact absurd hunknown hsides.known
  | interval _ hgiven hseparated => exact ⟨rfl, _, hgiven, hseparated⟩

end

section

variable {s : Server} {r : Request} {b : IntervalBody} {e : Engine} {o : Reply}

/-- The answer to a request with a body is what is promised unless there is a
flaw; then handling breaks off. -/
def Keeps (e : Engine) (s : Server) (r : Request) (b : IntervalBody) : Prop :=
  ∃ reply, (∀ o, Promised e s.session.here s.settings.defaultResolution b o ↔
    o = reply) ∧
    ((s.answer r).1 = reply ↔ ∀ f, ¬ Flaw e s.session.here b f) ∧
    ∀ f, Flaw e s.session.here b f → (s.answer r).1 = s.failure r f

theorem keeps_of_promised
    (h : Promised e s.session.here s.settings.defaultResolution b o)
    (hclean : (∀ f, ¬ Flaw e s.session.here b f) → (s.answer r).1 = o)
    (hflaw : ∀ f, Flaw e s.session.here b f → (s.answer r).1 = s.failure r f) :
    Keeps e s r b := by
  refine ⟨o, fun o' => ⟨fun ho' => ho'.unique h, fun ho' => ho' ▸ h⟩,
    ⟨fun hanswer f hf => ?_, hclean⟩, hflaw⟩
  have hstatus := status_failure s r f
  rw [← hflaw f hf, hanswer] at hstatus
  exact h.status_ne hstatus

theorem keeps_of_clean
    (h : Promised e s.session.here s.settings.defaultResolution b o)
    (hclean : ∀ f, ¬ Flaw e s.session.here b f) (hanswer : (s.answer r).1 = o) :
    Keeps e s r b :=
  keeps_of_promised h (fun _ => hanswer) fun f hflaw => absurd hflaw (hclean f)

variable {v : Json} (hasks : Asks r .interval v)
  (he : EngineOf s.session e) (hbody : IntervalBody.read v = .ok b)
  (hstandard : 0 < s.settings.defaultResolution)

include hasks he hbody hstandard

theorem answer_keeps
    (hrange : InRange e s.session.here s.settings.defaultResolution b) :
    Keeps e s r b := by
  have husable := intervalBody_usable v b hbody
  have hhandled : Handled e s.session.here s.settings.defaultResolution b _ :=
    handled husable hstandard
  generalize hresult : Handler.interval e s.settings.defaultResolution
    s.session.here b = result at hhandled
  cases hhandled with
  | zone hunknown =>
    have hanswer := answer_of_refused hasks he hbody hstandard hresult
    rw [hasHalf_unknownZone] at hanswer
    refine keeps_of_promised (.zone hunknown) (fun hclean => ?_) fun f hflaw => ?_
    · rw [hanswer, if_neg fun hhalf => hclean _ (.zone hunknown hhalf)]
    · cases hflaw with
      | zone _ hhalf => rw [hanswer, if_pos hhalf]
      | interval hsides => exact absurd hunknown hsides.known
  | astray hrange' hleaves => exact absurd hleaves (hrange.resolves _ hrange')
  | start hsides =>
    have hanswer := answer_of_low hasks he hbody hstandard hresult (by decide)
    exact keeps_of_clean (.start hsides)
      (not_flaw_of_missing hsides .start) hanswer
  | stop hsides =>
    have hanswer := answer_of_low hasks he hbody hstandard hresult (by decide)
    exact keeps_of_clean (.stop hsides) (not_flaw_of_missing hsides .stop) hanswer
  | unread hsides hgiven hnonempty hread =>
    have hanswer :=
      answer_of_low hasks he hbody hstandard hresult (by decide +kernel)
    refine keeps_of_clean (.interval hsides
      (rejected_of_unread hgiven hnonempty hread)) (fun f hflaw => ?_) hanswer
    obtain ⟨-, text, hgiven', hseparated⟩ := hflaw.separated hsides
    cases hgiven.symm.trans hgiven'
    cases hread.symm.trans (read_of_separated hseparated)
  | misread hsides hgiven hnonempty hread =>
    have hseparated :=
      (Interval.Steps.misread_iff (hrange.digits _ hgiven)).1 hread
    refine keeps_of_promised
      (.interval hsides (rejected_of_unread hgiven hnonempty hread))
      (fun hclean => absurd (.interval hsides hgiven hseparated)
        (hclean .notANumber)) fun f hflaw => ?_
    obtain ⟨rfl, -⟩ := hflaw.separated hsides
    exact answer_of_failed hasks he hbody hresult
  | tooLarge hsides hstep => exact absurd hstep (hrange.calculates _ _ hsides)
  | unwritable hsides hstep hinfinite =>
    exact absurd (hrange.sends _ _ _ hsides hstep) hinfinite
  | step hsides hstep hfinite =>
    have haccepted := not_rejected_of_step husable hstandard hstep
    obtain ⟨seconds, hlabel⟩ := Interval.Steps.label_of_calculate hstep
    have hanswer :=
      answer_of_sized hasks he hbody hresult (hasHalf_label hlabel) hfinite
    refine keeps_of_clean (.step hsides haccepted hstep) (fun f hflaw =>
      ?_) hanswer
    obtain ⟨-, text, hgiven, hseparated⟩ := hflaw.separated hsides
    exact haccepted (rejected_of_separated hgiven hseparated)

theorem answer_ne_resolution (text : String) (field : Option String) :
    (s.answer r).1 ≠ .refusal ⟨.invalidResolution, text, field⟩ := by
  intro hanswer
  have hstatus : (s.answer r).1.status = 400 := congrArg Reply.status hanswer
  have hhandled : Handled e s.session.here s.settings.defaultResolution b _ :=
    handled (intervalBody_usable v b hbody) hstandard
  cases hresult :
    Handler.interval e s.settings.defaultResolution s.session.here b with
  | error rejection =>
    cases rejection with
    | failed f =>
      rw [answer_of_failed hasks he hbody hresult, status_failure] at hstatus
      exact absurd hstatus (by decide : (500 : Nat) ≠ 400)
    | refused refusal =>
      have hrefused := answer_of_refused hasks he hbody hstandard hresult
      split at hrefused
      · rw [hrefused, status_failure] at hstatus
        exact absurd hstatus (by decide : (500 : Nat) ≠ 400)
      · exact code_of_handled (hresult ▸ hhandled)
          (code_of_refusal (hrefused.symm.trans hanswer))
  | ok result =>
    rw [hresult] at hhandled
    cases hhandled with
    | step hsides hstep hfinite =>
      obtain ⟨seconds, hlabel⟩ := Interval.Steps.label_of_calculate hstep
      rw [answer_of_sized hasks he hbody hresult (hasHalf_label hlabel)
        hfinite] at hstatus
      exact absurd hstatus (by decide : (200 : Nat) ≠ 400)

end

/-- **What a request for a step is answered.**  Where no date and no number
leaves its range, exactly one answer is promised to an accepted body: a refusal
for a zone that is unknown, else for a range without a beginning or only without
an end, else for a least interval that holds no duration, else the calculated
step at the resolution of the body or of the settings.  It is given exactly
unless the name of an unknown zone cannot be sent back, or the least interval is
a bare number with an information separator around it; then handling breaks off.
The resolution is never refused. -/
theorem sized_as_promised {env : Environment} {given : List (String × Json)}
    {s : Server} {r : Request} {v : Json} {b : IntervalBody} {e : Engine}
    (hsettings : Settings.read env given = .ok s.settings)
    (he : EngineOf s.session e) (hasks : Asks r .interval v)
    (hbody : IntervalBody.read v = .ok b) :
    (InRange e s.session.here s.settings.defaultResolution b →
      Keeps e s r b) ∧
    ∀ text field, (s.answer r).1 ≠
      .refusal ⟨.invalidResolution, text, field⟩ := by
  have hstandard := (Service.Settings.read_inBounds hsettings).resolution
  exact ⟨answer_keeps hasks he hbody hstandard,
    answer_ne_resolution hasks he hbody hstandard⟩

/-- The engine that the standard settings describe. -/
def engine : Engine := { timeZone := some "utc" }

def standing : Server where
  session := { clock := .onDate ⟨2024, 3, 15⟩ 0, engine := some ⟨0, engine⟩ }
  settings := ⟨"rangekit Time Range Service", "development", false, "INFO",
    none, "0.0.0.0", 8000, Settings.standardOrigins, "utc", 0, .sunday, 1000⟩

def lastHour (least : String) : Json :=
  .obj [("from", .str "now-1h"), ("to", .str "now"),
    ("min_interval", .str least), ("now", .str "2024-03-15T12:00:00Z")]

def stepFor (least : String) : Request where
  method := "POST"
  target := "/api/v1/ranges/interval"
  payload := .value (lastHour least)

def noon : Wall := .onDate ⟨2024, 3, 15⟩ (12 * Calendar.hour)

def bodyFor (least : String) : IntervalBody :=
  ⟨⟨.text "now-1h", .text "now"⟩, none, some least, none,
    some (.fixed (.ofUtc noon))⟩

theorem asks_stepFor (least : String) :
    Asks (stepFor least) .interval (lastHour least) := by
  have hroute : ∀ documented, Route.find documented (upper "POST")
      (Target.read "/api/v1/ranges/interval" []).path =
        .operation .interval := by
    decide +kernel
  exact ⟨hroute, rfl⟩

def hourStart : Instant :=
  ⟨noon.add (-Calendar.hour), .period .utc ⟨0, 0, "UTC"⟩⟩

def hourStop : Instant := ⟨noon, .period .utc ⟨0, 0, "UTC"⟩⟩

theorem sides_lastHour (least : String) :
    Sides engine standing.session.here (bodyFor least) (some hourStart)
      (some hourStop) := by
  have hrange :
      RawRange.resolve engine {}
        (Handler.presentOf standing.session.here (some (.fixed (.ofUtc noon))))
      ⟨.text "now-1h", .text "now"⟩ =
        .ok ⟨some (.fixed hourStart), some (.fixed hourStop),
          ⟨.text "now-1h", .text "now"⟩⟩ := by
    decide +kernel
  exact ⟨_, hrange, rfl, rfl⟩

theorem sized_last_hour :
    (standing.answer (stepFor "1m")).1 =
      .content 200 (SizedStep.json ⟨.finite 60000, "1m", 1000⟩) ∧
      ∀ text field, (standing.answer (stepFor "1m")).1 ≠
        .refusal ⟨.invalidResolution, text, field⟩ := by
  have hsides := sides_lastHour "1m"
  have hstep : stepOf 1000 (bodyFor "1m") hourStart hourStop =
      .ok ⟨60000, "1m"⟩ := by decide +kernel
  have hfinite : Binary64.isFinite (Binary64.nearest 60000) = true := by
    decide +kernel
  have hread : Duration.read "1m" = .ok ⟨.minute, 1⟩ := by decide
  have hsettings : Settings.read [] [] = .ok standing.settings := rfl
  have hbody : IntervalBody.read (lastHour "1m") = .ok (bodyFor "1m") := rfl
  have hjson :
      (sized 1000 (bodyFor "1m") ⟨60000, "1m"⟩).json =
        SizedStep.json ⟨.finite 60000, "1m", 1000⟩ := by
    have hsent : Double.ofRat 60000 = .finite 60000 := by decide +kernel
    unfold sized
    rw [hsent]
    rfl
  have hclean : ∀ f, ¬ Flaw engine standing.session.here (bodyFor "1m") f := by
    intro f hflaw
    cases hflaw with
    | zone hunknown => exact hsides.known hunknown
    | interval _ hgiven hseparated =>
      cases hgiven
      cases hread.symm.trans (read_of_separated hseparated)
  have hrange : InRange engine standing.session.here 1000 (bodyFor "1m") := by
    constructor
    · obtain ⟨range, hrange, -⟩ := hsides
      intro f hf
      cases hrange.symm.trans hf
    · intro i j hother hlarge
      obtain ⟨hi, hj⟩ := hsides.unique hother
      cases hi
      cases hj
      cases hstep.symm.trans hlarge
    · intro i j step hother hother'
      obtain ⟨hi, hj⟩ := hsides.unique hother
      cases hi
      cases hj
      cases hstep.symm.trans hother'
      exact hfinite
    · rintro text ⟨⟩
      exact shortRuns_of_length (by decide)
  obtain ⟨hkeeps, hresolution⟩ :=
    sized_as_promised hsettings (e := engine) rfl (asks_stepFor "1m") hbody
  obtain ⟨reply, hpromised, hanswer, -⟩ := hkeeps hrange
  have hreply : Promised engine standing.session.here 1000 (bodyFor "1m")
      (.content 200 (sized 1000 (bodyFor "1m") ⟨60000, "1m"⟩).json) :=
    .step hsides (fun ⟨text, hgiven, _, hrejected⟩ => by
      cases hgiven
      exact hrejected _ hread) hstep
  refine ⟨?_, hresolution⟩
  rw [hanswer.2 hclean, ← (hpromised _).1 hreply, hjson]

/-- A least interval that is a number behind a file separator is to be refused,
but handling breaks off. -/
theorem least_file_separator :
    Promised engine standing.session.here 1000
      (bodyFor (String.ofList ['\x1c', '5'])) (.refusal unreadInterval) ∧
      (standing.answer (stepFor (String.ofList ['\x1c', '5']))).1 =
        standing.failure (stepFor (String.ofList ['\x1c', '5'])) .notANumber := by
  have hsides := sides_lastHour (String.ofList ['\x1c', '5'])
  have hread : Duration.read (String.ofList ['\x1c', '5']) =
      .error .notANumber := by decide
  have hstep :
      stepOf 1000 (bodyFor (String.ofList ['\x1c', '5'])) hourStart hourStop =
        .error .notANumber := by
    decide +kernel
  have hresult :
      Handler.interval engine standing.settings.defaultResolution
        standing.session.here
      (bodyFor (String.ofList ['\x1c', '5'])) =
        .error (.failed .notANumber) := by
    rw [interval_of_sides hsides]
    change (Handler.inField _ (stepOf 1000 _ _ _) >>= _) = _
    rw [hstep]
    rfl
  have he : EngineOf standing.session engine := rfl
  exact ⟨.interval hsides
    ⟨_, rfl, by decide, fun d hd => nomatch hread.symm.trans hd⟩,
    answer_of_failed (asks_stepFor _) he rfl hresult⟩

end TimeWindow.Proofs.Http.Sizing

import TimeWindow.Proofs.DateMath.Fiscal
import TimeWindow.Proofs.Range.Resolution
import TimeWindow.Proofs.Reading.PivotYear
import TimeWindow.Proofs.Zone.Conversion

/-!
# What a range depends on

Two flags tell whether a range follows the fiscal calendar and whether it
follows now. Where a flag is not set, a range is the same under every fiscal
calendar, or at every reference instant (`flags_sound`).  Beside a reference
instant the clock is seen only where a free-form text leaves a field of its date
open, and the clock of the start of the process where it writes a year of two
digits (`clock_unseen_iff`).
-/

namespace TimeWindow.Proofs.Range.Dependence

open TimeWindow.DateMath TimeWindow.Text Outcome DateMath.Expression
  DateMath.Fiscal Range.Resolution Reading.DefaultDate Reading.PivotYear
  Zone.Conversion

/-! ## The fiscal calendar -/

theorem not_fiscal_text {s : String}
    (h : RawRange.sideIsFiscal (.text s) = false) :
    s.toList.head? = some 'f' ∨ 'f' ∉ s.toList := by
  simp only [RawRange.sideIsFiscal, Bool.and_eq_false_iff,
    decide_eq_false_iff_not, not_not] at h
  rcases h with hhead | hmark
  · exact .inl hhead
  · exact .inr (by simpa using hmark)

/-- A side without the fiscal mark behind its first character, or one that is
not math, is the same under every fiscal calendar. -/
theorem fallBack_fiscal {s : String}
    (h : RawRange.sideIsFiscal (.text s) = false ∨ isMathText s = false)
    (month : Int) (rules : Rules) (p : Present) :
    fallBack (withFiscalStart month rules) p s = fallBack rules p s := by
  have hvalue :
      parseText (withFiscalStart month rules) p s = parseText rules p s := by
    rcases h with hfiscal | hmath
    · exact parseText_of_not_fiscal (not_fiscal_text hfiscal) month rules p
    · rw [parseText_of_not_math hmath, parseText_of_not_math hmath]
      rfl
  unfold fallBack
  rw [hvalue]
  rfl

theorem parseInstant_fiscal {e : Engine} {call call' : Engine.Call}
    {rules : Rules} {month : Int} (hrules : e.rules call = .ok rules)
    (hrules' : e.rules call' = .ok (withFiscalStart month rules))
    (p : Present) {side : Source}
    (h : RawRange.sideIsFiscal side = false ∨ side.isMath = false) :
    e.parseInstant call' p side = e.parseInstant call p side := by
  cases side with
  | text s =>
    rw [parseInstant_text hrules, parseInstant_text hrules', fallBack_fiscal h]
    rfl
  | moment m =>
    rw [parseInstant_moment hrules, parseInstant_moment hrules']
    rfl
  | number | flag | collection | absent =>
    unfold Engine.parseInstant
    rw [hrules, hrules']
    rfl

theorem resolve_fiscal {e : Engine} {c : RawRange.Call} {p : Present}
    {z : Zone} {raw : RawRange} (hz : e.zone c.timeZone = .ok z)
    (hstart : RawRange.sideIsFiscal raw.start = false ∨ raw.start.isMath = false)
    (hstop : RawRange.sideIsFiscal raw.stop = false ∨ raw.stop.isMath = false)
    (month : Option Int) :
    raw.resolve e { c with fiscalStart := month } p = raw.resolve e c p := by
  have hrules : ∀ up,
      e.rules (({ c with fiscalStart := month } : RawRange.Call).side up) =
      .ok (withFiscalStart (month.getD e.fiscalStart) (sideRules e c z up)) :=
        fun up =>
    rules_side (c := { c with fiscalStart := month }) hz up
  unfold RawRange.resolve
  rw [parseInstant_fiscal (rules_side hz false) (hrules false) p hstart,
    parseInstant_fiscal (rules_side hz true) (hrules true) p hstop]

/-! ## The reference instant -/

theorem parseInstant_now (e : Engine) (call : Engine.Call) (p : Present)
    {side : Source} (h : RawRange.sideIsRelative side = false)
    (now : Option Moment) :
    e.parseInstant call { p with now } side = e.parseInstant call p side := by
  cases side with
  | text s =>
    have hnow : Engine.mentionsNow s = false := h
    unfold Engine.parseInstant
    simp only [hnow, Bool.false_eq_true, if_false]
  | moment | number | flag | collection | absent => rfl

theorem resolve_now {e : Engine} {c : RawRange.Call} {p : Present}
    {raw : RawRange} (h : raw.isRelative = false) (now : Option Moment) :
    raw.resolve e c { p with now } = raw.resolve e c p := by
  obtain ⟨hstart, hstop⟩ := Bool.or_eq_false_iff.1 h
  unfold RawRange.resolve
  rw [parseInstant_now e _ p hstart, parseInstant_now e _ p hstop]

/-- **The flags are sound.**  A range that resolves and is not fiscal is the
same under every fiscal calendar, and a raw pair that is not relative has the
same outcome at every reference instant. -/
theorem flags_sound {e : Engine} {c : RawRange.Call} {p : Present}
    {raw : RawRange} :
    (∀ r, raw.resolve e c p = .ok r → r.isFiscal = false →
        ∀ month, raw.resolve e { c with fiscalStart := month } p = .ok r) ∧
      (raw.isRelative = false →
        ∀ now, raw.resolve e c { p with now } = raw.resolve e c p) := by
  refine ⟨?_, resolve_now⟩
  intro r h hfiscal month
  obtain ⟨z, hz⟩ := zone_of_resolve h
  obtain ⟨hstart, hstop⟩ := Bool.or_eq_false_iff.1 hfiscal
  have hraw := resolve_raw h
  rw [← h]
  cases hmath : raw.start.isMath || raw.stop.isMath with
  | true =>
    rw [hmath, if_pos rfl] at hraw
    rw [hraw] at hstart hstop
    exact resolve_fiscal hz (.inl hstart) (.inl hstop) month
  | false =>
    obtain ⟨hmathStart, hmathStop⟩ := Bool.or_eq_false_iff.1 hmath
    exact resolve_fiscal hz (.inr hmathStart) (.inr hmathStop) month

/-- A calendar quarter of a day stays the same when the fiscal year begins in
April, and two days stay the same when now is a year later. -/
theorem flags_sound_quarter :
    (∃ r,
      RawRange.resolve {} {} reference
        ⟨.text "now/Q", .text "2024-03-20||/Q"⟩ = .ok r ∧
      RawRange.resolve {} { fiscalStart := some 3 } reference
        ⟨.text "now/Q", .text "2024-03-20||/Q"⟩ = .ok r) ∧
      RawRange.resolve {} {}
        { reference with now := some (.plain (.onDate ⟨2025, 3, 15⟩ 0)) }
          ⟨.text "2024-03-15", .text "2024-03-16"⟩ =
        RawRange.resolve {} {} reference
          ⟨.text "2024-03-15", .text "2024-03-16"⟩ := by
  obtain ⟨r, hr, hfiscal⟩ : ∃ r, RawRange.resolve {} {} reference
      ⟨.text "now/Q", .text "2024-03-20||/Q"⟩ = .ok r ∧ r.isFiscal = false :=
    ⟨_, rfl, by decide⟩
  have hrelative :
      RawRange.isRelative ⟨.text "2024-03-15", .text "2024-03-16"⟩ = false := by
    decide
  exact ⟨⟨r, hr, flags_sound.1 r hr hfiscal (some 3)⟩, flags_sound.2 hrelative _⟩

/-! ## The clock beside a reference instant -/

/-- What is present, beside a reference instant, to a process that was started
at one reading of its clock and looks at the clock again at another. -/
def seenAt (started clock : Wall) (now : Moment) : Present where
  clock := clock
  now := some now
  pivotYear := started.date.year

/-- A side does not look at the clock: it speaks of now, or it gives its date,
or it is no moment in one and the same way whatever the clock shows and
showed. -/
def ClockFree (s : String) : Prop :=
  Engine.mentionsNow s = true ∨ GivesDate s ∨
    ∃ answer, (∀ m, answer ≠ .ok (some m)) ∧
      ∀ started clock : Wall, started.inRange = true → clock.inRange = true →
        FreeForm.read s ⟨clock.date, started.date.year⟩ = answer

section

variable {e : Engine} {call : Engine.Call} {now : Moment} {s : String}

theorem read_clock (h : ClockFree s) (hnow : Engine.mentionsNow s = false)
    {started started' clock clock' : Wall} (hstarted : started.inRange = true)
    (hclock : clock.inRange = true) (hstarted' : started'.inRange = true)
    (hclock' : clock'.inRange = true) :
    FreeForm.read s ⟨clock.date, started.date.year⟩ =
      FreeForm.read s ⟨clock'.date, started'.date.year⟩ := by
  rcases h with hmentions | hgives | ⟨answer, -, hread⟩
  · rw [hnow] at hmentions
    cases hmentions
  · exact read_of_givesDate hgives _ _
  · rw [hread _ _ hstarted hclock, hread _ _ hstarted' hclock']

theorem parseInstant_clock (h : ClockFree s)
    {started started' clock clock' : Wall} (hstarted : started.inRange = true)
    (hclock : clock.inRange = true) (hstarted' : started'.inRange = true)
    (hclock' : clock'.inRange = true) :
    e.parseInstant call (seenAt started clock now) (.text s) =
      e.parseInstant call (seenAt started' clock' now) (.text s) := by
  cases hrules : e.rules call with
  | error f =>
    unfold Engine.parseInstant
    rw [hrules]
    rfl
  | ok rules =>
    rw [parseInstant_text hrules, parseInstant_text hrules]
    split
    · rfl
    · rename_i hnow
      have hread :=
        read_clock h (Bool.eq_false_iff.2 hnow) hstarted hclock hstarted' hclock'
      unfold parseAbsolute seenAt
      rw [hread]

theorem tied_of_toZone {f f' : FreeForm.Findings} {wall wall' : Wall}
    {z : Zone} {i : Instant} (hoffset : f'.offset? = f.offset?)
    (h : (tied f wall).toZone z = .ok i)
    (h' : (tied f' wall').toZone z = .ok i) : tied f' wall' = tied f wall := by
  unfold tied at h h' ⊢
  rw [hoffset] at h' ⊢
  cases hfound : f.offset? with
  | none =>
    rw [hfound] at h h'
    exact congrArg Moment.plain ((localize_wall h').symm.trans (localize_wall h))
  | some seconds =>
    rw [hfound] at h h'
    have hticks := (toZone_utcTicks h').symm.trans (toZone_utcTicks h)
    cases wall
    cases wall'
    simpa [Instant.utcTicks] using hticks

theorem clockFree_of_parseInstant {answer : Option Instant}
    (h : ∀ started clock : Wall, started.inRange = true → clock.inRange = true →
      e.parseInstant call (seenAt started clock now) (.text s) = .ok answer) :
    ClockFree s := by
  by_cases hnow : Engine.mentionsNow s = true
  · exact .inl hnow
  obtain ⟨rules, hrules, -⟩ := bind_eq_ok.1 (h ⟨0⟩ ⟨0⟩ rfl rfl)
  have hanswer :
      ∀ started clock : Wall, started.inRange = true → clock.inRange = true →
      parseAbsolute clock s rules.zone started.date.year = .ok answer := by
    intro started clock hstarted hclock
    have hvalue := h started clock hstarted hclock
    rwa [parseInstant_text hrules, if_neg hnow] at hvalue
  cases answer with
  | none =>
    refine .inr (.inr ⟨.ok none, nofun, fun started clock hstarted hclock => ?_⟩)
    obtain ⟨read, hread, hvalue⟩ :=
      bind_eq_ok.1 (hanswer started clock hstarted hclock)
    cases read with
    | none => exact hread
    | some m =>
      obtain ⟨i, -, hi⟩ := bind_eq_ok.1 hvalue
      cases hi
  | some i =>
    have hread : ∀ started clock : Wall, started.inRange = true →
        clock.inRange = true →
        ∃ m, FreeForm.read s ⟨clock.date, started.date.year⟩ = .ok (some m) ∧
          m.toZone rules.zone = .ok i := fun started clock hstarted hclock =>
      parseAbsolute_eq_some (p := seenAt started clock now)
        (hanswer _ _ hstarted hclock)
    -- three readings: the clock of the start, one far away from it, and a start
    -- 400 years on
    let started : Wall := .onDate ⟨2000, 1, 1⟩ 0
    let late : Wall := .onDate ⟨2400, 1, 1⟩ 0
    obtain ⟨m, hm, hi⟩ := hread started started rfl rfl
    obtain ⟨m₁, hm₁, hi₁⟩ :=
      hread started (farClock started) rfl (inRange_farClock _)
    obtain ⟨m₂, hm₂, hi₂⟩ := hread late started rfl rfl
    obtain ⟨f, wall, hf, rfl, -⟩ := read_eq_some hm
    obtain ⟨f₁, wall₁, hf₁, rfl, -⟩ := read_eq_some hm₁
    obtain ⟨f₂, wall₂, hf₂, rfl, -⟩ := read_eq_some hm₂
    cases hf.symm.trans hf₁
    -- the zone gives one instant for all of them, and what is found ties them
    -- to one offset
    rw [tied_of_toZone rfl hi hi₁, date_farClock] at hm₁
    rw [tied_of_toZone (findings_offset hf hf₂) hi hi₂] at hm₂
    exact .inr (.inl (givesDate_of_reads hm hm₁ hm₂))

theorem resolve_clock {c : RawRange.Call} {t : String} (hs : ClockFree s)
    (ht : ClockFree t) {started started' clock clock' : Wall}
    (hstarted : started.inRange = true) (hclock : clock.inRange = true)
    (hstarted' : started'.inRange = true) (hclock' : clock'.inRange = true) :
    RawRange.resolve e c (seenAt started clock now) ⟨.text s, .text t⟩ =
      RawRange.resolve e c (seenAt started' clock' now)
        ⟨.text s, .text t⟩ := by
  unfold RawRange.resolve
  rw [parseInstant_clock hs hstarted hclock hstarted' hclock',
    parseInstant_clock ht hstarted hclock hstarted' hclock']

/-- Where the range is the same at every clock, so is each of its sides. -/
theorem clockFree_of_resolve {c : RawRange.Call} {t : String} {r : TimeRange}
    (h : ∀ started clock : Wall,
      started.inRange = true → clock.inRange = true →
      RawRange.resolve e c (seenAt started clock now)
        ⟨.text s, .text t⟩ = .ok r) :
    ClockFree s ∧ ClockFree t := by
  obtain ⟨start, stop, -, -, hrstart, hrstop⟩ :=
    resolve_eq_ok (h ⟨0⟩ ⟨0⟩ rfl rfl)
  have hinjective : Function.Injective (Option.map Moment.fixed) :=
    Option.map_injective fun i j h => by injection h
  have hstarts : ∀ started clock : Wall,
      started.inRange = true → clock.inRange = true →
      e.parseInstant (c.side false) (seenAt started clock now) (.text s) =
        .ok start := by
    intro started clock hstarted hclock
    obtain ⟨start', -, hstart', -, hrstart', -⟩ :=
      resolve_eq_ok (h started clock hstarted hclock)
    rw [hstart', hinjective (hrstart'.symm.trans hrstart)]
  have hstops : ∀ started clock : Wall,
      started.inRange = true → clock.inRange = true →
      e.parseInstant (c.side true) (seenAt started clock now) (.text t) =
        .ok stop := by
    intro started clock hstarted hclock
    obtain ⟨-, stop', -, hstop', -, hrstop'⟩ :=
      resolve_eq_ok (h started clock hstarted hclock)
    rw [hstop', hinjective (hrstop'.symm.trans hrstop)]
  exact ⟨clockFree_of_parseInstant hstarts, clockFree_of_parseInstant hstops⟩

end

/-- **Beside a reference instant the clock is not seen exactly where no side
leaves a field of its date open or its year to be placed.**  Two such texts have
the same outcome at every two clocks, those of the start of the process
included; and a range that is the same at every clock has two such texts. -/
theorem clock_unseen_iff {e : Engine} {c : RawRange.Call} {now : Moment}
    {s t : String} :
    (ClockFree s ∧ ClockFree t →
        ∀ started started' clock clock' : Wall,
          started.inRange = true → clock.inRange = true →
          started'.inRange = true → clock'.inRange = true →
            RawRange.resolve e c (seenAt started clock now) ⟨.text s, .text t⟩ =
              RawRange.resolve e c (seenAt started' clock' now)
                ⟨.text s, .text t⟩) ∧
      ∀ (started clock : Wall) (r : TimeRange),
        started.inRange = true → clock.inRange = true →
        RawRange.resolve e c (seenAt started clock now)
          ⟨.text s, .text t⟩ = .ok r →
          ((∀ started' clock' : Wall,
              started'.inRange = true → clock'.inRange = true →
              RawRange.resolve e c (seenAt started' clock' now)
                ⟨.text s, .text t⟩ = .ok r) ↔
            ClockFree s ∧ ClockFree t) := by
  refine ⟨fun hfree _ _ _ _ => resolve_clock hfree.1 hfree.2,
    fun started clock r hstarted hclock hr => ⟨clockFree_of_resolve, ?_⟩⟩
  intro hfree started' clock' hstarted' hclock'
  rw [← hr]
  exact resolve_clock hfree.1 hfree.2 hstarted' hclock' hstarted hclock

/-- A time of day in March of 2024, in the host's zone. -/
def march (date : Int) (sinceMidnight : Int) : Instant :=
  ⟨.onDate ⟨2024, 3, date⟩ sinceMidnight, .period .host Zone.host.base⟩

/-- From the midnight of yesterday to a time of day on a written date, whatever
the clock shows and whenever the process was started. -/
theorem clock_unseen_written_date :
    ∃ r, r.start = some (.fixed (march 14 0)) ∧
      r.stop =
        some (.fixed (march 20 (10 * Calendar.hour + 30 * Calendar.minute))) ∧
      ∀ started clock : Wall, started.inRange = true → clock.inRange = true →
        RawRange.resolve {} {} (seenAt started clock (.fixed (march 15 0)))
          ⟨.text "now-1d/d", .text "2024-03-20 10:30"⟩ = .ok r := by
  have hfree : ClockFree "now-1d/d" := .inl (by decide)
  have hgives : GivesDate "2024-03-20 10:30" :=
    givesDate_of_reads (d := ⟨2000, 1, 1⟩)
      (m := .plain (march 20 (10 * Calendar.hour + 30 * Calendar.minute)).wall)
      (by decide +kernel) (by decide +kernel) (by decide +kernel)
  have hfree' : ClockFree "2024-03-20 10:30" := .inr (.inl hgives)
  have hr : RawRange.resolve {} {} (seenAt (march 20 0).wall (march 20 0).wall
      (.fixed (march 15 0))) ⟨.text "now-1d/d", .text "2024-03-20 10:30"⟩ =
        .ok ⟨some (.fixed (march 14 0)),
          some (.fixed (march 20 (10 * Calendar.hour + 30 * Calendar.minute))),
          ⟨.text "now-1d/d", .text "2024-03-20 10:30"⟩⟩ := by
    decide +kernel
  exact ⟨_, rfl, rfl,
    (clock_unseen_iff.2 _ _ _ (by decide) (by decide) hr).2 ⟨hfree, hfree'⟩⟩

/-- A time of day alone stands for one of the day that the clock shows, though
the reference instant lies on another one. -/
theorem clock_seen_time_of_day :
    ¬ ∀ (e : Engine) (c : RawRange.Call) (now : Instant) (s t : String)
      (started clock clock' : Wall) (r : TimeRange),
        started.inRange = true → clock.inRange = true →
        clock'.inRange = true →
          RawRange.resolve e c (seenAt started clock (.fixed now))
            ⟨.text s, .text t⟩ = .ok r →
          RawRange.resolve e c (seenAt started clock' (.fixed now))
            ⟨.text s, .text t⟩ = .ok r := by
  intro h
  have hr : RawRange.resolve {} {} (seenAt (march 15 0).wall (march 15 0).wall
      (.fixed (march 15 0))) ⟨.text "10:30", .text "now"⟩ =
        .ok ⟨some (.fixed (march 15 (10 * Calendar.hour + 30 * Calendar.minute))),
          some (.fixed (march 15 0)), ⟨.text "10:30", .text "now"⟩⟩ := by
    decide +kernel
  have hsame :=
    h {} {} (march 15 0) "10:30" "now" (march 15 0).wall (march 15 0).wall
    (march 20 0).wall _ (by decide) (by decide) (by decide) hr
  exact absurd hsame (by decide +kernel)

end TimeWindow.Proofs.Range.Dependence

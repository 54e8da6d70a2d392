import TimeWindow.Proofs.DateMath.SameInstant
import TimeWindow.Proofs.Range.Idempotence
import TimeWindow.Proofs.Range.Labels
import TimeWindow.Proofs.Zone.Steady

/-!
# A reference without an offset

A reference instant may be a wall time, which is read in the zone.  Ranges
resolve from it as they do from the instant that is read (`resolve_plain_now`).
Labels tell the two apart: the expression beside a moment is evaluated in UTC,
where the wall time is read as one of UTC (`describe_plain_now`).
-/

namespace TimeWindow.Proofs.Range.PlainNow

open TimeWindow.DateMath TimeWindow.Text Outcome DateMath.Expression
  DateMath.SameInstant Zone.Conversion Zone.Settling Zone.Naming Zone.Steady
  Range.Resolution Range.Idempotence Range.Labels

/-! ## Resolving -/

section

variable {e : Engine} {call : Engine.Call} {rules : Rules} {p p' : Present}

theorem fallBack_twin (h : TwinPresents rules.zone p p') (s : String) :
    Alike (Option.Rel (Twin rules.zone)) (fallBack rules p s)
      (fallBack rules p' s) := by
  unfold fallBack
  refine (parseText_twin h s).bind fun o o' ho => ?_
  cases ho with
  | some hk => exact .ok (.some hk)
  | none => exact h.reference.bind fun k k' hk => .ok (.some hk)

theorem parseInstant_twin (hrules : e.rules call = .ok rules)
    (h : TwinPresents rules.zone p p') (side : Source) :
    Alike (Option.Rel (Twin rules.zone)) (e.parseInstant call p side)
      (e.parseInstant call p' side) := by
  have hrefl : ∀ o : Option Instant, Option.Rel (Twin rules.zone) o o := by
    intro o
    cases o with
    | none => exact .none
    | some i => exact .some (twin_refl _ i)
  cases side with
  | text s =>
    rw [parseInstant_text hrules, parseInstant_text hrules]
    split
    · exact fallBack_twin h s
    · rw [h.clock, h.pivotYear]
      exact alike_refl hrefl _
  | moment | number | flag | collection | absent => exact alike_refl hrefl _

theorem sameMoment_of_twin {z : Zone} {o o' : Option Instant}
    (h : Option.Rel (Twin z) o o') :
    SameMoment (o.map .fixed) (o'.map .fixed) := by
  cases h with
  | some hk => exact .instant hk.ticks
  | none => exact .missing

theorem resolve_twin {c : RawRange.Call} {z : Zone}
    (hz : e.zone c.timeZone = .ok z) (h : TwinPresents z p p')
    (raw : RawRange) :
    Alike SameRange (raw.resolve e c p) (raw.resolve e c p') := by
  unfold RawRange.resolve
  refine (parseInstant_twin (rules_side hz false) h raw.start).bind
    fun start start' hstart => ?_
  refine (parseInstant_twin (rules_side hz true) h raw.stop).bind
    fun stop stop' hstop => .ok ?_
  have hstart := sameMoment_of_twin hstart
  have hstop := sameMoment_of_twin hstop
  split
  · exact ⟨hstart, hstop, .equal _, .equal _⟩
  · exact ⟨hstart, hstop, sameSource_side hstart, sameSource_side hstop⟩

end

theorem twinPresents_plain {z : Zone} (hsane : z.Sane) (hinland : Inland z)
    {w : Wall} {n : Instant} (hn : z.localize w = .ok n) (here : Present) :
    TwinPresents z { here with now := some (.plain w) }
      { here with now := some (.fixed n) } := by
  obtain ⟨j, hj, -⟩ := localize_settles hsane hinland hn
  have hplain :
      ({ here with now := some (.plain w) } : Present).reference z = .ok n :=
    hn
  have hfixed :
      ({ here with now := some (.fixed n) } : Present).reference z = .ok j :=
    hj
  refine ⟨rfl, rfl, ?_⟩
  rw [hplain, hfixed]
  exact .ok (twin_of_toZone hsane (m := .plain w) hn hj)

theorem resolve_shown_now {e : Engine} {c : RawRange.Call} {z : Zone}
    (hz : e.zone c.timeZone = .ok z) {n n' : Instant}
    (hsame : n'.toZone z = n.toZone z) (here : Present) (raw : RawRange) :
    Alike SameRange (raw.resolve e c { here with now := some (.fixed n) })
      (raw.resolve e c { here with now := some (.fixed n') }) := by
  have hreference : Alike (Twin z) (n.toZone z) (n'.toZone z) := by
    rw [hsame]
    exact alike_refl (twin_refl z) _
  have htwin : TwinPresents z { here with now := some (.fixed n) }
      { here with now := some (.fixed n') } := ⟨rfl, rfl, hreference⟩
  exact resolve_twin hz htwin raw

section

variable {e : Engine} {timeZone : Option String} {z : Zone} {w : Wall}
  {n : Instant}
  (hz : e.zone timeZone = .ok z) (hn : z.localize w = .ok n)

include hz hn

theorem resolve_plain_now (fiscalStart : Option Int) (here : Present)
    (raw : RawRange) :
    Alike SameRange
      (raw.resolve e ⟨timeZone, fiscalStart⟩
        { here with now := some (.plain w) })
      (raw.resolve e ⟨timeZone, fiscalStart⟩
        { here with now := some (.fixed n) }) :=
  resolve_twin (c := ⟨timeZone, fiscalStart⟩) hz
    (twinPresents_plain (sane_of_resolve hz) (inland_of_resolve hz) hn here) raw

theorem timeAgo_plain_now (m : Moment) (here : Present) :
    e.timeAgo m timeZone { here with now := some (.plain w) } =
      e.timeAgo m timeZone { here with now := some (.fixed n) } := by
  have hsane : z.Sane := sane_of_resolve hz
  obtain ⟨j, hj, -⟩ := localize_settles hsane (inland_of_resolve hz) hn
  have hplain :
      ({ here with now := some (.plain w) } : Present).reference z = .ok n :=
    hn
  have hfixed :
      ({ here with now := some (.fixed n) } : Present).reference z = .ok j :=
    hj
  have hutc : j.toUtc = n.toUtc :=
    (twin_of_toZone hsane (m := .plain w) hn hj).utc
  have hago : ∀ p : Present, e.timeAgo m timeZone p = (do
      let moment ← (← m.toZone z).toUtc
      let seenFrom ← (← p.reference z).toUtc
      return Elapsed.text moment seenFrom) := by
    intro p
    unfold Engine.timeAgo
    rw [hz]
    rfl
  rw [hago, hago, hplain, hfixed]
  change (m.toZone z >>= fun i => i.toUtc >>= fun moment => n.toUtc >>= _) =
    (m.toZone z >>= fun i => i.toUtc >>= fun moment => j.toUtc >>= _)
  rw [hutc]

end

/-! ## Labels -/

theorem toZone_utc {n : Instant} {w : Wall}
    (hoffset : n.setting.seconds.natAbs < 86400) (hw : w.inRange = true)
    (h : n.utcTicks = w.ticks) : n.toZone .utc = .ok (shown .utc w) := by
  have hutc : n.toUtc = .ok w :=
    toUtc_eq_ok.2 ⟨hoffset, by rw [h], by rw [h]; exact hw⟩
  have hadd : w.add 0 = w := by
    cases w
    simp [Wall.add]
  unfold Instant.toZone
  split
  -- an instant that already carries UTC has no offset, so it shows the reading
  -- itself
  · rename_i hbase
    have hzero : n.setting.seconds = 0 := by
      rw [hbase]
      rfl
    have hticks : n.wall.ticks = w.ticks := by
      rw [wall_ticks, hzero, h, Int.zero_mul, Int.add_zero]
    have hwall : n.wall = w := congrArg Wall.mk hticks
    rw [shown, ← hwall, ← hbase]
  · rw [hutc]
    change Zone.utc.ofUtc w = _
    rw [ofUtc_eq_ok, Zone.periodAt_of_isConstant rfl]
    refine ⟨?_, hw⟩
    change _ = Instant.mk (w.add 0) _
    rw [hadd]
    rfl

section

variable {e : Engine} {timeZone : Option String} {z : Zone} {w : Wall}
  {n : Instant}
  (hz : e.zone timeZone = .ok z) (hn : z.localize w = .ok n)

include hz hn

theorem tellAnswer_plain_now (m : Moment) (up : Bool) (here : Present) :
    tellAnswer e timeZone { here with now := some (.plain w) } m up =
      tellAnswer e timeZone { here with now := some (.fixed n) } m up := by
  funext o
  cases o with
  | none => rfl
  | some i =>
    change (tellAgo _ _ _ m up i).map some = (tellAgo _ _ _ m up i).map some
    unfold tellAgo
    rw [timeAgo_plain_now hz hn]

/-- Beside a moment an expression behind `now` is evaluated from the wall time
as one of UTC.  The label is the same exactly if that is told like the value
from the instant. -/
theorem describe_plain_now_iff (here : Present) (raw : RawRange) :
    raw.describe e timeZone { here with now := some (.plain w) } =
      raw.describe e timeZone { here with now := some (.fixed n) } ↔
      (Preset.find? raw = none → ∀ m up t math, Mixed raw m up (.text t) →
        after? nowWord t.toList = some math →
        toldFrom e timeZone { here with now := some (.fixed n) } m up math
          (shown .utc w) =
          (n.toZone .utc >>= toldFrom e timeZone
            { here with now := some (.fixed n) } m up math)) := by
  have hutc : (Moment.plain w).toZone .utc = .ok (shown .utc w) :=
    localize_steady rfl w
  have hplain : ∀ m up t math, after? nowWord t.toList = some math →
      told e timeZone { here with now := some (.plain w) } m up (.text t) =
        toldFrom e timeZone { here with now := some (.fixed n) } m up math
          (shown .utc w) := by
    intro m up t math hmath
    rw [told_now hmath, hutc]
    change toldFrom _ _ _ m up math (shown .utc w) = _
    unfold toldFrom
    rw [tellAnswer_plain_now hz hn]
  rw [describe_eq_iff]
  refine imp_congr_right fun _ =>
    ⟨fun h m up t math hmixed hmath => ?_, fun h m up s hmixed => ?_⟩
  · rw [← hplain m up t math hmath, h m up _ hmixed, told_now hmath]
    rfl
  · by_cases hnow : ∀ t, s = .text t → after? nowWord t.toList = none
    · unfold told
      rw [parse_label_still hnow { here with now := some (.plain w) }
        { here with now := some (.fixed n) }, tellAnswer_plain_now hz hn]
    · push Not at hnow
      obtain ⟨t, rfl, hmath⟩ := hnow
      obtain ⟨math, hmath⟩ := Option.ne_none_iff_exists'.1 hmath
      rw [hplain m up t math hmath, told_now hmath, h m up t math hmixed hmath]
      rfl

theorem describe_plain_now (hw : w.inRange = true)
    (hat : n.utcTicks = w.ticks) (here : Present) (raw : RawRange) :
    raw.describe e timeZone { here with now := some (.plain w) } =
      raw.describe e timeZone { here with now := some (.fixed n) } := by
  rw [describe_plain_now_iff hz hn]
  intro _ m up t math _ _
  rw [toZone_utc ((localize_carries hn).offset_lt (sane_of_resolve hz)) hw hat]
  rfl

end

end TimeWindow.Proofs.Range.PlainNow

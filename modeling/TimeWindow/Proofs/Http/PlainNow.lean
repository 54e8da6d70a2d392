import TimeWindow.Proofs.Http.Answers
import TimeWindow.Proofs.Http.Bodies
import TimeWindow.Proofs.Range.PlainNow

/-!
# A request whose reference has no offset

The distances of a range are asked for with a reference instant, which may be
written without an offset.  The range resolves from it, but no distance from it
can be told (`answer_plain`), so that the request fails where the one with an
offset is answered (`answer_fixed`).
-/

namespace TimeWindow.Proofs.Http.PlainNow

open TimeWindow.Http TimeWindow.DateMath TimeWindow.Text Outcome Number.Grid
  DateMath.Holding Zone.Conversion Zone.Settling Zone.Naming Zone.Steady
  Range.Resolution Range.Idempotence Range.Distances Range.Labels Range.PlainNow
  Http.Answers Http.Bodies

/-! ## The handler -/

theorem toRelative_of_resolve {e : Engine} {here : Present} {b : RangeBody}
    {m : Moment} {range : TimeRange} {i j : Instant} (hnow : b.now = some m)
    (hrange : b.range.resolve e ⟨b.timeZone, none⟩ { here with now := some m } =
      .ok range) (hstart : range.start = some (.fixed i))
    (hstop : range.stop = some (.fixed j)) :
    Handler.toRelative e here b =
      Handler.settled (range.toRelative { here with now := some m }) := by
  have hpresent :
      Handler.presentOf here b.now = { here with now := some m } := by
    rw [hnow]
    rfl
  unfold Handler.toRelative
  rw [hpresent]
  dsimp only
  rw [hrange]
  change (Handler.requireInstants range >>= fun _ => _) = _
  unfold Handler.requireInstants
  rw [hstart, hstop]
  rfl

theorem distances_written {a b : Double} {p q : Rat} (ha : a = .finite p)
    (hb : b = .finite q) :
    (distancesJson a b).hasInfinite = false ∧
    (distancesJson a b).hasHalf = false := by
  subst ha hb
  exact ⟨rfl, rfl⟩

/-! ## With an offset and without -/

section

variable {e : Engine} {timeZone : Option String} {z : Zone} {w : Wall}
  {n : Instant}
  (hz : e.zone timeZone = .ok z) (hn : z.localize w = .ok n) {s : Server}
    {r : Request} {v : Json}
  {b : RangeBody} {range : TimeRange} {i j : Instant} (he : EngineOf s.session e)
  (hasks : Asks r .toRelative v) (hread : RangeBody.read v = .ok b)
    (hzone : b.timeZone = timeZone)
  (hrange : b.range.resolve e ⟨timeZone, none⟩
    { s.session.here with now := some (.fixed n) } = .ok range)
  (hstart : range.start = some (.fixed i)) (hstop : range.stop = some (.fixed j))

include hz hn he hasks hread hzone hrange hstart hstop

theorem answer_plain (hnow : b.now = some (.plain w)) :
    (s.answer r).1 = s.failure r .incomparable := by
  have halike := resolve_plain_now hz hn none s.session.here b.range
  rw [hrange] at halike
  obtain ⟨plainRange, hplain, hsides⟩ := halike.ok_left
  obtain ⟨i', hi', -⟩ := sameMoment_left (hstart ▸ hsides.start)
  obtain ⟨j', hj', -⟩ := sameMoment_left (hstop ▸ hsides.stop)
  refine answer_failure hasks (perform_toRelative s _ _) he hread ?_
  dsimp only
  rw [toRelative_of_resolve hnow (hzone ▸ hplain) hi' hj', toRelative_plain hi']
  rfl

theorem answer_fixed (hw : w.inRange = true) {n' : Instant}
    (hsame : n'.toZone z = n.toZone z) (hnow : b.now = some (.fixed n')) :
    (s.answer r).1 =
      .content 200
        (distancesJson (Epoch.inSeconds (n.utcTicks - i.utcTicks))
          (Epoch.inSeconds (n.utcTicks - j.utcTicks))) := by
  have hsane : z.Sane := sane_of_resolve hz
  obtain ⟨here, hhere, -⟩ := localize_settles hsane (inland_of_resolve hz) hn
  have hutc : n'.utcTicks = n.utcTicks := by
    rw [← toZone_utcTicks (hsame.trans hhere), toZone_utcTicks hhere]
  have halike :=
    resolve_shown_now (c := ⟨timeZone, none⟩) hz hsame s.session.here b.range
  rw [hrange] at halike
  obtain ⟨range', hrange', hsides⟩ := halike.ok_right
  obtain ⟨i', hi', hticks⟩ := sameMoment_right (hstart ▸ hsides.start)
  obtain ⟨j', hj', hticks'⟩ := sameMoment_right (hstop ▸ hsides.stop)
  have hhandled : Handler.toRelative e s.session.here b =
      .ok (Epoch.inSeconds (n.utcTicks - i.utcTicks),
        Epoch.inSeconds (n.utcTicks - j.utcTicks)) := by
    rw [toRelative_of_resolve hnow (hzone ▸ hrange') hi' hj',
      toRelative_fixed hi' hj', hutc, hticks, hticks']
    rfl
  -- both distances are finite, since the zone holds the sides and the instant
  have hbody := rangeBody_inCalendar v b hread
  have hpresent :
      Present.InCalendar { s.session.here with now := some (.fixed n') } :=
    hbody.now _ hnow
  have hheld : Held z n := localize_held hw n hn
  have hsideHeld :
      ∀ k, range'.start = some (.fixed k) ∨ range'.stop = some (.fixed k) →
        Held z k :=
    fun k hk => resolve_held (c := ⟨timeZone, none⟩) hz hpresent hbody.start
      hbody.stop hrange' hk
  obtain ⟨p, hp⟩ := distance_finite hsane hsane (hsideHeld i' (.inl hi')) hheld
  obtain ⟨q, hq⟩ := distance_finite hsane hsane (hsideHeld j' (.inr hj')) hheld
  rw [hticks] at hp
  rw [hticks'] at hq
  obtain ⟨hinfinite, hhalf⟩ := distances_written hp hq
  refine answer_result hasks (perform_toRelative s _ _) he hread ?_ hinfinite hhalf
  dsimp only
  rw [hhandled]
  rfl

end

/-! ## The reference everywhere -/

/-- A wall time beside the instant that it names in a zone.  Every range
resolves from both to the same instants.  A label is the same unless it stands
beside a moment and is told from the wall time taken as one of UTC, which makes
no difference in a zone at UTC. Distances are told from the instant, also when
it is written with another setting, and never from the wall time. -/
theorem plain_now_outcomes {e : Engine} {timeZone : Option String} {z : Zone}
    {w : Wall} {n : Instant} (hz : e.zone timeZone = .ok z)
    (hw : w.inRange = true) (hn : z.localize w = .ok n) :
    (∀ fiscalStart (here : Present) raw,
      Alike SameRange
        (RawRange.resolve e ⟨timeZone, fiscalStart⟩
          { here with now := some (.plain w) } raw)
        (RawRange.resolve e ⟨timeZone, fiscalStart⟩
          { here with now := some (.fixed n) } raw)) ∧
      (∀ (here : Present) raw,
        RawRange.describe e timeZone { here with now := some (.plain w) } raw =
            RawRange.describe e timeZone
              { here with now := some (.fixed n) } raw ↔
          (Preset.find? raw = none → ∀ m up t math, Mixed raw m up (.text t) →
            after? nowWord t.toList = some math →
            toldFrom e timeZone { here with now := some (.fixed n) } m up math
              (shown .utc w) =
              (n.toZone .utc >>= toldFrom e timeZone
                { here with now := some (.fixed n) } m up math))) ∧
      (n.utcTicks = w.ticks → ∀ (here : Present) raw,
        RawRange.describe e timeZone { here with now := some (.plain w) } raw =
          RawRange.describe e timeZone
            { here with now := some (.fixed n) } raw) ∧
      ∀ (s : Server) (r r' : Request) (v v' : Json) (raw : RawRange)
        (n' : Instant) (range : TimeRange) (i j : Instant),
        EngineOf s.session e → Asks r .toRelative v → Asks r' .toRelative v' →
        RangeBody.read v = .ok ⟨raw, timeZone, some (.plain w)⟩ →
        RangeBody.read v' = .ok ⟨raw, timeZone, some (.fixed n')⟩ →
        n'.toZone z = n.toZone z →
        raw.resolve e ⟨timeZone, none⟩
          { s.session.here with now := some (.fixed n) } = .ok range →
        range.start = some (.fixed i) → range.stop = some (.fixed j) →
          (s.answer r).1 = s.failure r .incomparable ∧
            (s.answer r').1 = .content 200
              (distancesJson (Epoch.inSeconds (n.utcTicks - i.utcTicks))
                (Epoch.inSeconds (n.utcTicks - j.utcTicks))) := by
  refine ⟨resolve_plain_now hz hn, describe_plain_now_iff hz hn,
    describe_plain_now hz hn hw, ?_⟩
  intro s r r' v v' raw n' range i j he hasks hasks' hread hread' hsame hrange
    hstart hstop
  exact ⟨answer_plain hz hn he hasks hread rfl hrange hstart hstop rfl,
    answer_fixed hz hn he hasks' hread' rfl hrange hstart hstop hw hsame rfl⟩

def noon : Wall := .onDate ⟨2024, 3, 15⟩ (12 * Calendar.hour)

def summerTime : Setting :=
  .period (.named "America/New_York") ⟨-14400, 3600, "EDT"⟩

def lastHour (now : String) : Json :=
  .obj [("from", .str "now-1h"), ("to", .str "now"),
    ("time_zone", .str "America/New_York"), ("now", .str now)]

def distancesOf (now : String) : Request where
  method := "POST"
  target := "/api/v1/ranges/to-relative"
  payload := .value (lastHour now)

def standing : Server where
  session := { clock := .onDate ⟨2024, 3, 15⟩ 0, engine := some ⟨0, {}⟩ }
  settings := ⟨"", "test", false, "", none, "", 0, "", "utc", 0, .sunday, 100⟩

theorem asks_distancesOf (now : String) :
    Asks (distancesOf now) .toRelative (lastHour now) := by
  have hroute : ∀ documented, Route.find documented (upper "POST")
      (Target.read "/api/v1/ranges/to-relative" []).path =
        .operation .toRelative := by
    decide +kernel
  exact ⟨hroute, rfl⟩

/-- At noon in New York the label of an anchored expression beside a moment is
the same from both references, and the distances of the last hour are told only
from the one with an offset. -/
theorem plain_now_new_york :
    (∀ start : Moment,
      RawRange.describe {} (some "America/New_York")
          { clock := noon, now := some (.plain noon) }
          ⟨.moment start, .text "2024-03-15||+1d"⟩ =
        RawRange.describe {} (some "America/New_York")
          { clock := noon, now := some (.fixed ⟨noon, summerTime⟩) }
          ⟨.moment start, .text "2024-03-15||+1d"⟩) ∧
      (standing.answer (distancesOf "2024-03-15T12:00:00")).1 =
        standing.failure (distancesOf "2024-03-15T12:00:00") .incomparable ∧
      (standing.answer (distancesOf "2024-03-15T12:00:00-04:00")).1 =
        .content 200 (distancesJson (.finite 3600) (.finite 0)) := by
  have hz :
      ({} : Engine).zone (some "America/New_York") =
        .ok (Zone.ofTable Zone.America.newYork) := by
    decide +kernel
  have hn :
      (Zone.ofTable Zone.America.newYork).localize noon =
        .ok ⟨noon, summerTime⟩ := by
    decide +kernel
  have hsame :
      (⟨noon, .offset (-14400)⟩ : Instant).toZone
        (Zone.ofTable Zone.America.newYork) =
      (⟨noon, summerTime⟩ : Instant).toZone
        (Zone.ofTable Zone.America.newYork) := by
    decide +kernel
  have hrange : RawRange.resolve {} ⟨some "America/New_York", none⟩
      { standing.session.here with now := some (.fixed ⟨noon, summerTime⟩) }
        ⟨.text "now-1h", .text "now"⟩ =
        .ok ⟨some (.fixed ⟨noon.add (-Calendar.hour), summerTime⟩),
          some (.fixed ⟨noon, summerTime⟩), ⟨.text "now-1h", .text "now"⟩⟩ := by
    decide +kernel
  have hdistances : distancesJson
      (Epoch.inSeconds ((⟨noon, summerTime⟩ : Instant).utcTicks -
        (⟨noon.add (-Calendar.hour), summerTime⟩ : Instant).utcTicks))
      (Epoch.inSeconds ((⟨noon, summerTime⟩ : Instant).utcTicks -
        (⟨noon, summerTime⟩ : Instant).utcTicks)) =
        distancesJson (.finite 3600) (.finite 0) :=
    congrArg₂ distancesJson (by decide +kernel) (by decide +kernel)
  obtain ⟨-, hlabels, -, hanswers⟩ := plain_now_outcomes hz (by decide) hn
  refine ⟨fun start =>
    (hlabels { clock := noon } _).2 fun _ m up t math hmixed hmath => ?_, ?_⟩
  · cases hmixed
    cases hmath
  · rw [← hdistances]
    exact hanswers standing _ _ _ _ ⟨.text "now-1h", .text "now"⟩
      ⟨noon, .offset (-14400)⟩ _ _ _ rfl
      (asks_distancesOf _) (asks_distancesOf _) rfl rfl hsame hrange rfl rfl

/-- A label beside a moment differs, and distances are refused with an internal
error. -/
theorem plain_now_misread :
    RawRange.describe {} (some "America/New_York")
        { clock := noon, now := some (.plain noon) }
        ⟨.moment (.plain noon), .text "now-1h"⟩ =
          .ok "2024-03-15 12:00:00 to 5 hours ago" ∧
      RawRange.describe {} (some "America/New_York")
        { clock := noon, now := some (.fixed ⟨noon, summerTime⟩) }
        ⟨.moment (.plain noon), .text "now-1h"⟩ =
          .ok "2024-03-15 12:00:00 to an hour ago" ∧
      (standing.answer (distancesOf "2024-03-15T12:00:00")).1.status = 500 ∧
      (standing.answer (distancesOf "2024-03-15T12:00:00-04:00")).1.status =
        200 :=
  ⟨by decide +kernel, by decide +kernel, by decide +kernel, by decide +kernel⟩

end TimeWindow.Proofs.Http.PlainNow

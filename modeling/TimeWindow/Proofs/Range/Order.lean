import TimeWindow.Proofs.DateMath.Order
import TimeWindow.Proofs.Range.Resolution

/-!
# The same expression on both sides

A range from an expression to the same expression rounds it down for its start
and up for its end.  In a zone of one offset the start is not after the end
(`same_text_ordered`), unless months are shifted behind a rounding.
-/

namespace TimeWindow.Proofs.Range.Order

open TimeWindow.DateMath TimeWindow.Text Zone.Steady Outcome DateMath.Grammar
  DateMath.Evaluation DateMath.Expression DateMath.Steady DateMath.Order
  Range.Resolution

section

variable {rules : Rules} {weekStart : WeekStart} {p : Present} {s : String}
  {math : List Char}

theorem parseText_le (hsteady : rules.zone.isConstant = true)
    (hweek : rules.weekStart = some weekStart)
    (hnow : after? nowWord s.toList = some math)
    (hconfined : ∀ steps, IsMath (bare math) steps → Confined steps)
    {i j : Instant}
    (hdown : parseText { rules with roundUp := false } p s = .ok (some i))
    (hup : parseText { rules with roundUp := true } p s = .ok (some j)) :
    i.utcTicks ≤ j.utcTicks := by
  rw [parseText_of_now hnow] at hdown hup
  obtain ⟨here, hhere, hdown⟩ := bind_eq_ok.1 hdown
  obtain ⟨here', hhere', hup⟩ := bind_eq_ok.1 hup
  rw [hhere] at hhere'
  cases hhere'
  obtain ⟨hmath, hdown⟩ := isMath_of_evaluate hdown
  obtain ⟨-, hup⟩ := isMath_of_evaluate hup
  rw [reference_shown hsteady hhere] at hdown hup
  exact takeAll_le_of_confined hsteady hweek (hconfined _ hmath) hdown hup

/-- Whether an expression has a value is a matter of its text and not of the
direction of its roundings. -/
theorem parseText_none (hnow : after? nowWord s.toList = some math)
    {i : Instant} (hnone : parseText rules p s = .ok none) {rules' : Rules} :
    parseText rules' p s ≠ .ok (some i) := by
  intro hsome
  rw [parseText_of_now hnow] at hnone hsome
  obtain ⟨here, -, hnone⟩ := bind_eq_ok.1 hnone
  obtain ⟨here', -, hsome⟩ := bind_eq_ok.1 hsome
  obtain ⟨hmath, -⟩ := isMath_of_evaluate hsome
  rw [evaluate_of_isMath hmath] at hnone
  obtain ⟨k, -, hk⟩ := map_eq_ok.1 hnone
  cases hk

end

/-- **The same expression on both sides never gives an inverted range.**  In
every zone of one offset, for every reference instant, fiscal calendar and week
start and every expression of now in which no month, quarter or year is shifted
behind the first rounding: rounding down leads to no later instant than rounding
up, and the range from the expression to itself has a start and an end in this
order. -/
theorem same_text_ordered {e : Engine} {c : RawRange.Call} {p : Present}
    {z : Zone} {s : String} {math : List Char}
    (hz : e.zone c.timeZone = .ok z) (hsteady : z.isConstant = true)
    (hnow : s.toList = nowWord ++ math)
    (hconfined : ∀ steps, IsMath (bare math) steps → Confined steps) :
    (∀ i j, e.parse (c.side false) p (.text s) = .ok (some i) →
        e.parse (c.side true) p (.text s) = .ok (some j) →
        i.utcTicks ≤ j.utcTicks) ∧
      ∀ r, RawRange.resolve e c p ⟨.text s, .text s⟩ = .ok r →
        ∃ i j, r.start = some (.fixed i) ∧ r.stop = some (.fixed j) ∧
          i.utcTicks ≤ j.utcTicks := by
  have hdown := rules_side (c := c) hz false
  have hup := rules_side (c := c) hz true
  have hafter : after? nowWord s.toList = some math := by
    rw [hnow, after?_append]
  have hmentions : Engine.mentionsNow s = true :=
    mentions_of_beginsWith (by simp [beginsWith, hafter])
  have hle : ∀ {i j}, parseText (sideRules e c z false) p s = .ok (some i) →
      parseText (sideRules e c z true) p s = .ok (some j) →
      i.utcTicks ≤ j.utcTicks :=
    @parseText_le (sideRules e c z false) e.weekStart p s math hsteady rfl
      hafter hconfined
  constructor
  · intro i j hi hj
    rw [engine_parse hdown] at hi
    rw [engine_parse hup] at hj
    exact hle hi hj
  · intro r hr
    obtain ⟨start, stop, hstart, hstop, hrstart, hrstop⟩ := resolve_eq_ok hr
    rw [parseInstant_text hdown, if_pos hmentions] at hstart
    rw [parseInstant_text hup, if_pos hmentions] at hstop
    obtain ⟨i, rfl, hi⟩ := fallBack_answer hstart
    obtain ⟨j, rfl, hj⟩ := fallBack_answer hstop
    refine ⟨i, j, hrstart, hrstop, ?_⟩
    rcases hi with hi | ⟨hnone, hi⟩
    · rcases hj with hj | ⟨hnone, -⟩
      · exact hle hi hj
      · exact absurd hi (parseText_none hafter hnone)
    · rcases hj with hj | ⟨-, hj⟩
      · exact absurd hj (parseText_none hafter hnone)
      · -- neither side has a value, and both fall back on the one reference
        -- instant
        have hsame : Except.ok i = (Except.ok j : Except Fault Instant) :=
          hi.symm.trans hj
        cases hsame
        exact le_refl _

def leapDay : Present where
  clock := .onDate ⟨2024, 2, 29⟩ 0
  now := some (.fixed (.ofUtc (.onDate ⟨2024, 2, 29⟩ (18 * Calendar.hour))))

theorem same_text_ordered_leap_day :
    ∃ r i j, RawRange.resolve {} { fiscalStart := some 3 } leapDay
        ⟨.text "now-1y/fQ+3d/w", .text "now-1y/fQ+3d/w"⟩ = .ok r ∧
      r.start = some (.fixed i) ∧ r.stop = some (.fixed j) ∧
      i.utcTicks ≤ j.utcTicks := by
  have hconfined :
      ∀ steps, IsMath (bare "-1y/fQ+3d/w".toList) steps → Confined steps := by
    intro steps hmath
    have hread : Step.read "-1y/fQ+3d/w".toList =
        ([.shift (-1) .year, .round true .quarter, .shift 3 .day,
          .round false .week], true) :=
      rfl
    have hsteps := read_eq_iff.2 hmath
    rw [hread] at hsteps
    cases hsteps
    decide
  have hzone :
      Engine.zone {} (RawRange.Call.timeZone { fiscalStart := some 3 }) =
        .ok .host :=
    rfl
  have hordered := same_text_ordered (s := "now-1y/fQ+3d/w") (p := leapDay)
    hzone rfl rfl hconfined
  obtain ⟨r, hr⟩ : ∃ r, RawRange.resolve {} { fiscalStart := some 3 } leapDay
      ⟨.text "now-1y/fQ+3d/w", .text "now-1y/fQ+3d/w"⟩ = .ok r := ⟨_, rfl⟩
  obtain ⟨i, j, hi, hj, hle⟩ := hordered.2 r hr
  exact ⟨r, i, j, hr, hi, hj, hle⟩

end TimeWindow.Proofs.Range.Order

import TimeWindow.Proofs.DateMath.Bracketing
import TimeWindow.Proofs.Range.Resolution
import TimeWindow.Proofs.Zone.Naming

/-!
# Resolving a range again

A resolved range keeps a raw pair from which it can be resolved once more.  With
everything else as it was this gives the same instants, and where no side was
math it gives them in every zone, under every fiscal calendar and at every now
(`resolve_raw_again`).
-/

namespace TimeWindow.Proofs.Range.Idempotence

open TimeWindow.DateMath TimeWindow.Text Outcome DateMath.Expression
  Zone.Conversion Zone.Settling Zone.Naming DateMath.Bracketing Range.Resolution

/-- Two resolved sides are one instant, or are both missing. -/
inductive SameMoment : Option Moment → Option Moment → Prop where
  | missing : SameMoment none none
  | instant {i j : Instant} (same : j.utcTicks = i.utcTicks) :
      SameMoment (some (.fixed i)) (some (.fixed j))

/-- Two sides as they are entered are equal, or are one instant. -/
inductive SameSource : Source → Source → Prop where
  | equal (s : Source) : SameSource s s
  | instant {i j : Instant} (same : j.utcTicks = i.utcTicks) :
      SameSource (.moment (.fixed i)) (.moment (.fixed j))

/-- Two ranges have the same instants and keep the same raw pair. -/
structure SameRange (r r' : TimeRange) : Prop where
  start : SameMoment r.start r'.start
  stop : SameMoment r.stop r'.stop
  rawStart : SameSource r.raw.start r'.raw.start
  rawStop : SameSource r.raw.stop r'.raw.stop

theorem sameMoment_refl (o : Option Instant) :
    SameMoment (o.map .fixed) (o.map .fixed) := by
  cases o with
  | none => exact .missing
  | some i => exact .instant rfl

theorem sameMoment_left {o : Option Moment} {j : Instant}
    (h : SameMoment o (some (.fixed j))) :
    ∃ i, o = some (.fixed i) ∧ i.utcTicks = j.utcTicks := by
  cases h with
  | instant same => exact ⟨_, rfl, same.symm⟩

theorem sameMoment_right {o : Option Moment} {i : Instant}
    (h : SameMoment (some (.fixed i)) o) :
    ∃ j, o = some (.fixed j) ∧ j.utcTicks = i.utcTicks := by
  cases h with
  | instant same => exact ⟨_, rfl, same⟩

theorem sameSource_side {m m' : Option Moment} (h : SameMoment m m') :
    SameSource (TimeRange.side m) (TimeRange.side m') := by
  cases h with
  | missing => exact .equal _
  | instant same => exact .instant same

/-! ## What a side that is not math resolves to -/

theorem parseIso_answer {s : String} {z : Zone} {i : Instant}
    (h : parseIso s z = .ok (some i)) :
    ∃ m : Moment, m.toZone z = .ok i := by
  unfold parseIso at h
  split at h
  · cases h
  · rename_i m _
    obtain ⟨j, hj, h⟩ := bind_eq_ok.1 h
    cases pure_eq_ok.1 h
    exact ⟨m, hj⟩

section

variable {e : Engine} {call : Engine.Call} {rules : Rules} {p : Present}

/-- A side that is not math is a moment expressed in the zone, if it is
anything: the instant itself, what its text writes, or the reference. -/
theorem parseInstant_of_not_math (hrules : e.rules call = .ok rules)
    {side : Source} (hmath : side.isMath = false) {i : Instant}
    (h : e.parseInstant call p side = .ok (some i)) :
    ∃ m : Moment, m.toZone rules.zone = .ok i := by
  cases side with
  | text s =>
    rw [parseInstant_text hrules] at h
    split at h
    · obtain ⟨j, hj, hvalue | ⟨-, hreference⟩⟩ := fallBack_answer h
      · cases hj
        rw [parseText_of_not_math hmath] at hvalue
        exact parseIso_answer hvalue
      · cases hj
        exact ⟨_, hreference⟩
    · obtain ⟨m, -, hm⟩ := parseAbsolute_eq_some h
      exact ⟨m, hm⟩
  | moment m =>
    rw [parseInstant_moment hrules] at h
    obtain ⟨j, hj, heq⟩ := map_eq_ok.1 h
    cases heq
    exact ⟨m, hj⟩
  | number n =>
    obtain ⟨rules', hrules', h⟩ := bind_eq_ok.1 h
    rw [hrules] at hrules'
    cases hrules'
    obtain ⟨counted, -, h⟩ := bind_eq_ok.1 h
    obtain ⟨j, hj, h⟩ := bind_eq_ok.1 h
    cases pure_eq_ok.1 h
    exact ⟨.fixed counted, hj⟩
  | flag | collection | absent =>
    unfold Engine.parseInstant at h
    rw [hrules] at h
    cases h

theorem parseInstant_side_again (hrules : e.rules call = .ok rules)
    (side : Option Instant)
    (h : ∀ i, side = some i → ∃ j, i.toZone rules.zone = .ok j) :
    ∃ again, e.parseInstant call p (TimeRange.side (side.map .fixed)) =
      .ok again ∧
      SameMoment (side.map .fixed) (again.map .fixed) := by
  cases side with
  | none =>
    refine ⟨none, ?_, .missing⟩
    change e.parseInstant call p .absent = _
    unfold Engine.parseInstant
    rw [hrules]
    rfl
  | some i =>
    obtain ⟨j, hj⟩ := h i rfl
    refine ⟨some j, ?_, .instant (toZone_utcTicks hj)⟩
    change e.parseInstant call p (.moment (.fixed i)) = _
    rw [parseInstant_moment hrules]
    exact map_eq_ok.2 ⟨j, hj, rfl⟩

end

/-! ## Both sides -/

section

variable {e : Engine} {c : RawRange.Call} {p : Present} {r : TimeRange}

def Fits (z : Zone) (r : TimeRange) : Prop :=
  ∀ i, r.start = some (.fixed i) ∨ r.stop = some (.fixed i) →
    ∃ j, i.toZone z = .ok j

theorem resolve_moments_again {z : Zone} (hz : e.zone c.timeZone = .ok z)
    {start stop : Option Instant} (hstart : r.start = start.map .fixed)
    (hstop : r.stop = stop.map .fixed)
    (hraw : r.raw = ⟨TimeRange.side r.start, TimeRange.side r.stop⟩)
    (hfits : Fits z r) :
    ∃ r', r.raw.resolve e c p = .ok r' ∧ SameRange r r' := by
  obtain ⟨start', hstart', hsame⟩ :=
    parseInstant_side_again (p := p) (rules_side hz false)
    start fun i hi => hfits i (.inl (by rw [hstart, hi]; rfl))
  obtain ⟨stop', hstop', hsame'⟩ :=
    parseInstant_side_again (p := p) (rules_side hz true)
    stop fun i hi => hfits i (.inr (by rw [hstop, hi]; rfl))
  rw [← hstart] at hstart' hsame
  rw [← hstop] at hstop' hsame'
  obtain ⟨r', hr', hrstart, hrstop⟩ :=
    resolve_of_sides ⟨TimeRange.side r.start, TimeRange.side r.stop⟩
    hstart' hstop'
  have hraw' := resolve_raw hr'
  rw [← hrstart] at hsame
  rw [← hrstop] at hsame'
  have hmath : ∀ m, (TimeRange.side m).isMath = false := by
    intro m
    cases m <;> rfl
  rw [hmath, hmath] at hraw'
  refine ⟨r', by rw [hraw]; exact hr', hsame, hsame', ?_, ?_⟩
  · rw [hraw, hraw']
    exact sameSource_side hsame
  · rw [hraw, hraw']
    exact sameSource_side hsame'

end

theorem sameRange_refl {e : Engine} {c : RawRange.Call} {p : Present}
    {raw : RawRange} {r : TimeRange} (h : raw.resolve e c p = .ok r) :
    SameRange r r := by
  obtain ⟨start, stop, -, -, hstart, hstop⟩ := resolve_eq_ok h
  refine ⟨?_, ?_, .equal _, .equal _⟩
  · rw [hstart]
    exact sameMoment_refl start
  · rw [hstop]
    exact sameMoment_refl stop

theorem moment_of_resolve {e : Engine} {c : RawRange.Call} {p : Present}
    {z : Zone} {raw : RawRange} {r : TimeRange}
    (hz : e.zone c.timeZone = .ok z) (h : raw.resolve e c p = .ok r)
    (hmath : (raw.start.isMath || raw.stop.isMath) = false) {i : Instant}
    (hi : r.start = some (.fixed i) ∨ r.stop = some (.fixed i)) :
    ∃ m : Moment, m.toZone z = .ok i := by
  rw [Bool.or_eq_false_iff] at hmath
  rcases hi with hi | hi
  · exact parseInstant_of_not_math (rules_side hz false) hmath.1
      (parseInstant_of_side h false hi)
  · exact parseInstant_of_not_math (rules_side hz true) hmath.2
      (parseInstant_of_side h true hi)

/-- **Resolving is idempotent, and what is absolute stays put.**  The raw pair
of a resolved range resolves again, to the same instants and the same raw pair;
and where no side was math it resolves in every zone, under every fiscal
calendar and at every present to the same two instants, as long as their
readings stay in the calendar. -/
theorem resolve_raw_again {e : Engine} {c : RawRange.Call} {p : Present}
    {raw : RawRange} {r : TimeRange} (h : raw.resolve e c p = .ok r) :
    (∃ r', r.raw.resolve e c p = .ok r' ∧ SameRange r r') ∧
      ((raw.start.isMath || raw.stop.isMath) = false →
        ∀ (e' : Engine) (c' : RawRange.Call) (p' : Present) (z : Zone),
          e'.zone c'.timeZone = .ok z →
          (∀ i, r.start = some (.fixed i) ∨ r.stop = some (.fixed i) →
            Readable z i) →
          ∃ r', r.raw.resolve e' c' p' = .ok r' ∧ SameMoment r.start r'.start ∧
            SameMoment r.stop r'.stop) := by
  obtain ⟨z, hz⟩ := zone_of_resolve h
  have hsane : z.Sane := sane_of_resolve hz
  obtain ⟨start, stop, -, -, hrstart, hrstop⟩ := resolve_eq_ok h
  have hraw := resolve_raw h
  cases hmath : raw.start.isMath || raw.stop.isMath with
  -- the raw pair was kept, so that the second run is the first one
  | true =>
    rw [hmath] at hraw
    exact ⟨⟨r, by rw [hraw]; exact h, sameRange_refl h⟩,
      fun hfalse => by cases hfalse⟩
  -- the raw pair is that of the sides, which are expressed in a zone once more
  | false =>
    rw [hmath] at hraw
    constructor
    · refine resolve_moments_again hz hrstart hrstop hraw fun i hi => ?_
      obtain ⟨m, hm⟩ := moment_of_resolve hz h hmath hi
      obtain ⟨j, hj, -⟩ := settles_of_toZone hsane (inland_of_resolve hz) hm
      exact ⟨j, hj⟩
    · intro _ e' c' p' z' hz' hreadable
      have hfits : Fits z' r := by
        intro i hi
        obtain ⟨m, hm⟩ := moment_of_resolve hz h hmath hi
        obtain ⟨j, hj, -⟩ := toZone_of_readable
          ((momentToZone_carries hm).offset_lt hsane) (hreadable i hi)
        exact ⟨j, hj⟩
      obtain ⟨r', hr', hsame⟩ :=
        resolve_moments_again hz' hrstart hrstop hraw hfits
      exact ⟨r', hr', hsame.start, hsame.stop⟩

/-- A midnight that the zone skips, read with the offset from before. -/
def skippedMidnight : Instant := ⟨november 4 0, winterTime⟩

/-- The instant at which the skipped midnight would have been has another wall
time the second time, and is the same instant there and in UTC. -/
theorem resolve_raw_again_skipped_midnight :
    ∃ r r' r'',
      RawRange.resolve {} { timeZone := some "America/Sao_Paulo" } reference
        ⟨.text "2018-11-04", .text "noon"⟩ = .ok r ∧
      r.start = some (.fixed skippedMidnight) ∧
      r.raw.resolve {} { timeZone := some "America/Sao_Paulo" } reference =
        .ok r' ∧ SameRange r r' ∧
      r.raw.resolve {} { timeZone := some "utc" } reference = .ok r'' ∧
      SameMoment r.start r''.start ∧
      SameMoment r.stop r''.stop := by
  have hr :
      RawRange.resolve {} { timeZone := some "America/Sao_Paulo" } reference
      ⟨.text "2018-11-04", .text "noon"⟩ =
        .ok (.ofMoments (some (.fixed skippedMidnight)) none) := by
    decide +kernel
  have hreadable : ∀ i, some (Moment.fixed skippedMidnight) = some (.fixed i) ∨
      (none : Option Moment) = some (.fixed i) → Readable .utc i := by
    rintro i (hi | hi)
    · cases hi
      exact ⟨by decide, by decide⟩
    · cases hi
  obtain ⟨⟨r', hr', hsame⟩, habsolute⟩ := resolve_raw_again hr
  obtain ⟨r'', hr'', hstart, hstop⟩ :=
    habsolute rfl {} { timeZone := some "utc" } reference .utc rfl hreadable
  exact ⟨_, r', r'', hr, rfl, hr', hsame, hr'', hstart, hstop⟩

end TimeWindow.Proofs.Range.Idempotence

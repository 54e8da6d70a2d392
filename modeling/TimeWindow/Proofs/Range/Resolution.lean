import TimeWindow.Range.Resolve
import TimeWindow.Proofs.DateMath.Expression
import TimeWindow.Proofs.DateMath.Faults

/-!
# When a raw range resolves

A side that speaks of now has the reference instant to fall back on, and any
other side may be missing, so that only leaving the calendar is left to break a
resolution off.  `resolves_iff_stays` says exactly when it does.
-/

namespace TimeWindow.Proofs.Range.Resolution

open TimeWindow.DateMath Outcome DateMath.Grammar DateMath.Evaluation
  DateMath.Expression DateMath.Faults

/-- What a free-form text is completed with: the date on the clock, and the year
around which years of two digits are placed. -/
def defaultsOf (p : Present) : FreeForm.Defaults := ⟨p.clock.date, p.pivotYear⟩

/-- An expression without a value: its anchor cannot be read, or its math is no
row of steps. -/
def Unreadable (start : Option Instant) (math : List Char) : Prop :=
  start = none ∨ ¬ ∃ steps, IsMath (bare math) steps

/-- An expression stays in the calendar: its anchor does, the steps of its math
do, and so does the reference instant if there is need of it. -/
def ExpressionStays (rules : Rules) (p : Present) (s : String) : Prop :=
  ∃ start math, anchor rules p s.toList = .ok (start, math) ∧
    (∀ i, start = some i → Stays rules math i) ∧
    (Unreadable start math → ∃ i, p.reference rules.zone = .ok i)

/-- A side of a range stays in the calendar: an expression where it speaks of
now, and otherwise the moment that its text writes, if it writes one. -/
def SideStays (rules : Rules) (p : Present) (s : String) : Prop :=
  if Engine.mentionsNow s then ExpressionStays rules p s
  else ∀ m, FreeForm.read s (defaultsOf p) = .ok (some m) →
    ∃ i, m.toZone rules.zone = .ok i

/-- What a side resolves to: where it speaks of now always an instant, its value
or else the reference. -/
def SideAnswer (rules : Rules) (p : Present) (s : String)
    (answer : Option Instant) : Prop :=
  Engine.mentionsNow s = true → ∃ i, answer = some i ∧
    (parseText rules p s = .ok (some i) ∨
      parseText rules p s = .ok none ∧ p.reference rules.zone = .ok i)

/-- The free-form reader, where a side is left to it, gives up on nothing but
what it calls unreadable. -/
def ReadsFreely (p : Present) (s : String) : Prop :=
  Engine.mentionsNow s = false → ∃ m, FreeForm.read s (defaultsOf p) = .ok m

/-! ## One expression -/

theorem parseText_ok_iff {rules : Rules} {p : Present} {s : String}
    {start : Option Instant} {math : List Char}
    (h : anchor rules p s.toList = .ok (start, math)) :
    (∃ o, parseText rules p s = .ok o) ↔ ∀ i, start = some i →
    Stays rules math i := by
  rw [parseText_of_anchor h]
  cases start with
  | none => simp
  | some i => simp [stays_iff_evaluate]

theorem parseText_eq_none_iff {rules : Rules} {p : Present} {s : String}
    {start : Option Instant} {math : List Char}
    (h : anchor rules p s.toList = .ok (start, math))
    (stays : ∀ i, start = some i → Stays rules math i) :
    parseText rules p s = .ok none ↔ Unreadable start math := by
  rw [parseText_of_anchor h]
  unfold Unreadable
  cases start with
  | none => simp
  | some i =>
    change evaluate rules math i = .ok none ↔ _
    rw [evaluate_eq_none_iff (stays i rfl)]
    simp

/-- An expression that falls back on the reference instant when it has no
value. -/
def fallBack (rules : Rules) (p : Present) (s : String) :
    Except Fault (Option Instant) := do
  match ← parseText rules p s with
  | some i => return some i
  | none => return some (← p.reference rules.zone)

theorem fallBack_ok_iff {rules : Rules} {p : Present} {s : String} :
    (∃ o, fallBack rules p s = .ok o) ↔ ExpressionStays rules p s := by
  unfold fallBack ExpressionStays
  cases hanchor : anchor rules p s.toList with
  | error f =>
    rw [parseText_of_anchor_error hanchor]
    simp [Bind.bind, Except.bind]
  | ok answer =>
    obtain ⟨start, math⟩ := answer
    have hok := parseText_ok_iff hanchor
    constructor
    · rintro ⟨o, ho⟩
      obtain ⟨value, hvalue, ho⟩ := bind_eq_ok.1 ho
      have hstays := hok.1 ⟨value, hvalue⟩
      refine ⟨start, math, rfl, hstays, ?_⟩
      intro hunreadable
      rw [← parseText_eq_none_iff hanchor hstays, hvalue] at hunreadable
      cases hunreadable
      obtain ⟨i, hi, -⟩ := bind_eq_ok.1 ho
      exact ⟨i, hi⟩
    · rintro ⟨start', math', heq, hstays, hreference⟩
      cases heq
      obtain ⟨value, hvalue⟩ := hok.2 hstays
      cases value with
      | some i => exact ⟨some i, bind_eq_ok.2 ⟨some i, hvalue, rfl⟩⟩
      | none =>
        obtain ⟨i, hi⟩ :=
          hreference ((parseText_eq_none_iff hanchor hstays).1 hvalue)
        exact ⟨some i, bind_eq_ok.2 ⟨none, hvalue, bind_eq_ok.2 ⟨i, hi, rfl⟩⟩⟩

theorem fallBack_answer {rules : Rules} {p : Present} {s : String}
    {o : Option Instant} (h : fallBack rules p s = .ok o) : ∃ i, o = some i ∧
      (parseText rules p s = .ok (some i) ∨
        parseText rules p s = .ok none ∧ p.reference rules.zone = .ok i) := by
  unfold fallBack at h
  obtain ⟨value, hvalue, h⟩ := bind_eq_ok.1 h
  cases value with
  | some i =>
    rw [pure_eq_ok] at h
    exact ⟨i, h.symm, Or.inl hvalue⟩
  | none =>
    obtain ⟨i, hi, h⟩ := bind_eq_ok.1 h
    rw [pure_eq_ok] at h
    exact ⟨i, h.symm, Or.inr ⟨hvalue, hi⟩⟩

theorem fallBack_fails {rules : Rules} {weekStart : WeekStart}
    (hweek : rules.weekStart = some weekStart) (p : Present) (s : String) :
    OnlyMisplaces (fallBack rules p s) := by
  refine (parseText_fails hweek p s).bind fun value _ => ?_
  cases value with
  | some i => exact failsWithin_ok _
  | none => exact (reference_fails p _).bind fun _ _ => failsWithin_ok _

/-! ## One side -/

theorem engine_parse {e : Engine} {call : Engine.Call} {rules : Rules}
    {p : Present} {s : String} (hrules : e.rules call = .ok rules) :
    e.parse call p (.text s) = parseText rules p s := by
  unfold Engine.parse
  rw [hrules]
  rfl

theorem parseInstant_text {e : Engine} {call : Engine.Call} {rules : Rules}
    {p : Present} {s : String} (hrules : e.rules call = .ok rules) :
    e.parseInstant call p (.text s) =
      if Engine.mentionsNow s then fallBack rules p s
      else parseAbsolute p.clock s rules.zone p.pivotYear := by
  unfold Engine.parseInstant
  rw [hrules]
  rfl

theorem parseInstant_moment {e : Engine} {call : Engine.Call} {rules : Rules}
    {p : Present} (hrules : e.rules call = .ok rules) (m : Moment) :
    e.parseInstant call p (.moment m) = (m.toZone rules.zone).map some := by
  unfold Engine.parseInstant
  rw [hrules]
  change (m.toZone rules.zone >>= fun i => pure (some i)) = _
  cases m.toZone rules.zone <;> rfl

theorem parseAbsolute_of_read {p : Present} {s : String} {z : Zone}
    {m : Option Moment} (h : FreeForm.read s (defaultsOf p) = .ok m) :
    parseAbsolute p.clock s z p.pivotYear =
      m.elim (.ok none) fun m => do return some (← m.toZone z) := by
  change (FreeForm.read s (defaultsOf p) >>= _) = _
  rw [h]
  cases m <;> rfl

theorem parseAbsolute_eq_some {p : Present} {s : String} {z : Zone}
    {i : Instant} (h : parseAbsolute p.clock s z p.pivotYear = .ok (some i)) :
    ∃ m : Moment, FreeForm.read s (defaultsOf p) = .ok (some m) ∧
      m.toZone z = .ok i := by
  obtain ⟨read, hread, h⟩ := bind_eq_ok.1 h
  cases read with
  | none => cases h
  | some m =>
    obtain ⟨j, hj, h⟩ := bind_eq_ok.1 h
    cases pure_eq_ok.1 h
    exact ⟨m, hread, hj⟩

theorem parseInstant_ok_iff {e : Engine} {call : Engine.Call} {rules : Rules}
    {p : Present} {s : String} (hrules : e.rules call = .ok rules)
    (hread : ReadsFreely p s) :
    (∃ o, e.parseInstant call p (.text s) = .ok o) ↔ SideStays rules p s := by
  rw [parseInstant_text hrules]
  unfold SideStays
  split
  · exact fallBack_ok_iff
  · rename_i hnow
    obtain ⟨m, hm⟩ := hread (Bool.eq_false_iff.2 hnow)
    rw [parseAbsolute_of_read hm, hm]
    cases m with
    | none => simp
    | some m =>
      constructor
      · rintro ⟨o, ho⟩ m' hm'
        cases hm'
        obtain ⟨i, hi, -⟩ := bind_eq_ok.1 ho
        exact ⟨i, hi⟩
      · intro h
        obtain ⟨i, hi⟩ := h m rfl
        exact ⟨some i, bind_eq_ok.2 ⟨i, hi, rfl⟩⟩

theorem parseInstant_answer {e : Engine} {call : Engine.Call} {rules : Rules}
    {p : Present} {s : String} {o : Option Instant}
    (hrules : e.rules call = .ok rules)
    (h : e.parseInstant call p (.text s) = .ok o) : SideAnswer rules p s o := by
  intro hnow
  rw [parseInstant_text hrules, if_pos hnow] at h
  exact fallBack_answer h

theorem parseInstant_fails {e : Engine} {call : Engine.Call} {rules : Rules}
    {p : Present} {s : String} {weekStart : WeekStart}
    (hrules : e.rules call = .ok rules)
    (hweek : rules.weekStart = some weekStart) (hread : ReadsFreely p s) :
    OnlyMisplaces (e.parseInstant call p (.text s)) := by
  rw [parseInstant_text hrules]
  split
  · exact fallBack_fails hweek p s
  · rename_i hnow
    obtain ⟨m, hm⟩ := hread (Bool.eq_false_iff.2 hnow)
    rw [parseAbsolute_of_read hm]
    cases m with
    | none => exact failsWithin_ok _
    | some m => exact (momentToZone_fails m _).bind fun _ _ => failsWithin_ok _

/-! ## Both sides -/

def sideRules (e : Engine) (c : RawRange.Call) (z : Zone) (roundUp : Bool) :
    Rules where
  roundUp := roundUp
  fiscalStart := c.fiscalStart.getD e.fiscalStart
  zone := z
  weekStart := some e.weekStart

theorem rules_side {e : Engine} {c : RawRange.Call} {z : Zone}
    (hz : e.zone c.timeZone = .ok z) (roundUp : Bool) :
    e.rules (c.side roundUp) = .ok (sideRules e c z roundUp) := by
  unfold Engine.rules
  change (e.zone c.timeZone >>= _) = _
  rw [hz]
  rfl

theorem resolve_eq_ok {e : Engine} {c : RawRange.Call} {p : Present}
    {raw : RawRange} {r : TimeRange} (h : raw.resolve e c p = .ok r) :
    ∃ start stop, e.parseInstant (c.side false) p raw.start = .ok start ∧
      e.parseInstant (c.side true) p raw.stop = .ok stop ∧
      r.start = start.map .fixed ∧ r.stop = stop.map .fixed := by
  unfold RawRange.resolve at h
  obtain ⟨start, hstart, h⟩ := bind_eq_ok.1 h
  obtain ⟨stop, hstop, h⟩ := bind_eq_ok.1 h
  rw [pure_eq_ok] at h
  refine ⟨start, stop, hstart, hstop, ?_, ?_⟩
  · rw [← h]
    split <;> rfl
  · rw [← h]
    split <;> rfl

theorem fixed_of_map {o : Option Instant} {m : Option Moment} {i : Instant}
    (h : m = o.map .fixed) (hm : m = some (.fixed i)) : o = some i := by
  rw [h, Option.map_eq_some_iff] at hm
  obtain ⟨j, rfl, hj⟩ := hm
  cases hj
  rfl

theorem parseInstant_of_side {e : Engine} {c : RawRange.Call} {p : Present}
    {raw : RawRange} {r : TimeRange} (h : raw.resolve e c p = .ok r)
    (roundUp : Bool) {i : Instant}
    (hi : (bif roundUp then r.stop else r.start) = some (.fixed i)) :
    e.parseInstant (c.side roundUp) p (bif roundUp then raw.stop else raw.start) =
      .ok (some i) := by
  obtain ⟨start, stop, hstart, hstop, hrstart, hrstop⟩ := resolve_eq_ok h
  cases roundUp with
  | false => exact hstart.trans (congrArg _ (fixed_of_map hrstart hi))
  | true => exact hstop.trans (congrArg _ (fixed_of_map hrstop hi))

theorem resolve_raw {e : Engine} {c : RawRange.Call} {p : Present}
    {raw : RawRange} {r : TimeRange} (h : raw.resolve e c p = .ok r) :
    r.raw = if raw.start.isMath || raw.stop.isMath then raw
      else ⟨TimeRange.side r.start, TimeRange.side r.stop⟩ := by
  unfold RawRange.resolve at h
  obtain ⟨start, -, h⟩ := bind_eq_ok.1 h
  obtain ⟨stop, -, h⟩ := bind_eq_ok.1 h
  rw [pure_eq_ok] at h
  rw [← h]
  split <;> rfl

theorem resolve_raw_of_math {e : Engine} {c : RawRange.Call} {p : Present}
    {raw : RawRange} {r : TimeRange} (h : raw.resolve e c p = .ok r)
    (hmath : (raw.start.isMath || raw.stop.isMath) = true) : r.raw = raw := by
  rw [resolve_raw h, if_pos hmath]

theorem zone_of_resolve {e : Engine} {c : RawRange.Call} {p : Present}
    {raw : RawRange} {r : TimeRange} (h : raw.resolve e c p = .ok r) :
    ∃ z, e.zone c.timeZone = .ok z := by
  obtain ⟨start, -, hstart, -⟩ := resolve_eq_ok h
  obtain ⟨rules, hrules, -⟩ := bind_eq_ok.1 hstart
  obtain ⟨z, hz, -⟩ := bind_eq_ok.1 hrules
  exact ⟨z, hz⟩

theorem resolve_of_zone_error {e : Engine} {c : RawRange.Call} {f : Fault}
    (h : e.zone c.timeZone = .error f) (p : Present) (raw : RawRange) :
    raw.resolve e c p = .error f := by
  have hrules : e.rules (c.side false) = .error f := by
    unfold Engine.rules
    change (e.zone c.timeZone >>= _) = _
    rw [h]
    rfl
  unfold RawRange.resolve Engine.parseInstant
  rw [hrules]
  rfl

theorem resolve_of_sides {e : Engine} {c : RawRange.Call} {p : Present}
    (raw : RawRange) {start stop : Option Instant}
    (hstart : e.parseInstant (c.side false) p raw.start = .ok start)
    (hstop : e.parseInstant (c.side true) p raw.stop = .ok stop) :
    ∃ r, raw.resolve e c p = .ok r ∧ r.start = start.map .fixed ∧
      r.stop = stop.map .fixed := by
  refine ⟨_, bind_eq_ok.2 ⟨start, hstart, bind_eq_ok.2 ⟨stop, hstop, rfl⟩⟩, ?_, ?_⟩
  · split <;> rfl
  · split <;> rfl

/-- **A pair of texts resolves exactly when both sides stay in the calendar.**
Then a side that speaks of now is an instant, the reference where its text has
no value; and when the pair does not resolve, a reading was misplaced. -/
theorem resolves_iff_stays {e : Engine} {c : RawRange.Call} {p : Present}
    {z : Zone} {s t : String} (hz : e.zone c.timeZone = .ok z)
    (hs : ReadsFreely p s) (ht : ReadsFreely p t) :
    ((∃ r, RawRange.resolve e c p ⟨.text s, .text t⟩ = .ok r) ↔
        SideStays (sideRules e c z false) p s ∧
        SideStays (sideRules e c z true) p t) ∧
      (∀ r, RawRange.resolve e c p ⟨.text s, .text t⟩ = .ok r →
        ∃ start stop, r.start = start.map .fixed ∧ r.stop = stop.map .fixed ∧
          SideAnswer (sideRules e c z false) p s start ∧
          SideAnswer (sideRules e c z true) p t stop) ∧
      OnlyMisplaces (RawRange.resolve e c p ⟨.text s, .text t⟩) := by
  have hdown := rules_side (c := c) hz false
  have hup := rules_side (c := c) hz true
  refine ⟨⟨?_, ?_⟩, ?_, ?_⟩
  · rintro ⟨r, hr⟩
    obtain ⟨start, stop, hstart, hstop, -, -⟩ := resolve_eq_ok hr
    exact ⟨(parseInstant_ok_iff hdown hs).1 ⟨start, hstart⟩,
      (parseInstant_ok_iff hup ht).1 ⟨stop, hstop⟩⟩
  · rintro ⟨hstays, hstays'⟩
    obtain ⟨start, hstart⟩ := (parseInstant_ok_iff hdown hs).2 hstays
    obtain ⟨stop, hstop⟩ := (parseInstant_ok_iff hup ht).2 hstays'
    exact ⟨_, bind_eq_ok.2 ⟨start, hstart, bind_eq_ok.2 ⟨stop, hstop, rfl⟩⟩⟩
  · intro r hr
    obtain ⟨start, stop, hstart, hstop, hrstart, hrstop⟩ := resolve_eq_ok hr
    exact ⟨start, stop, hrstart, hrstop, parseInstant_answer hdown hstart,
      parseInstant_answer hup hstop⟩
  · exact (parseInstant_fails hdown rfl hs).bind fun _ _ =>
      (parseInstant_fails hup rfl ht).bind fun _ _ => failsWithin_ok _

def reference : Present where
  clock := (noon 15).wall
  now := some (.fixed (noon 15))

theorem resolves_yesterday :
    SideStays (sideRules {} {} .host false) reference "now-1d/d" ∧
      SideStays (sideRules {} {} .host true) reference "2024-03-15" := by
  have hfrom : ReadsFreely reference "now-1d/d" :=
    fun hnow => absurd hnow (by decide)
  have hto : ReadsFreely reference "2024-03-15" := fun _ => ⟨_, rfl⟩
  have hzone : Engine.zone {} (RawRange.Call.timeZone {}) = .ok .host := rfl
  exact (resolves_iff_stays hzone hfrom hto).1.1 ⟨_, rfl⟩

/-- A year that the calendar does not reach breaks the resolution off; the
reference instant does not take its place. -/
theorem resolve_beyond_calendar :
    RawRange.resolve {} {} reference ⟨.text "now+9999y", .text "now"⟩ =
      .error .fieldOutOfRange := by
  rfl

end TimeWindow.Proofs.Range.Resolution

import TimeWindow.Proofs.DateMath.SameClock
import TimeWindow.Proofs.Range.Idempotence

/-!
# Engines that reckon alike

What an engine makes of a range depends on its zone, its fiscal year and its
week.  Two engines resolve every range to the same instants, with the same
readings, if they agree on the clock, on the fiscal year and on the week
(`resolve_reckoning`).
-/

namespace TimeWindow.Proofs.Range.Reckoning

open TimeWindow.DateMath TimeWindow.Text Outcome DateMath.Expression
  DateMath.SameClock Range.Resolution Range.Idempotence Zone.OneClock
  Zone.Naming

/-- A side as it is entered: a text, or a moment without a zone of its own. -/
def Entered : Source → Prop
  | .text _ => True
  | .moment m => Bare m
  | _ => False

/-- Both rules keep one clock, one fiscal year and one week, or there are no
rules on either side. -/
inductive SameReckoning : Except Fault Rules → Except Fault Rules → Prop where
  | known {rules rules' : Rules} (clock : SameClock rules.zone rules'.zone)
      (fiscal : rules'.fiscalStart % 12 = rules.fiscalStart % 12)
      (week : rules'.weekStart = rules.weekStart) :
      SameReckoning (.ok rules) (.ok rules')
  | unknown (f f' : Fault) : SameReckoning (.error f) (.error f')

/-- Two resolved sides show one wall time with one offset, or are both
missing. -/
inductive SameSide : Option Moment → Option Moment → Prop where
  | missing : SameSide none none
  | shown {i j : Instant} (same : SameReading i j) :
      SameSide (some (.fixed i)) (some (.fixed j))

/-- Two ranges have the same instants, with the same readings, and keep the same
raw pair. -/
structure SameShown (r r' : TimeRange) : Prop extends SameRange r r' where
  shownStart : SameSide r.start r'.start
  shownStop : SameSide r.stop r'.stop

/-- Both results are ranges with the same instants, or there is no range on
either side. -/
inductive Agree : Except Fault TimeRange → Except Fault TimeRange → Prop where
  | range {r r' : TimeRange} (same : SameShown r r') : Agree (.ok r) (.ok r')
  | neither (f f' : Fault) : Agree (.error f) (.error f')

theorem agree_of_alike {x x' : Except Fault TimeRange}
    (h : Alike SameShown x x') : Agree x x' := by
  cases h with
  | ok same => exact .range same
  | error f => exact .neither f f

/-! ## Sides -/

section

variable {e e' : Engine} {call call' : Engine.Call} {rules rules' : Rules}
  {p : Present}

theorem fallBack_mirror (hsame : SameRules rules rules')
    (hnow : Bare (p.now.getD (.fixed (.ofUtc p.clock)))) (s : String) :
    Alike (Option.Rel (Mirror rules.zone rules'.zone)) (fallBack rules p s)
      (fallBack rules' p s) := by
  refine (parseText_mirror hsame hnow s).bind fun o o' ho => ?_
  cases ho with
  | some hk => exact .ok (.some hk)
  | none =>
    exact (reference_mirror hsame hnow).bind fun k k' hk => .ok (.some hk)

theorem parseInstant_mirror (hrules : e.rules call = .ok rules)
    (hrules' : e'.rules call' = .ok rules') (hsame : SameRules rules rules')
    (hnow : Bare (p.now.getD (.fixed (.ofUtc p.clock)))) {side : Source}
    (hside : Entered side) :
    Alike (Option.Rel (Mirror rules.zone rules'.zone)) (e.parseInstant call p side)
      (e'.parseInstant call' p side) := by
  cases side with
  | text s =>
    rw [parseInstant_text hrules, parseInstant_text hrules']
    split
    · exact fallBack_mirror hsame hnow s
    · exact parseAbsolute_mirror hsame _ s _
  | moment m =>
    unfold Engine.parseInstant
    rw [hrules, hrules']
    exact (momentToZone_mirror hsame.clock hside).bind fun k k' hk =>
      .ok (.some hk)
  | number | flag | collection | absent => exact hside.elim

variable {z z' : Zone} {o o' : Option Instant}
  (h : Option.Rel (Mirror z z') o o')

include h

theorem sameSide_of_rel : SameSide (o.map .fixed) (o'.map .fixed) := by
  cases h with
  | some hk => exact .shown hk.reading
  | none => exact .missing

theorem sameMoment_of_rel : SameMoment (o.map .fixed) (o'.map .fixed) := by
  cases h with
  | some hk => exact .instant hk.reading.utcTicks
  | none => exact .missing

end

/-! ## Rules -/

theorem rules_eq_ok {e : Engine} {rules : Rules} (h : e.rules {} = .ok rules) :
    ∃ z, e.zone none = .ok z ∧ rules = sideRules e {} z false := by
  obtain ⟨z, hz, hrules⟩ := bind_eq_ok.1 h
  exact ⟨z, hz, (pure_eq_ok.1 hrules).symm⟩

theorem rules_eq_error {e : Engine} {f : Fault} (h : e.rules {} = .error f) :
    e.zone none = .error f := by
  rcases bind_eq_error.1 h with hzone | ⟨z, -, hrules⟩
  · exact hzone
  · cases hrules

theorem rules_of_no_zone {e : Engine} {f : Fault} (h : e.zone none = .error f) :
    e.rules {} = .error f := by
  unfold Engine.rules
  change (e.zone none >>= _) = _
  rw [h]
  rfl

theorem resolve_of_no_zone {e : Engine} {f : Fault}
    (h : e.zone none = .error f) (raw : RawRange) (p : Present) :
    raw.resolve e {} p = .error f :=
  resolve_of_zone_error h p raw

/-! ## Alike rules, alike ranges -/

section

variable {e e' : Engine} {raw : RawRange} {p : Present}
  (hstart : Entered raw.start)
  (hstop : Entered raw.stop) (hnow : Bare (p.now.getD (.fixed (.ofUtc p.clock))))

include hstart hstop hnow

theorem resolve_mirror {z z' : Zone} (hz : e.zone none = .ok z)
    (hz' : e'.zone none = .ok z') (hclock : SameClock z z')
    (hfiscal : e'.fiscalStart % 12 = e.fiscalStart % 12)
    (hweek : e'.weekStart = e.weekStart) :
    Alike SameShown (raw.resolve e {} p) (raw.resolve e' {} p) := by
  have hsame :
      ∀ roundUp,
        SameRules (sideRules e {} z roundUp) (sideRules e' {} z' roundUp) :=
    fun roundUp => ⟨⟨hclock, sane_of_resolve hz, sane_of_resolve hz'⟩, rfl,
      ⟨e.weekStart, rfl, congrArg some hweek⟩, hfiscal⟩
  have hrules := fun roundUp => rules_side (c := {}) hz roundUp
  have hrules' := fun roundUp => rules_side (c := {}) hz' roundUp
  unfold RawRange.resolve
  refine (parseInstant_mirror (hrules false) (hrules' false) (hsame false) hnow
    hstart).bind
    fun start start' hs => ?_
  refine (parseInstant_mirror (hrules true) (hrules' true) (hsame true) hnow
    hstop).bind
    fun stop stop' ht => .ok ?_
  have hstartSame := sameMoment_of_rel hs
  have hstopSame := sameMoment_of_rel ht
  have hstartShown := sameSide_of_rel hs
  have hstopShown := sameSide_of_rel ht
  split
  · exact ⟨⟨hstartSame, hstopSame, .equal _, .equal _⟩, hstartShown, hstopShown⟩
  · exact ⟨⟨hstartSame, hstopSame, sameSource_side hstartSame,
      sameSource_side hstopSame⟩, hstartShown, hstopShown⟩

theorem resolve_reckoning (h : SameReckoning (e.rules {}) (e'.rules {})) :
    Agree (raw.resolve e {} p) (raw.resolve e' {} p) := by
  generalize hrules : e.rules {} = x at h
  generalize hrules' : e'.rules {} = x' at h
  cases h with
  | unknown f f' =>
    rw [resolve_of_no_zone (rules_eq_error hrules),
      resolve_of_no_zone (rules_eq_error hrules')]
    exact .neither f f'
  | known clock fiscal week =>
    obtain ⟨z, hz, rfl⟩ := rules_eq_ok hrules
    obtain ⟨z', hz', rfl⟩ := rules_eq_ok hrules'
    injection week with hweek
    exact agree_of_alike
      (resolve_mirror hstart hstop hnow hz hz' clock fiscal hweek)

end

end TimeWindow.Proofs.Range.Reckoning

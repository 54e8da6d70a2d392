import TimeWindow.Proofs.DateMath.Faults
import TimeWindow.Service.Settings

/-!
# Settings and the engine they describe

Settings that are read have every value within its bounds (`read_inBounds`), and
engines round weeks to the first day that they were made with: what they are
asked for may fail, but never because that day is unknown
(`parse_knowsWeekStart`, `parseInstant_knowsWeekStart`).
-/

namespace TimeWindow.Proofs.Service.Settings

open TimeWindow.DateMath TimeWindow.Settings Outcome DateMath.Faults

/-! ## Fields -/

section

variable {α β : Type} {P : α → Prop} {Q : β → Prop}

theorem checked_gives {read : Json → Except Issue.Rule α}
    {check : α → Option β} {text : String} (h : ∀ a b, check a = some b → Q b)
    (v : Json) : Gives Q (checked read check text v) := by
  intro b hb
  obtain ⟨a, -, hrest⟩ := bind_eq_ok.1 hb
  cases hcheck : check a with
  | none =>
    rw [hcheck] at hrest
    cases hrest
  | some c =>
    rw [hcheck] at hrest
    cases hrest
    exact h a b hcheck

theorem field_gives {env : Environment} {given : List (String × Json)}
    {n : Names} {standard : α} {read : Json → Except Issue α}
    (hstandard : P standard) (hread : ∀ v, Gives P (read v)) :
    Gives P (field env given n standard read) := by
  unfold field
  split
  · exact gives_ok hstandard
  · rename_i v _
    have hvalue := hread v
    split
    · rename_i a ha
      exact gives_ok (hvalue a ha)
    · exact gives_error _

end

theorem logLevel?_mem {s level : String} (h : logLevel? s = some level) :
    level ∈ logLevels := by
  unfold logLevel? at h
  dsimp only at h
  split at h
  · rename_i hmem
    cases h
    exact List.contains_iff_mem.1 hmem
  · cases h

theorem fiscalStart?_bounds {n m : Int} (h : fiscalStart? n = some m) :
    0 ≤ m ∧ m ≤ 11 := by
  unfold fiscalStart? at h
  split at h
  · rename_i hbounds
    cases h
    exact hbounds
  · cases h

theorem resolution?_pos {n m : Int} (h : resolution? n = some m) : 0 < m := by
  unfold resolution? at h
  split at h
  · rename_i hpos
    cases h
    exact hpos
  · cases h

structure InBounds (s : Settings) : Prop where
  logLevel : s.logLevel ∈ logLevels
  fiscalStart : 0 ≤ s.fiscalStart ∧ s.fiscalStart ≤ 11
  resolution : 0 < s.defaultResolution

theorem read_inBounds {env : Environment} {given : List (String × Json)}
    {s : Settings} (h : Settings.read env given = .ok s) : InBounds s := by
  unfold Settings.read at h
  dsimp only at h
  split at h
  · rename_i hlevel _ _ _ _ _ hfiscal _ hresolution _
    cases h
    constructor
    · exact field_gives (by decide) (checked_gives fun _ _ => logLevel?_mem)
        _ hlevel
    · exact field_gives (by decide) (checked_gives fun _ _ =>
        fiscalStart?_bounds) _ hfiscal
    · exact field_gives (by decide) (checked_gives fun _ _ => resolution?_pos)
        _ hresolution
  · cases h

/-! ## First days of the week -/

theorem name_offered (w : WeekStart) : w.name ∈ Fault.offeredWeekStarts := by
  cases w <;> decide

theorem name_mem_weekStarts (w : WeekStart) : w.name ∈ weekStarts := by
  cases w <;> decide

theorem make_name (timeZone : Option String) (fiscalStart : Int) (w : WeekStart)
    (zones : TimeWindow.Zone.Catalog) :
    Engine.make timeZone fiscalStart w.name zones =
      .ok { timeZone, fiscalStart, weekStart := w, zones } := by
  unfold Engine.make
  rw [WeekStart.ofName?_name]

def described (zones : TimeWindow.Zone.Catalog) (s : Settings) : Engine where
  timeZone := some s.defaultTimeZone
  fiscalStart := s.fiscalStart
  weekStart := s.weekStart
  zones := zones

theorem engine_eq (s : Settings) (zones : TimeWindow.Zone.Catalog) :
    s.engine zones = .ok (described zones s) := make_name _ _ _ _

/-! ## Engines -/

abbrev KnowsWeekStart {α : Type} (x : Except Fault α) : Prop :=
  FailsWithin (· ≠ .unknownWeekStart) x

theorem knows_of_misplaces {α : Type} {x : Except Fault α}
    (h : OnlyMisplaces x) : KnowsWeekStart x := by
  intro e he
  cases h e he <;> simp

theorem resolve_knowsWeekStart (name : Option String)
    (c : TimeWindow.Zone.Catalog) :
    KnowsWeekStart (TimeWindow.Zone.resolve name c) := by
  unfold TimeWindow.Zone.resolve
  split
  · exact failsWithin_ok _
  · split
    · exact failsWithin_ok _
    · split
      · exact failsWithin_ok _
      · split
        · exact failsWithin_error (by simp)
        · split
          · exact failsWithin_ok _
          · exact failsWithin_error (by simp)

theorem rules_knowsWeekStart (e : Engine) (call : Engine.Call) :
    KnowsWeekStart (e.rules call) :=
  (resolve_knowsWeekStart _ _).bind fun _ _ => failsWithin_ok _

theorem weekStart_of_rules {e : Engine} {call : Engine.Call} {rules : Rules}
    (h : e.rules call = .ok rules) :
    rules.weekStart = some e.weekStart := by
  obtain ⟨z, -, hz⟩ := bind_eq_ok.1 h
  rw [← pure_eq_ok.1 hz]

theorem parse_knowsWeekStart (e : Engine) (call : Engine.Call) (p : Present)
    (s : Source) :
    KnowsWeekStart (e.parse call p s) := by
  refine (rules_knowsWeekStart e call).bind fun rules hrules => ?_
  cases s with
  | text t =>
    exact knows_of_misplaces (parseText_fails (weekStart_of_rules hrules) p t)
  | moment m =>
    exact (knows_of_misplaces (momentToZone_fails m _)).bind fun _ _ =>
      failsWithin_ok _
  | _ => exact failsWithin_ok _

theorem ofMicroseconds_knowsWeekStart (t : Int) :
    KnowsWeekStart (Epoch.ofMicroseconds t) := by
  unfold Epoch.ofMicroseconds
  dsimp only
  split
  · exact failsWithin_error (by decide)
  · split
    · exact failsWithin_error (by decide)
    · split
      · exact failsWithin_ok _
      · exact failsWithin_error (by decide)

theorem instant_knowsWeekStart (n : Number) :
    KnowsWeekStart (Epoch.instant n) := by
  unfold Epoch.instant
  split
  · dsimp only
    split
    · exact ofMicroseconds_knowsWeekStart _
    · exact failsWithin_error (by decide)
  · exact failsWithin_error (by decide)
  · exact failsWithin_error (by decide)
  · exact ofMicroseconds_knowsWeekStart _
  · exact ofMicroseconds_knowsWeekStart _

theorem parseAbsolute_knowsWeekStart (clock : Wall) (s : String) (z : Zone)
    (pivotYear : Int) :
    KnowsWeekStart (parseAbsolute clock s z pivotYear) := by
  refine FailsWithin.bind ?_ fun m _ => ?_
  · unfold FreeForm.read
    dsimp only
    split
    · exact failsWithin_ok _
    · exact failsWithin_ok _
    · exact failsWithin_error (by decide)
  · split
    · exact failsWithin_ok _
    · exact (knows_of_misplaces (momentToZone_fails _ z)).bind fun _ _ =>
        failsWithin_ok _

theorem parseInstant_knowsWeekStart (e : Engine) (call : Engine.Call)
    (p : Present) (s : Source) :
    KnowsWeekStart (e.parseInstant call p s) := by
  refine (rules_knowsWeekStart e call).bind fun rules hrules => ?_
  cases s with
  | moment m =>
    exact (knows_of_misplaces (momentToZone_fails m _)).bind fun _ _ =>
      failsWithin_ok _
  | number n =>
    exact (instant_knowsWeekStart n).bind fun i _ =>
      (knows_of_misplaces (toZone_fails i _)).bind fun _ _ => failsWithin_ok _
  | text t =>
    dsimp only
    split
    · refine (knows_of_misplaces
        (parseText_fails (weekStart_of_rules hrules) p t)).bind fun value _ => ?_
      cases value with
      | some i => exact failsWithin_ok _
      | none =>
        exact (knows_of_misplaces (reference_fails p _)).bind fun _ _ =>
          failsWithin_ok _
    · exact parseAbsolute_knowsWeekStart _ _ _ _
  | _ => exact failsWithin_ok _

end TimeWindow.Proofs.Service.Settings

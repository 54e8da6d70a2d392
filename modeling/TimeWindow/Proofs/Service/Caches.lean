import TimeWindow.Proofs.Service.Action
import TimeWindow.Proofs.Service.Settings

/-!
# What a session keeps

A session keeps the settings and the engine that it has built until they are
cleared, each for itself, while variables come and go.  `Run` is a session with
all that has been asked of it, and what has been handed out is told from this
history alone: the settings of the variables as they were when settings were
first needed since they were last cleared, and the engine of the settings that
were kept when an engine was first needed (`run_consistent`).
-/

namespace TimeWindow.Proofs.Service.Caches

open Outcome Service.Action Service.Settings

/-! ## Runs -/

inductive Use where
  | setVariable (name value : String)
  | unsetVariable (name : String)
  | clearSettings
  | clearEngine
  | getSettings
  | getEngine
  deriving DecidableEq

inductive Answer where
  | done
  | settings (outcome : Except Fault Settings)
  | engine (outcome : Except Fault BuiltEngine)

def Use.perform (s : Session) : Use → Answer × Session
  | setVariable name value =>
    (.done, ((Session.setVariable name value).run.run s).2)
  | unsetVariable name => (.done, ((Session.unsetVariable name).run.run s).2)
  | clearSettings => (.done, (Session.clearSettings.run.run s).2)
  | clearEngine => (.done, (Session.clearEngine.run.run s).2)
  | getSettings =>
    (.settings (Session.getSettings.run.run s).1,
      (Session.getSettings.run.run s).2)
  | getEngine =>
    (.engine (Session.getBuiltEngine.run.run s).1,
      (Session.getBuiltEngine.run.run s).2)

/-- A use with the variables at the time and with what came of it. -/
structure Event where
  use : Use
  environment : Environment
  answer : Answer

structure Run where
  session : Session
  history : List Event

namespace Run

def begin (clock : Wall) (zones : Zone.Catalog) (environment : Environment) :
    Run :=
  ⟨{ clock, zones, environment }, []⟩

def next (r : Run) (use : Use) : Run :=
  ⟨(use.perform r.session).2,
    ⟨use, r.session.environment, (use.perform r.session).1⟩ :: r.history⟩

/-- The run of a row of uses, from a session that has built nothing. -/
def after (clock : Wall) (zones : Zone.Catalog) (environment : Environment)
    (uses : List Use) :
    Run :=
  uses.foldl next (begin clock zones environment)

end Run

/-! ## What histories tell -/

/-- The engine that was handed out first since engines were last cleared. -/
def engineOf : List Event → Option BuiltEngine
  | [] => none
  | e :: past =>
    match e.use, e.answer with
    | .clearEngine, _ => none
    | _, .engine (.ok b) => (engineOf past).or (some b)
    | _, _ => engineOf past

/-- The variables from which settings were first built since they were last
cleared, be it to hand them out or to make an engine of them. -/
def sourceOf : List Event → Option Environment
  | [] => none
  | e :: past =>
    match e.use, e.answer with
    | .clearSettings, _ => none
    | _, .settings (.ok _) => (sourceOf past).or (some e.environment)
    | _, .engine (.ok _) =>
      if (engineOf past).isSome then sourceOf past
        else (sourceOf past).or (some e.environment)
    | _, _ => sourceOf past

def settingsOf (history : List Event) (environment : Environment) :
    Except Fault Settings :=
  Settings.read ((sourceOf history).getD environment) []

/-- The engine was made, and has been kept since, with the zone, the fiscal year
and the week of the settings in force at the time. -/
def IsMade (zones : Zone.Catalog) (history : List Event) (b : BuiltEngine) :
    Prop :=
  ∃ later e past settings, history = later ++ e :: past ∧
    (∀ e' ∈ later, e'.use ≠ .clearEngine) ∧
    e.answer = .engine (.ok b) ∧ engineOf past = none ∧
    settingsOf past e.environment = .ok settings ∧
      b.engine = described zones settings

/-! ## One use -/

/-- The settings that are kept, or else those that the variables make up. -/
def atHand (s : Session) : Except Fault Settings :=
  match s.settings with
  | some settings => .ok settings
  | none => Settings.read s.environment []

theorem getSettings_run (s : Session) :
    Session.getSettings.run.run s =
      match atHand s with
      | .ok settings => (.ok settings, { s with settings := some settings })
      | .error fault => (.error fault, s) := by
  have hget : (get : Action Session).run.run s = (.ok s, s) := rfl
  have hread : (Session.pureResult (Settings.read s.environment [])).run.run s =
      (Settings.read s.environment [], s) := rfl
  unfold Session.getSettings atHand
  rw [run_bind, hget]
  cases hkept : s.settings with
  | some settings =>
    have hsame : s = { s with settings := some settings } := by rw [← hkept]
    dsimp only
    rw [hkept]
    exact congrArg (Prod.mk (Except.ok settings)) hsame
  | none =>
    dsimp only
    rw [hkept]
    dsimp only
    rw [run_bind, hread]
    cases Settings.read s.environment [] with
    | ok settings => rfl
    | error fault => rfl

theorem getBuiltEngine_run (s : Session) :
    Session.getBuiltEngine.run.run s =
      match s.engine with
      | some b => (.ok b, s)
      | none =>
        match atHand s with
        | .ok settings =>
          (.ok ⟨s.built, described s.zones settings⟩,
            { s with
              settings := some settings
              engine := some ⟨s.built, described s.zones settings⟩
              built := s.built + 1 })
        | .error fault => (.error fault, s) := by
  have hget : (get : Action Session).run.run s = (.ok s, s) := rfl
  unfold Session.getBuiltEngine
  rw [run_bind, hget]
  dsimp only
  cases s.engine with
  | some b => rfl
  | none =>
    dsimp only
    rw [run_bind, getSettings_run]
    cases atHand s with
    | ok settings =>
      dsimp only
      rw [engine_eq]
      rfl
    | error fault => rfl

theorem perform_getSettings (s : Session) :
    Use.getSettings.perform s =
      match atHand s with
      | .ok settings =>
        (.settings (.ok settings), { s with settings := some settings })
      | .error fault => (.settings (.error fault), s) := by
  unfold Use.perform
  dsimp only
  rw [getSettings_run]
  cases atHand s with
  | ok settings => rfl
  | error fault => rfl

theorem perform_getEngine (s : Session) :
    Use.getEngine.perform s =
      match s.engine with
      | some b => (.engine (.ok b), s)
      | none =>
        match atHand s with
        | .ok settings =>
          (.engine (.ok ⟨s.built, described s.zones settings⟩),
            { s with
              settings := some settings
              engine := some ⟨s.built, described s.zones settings⟩
              built := s.built + 1 })
        | .error fault => (.engine (.error fault), s) := by
  unfold Use.perform
  dsimp only
  rw [getBuiltEngine_run]
  cases s.engine with
  | some b => rfl
  | none =>
    cases atHand s with
    | ok settings => rfl
    | error fault => rfl

/-! ## What a run preserves -/

structure Tracks (r : Run) : Prop where
  settings : (r.session.settings = none ∧ sourceOf r.history = none) ∨
    ∃ environment settings, sourceOf r.history = some environment ∧
      Settings.read environment [] = .ok settings ∧
        r.session.settings = some settings
  engine : r.session.engine = engineOf r.history
  made : ∀ b, engineOf r.history = some b → IsMade r.session.zones r.history b
  numbered : ∀ e ∈ r.history, ∀ b, e.answer = .engine (.ok b) →
    b.serial < r.session.built

theorem Tracks.atHand_eq {r : Run} (h : Tracks r) :
    atHand r.session = settingsOf r.history r.session.environment := by
  unfold atHand settingsOf
  rcases h.settings with ⟨hnone, hsource⟩ | ⟨environment, settings, hsource,
    hread, hkept⟩
  · rw [hnone, hsource]
    rfl
  · rw [hkept, hsource]
    exact hread.symm

theorem isMade_cons {zones : Zone.Catalog} {history : List Event}
    {b : BuiltEngine} (h : IsMade zones history b) {e : Event}
    (he : e.use ≠ .clearEngine) :
    IsMade zones (e :: history) b := by
  obtain ⟨later, first, past, settings, hsplit, hlater, hrest⟩ := h
  refine ⟨e :: later, first, past,
    settings, by rw [hsplit, List.cons_append], ?_, hrest⟩
  intro e' he'
  rcases List.mem_cons.1 he' with rfl | hmem
  · exact he
  · exact hlater e' hmem

theorem kept_of_atHand {r : Run} (h : Tracks r) {settings : Settings}
    (hok : atHand r.session = .ok settings) :
    ∃ environment, (sourceOf r.history).or (some r.session.environment) =
      some environment ∧
      Settings.read environment [] = .ok settings := by
  rw [h.atHand_eq] at hok
  unfold settingsOf at hok
  cases hsource : sourceOf r.history with
  | none =>
    rw [hsource] at hok
    exact ⟨_, rfl, hok⟩
  | some environment =>
    rw [hsource] at hok
    exact ⟨environment, rfl, hok⟩

section

variable {r : Run} (h : Tracks r)

include h

theorem made_cons {e : Event} (he : e.use ≠ .clearEngine) :
    ∀ b, engineOf r.history = some b →
      IsMade r.session.zones (e :: r.history) b :=
  fun b hb => isMade_cons (h.made b hb) he

theorem numbered_cons {e : Event} (he : ∀ b, e.answer ≠ .engine (.ok b)) :
    ∀ e' ∈ e :: r.history, ∀ b, e'.answer = .engine (.ok b) →
      b.serial < r.session.built :=
  List.forall_mem_cons.2 ⟨fun b hb => absurd hb (he b), h.numbered⟩

theorem serial_lt {b : BuiltEngine} (hb : engineOf r.history = some b) :
    b.serial < r.session.built := by
  obtain ⟨later, e, past, settings, hsplit, -, he, -⟩ := h.made b hb
  exact h.numbered e (by rw [hsplit]; simp) b he

theorem next_getSettings : Tracks (r.next .getSettings) := by
  unfold Run.next
  rw [perform_getSettings]
  cases hhand : atHand r.session with
  | error fault =>
    exact ⟨h.settings, h.engine, made_cons h (by simp), numbered_cons h (by simp)⟩
  | ok settings =>
    obtain ⟨environment, hsource, hread⟩ := kept_of_atHand h hhand
    exact ⟨.inr ⟨environment, settings, hsource, hread, rfl⟩, h.engine,
      made_cons h (by simp),
      numbered_cons h (by simp)⟩

theorem next_getEngine_kept {b : BuiltEngine}
    (hb : engineOf r.history = some b) :
    Tracks ⟨r.session,
      ⟨.getEngine, r.session.environment, .engine (.ok b)⟩ :: r.history⟩ := by
  have hsame :
      engineOf (⟨.getEngine, r.session.environment, .engine (.ok b)⟩ ::
        r.history) = some b := by
    simp only [engineOf, hb, Option.some_or]
  refine ⟨?_, by rw [h.engine, hb, hsame], ?_,
    List.forall_mem_cons.2 ⟨?_, h.numbered⟩⟩
  · simp only [sourceOf, hb, Option.isSome_some, if_true]
    exact h.settings
  · intro b' hb'
    rw [hsame] at hb'
    exact made_cons h (by simp) b' (hb.trans hb')
  · rintro b' hb'
    cases hb'
    exact serial_lt h hb

theorem next_getEngine_made (hb : engineOf r.history = none)
    {settings : Settings} (hok : atHand r.session = .ok settings) :
    Tracks ⟨{ r.session with
        settings := some settings
        engine := some ⟨r.session.built, described r.session.zones settings⟩
        built := r.session.built + 1 },
      ⟨.getEngine, r.session.environment,
        .engine (.ok ⟨r.session.built, described r.session.zones settings⟩)⟩ ::
          r.history⟩ := by
  obtain ⟨environment, hsource, hread⟩ := kept_of_atHand h hok
  refine ⟨.inr ⟨environment, settings, ?_, hread, rfl⟩, ?_, ?_,
    List.forall_mem_cons.2 ⟨?_, ?_⟩⟩
  · simp only [sourceOf, hb]
    exact hsource
  · simp only [engineOf, hb, Option.none_or]
  · intro b hmade
    simp only [engineOf, hb, Option.none_or, Option.some.injEq] at hmade
    subst hmade
    exact ⟨[], _, r.history, settings,
      rfl, by simp, rfl, hb, h.atHand_eq ▸ hok, rfl⟩
  · rintro b hmade
    cases hmade
    exact Nat.lt_succ_self _
  · intro e he b hmade
    exact Nat.lt_succ_of_lt (h.numbered e he b hmade)

theorem next_getEngine : Tracks (r.next .getEngine) := by
  have hengine := h.engine
  unfold Run.next
  rw [perform_getEngine]
  cases hkept : r.session.engine with
  | some b => exact next_getEngine_kept h (hengine.symm.trans hkept)
  | none =>
    have hnone := hengine.symm.trans hkept
    cases hhand : atHand r.session with
    | ok settings => exact next_getEngine_made h hnone hhand
    | error fault =>
      exact ⟨h.settings, h.engine, made_cons h (by simp),
        numbered_cons h (by simp)⟩

theorem tracks_next (use : Use) : Tracks (r.next use) := by
  cases use with
  | setVariable name value =>
    exact ⟨h.settings, h.engine, made_cons h (by simp),
      numbered_cons h (by simp [Use.perform])⟩
  | unsetVariable name =>
    exact ⟨h.settings, h.engine, made_cons h (by simp),
      numbered_cons h (by simp [Use.perform])⟩
  | clearSettings =>
    exact ⟨.inl ⟨rfl, rfl⟩, h.engine, made_cons h (by simp),
      numbered_cons h (by simp [Use.perform])⟩
  | clearEngine =>
    exact ⟨h.settings, rfl, fun _ hb =>
      (nomatch hb), numbered_cons h (by simp [Use.perform])⟩
  | getSettings => exact next_getSettings h
  | getEngine => exact next_getEngine h

end

theorem tracks_begin (clock : Wall) (zones : Zone.Catalog)
    (environment : Environment) :
    Tracks (.begin clock zones environment) :=
  ⟨.inl ⟨rfl, rfl⟩, rfl, fun _ hb => (nomatch hb), fun _ he => (nomatch he)⟩

theorem tracks_after (clock : Wall) (zones : Zone.Catalog)
    (environment : Environment) (uses : List Use) :
    Tracks (.after clock zones environment uses) :=
  List.foldlRecOn uses Run.next (tracks_begin clock zones environment)
    fun _ h use _ => tracks_next h use

/-! ## What a run hands out -/

/-- An engine as it can be asked for, and which never misses the first day of
the week. -/
structure Sound (e : Engine) : Prop where
  fiscalStart : 0 ≤ e.fiscalStart ∧ e.fiscalStart ≤ 11
  weekStart : e.weekStart.name ∈ Settings.weekStarts ∧
    e.weekStart.name ∈ Fault.offeredWeekStarts
  make : Engine.make e.timeZone e.fiscalStart e.weekStart.name e.zones = .ok e
  parse : ∀ call p s, e.parse call p s ≠ .error .unknownWeekStart
  parseInstant : ∀ call p s, e.parseInstant call p s ≠ .error .unknownWeekStart

theorem sound_described (zones : Zone.Catalog) {settings : Settings}
    (h : InBounds settings) :
    Sound (described zones settings) where
  fiscalStart := h.fiscalStart
  weekStart := ⟨name_mem_weekStarts _, name_offered _⟩
  make := make_name _ _ _ _
  parse call p s hs := parse_knowsWeekStart _ call p s _ hs rfl
  parseInstant call p s hs := parseInstant_knowsWeekStart _ call p s _ hs rfl

def Answer.Fails : Answer → Prop
  | .done => False
  | .settings outcome => ∃ fault, outcome = .error fault
  | .engine outcome => ∃ fault, outcome = .error fault

/-- What a session answers is told by its history. -/
structure Consistent (r : Run) : Prop where
  /-- Settings are those of the variables as they were when settings were first
  built since they were last cleared, or as they are now. -/
  settings : (Use.getSettings.perform r.session).1 =
    .settings (settingsOf r.history r.session.environment)
  source : ∀ environment, sourceOf r.history = some environment →
    ∃ settings, Settings.read environment [] = .ok settings
  /-- An engine that has been handed out since engines were last cleared is
  handed out again. -/
  kept : ∀ b, engineOf r.history = some b →
    (Use.getEngine.perform r.session).1 = .engine (.ok b) ∧
      IsMade r.session.zones r.history b
  /-- Otherwise an engine is made with the zone, the fiscal year and the week of
  the settings, and it is none of those that have been handed out before. -/
  made : engineOf r.history = none → ∃ serial,
    (Use.getEngine.perform r.session).1 =
      .engine ((settingsOf r.history r.session.environment).map fun settings =>
        ⟨serial, described r.session.zones settings⟩) ∧
    ∀ e ∈ r.history, ∀ b, e.answer = .engine (.ok b) → b.serial ≠ serial
  /-- Variables change only where they are set or unset. -/
  environment : ∀ use : Use, (∀ name value, use ≠ .setVariable name value) →
    (∀ name, use ≠ .unsetVariable name) →
    (use.perform r.session).2.environment = r.session.environment
  /-- What fails leaves everything as it was. -/
  unchanged : ∀ use : Use, (use.perform r.session).1.Fails →
    (use.perform r.session).2 = r.session
  sound : ∀ b, (Use.getEngine.perform r.session).1 = .engine (.ok b) →
    Sound b.engine

theorem environment_kept {s : Session} {use : Use}
    (hset : ∀ name value, use ≠ .setVariable name value)
    (hunset : ∀ name, use ≠ .unsetVariable name) :
    (use.perform s).2.environment = s.environment := by
  cases use with
  | setVariable name value => exact absurd rfl (hset name value)
  | unsetVariable name => exact absurd rfl (hunset name)
  | clearSettings => rfl
  | clearEngine => rfl
  | getSettings =>
    rw [perform_getSettings]
    cases atHand s with
    | ok settings => rfl
    | error fault => rfl
  | getEngine =>
    rw [perform_getEngine]
    cases s.engine with
    | some b => rfl
    | none =>
      cases atHand s with
      | ok settings => rfl
      | error fault => rfl

theorem unchanged_of_fails {s : Session} {use : Use}
    (h : (use.perform s).1.Fails) : (use.perform s).2 = s := by
  cases use with
  | getSettings =>
    rw [perform_getSettings] at h ⊢
    cases hhand : atHand s with
    | error fault => rfl
    | ok settings =>
      rw [hhand] at h
      obtain ⟨fault, hfault⟩ := h
      cases hfault
  | getEngine =>
    rw [perform_getEngine] at h ⊢
    cases hkept : s.engine with
    | some b => rfl
    | none =>
      cases hhand : atHand s with
      | error fault => rfl
      | ok settings =>
        rw [hkept, hhand] at h
        obtain ⟨fault, hfault⟩ := h
        cases hfault
  | _ => exact h.elim

section

variable {r : Run} (h : Tracks r)

include h

theorem settings_answer :
    (Use.getSettings.perform r.session).1 =
      .settings (settingsOf r.history r.session.environment) := by
  rw [perform_getSettings, ← h.atHand_eq]
  cases atHand r.session with
  | ok settings => rfl
  | error fault => rfl

theorem source_read {environment : Environment}
    (hsource : sourceOf r.history = some environment) :
    ∃ settings, Settings.read environment [] = .ok settings := by
  rcases h.settings with ⟨-, hnone⟩ | ⟨environment', settings, hsome, hread, -⟩
  · rw [hnone] at hsource
    cases hsource
  · rw [hsome] at hsource
    cases hsource
    exact ⟨settings, hread⟩

theorem engine_answer_kept {b : BuiltEngine}
    (hb : engineOf r.history = some b) :
    (Use.getEngine.perform r.session).1 = .engine (.ok b) := by
  rw [perform_getEngine, h.engine, hb]

theorem engine_answer_made (hnone : engineOf r.history = none) :
    (Use.getEngine.perform r.session).1 =
      .engine ((settingsOf r.history r.session.environment).map fun settings =>
        ⟨r.session.built, described r.session.zones settings⟩) := by
  rw [perform_getEngine, h.engine, hnone, ← h.atHand_eq]
  cases atHand r.session with
  | ok settings => rfl
  | error fault => rfl

theorem sound_answer {b : BuiltEngine}
    (hb : (Use.getEngine.perform r.session).1 = .engine (.ok b)) :
    Sound b.engine := by
  cases hkept : engineOf r.history with
  | some b' =>
    rw [engine_answer_kept h hkept] at hb
    cases hb
    obtain ⟨_, _, _, settings, -, -, -, -, hread, hengine⟩ := h.made b hkept
    rw [hengine]
    exact sound_described _ (read_inBounds hread)
  | none =>
    rw [engine_answer_made h hkept] at hb
    injection hb with hb
    obtain ⟨settings, hread, hengine⟩ := map_eq_ok.1 hb
    rw [← hengine]
    exact sound_described _ (read_inBounds hread)

end

/-- **Sessions hold consistent snapshots.**  Whatever is asked of a session that
has built nothing yet, and in whatever order. -/
theorem run_consistent (clock : Wall) (zones : Zone.Catalog)
    (environment : Environment) (uses : List Use) :
    Consistent (.after clock zones environment uses) := by
  have h := tracks_after clock zones environment uses
  generalize Run.after clock zones environment uses = r at h
  exact {
    settings := settings_answer h
    source := fun _ => source_read h
    kept := fun b hb => ⟨engine_answer_kept h hb, h.made b hb⟩
    made := fun hnone => ⟨_, engine_answer_made h hnone, fun e he b hb =>
      Nat.ne_of_lt (h.numbered e he b hb)⟩
    environment := fun _ => environment_kept
    unchanged := fun _ => unchanged_of_fails
    sound := fun _ => sound_answer h
  }

end TimeWindow.Proofs.Service.Caches

import TimeWindow.Calendar.Wall

/-!
# Time zones

A zone is a table: the period that holds from the beginning, and the periods
that begin later, each with the instant of its beginning in UTC. The last one
lasts for ever. `Zone.periodAt` finds the period of an instant.
-/

namespace TimeWindow

/-- A stretch of time in which a zone keeps one offset: seconds east of UTC, how
much of that is daylight saving, and the abbreviation in use. -/
structure Period where
  offset : Int
  saving : Int
  abbreviation : String
  deriving DecidableEq, Repr

namespace Zone

inductive Kind where
  /-- The zone of the host, which keeps UTC. -/
  | host
  | utc
  | named (name : String)
  deriving DecidableEq, Repr

end Zone

structure Zone where
  kind : Zone.Kind
  base : Period
  changes : List (Wall × Period) := []
  deriving DecidableEq

namespace Zone

def isConstant (z : Zone) : Bool := z.changes.isEmpty

def periodAt (z : Zone) (utc : Wall) : Period :=
  z.changes.foldl (fun current (start, p) => if start.ticks ≤ utc.ticks then p
    else current) z.base

def utc : Zone := { kind := .utc, base := ⟨0, 0, "UTC"⟩ }

def host : Zone := { kind := .host, base := ⟨0, 0, "UTC"⟩ }

def fixed (name : String) (hours : Int) (abbreviation : String) : Zone :=
  { kind := .named name, base := ⟨hours * 3600, 0, abbreviation⟩ }

def Sane (z : Zone) : Prop :=
  ∀ p ∈ z.base :: z.changes.map (·.2), p.offset.natAbs < 86400

def epoch : Int := 719162 * Calendar.day

/-- The first and the last instant that 32 bits count in seconds from 1970. -/
def firstRecord : Int := epoch - 2147483648 * Calendar.second
def lastRecord : Int := epoch + 2147483647 * Calendar.second

def Recorded (z : Zone) : Prop :=
  ∀ change ∈ z.changes, firstRecord ≤ change.1.ticks ∧
    change.1.ticks ≤ lastRecord

def Behind (change later : Wall × Period) : Prop :=
  change.1.ticks + 2 * Calendar.day ≤ later.1.ticks

/-- Every clock change comes two days behind the one before it at least. -/
def Spread (z : Zone) : Prop :=
  ∀ pair ∈ z.changes.zip z.changes.tail, Behind pair.1 pair.2

instance (z : Zone) : Decidable z.Sane :=
  inferInstanceAs
    (Decidable (∀ p ∈ z.base :: z.changes.map (·.2), p.offset.natAbs < 86400))

instance (z : Zone) : Decidable z.Recorded :=
  inferInstanceAs (Decidable (∀ change ∈ z.changes,
    firstRecord ≤ change.1.ticks ∧ change.1.ticks ≤ lastRecord))

instance (change later : Wall × Period) : Decidable (Behind change later) :=
  inferInstanceAs (Decidable (_ ≤ _))

instance (z : Zone) : Decidable z.Spread :=
  inferInstanceAs
    (Decidable (∀ pair ∈ z.changes.zip z.changes.tail, Behind pair.1 pair.2))

theorem periodAt_of_isConstant {z : Zone} (h : z.isConstant = true)
    (utc : Wall) : z.periodAt utc = z.base := by
  simp only [isConstant, List.isEmpty_iff] at h
  simp [periodAt, h]

theorem periodAt_mem (z : Zone) (utc : Wall) :
    z.periodAt utc = z.base ∨ z.periodAt utc ∈ z.changes.map (·.2) := by
  suffices h : ∀ (l : List (Wall × Period)) (p : Period),
      let q := l.foldl (fun current (start, p) =>
        if start.ticks ≤ utc.ticks then p else current) p
      q = p ∨ q ∈ l.map (·.2) from h z.changes z.base
  intro l
  induction l with
  | nil => intro p; exact Or.inl rfl
  | cons c rest ih =>
    intro p
    simp only [List.foldl_cons, List.map_cons, List.mem_cons]
    rcases ih (if c.1.ticks ≤ utc.ticks then c.2 else p) with h | h
    · by_cases hc : c.1.ticks ≤ utc.ticks
      · simp only [hc, if_true] at h ⊢
        exact Or.inr (Or.inl h)
      · simp only [hc, if_false] at h ⊢
        exact Or.inl h
    · exact Or.inr (Or.inr h)

theorem Sane.periodAt {z : Zone} (h : z.Sane) (u : Wall) :
    (z.periodAt u).offset.natAbs < 86400 :=
  h _ (List.mem_cons.2 (z.periodAt_mem u))

end Zone

end TimeWindow

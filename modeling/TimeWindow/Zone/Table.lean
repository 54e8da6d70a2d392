import TimeWindow.Zone.Basic

/-!
# Zone tables

A compact form for the tables of zones: the periods once, in minutes, and then
the changes in order, each as the instant in UTC and the place of the period
that begins there. `Zone.ofTable` makes a zone of it.
-/

namespace TimeWindow.Zone

/-- The periods and changes of a zone. An instant is written as one numeral: the
digits of year, month, day, hour, minute and second, one after the other. -/
structure Table where
  name : String
  base : Period
  periods : List Period
  changes : List (Nat × Nat)

def period (offset saving : Int) (abbreviation : String) : Period :=
  ⟨offset * 60, saving * 60, abbreviation⟩

def instantOf (n : Nat) : Wall :=
  Wall.onDate ⟨n / 10000000000, n / 100000000 % 100, n / 1000000 % 100⟩
    (ClockTime.ticks ⟨n / 10000 % 100, n / 100 % 100, n % 100, 0⟩)

/-- The zone of a table; the periods are counted from one, since the base has no
beginning. -/
def ofTable (t : Table) : Zone where
  kind := .named t.name
  base := t.base
  changes := t.changes.filterMap fun (start, place) =>
    (t.periods[place - 1]?).map fun p => (instantOf start, p)

end TimeWindow.Zone

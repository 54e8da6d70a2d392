import TimeWindow.Service.Field

/-!
# Checked values

A value whose parts are all checked, so that the issues of every part are known
and not only those of the first.
-/

namespace TimeWindow

structure Finding where
  issue : Issue
  value : Json

abbrev Checked (α : Type) := Except (List Finding) α

namespace Checked

variable {α β : Type}

def refuse (location : List Issue.Place) (value : Json) (rule : Issue.Rule) :
    Checked α :=
  .error [⟨{ location, rule }, value⟩]

def read (location : List Issue.Place) (value : Json)
    (f : Json → Except Issue.Rule α) : Checked α :=
  match f value with
  | .ok a => .ok a
  | .error rule => refuse location value rule

def part (f : Checked (α → β)) (a : Checked α) : Checked β :=
  match f, a with
  | .ok f, .ok a => .ok (f a)
  | .ok _, .error found => .error found
  | .error found, .ok _ => .error found
  | .error found, .error more => .error (found ++ more)

theorem part_eq_ok {f : Checked (α → β)} {a : Checked α} {b : β} :
    part f a = .ok b ↔ ∃ g x, f = .ok g ∧ a = .ok x ∧ g x = b := by
  cases f <;> cases a <;> simp [part]

end Checked

end TimeWindow

import TimeWindow.Fault

/-!
# Precision

How exactly a calculation is carried out: every result of a division or a
product is rounded by the same rule, and results that the rule cannot hold are
refused. `Precision.exact` keeps every rational, and `Precision.double` is that
of binary64 arithmetic.
-/

namespace TimeWindow

structure Precision where
  round : Rat → Rat
  holds : Rat → Bool

namespace Precision

def exact : Precision := ⟨id, fun _ => true⟩

def double : Precision := ⟨Binary64.nearest, Binary64.isFinite⟩

def hold (p : Precision) (q : Rat) : Except Fault Rat :=
  let rounded := p.round q
  if p.holds rounded then .ok rounded else .error .numberTooLarge

/-- The remainder on division by a positive length, which is never negative. -/
def remainder (p : Precision) (q : Rat) (length : Int) : Rat :=
  p.round (q - (q / length).floor * length)

@[simp] theorem exact_round (q : Rat) : exact.round q = q := rfl

@[simp] theorem exact_hold (q : Rat) : exact.hold q = .ok q := rfl

end Precision

end TimeWindow

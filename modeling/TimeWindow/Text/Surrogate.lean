/-!
# Unpaired surrogates

Strings that are written in 16-bit units can hold one half of a surrogate pair
without the other, and no character is such a half. A half is kept as a
character of the last private area: `ofHalf` gives the character, and `half?`
the half again.
-/

namespace TimeWindow.Text

def isHalf (unit : Nat) : Bool := 0xD800 ≤ unit && unit < 0xE000

def halfShift : Nat := 0x100000

def ofHalf (unit : Nat) : Char := Char.ofNat (halfShift + unit)

def half? (c : Char) : Option Nat :=
  if isHalf (c.toNat - halfShift) then some (c.toNat - halfShift) else none

def hasHalf (s : String) : Bool := s.toList.any fun c => (half? c).isSome

def Low (cs : List Char) : Prop := ∀ c ∈ cs, c.toNat < halfShift

instance (cs : List Char) : Decidable (Low cs) :=
  List.decidableBAll (fun c : Char => c.toNat < halfShift) cs

theorem low_append {s t : String} (hs : Low s.toList) (ht : Low t.toList) :
    Low (s ++ t).toList := by
  rw [String.toList_append]
  exact List.forall_mem_append.2 ⟨hs, ht⟩

theorem hasHalf_of_low {s : String} (h : Low s.toList) : hasHalf s = false := by
  rw [hasHalf, List.any_eq_false]
  intro c hc
  rw [half?, Nat.sub_eq_zero_of_le (Nat.le_of_lt (h c hc))]
  exact Bool.false_ne_true

theorem hasHalf_append (s t : String) :
    hasHalf (s ++ t) = (hasHalf s || hasHalf t) := by
  rw [hasHalf, String.toList_append, List.any_append]
  rfl

end TimeWindow.Text

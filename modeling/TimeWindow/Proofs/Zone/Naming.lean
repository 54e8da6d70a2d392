import TimeWindow.Zone.Catalog
import TimeWindow.Proofs.Zone.Settling

/-!
# The zones that have names

What a catalog promises of its zones holds of every zone that a caller can mean
by a name.
-/

namespace TimeWindow.Proofs.Zone.Naming

open TimeWindow.Zone Conversion Settling

variable {name : Option String} {c : TimeWindow.Zone.Catalog} {z : Zone}

theorem resolve_cases (h : resolve name c = .ok z) :
    z = host ∨ z = utc ∨ z ∈ c.zones := by
  unfold resolve at h
  split at h
  · cases h
    exact .inl rfl
  · split at h
    · cases h
      exact .inl rfl
    · split at h
      · cases h
        exact .inr (.inl rfl)
      · split at h
        · cases h
        · split at h
          · rename_i hfound
            cases h
            exact .inr (.inr (List.mem_of_find?_eq_some hfound))
          · cases h

theorem sane_of_resolve (h : resolve name c = .ok z) : z.Sane := by
  rcases resolve_cases h with rfl | rfl | hmem
  · decide
  · decide
  · exact c.sane z hmem

theorem recorded_of_resolve (h : resolve name c = .ok z) : z.Recorded := by
  rcases resolve_cases h with rfl | rfl | hmem
  · decide
  · decide
  · exact c.recorded z hmem

theorem spread_of_resolve (h : resolve name c = .ok z) : z.Spread := by
  rcases resolve_cases h with rfl | rfl | hmem
  · decide
  · decide
  · exact c.spread z hmem

theorem inland_of_resolve (h : resolve name c = .ok z) : Inland z :=
  inland_of_recorded (recorded_of_resolve h)

end TimeWindow.Proofs.Zone.Naming

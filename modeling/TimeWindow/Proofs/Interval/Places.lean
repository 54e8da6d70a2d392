import TimeWindow.Interval.Duration
import TimeWindow.Proofs.Number.Digits
import TimeWindow.Proofs.Occurrences

/-!
# Numbers with a unit

A number with a unit is found where a digit stands right before the letter of a
unit.  The first such place decides (`measure?_eq_some`): the reader tries every
beginning of a number from the left, but none of them leads past a place.
-/

namespace TimeWindow.Proofs.Interval.Places

open TimeWindow.Text Duration Number.Digits Occurrences

/-! ## Units -/

def unitLetters : List Char := ['M', 'w', 'd', 'h', 'm', 's', 'y']

/-- The text begins with the unit; where it reads `ms`, with no other than
milliseconds. -/
def Names (scale : Scale) (rest : List Char) : Prop :=
  scale.symbol.toList <+: rest ∧
    (Scale.millisecond.symbol.toList <+: rest → scale = .millisecond)

variable {scale : Scale} {cs rest : List Char}

theorem leading?_of_names (h : Names scale rest) :
    Scale.leading? rest = some scale := by
  obtain ⟨⟨behind, rfl⟩, hlonger⟩ := h
  unfold Scale.leading?
  split
  · rename_i hmilli
    rw [hlonger (beginsWith_iff.1 hmilli)]
  · rename_i hmilli
    cases scale with
    | millisecond =>
      exact absurd (beginsWith_iff.2 (List.prefix_append _ _)) hmilli
    | _ => rfl

theorem names_of_leading? (h : Scale.leading? rest = some scale) :
    Names scale rest := by
  unfold Scale.leading? at h
  split at h
  · rename_i hmilli
    cases h
    exact ⟨beginsWith_iff.1 hmilli, fun _ => rfl⟩
  · rename_i hmilli
    have hbegins : beginsWith scale.symbol.toList rest = true := by
      simpa using List.find?_some h
    exact ⟨beginsWith_iff.1 hbegins, fun hlonger =>
      absurd (beginsWith_iff.2 hlonger) hmilli⟩

theorem Names.unique {other : Scale} (h : Names scale rest)
    (h' : Names other rest) : scale = other :=
  Option.some.inj ((leading?_of_names h).symm.trans (leading?_of_names h'))

theorem Names.letter (h : Names scale rest) :
    ∃ c ∈ rest.head?, c ∈ unitLetters := by
  obtain ⟨⟨behind, rfl⟩, -⟩ := h
  cases scale <;> exact ⟨_, rfl, by decide⟩

theorem exists_names (h : ∃ c ∈ rest.head?, c ∈ unitLetters) :
    ∃ scale, Names scale rest := by
  obtain ⟨c, hc, hletter⟩ := h
  suffices hsome : (Scale.leading? rest).isSome by
    obtain ⟨scale, hscale⟩ := Option.isSome_iff_exists.1 hsome
    exact ⟨scale, names_of_leading? hscale⟩
  obtain ⟨behind, rfl⟩ := List.head?_eq_some_iff.1 hc
  unfold Scale.leading?
  split
  · rfl
  · simp only [unitLetters, List.mem_cons, List.not_mem_nil, or_false] at hletter
    rcases hletter with rfl | rfl | rfl | rfl | rfl | rfl | rfl <;> rfl

theorem unitLetter_apart {c : Char} (h : c ∈ unitLetters) :
    isDecimal c = false ∧ c ≠ '.' ∧ c ≠ '-' := by
  simp only [unitLetters, List.mem_cons, List.not_mem_nil, or_false] at h
  rcases h with rfl | rfl | rfl | rfl | rfl | rfl | rfl <;> decide

/-! ## Places -/

/-- The text is cut behind a digit and before the letter of a unit. -/
structure Place (cs front rest : List Char) : Prop where
  cut : cs = front ++ rest
  digit : ∃ c ∈ front.getLast?, isDecimal c = true
  letter : ∃ c ∈ rest.head?, c ∈ unitLetters

structure FirstPlace (cs front rest : List Char) :
    Prop extends Place cs front rest where
  first : ∀ front' rest', Place cs front' rest' → front.length ≤ front'.length

theorem FirstPlace.unique {front front' rest' : List Char}
    (h : FirstPlace cs front rest) (h' : FirstPlace cs front' rest') :
    front = front' ∧ rest = rest' := by
  have hlength : front.length = front'.length :=
    le_antisymm (h.first _ _ h'.toPlace) (h'.first _ _ h.toPlace)
  exact List.append_inj (h.cut.symm.trans h'.cut) hlength

def BeginsDigits (before : List Char) : Prop :=
  ∀ c ∈ before.getLast?, isDecimal c = false

/-- A number ends at the end of the text: behind `before` stands its integer
part, the digits that end the text or, if a point and other digits stand in
front of these, those digits. -/
inductive EndsIn (front before run : List Char) : Prop where
  | whole (cut : front = before ++ run) (begins : BeginsDigits before)
    (decimal : AllDecimal run) (nonempty : run ≠ [])
      (pointless : ∀ earlier d, before = earlier ++ [d, '.'] → isDecimal d = false)
  | fraction (behind : List Char) (cut : front = before ++ run ++ '.' :: behind)
    (begins : BeginsDigits before)
      (decimal : AllDecimal run) (nonempty : run ≠ [])
        (behindDecimal : AllDecimal behind)

theorem EndsIn.isInfix {front before run : List Char}
    (h : EndsIn front before run) : run <:+: front := by
  cases h with
  | whole hcut =>
    rw [hcut]
    exact (List.suffix_append before run).isInfix
  | fraction behind hcut =>
    rw [hcut]
    exact ⟨before, '.' :: behind, rfl⟩

theorem EndsIn.decimal {front before run : List Char}
    (h : EndsIn front before run) : AllDecimal run := by
  cases h with
  | whole _ _ hrun => exact hrun
  | fraction _ _ _ hrun => exact hrun

theorem nil_of_beginsDigits {a k : List Char} (ha : BeginsDigits (a ++ k))
    (hk : AllDecimal k) : k = [] := by
  rcases List.eq_nil_or_concat k with rfl | ⟨k, d, rfl⟩
  · rfl
  · have hd := ha d (by simp)
    rw [hk d (by simp)] at hd
    cases hd

theorem append_run_inj {a a' run run' : List Char} (ha : BeginsDigits a)
    (ha' : BeginsDigits a') (hrun : AllDecimal run) (hrun' : AllDecimal run')
    (h : a ++ run = a' ++ run') : a = a' ∧ run = run' := by
  rcases List.append_eq_append_iff.1 h with ⟨k, rfl, rfl⟩ | ⟨k, rfl, rfl⟩
  · have hk := nil_of_beginsDigits ha' fun c hc =>
      hrun c (List.mem_append_left _ hc)
    simp [hk]
  · have hk := nil_of_beginsDigits ha fun c hc =>
      hrun' c (List.mem_append_left _ hc)
    simp [hk]

theorem beginsDigits_point (before : List Char) :
    BeginsDigits (before ++ ['.']) := by
  intro c hc
  rw [List.getLast?_concat] at hc
  cases hc
  decide

theorem whole_ne_fraction {before run before' run' behind : List Char}
    (hbefore : BeginsDigits before) (hrun : AllDecimal run)
    (hrun' : AllDecimal run') (hne : run' ≠ []) (hbehind : AllDecimal behind)
    (hpointless : ∀ earlier d, before = earlier ++ [d, '.'] → isDecimal d = false) :
    before ++ run ≠ before' ++ run' ++ '.' :: behind := by
  intro h
  have hsplit : before ++ run = (before' ++ run' ++ ['.']) ++ behind := by
    simpa using h
  obtain ⟨rfl, -⟩ :=
    append_run_inj hbefore (beginsDigits_point _) hrun hbehind hsplit
  obtain ⟨run', d, rfl⟩ := (List.eq_nil_or_concat run').resolve_left hne
  have hd := hpointless (before' ++ run') d (by simp)
  rw [hrun' d (by simp)] at hd
  cases hd

theorem EndsIn.unique {front before before' run run' : List Char}
    (h : EndsIn front before run) (h' : EndsIn front before' run') :
    before = before' ∧ run = run' := by
  cases h with
  | whole hcut hbegins hrun hne hpointless =>
    cases h' with
    | whole hcut' hbegins' hrun' hne' hpointless' =>
      exact append_run_inj hbegins hbegins' hrun hrun' (hcut.symm.trans hcut')
    | fraction behind' hcut' hbegins' hrun' hne' hbehind' =>
      exact absurd (hcut.symm.trans hcut')
        (whole_ne_fraction hbegins hrun hrun' hne' hbehind' hpointless)
  | fraction behind hcut hbegins hrun hne hbehind =>
    cases h' with
    | whole hcut' hbegins' hrun' hne' hpointless' =>
      exact absurd (hcut'.symm.trans hcut)
        (whole_ne_fraction hbegins' hrun' hrun hne hbehind hpointless')
    | fraction behind' hcut' hbegins' hrun' hne' hbehind' =>
      have hsplit :
          (before ++ run ++ ['.']) ++ behind =
            (before' ++ run' ++ ['.']) ++ behind' := by
        simpa using hcut.symm.trans hcut'
      obtain ⟨hfront, -⟩ := append_run_inj (beginsDigits_point _)
        (beginsDigits_point _) hbehind hbehind' hsplit
      exact append_run_inj hbegins hbegins' hrun hrun'
        (List.append_cancel_right hfront)

/-! ## Reading one number with a unit -/

def minus (negative : Bool) : List Char := if negative then ['-'] else []

inductive Tail : List Char → Prop where
  | none : Tail []
  | fraction {behind : List Char} (decimal : AllDecimal behind)
      (nonempty : behind ≠ []) : Tail ('.' :: behind)

/-- What stands behind the fraction that a text begins with, if it does. -/
def behindFraction (cs : List Char) : List Char :=
  match cs with
  | '.' :: more =>
    match Numeral.digitRun more with
    | ([], _) => cs
    | (_, after) => after
  | _ => cs

theorem behindFraction_point (more : List Char) : behindFraction ('.' :: more) =
    match Numeral.digitRun more with
    | ([], _) => '.' :: more
    | (_, after) => after := rfl

def measured (negative : Bool) (unsigned : List Char) :
    Option (Bool × List Nat × Scale) :=
  match Numeral.digitRun unsigned with
  | ([], _) => none
  | (digits, rest) =>
    (Scale.leading? (behindFraction rest)).map fun scale =>
      (negative, digits, scale)

theorem measureHere?_minus (cs : List Char) :
    measureHere? ('-' :: cs) = measured true cs :=
  rfl

theorem measureHere?_plain (h : cs.head? ≠ some '-') :
    measureHere? cs = measured false cs := by
  unfold measureHere?
  split
  · rename_i hsign
    split at hsign
    · exact absurd rfl h
    · cases hsign
      rfl

theorem negative_of_measured {negative negative' : Bool}
    {unsigned : List Char} {digits : List Nat}
    (h : measured negative unsigned = some (negative', digits, scale)) :
    negative' = negative := by
  unfold measured at h
  split at h
  · cases h
  · obtain ⟨scale', -, heq⟩ := Option.map_eq_some_iff.1 h
    cases heq
    rfl

theorem behindFraction_append {tail : List Char} (htail : Tail tail)
    (hrest : ∀ c ∈ rest.head?, isDecimal c = false ∧ c ≠ '.') :
    behindFraction (tail ++ rest) = rest := by
  cases htail with
  | none =>
    cases rest with
    | nil => rfl
    | cons c rest =>
      have hc := (hrest c rfl).2
      change behindFraction (c :: rest) = c :: rest
      unfold behindFraction
      split
      · rename_i heq
        cases heq
        exact absurd rfl hc
      · rfl
  | fraction hbehind hne =>
    rename_i behind
    rw [List.cons_append, behindFraction_point,
      digitRun_append hbehind fun c hc => (hrest c hc).1]
    cases behind with
    | nil => exact absurd rfl hne
    | cons => rfl

theorem behindFraction_cases (cs : List Char) :
    ∃ tail rest, cs = tail ++ rest ∧ Tail tail ∧ behindFraction cs = rest := by
  unfold behindFraction
  split
  · rename_i more
    obtain ⟨run, rest, rfl, hrun, -, hread⟩ := digitRun_cases more
    rw [hread]
    cases run with
    | nil => exact ⟨[], _, rfl, .none, rfl⟩
    | cons c run =>
      exact ⟨'.' :: c :: run, rest, rfl,
        .fraction hrun (List.cons_ne_nil c run), rfl⟩
  · exact ⟨[], cs, rfl, .none, rfl⟩

theorem head?_tail {tail : List Char} (htail : Tail tail)
    (hrest : ∀ c ∈ rest.head?, isDecimal c = false) :
    EndsDigits (tail ++ rest) := by
  cases htail with
  | none => exact hrest
  | fraction =>
    rintro c ⟨⟩
    decide

theorem measureHere?_number (negative : Bool) {run tail : List Char}
    (hrun : AllDecimal run) (hne : run ≠ []) (htail : Tail tail)
    (h : Names scale rest) :
    measureHere? (minus negative ++ (run ++ (tail ++ rest))) =
      some (negative, digitList run, scale) := by
  obtain ⟨letter, hletter, hmem⟩ := h.letter
  have hrest : ∀ c ∈ rest.head?, isDecimal c = false ∧ c ≠ '.' := by
    intro c hc
    cases hletter.symm.trans hc
    obtain ⟨hdecimal, hpoint, -⟩ := unitLetter_apart hmem
    exact ⟨hdecimal, hpoint⟩
  have hmeasured :
      measured negative (run ++ (tail ++ rest)) =
        some (negative, digitList run, scale) := by
    unfold measured
    rw [digitRun_append hrun (head?_tail htail fun c hc => (hrest c hc).1)]
    cases run with
    | nil => exact absurd rfl hne
    | cons c run =>
      change (Scale.leading? (behindFraction (tail ++ rest))).map _ = _
      rw [behindFraction_append htail hrest, leading?_of_names h]
      rfl
  cases negative with
  | true => exact hmeasured
  | false =>
    change measureHere? (run ++ (tail ++ rest)) = _
    rw [measureHere?_plain, hmeasured]
    intro hminus
    cases run with
    | nil => exact hne rfl
    | cons c run =>
      cases hminus
      exact absurd (hrun '-' List.mem_cons_self) (by decide)

theorem measureHere?_eq_some {negative : Bool} {digits : List Nat}
    (h : measureHere? cs = some (negative, digits, scale)) :
    ∃ run tail rest, cs = minus negative ++ (run ++ (tail ++ rest)) ∧
      AllDecimal run ∧ run ≠ [] ∧ Tail tail ∧
      Names scale rest ∧ digits = digitList run := by
  obtain ⟨unsigned, rfl, hmeasured⟩ :
      ∃ unsigned, cs = minus negative ++ unsigned ∧
      measured negative unsigned = some (negative, digits, scale) := by
    by_cases hminus : cs.head? = some '-'
    · obtain ⟨unsigned, rfl⟩ := List.head?_eq_some_iff.1 hminus
      rw [measureHere?_minus] at h
      have hnegative := negative_of_measured h
      subst hnegative
      exact ⟨unsigned, rfl, h⟩
    · rw [measureHere?_plain hminus] at h
      have hnegative := negative_of_measured h
      subst hnegative
      exact ⟨cs, rfl, h⟩
  obtain ⟨run, behind, rfl, hrun, -, hread⟩ := digitRun_cases unsigned
  obtain ⟨tail, rest, rfl, htail, hbehind⟩ := behindFraction_cases behind
  unfold measured at hmeasured
  rw [hread] at hmeasured
  cases run with
  | nil => cases hmeasured
  | cons c run =>
    change (Scale.leading? (behindFraction (tail ++ rest))).map _ =
      _ at hmeasured
    rw [hbehind] at hmeasured
    obtain ⟨scale', hscale, heq⟩ := Option.map_eq_some_iff.1 hmeasured
    cases heq
    exact ⟨c :: run, tail, rest, rfl, hrun, List.cons_ne_nil c run, htail,
      names_of_leading? hscale, rfl⟩

/-! ## Reading the first one -/

theorem measure?_cases {m : Bool × List Nat × Scale}
    (h : measure? cs = some m) :
    ∃ front here, cs = front ++ here ∧ measureHere? here = some m ∧
      ∀ earlier later, front = earlier ++ later → later ≠ [] →
        measureHere? (later ++ here) = none := by
  induction cs with
  | nil => cases h
  | cons c cs ih =>
    cases hhere : measureHere? (c :: cs) with
    | some m' =>
      rw [measure?, hhere] at h
      cases h
      refine ⟨[], c :: cs, rfl, hhere, fun earlier later hsplit hne => ?_⟩
      exact absurd (List.append_eq_nil_iff.1 hsplit.symm).2 hne
    | none =>
      rw [measure?, hhere] at h
      obtain ⟨front, here, rfl, hread, hnone⟩ := ih h
      refine ⟨c :: front, here, rfl, hread, fun earlier later hsplit hne => ?_⟩
      cases earlier with
      | nil =>
        cases hsplit
        exact hhere
      | cons d earlier =>
        cases hsplit
        exact hnone earlier later rfl hne

theorem measure?_ne_none {front here : List Char}
    (h : measureHere? here ≠ none) : measure? (front ++ here) ≠ none := by
  induction front with
  | nil =>
    cases here with
    | nil => exact absurd rfl h
    | cons c here => simp [measure?, h]
  | cons c front ih => simp [measure?, ih]

theorem measureHere?_digit {d : Char} (hd : isDecimal d = true)
    (hletter : ∃ c ∈ rest.head?, c ∈ unitLetters) :
    measureHere? (d :: rest) ≠ none := by
  obtain ⟨scale, hscale⟩ := exists_names hletter
  have hrun : AllDecimal [d] := by simpa [AllDecimal] using hd
  have hread :=
    measureHere?_number false hrun (List.cons_ne_nil d []) .none hscale
  change measureHere? (d :: rest) = _ at hread
  rw [hread]
  exact Option.some_ne_none _

theorem measure?_of_place {front : List Char} (h : Place cs front rest) :
    measure? cs ≠ none := by
  obtain ⟨d, hlast, hd⟩ := h.digit
  obtain ⟨before, rfl⟩ := List.getLast?_eq_some_iff.1 hlast
  rw [h.cut, List.append_assoc]
  exact measure?_ne_none (measureHere?_digit hd h.letter)

theorem exists_last_decimal (front : List Char) {run : List Char}
    (hrun : AllDecimal run) (hne : run ≠ []) :
    ∃ c ∈ (front ++ run).getLast?, isDecimal c = true := by
  obtain ⟨init, d, rfl⟩ := (List.eq_nil_or_concat run).resolve_left hne
  exact ⟨d, by simp, hrun d (by simp)⟩

theorem not_unitLetter_of_mem {negative : Bool} {run tail : List Char}
    (hrun : AllDecimal run) (htail : Tail tail) {c : Char}
    (hc : c ∈ minus negative ++ (run ++ tail)) : c ∉ unitLetters := by
  intro hletter
  obtain ⟨hdecimal, hpoint, hminus⟩ := unitLetter_apart hletter
  have hrun' : c ∉ run := fun h => by
    rw [hrun c h] at hdecimal
    cases hdecimal
  have hsign : c ∉ minus negative := by cases negative <;> simp [minus, hminus]
  have htail' : c ∉ tail := by
    cases htail with
    | none => exact List.not_mem_nil
    | fraction hbehind _ =>
      intro h
      rcases List.mem_cons.1 h with h | h
      · exact hpoint h
      · rw [hbehind c h] at hdecimal
        cases hdecimal
  simp only [List.mem_append] at hc
  rcases hc with hc | hc | hc
  · exact hsign hc
  · exact hrun' hc
  · exact htail' hc

section

/- A number with a unit that no earlier one overlaps: `before` is what has been
searched. -/
variable {before run tail : List Char} {negative : Bool} (hrun : AllDecimal run)
  (hne : run ≠ []) (htail : Tail tail)
  (hnames : Names scale rest)
  (hnone : ∀ earlier later, before = earlier ++ later → later ≠ [] →
    measureHere? (later ++ (minus negative ++ (run ++ (tail ++ rest)))) = none)

include hrun htail hnames hnone

theorem beginsDigits_of_search : BeginsDigits (before ++ minus negative) := by
  intro d hlast
  cases negative with
  | true =>
    rw [show minus true = ['-'] from rfl, List.getLast?_concat] at hlast
    cases hlast
    decide
  | false =>
    rw [show minus false = [] from rfl, List.append_nil] at hlast
    obtain ⟨earlier, hsplit⟩ := List.getLast?_eq_some_iff.1 hlast
    rw [Bool.eq_false_iff]
    intro hd
    have hread := measureHere?_number false (List.forall_mem_cons.2 ⟨hd, hrun⟩)
      (List.cons_ne_nil d run) htail hnames
    have hsearched :
        measureHere? (minus false ++ (d :: run ++ (tail ++ rest))) = none :=
      hnone earlier [d] hsplit (List.cons_ne_nil d [])
    rw [hread] at hsearched
    cases hsearched

include hne

theorem endsIn_of_search :
    EndsIn (before ++ minus negative ++ run ++ tail) (before ++ minus negative)
      run := by
  have hbegins := beginsDigits_of_search hrun htail hnames hnone
  cases htail with
  | fraction hbehind _ => exact .fraction _ rfl hbegins hrun hne hbehind
  | none =>
    refine .whole (List.append_nil _) hbegins hrun hne fun earlier d hpoint => ?_
    cases negative with
    | true =>
      have hlast := congrArg List.getLast? hpoint
      rw [show minus true = ['-'] from rfl, List.getLast?_concat] at hlast
      simp at hlast
    | false =>
      -- what looks like a fraction behind a point would have been read with the
      -- digit before the point
      rw [show minus false = [] from rfl, List.append_nil] at hpoint
      rw [Bool.eq_false_iff]
      intro hd
      have hdigit : AllDecimal [d] := by simpa [AllDecimal] using hd
      have hread := measureHere?_number false hdigit (List.cons_ne_nil d [])
        (.fraction hrun hne) hnames
      have hsearched :
          measureHere? (minus false ++ ([d] ++ ('.' :: run ++ rest))) = none :=
        hnone earlier [d, '.'] hpoint (List.cons_ne_nil d _)
      rw [hread] at hsearched
      cases hsearched

theorem negative_of_search :
    negative = decide ((before ++ minus negative).getLast? = some '-') := by
  cases negative with
  | true => simp [minus]
  | false =>
    rw [eq_comm, decide_eq_false_iff_not]
    intro hlast
    obtain ⟨earlier, hsplit⟩ := List.getLast?_eq_some_iff.1 hlast
    have hsplit' : before = earlier ++ ['-'] := by simpa [minus] using hsplit
    have hread := measureHere?_number true hrun hne htail hnames
    have hsearched :
        measureHere? (minus true ++ (run ++ (tail ++ rest))) = none :=
      hnone earlier ['-'] hsplit' (List.cons_ne_nil '-' [])
    rw [hread] at hsearched
    cases hsearched

theorem firstPlace_of_search :
    FirstPlace (before ++ (minus negative ++ (run ++ (tail ++ rest))))
      (before ++ minus negative ++ run ++ tail) rest := by
  refine ⟨⟨by simp, ?_, hnames.letter⟩, fun front' rest' hplace => ?_⟩
  · cases htail with
    | none =>
      simpa using exists_last_decimal (before ++ minus negative) hrun hne
    | fraction hbehind hne' =>
      rename_i behind
      simpa using exists_last_decimal (before ++ minus negative ++ run ++ ['.'])
        hbehind hne'
  · by_contra hlength
    rcases List.append_eq_append_iff.1 hplace.cut with ⟨m, rfl, hhere⟩ | ⟨m,
      rfl, rfl⟩
    · have hsplit : (minus negative ++ (run ++ tail)) ++ rest = m ++ rest' := by
        simpa using hhere
      rcases List.append_eq_append_iff.1
        hsplit with ⟨k, rfl, -⟩ | ⟨k, hnumber, rfl⟩
      · simp at hlength
      · obtain ⟨c, hc, hletter⟩ := hplace.letter
        cases k with
        | nil =>
          have hsame := congrArg List.length hnumber
          simp only [List.length_append, List.append_nil] at hsame hlength
          omega
        | cons c' k =>
          cases hc
          have hmem : c ∈ minus negative ++ (run ++ tail) := by
            rw [hnumber]
            simp
          exact not_unitLetter_of_mem hrun htail hmem hletter
    · obtain ⟨d, hlast, hd⟩ := hplace.digit
      obtain ⟨earlier, rfl⟩ := List.getLast?_eq_some_iff.1 hlast
      exact measureHere?_digit hd hplace.letter
        (hnone earlier (d :: m) (by simp) (List.cons_ne_nil d m))

end

theorem measure?_eq_some {negative : Bool} {digits : List Nat}
    (h : measure? cs = some (negative, digits, scale)) :
    ∃ front rest before run, FirstPlace cs front rest ∧ Names scale rest ∧
      EndsIn front before run ∧
      digits = digitList run ∧
      negative = decide (before.getLast? = some '-') := by
  obtain ⟨before, here, rfl, hread, hnone⟩ := measure?_cases h
  obtain ⟨run, tail, rest, rfl, hrun, hne, htail, hnames, rfl⟩ :=
    measureHere?_eq_some hread
  exact ⟨_, rest, _, run, firstPlace_of_search hrun hne htail hnames hnone,
    hnames, endsIn_of_search hrun hne htail hnames hnone, rfl,
    negative_of_search hrun hne htail hnames hnone⟩

end TimeWindow.Proofs.Interval.Places

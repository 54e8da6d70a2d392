import TimeWindow.Proofs.Outcome
import TimeWindow.Proofs.Reading.DefaultDate
import TimeWindow.Proofs.Trimming

/-!
# Years around a pivot

While a text is read, the pivot is looked at in one place only: at the year
behind "of", which is added right behind its month.  Until then two readings
with different pivots are the same, and with pivots four centuries apart they go
on with years four centuries apart, which no rule tells from each other
(`readTokens_splits`).
-/

namespace TimeWindow.Proofs.Reading.PivotYear

open TimeWindow.FreeForm TimeWindow.Calendar TimeWindow.Text Outcome DefaultDate
  Trimming Calendar.Days Calendar.Units

/-! ## Four centuries later -/

/-- The same date values but for the year, which stands behind the month and is
four centuries later. -/
inductive Later : DateValues → DateValues → Prop where
  | intro (front back : List Int) (month year : Int) :
      Later ⟨front ++ month :: year :: back, some (front.length + 1),
        some front.length, true⟩
        ⟨front ++ month :: (year + 400) :: back, some (front.length + 1),
          some front.length, true⟩

def LaterYear (f f' : Findings) : Prop :=
  ∃ dates, Later f.dates dates ∧ f' = { f with dates }

def InStep (r r' : Reading) : Prop :=
  Alike (fun g g' => LaterYear g.1 g'.1 ∧ g.2 = g'.2) r r'

section

variable {d d' : DateValues}

theorem Later.values_ne_nil (h : Later d d') :
    d.values ≠ [] ∧ d'.values ≠ [] := by
  cases h
  simp

theorem Later.length (h : Later d d') : d'.values.length = d.values.length := by
  cases h
  simp

theorem Later.century (h : Later d d') :
    d.century = true ∧ d'.century = true := by
  cases h
  exact ⟨rfl, rfl⟩

theorem Later.append (h : Later d d') (n : Int) :
    Later { d with values := d.values ++ [n] }
      { d' with values := d'.values ++ [n] } := by
  cases h with
  | intro front back month year =>
    simpa using Later.intro front (back ++ [n]) month year

theorem addMonth?_later (h : Later d d') (n : Int) :
    d.addMonth? n = none ∧ d'.addMonth? n = none := by
  cases h
  exact ⟨rfl, rfl⟩

theorem addYear?_later (h : Later d d') (n : Int) :
    d.addYear? n = none ∧ d'.addYear? n = none := by
  cases h
  exact ⟨rfl, rfl⟩

theorem addText?_later (h : Later d d') (token : String) (isYear : Bool) :
    Alike Later (need (d.addText? token isYear))
      (need (d'.addText? token isYear)) := by
  have hcentury : ∀ d : DateValues, d.yearPlace.isSome = true →
      ∀ n, DateValues.addYear? { d with century := true } n = none :=
        fun d hd n => if_pos hd
  have hyear : d.yearPlace.isSome = true ∧ d'.yearPlace.isSome = true := by
    cases h
    exact ⟨rfl, rfl⟩
  unfold DateValues.addText?
  cases Numeral.integer? token.toList with
  | none => exact .error _
  | some n =>
    simp only [Option.bind_eq_bind, Option.bind_some, hcentury d hyear.1,
      hcentury d' hyear.2, addYear?_later h n]
    split
    · exact .error _
    · split
      · exact .error _
      · exact .ok (h.append n)

theorem addNumber?_later (h : Later d d') (q : Rat) :
    Alike Later (need (d.addNumber? q)) (need (d'.addNumber? q)) := by
  unfold DateValues.addNumber?
  split
  · cases h
    exact .error _
  · exact .ok (h.append q.floor)

theorem monthLength_later (year month : Int) :
    monthLength (year + 400) month = monthLength year month := by
  have hleap : isLeap (year + 400) = isLeap year := by
    unfold isLeap
    rw [Bool.eq_iff_iff]
    simp only [Bool.and_eq_true, Bool.or_eq_true, decide_eq_true_eq]
    omega
  unfold monthLength
  rw [hleap]

theorem couldBeDay_later (h : Later d d') (q : Rat) :
    d'.couldBeDay q = d.couldBeDay q := by
  cases h with
  | intro front back month year =>
    unfold DateValues.couldBeDay
    simp [monthLength_later]

end

/-! ## Each rule keeps in step -/

section

variable {f : Findings} {d' : DateValues}

theorem inStep_dates {x x' : Except Failure DateValues} {used : Nat}
    (hx : Alike Later x x') :
    InStep (x >>= fun dates => pure ({ f with dates }, used))
      (x' >>= fun dates => pure ({ f with dates }, used)) :=
  hx.bind fun _ dates' hdates => .ok ⟨⟨dates', hdates, rfl⟩, rfl⟩

variable (h : Later f.dates d')

include h

theorem readSix_inStep (cs : List Char) :
    InStep (readSix f cs) (readSix { f with dates := d' } cs) := by
  unfold readSix
  simp only [h.values_ne_nil, decide_false, Bool.false_and, Bool.false_eq_true,
    if_false]
  exact alike_bind _ fun _ => alike_bind _ fun _ => alike_bind _ fun _ =>
    .ok ⟨⟨d', h, rfl⟩, rfl⟩

theorem readLong_inStep (cs : List Char) :
    InStep (readLong f cs) (readLong { f with dates := d' } cs) := by
  unfold readLong
  refine (addText?_later h _ _).bind fun _ _ h =>
    (addText?_later h _ _).bind fun _ _ h =>
    (addText?_later h _ _).bind fun _ _ h => ?_
  dsimp only
  split
  · exact .ok ⟨⟨_, h, rfl⟩, rfl⟩
  · refine alike_bind _ fun _ => alike_bind _ fun _ => ?_
    split
    · exact .ok ⟨⟨_, h, rfl⟩, rfl⟩
    · exact alike_bind _ fun _ => .ok ⟨⟨_, h, rfl⟩, rfl⟩

theorem readClock_inStep (q : Rat) (minutes : String) (after : List String) :
    InStep (readClock f q minutes after)
      (readClock { f with dates := d' } q minutes after) := by
  unfold readClock
  refine alike_bind _ fun _ => alike_bind _ fun _ => ?_
  dsimp only
  split
  · exact alike_bind _ fun _ => .ok ⟨⟨_, h, rfl⟩, rfl⟩
  · exact .ok ⟨⟨_, h, rfl⟩, rfl⟩

theorem readSeparated_inStep (token sep : String) (after : List String) :
    InStep (readSeparated f token sep after)
      (readSeparated { f with dates := d' } token sep after) := by
  have hmonth : ∀ {d d' : DateValues}, Later d d' → ∀ m : Option Nat,
      Alike Later (need (m.bind fun m => d.addMonth? m))
        (need (m.bind fun m => d'.addMonth? m)) := by
    intro d d' h m
    cases m with
    | none => exact .error _
    | some m =>
      rw [Option.bind_some, Option.bind_some, (addMonth?_later h m).1,
        (addMonth?_later h m).2]
      exact .error _
  unfold readSeparated
  refine (addText?_later h _ _).bind fun _ _ h => ?_
  split
  · exact .ok ⟨⟨_, h, rfl⟩, rfl⟩
  · split
    · exact .ok ⟨⟨_, h, rfl⟩, rfl⟩
    · extract_lets last third last' third'
      have hthird :
          ∀ {d d' : DateValues}, Later d d' → InStep (third d) (third' d') := by
        intro d d' h
        simp only [third, third', last, last']
        split
        · exact .ok ⟨⟨_, h, rfl⟩, rfl⟩
        · split
          · exact .ok ⟨⟨_, h, rfl⟩, rfl⟩
          · refine alike_bind _ fun word => ?_
            split
            · exact inStep_dates (hmonth h (some _))
            · exact inStep_dates (addText?_later h _ _)
      split
      · exact (addText?_later h _ _).bind fun _ _ h => hthird h
      · exact (hmonth h _).bind fun _ _ h => hthird h

theorem readDay_inStep (q : Rat) :
    InStep (readNumber.readDay f q)
      (readNumber.readDay { f with dates := d' } q) := by
  unfold readNumber.readDay
  rw [couldBeDay_later h]
  split
  · exact inStep_dates (addNumber?_later h q)
  · exact .error _

theorem setTimeUnit_later (token : String) (q : Rat) (unit : Nat) :
    Alike LaterYear (setTimeUnit f token q unit)
      (setTimeUnit { f with dates := d' } token q unit) := by
  unfold setTimeUnit
  split
  · refine alike_bind _ fun _ => ?_
    dsimp only
    split <;> exact .ok ⟨_, h, rfl⟩
  · exact alike_bind _ fun _ => .ok ⟨_, h, rfl⟩
  · exact alike_bind _ fun _ => .ok ⟨_, h, rfl⟩
  · exact .ok ⟨_, h, rfl⟩

theorem readNumber_inStep (before : List String) (token : String)
    (numeral : Numeral) (after : List String) :
    InStep (readNumber f before token numeral after)
      (readNumber { f with dates := d' } before token numeral after) := by
  unfold readNumber
  extract_lets q cs complete standsAlone complete'
  have hcomplete : decide complete' = decide complete := by
    simp only [complete, complete', h.length]
  rw [hcomplete]
  clear_value standsAlone
  dsimp only
  split
  · refine alike_bind _ fun _ => ?_
    split
    · exact alike_bind _ fun _ => .ok ⟨⟨_, h, rfl⟩, rfl⟩
    · exact .ok ⟨⟨_, h, rfl⟩, rfl⟩
  · split
    · exact readSix_inStep h _
    · split
      · exact readLong_inStep h _
      · split
        · exact (setTimeUnit_later h _ _ _).bind fun _ _ hf => .ok ⟨hf, rfl⟩
        · split
          · exact inStep_dates (addNumber?_later h _)
          · split
            · exact readClock_inStep h _ _ _
            · split
              · exact readSeparated_inStep h _ _ _
              · split
                · split
                  · exact .ok ⟨⟨_, h, rfl⟩, rfl⟩
                  · exact inStep_dates (addNumber?_later h _)
                · split
                  · split
                    · exact .ok ⟨⟨_, h, rfl⟩, rfl⟩
                    · exact readDay_inStep h _
                  · exact readDay_inStep h _

theorem readMonth_inStep (pivot pivot' : Int) (month : Nat)
    (after : List String) :
    InStep (readMonth pivot f month after)
      (readMonth pivot' { f with dates := d' } month after) := by
  unfold readMonth
  rw [(addMonth?_later h month).1, (addMonth?_later h month).2]
  exact .error _

theorem readOffset_inStep (sign : String) (after : List String) :
    InStep (readOffset f sign after)
      (readOffset { f with dates := d' } sign after) := by
  unfold readOffset
  refine alike_bind _ fun digits => ?_
  extract_lets cs withName withName'
  have hname : ∀ found, InStep (withName found) (withName' found) := by
    rintro ⟨hours, minutes, used⟩
    simp only [withName, withName']
    split
    · split <;> exact .ok ⟨⟨_, h, rfl⟩, rfl⟩
    · exact .ok ⟨⟨_, h, rfl⟩, rfl⟩
  split
  · exact alike_bind _ fun _ => alike_bind _ fun _ => hname (_, _, 1)
  · split
    · exact alike_bind _ fun _ => alike_bind _ fun _ => alike_bind _ fun _ =>
        hname (_, _, 3)
    · split
      · exact alike_bind _ fun _ => hname (_, 0, 1)
      · exact .error _

end

theorem noteZone_dates (f : Findings) (name : String) (signFollows : Bool) :
    (noteZone f name signFollows).dates = f.dates := by
  cases signFollows <;> rfl

theorem noteZone_with_dates (f : Findings) (d : DateValues) (name : String)
    (signFollows : Bool) :
    noteZone { f with dates := d } name signFollows =
      { noteZone f name signFollows with dates := d } := by
  cases signFollows <;> rfl

theorem readTokens_inStep (pivot pivot' : Int) (fuel : Nat) {f : Findings}
    {d' : DateValues} (h : Later f.dates d') (before after : List String) :
    Alike LaterYear (readTokens pivot fuel f before after)
      (readTokens pivot' fuel { f with dates := d' } before after) := by
  induction fuel generalizing f d' before after with
  | zero => exact .ok ⟨d', h, rfl⟩
  | succ fuel ih =>
    cases after with
    | nil => exact .ok ⟨d', h, rfl⟩
    | cons token after =>
      have hread : ∀ {r r' : Reading}, InStep r r' →
          Alike LaterYear
            (r >>= fun g => readTokens pivot fuel g.1
              ((after.take g.2).reverse ++ token :: before) (after.drop g.2))
            (r' >>= fun g => readTokens pivot' fuel g.1
              ((after.take g.2).reverse ++ token :: before) (after.drop g.2)) := by
        intro r r' hr
        refine hr.bind ?_
        rintro ⟨g, used⟩ ⟨g', used'⟩ ⟨⟨dates, hdates, hg⟩, hused⟩
        cases hg
        cases hused
        exact ih hdates _ _
      unfold readTokens
      dsimp only
      split
      · exact hread (readNumber_inStep h _ _ _ _)
      · split
        · exact .error _
        · split
          · exact ih (f := { f with weekday := some _ }) h _ _
          · exact hread (readMonth_inStep h _ _ _ _)
          · split
            · split
              · exact ih (f := { f with hour := some _ }) h _ _
              · exact .error _
            · exact .error _
          · have hname : ∀ follows before after,
                Alike LaterYear
                  (readTokens pivot fuel (noteZone f token follows) before after)
                  (readTokens pivot' fuel
                    (noteZone { f with dates := d' } token follows)
                    before after) := by
              intro follows before after
              rw [noteZone_with_dates f d' token follows]
              apply ih
              rw [noteZone_dates]
              exact h
            split
            · split
              · split
                · exact hname true _ _
                · exact hname false _ _
              · exact hname false _ _
            · split
              · exact hread (readOffset_inStep h _ _)
              · split
                · exact ih h _ _
                · exact .error _

/-! ## Where the pivot is looked at -/

theorem nonneg_of_isDigits {token : String} {n : Int}
    (h : isDigits token = true) (hn : integer token.toList = .ok n) :
    0 ≤ n := by
  have hdigits : ∀ c ∈ token.toList, isDigitLike c = true := by
    simp only [isDigits, Bool.and_eq_true, List.all_eq_true] at h
    exact h.2
  obtain ⟨before, after, -, -, htoken⟩ :=
    exists_trimBy isUnicodeBlank token.toList
  have hsign :
      (Numeral.sign (trimBy isUnicodeBlank token.toList)).1 = false := by
    unfold Numeral.sign
    split
    · rename_i rest hminus
      have hmem : '-' ∈ token.toList := by
        rw [htoken, hminus]
        simp
      exact absurd (hdigits '-' hmem) (by decide)
    · rfl
    · rfl
  unfold integer Numeral.integer? at hn
  dsimp only at hn
  rw [hsign] at hn
  cases hgrouped : Numeral.groupedDigits?
      (Numeral.sign (trimBy isUnicodeBlank token.toList)).2 with
  | none =>
    rw [hgrouped] at hn
    cases hn
  | some digits =>
    rw [hgrouped, Option.bind_eq_bind, Option.bind_some] at hn
    split at hn
    · cases hn
    · cases hn
      exact Int.natCast_nonneg _

/-- A year of two digits is placed in four of them, and four centuries later
around a pivot four centuries later. -/
theorem placed_around (n : Nat) (h : n < 100) :
    fullYear 2400 n false = fullYear 2000 n false + 400 ∧
    ∀ pivot ∈ [(2000 : Int), 2400],
      isDigits (toString (fullYear pivot n false)) = true ∧
        2 < (toString (fullYear pivot n false)).length ∧
        Numeral.integer? (toString (fullYear pivot n false)).toList =
          some (fullYear pivot n false) := by
  have hall : ∀ n < 100,
      fullYear 2400 (n : Nat) false = fullYear 2000 n false + 400 ∧
        ∀ pivot ∈ [(2000 : Int), 2400],
          isDigits (toString (fullYear pivot n false)) = true ∧
            2 < (toString (fullYear pivot n false)).length ∧
            Numeral.integer? (toString (fullYear pivot n false)).toList =
              some (fullYear pivot n false) := by decide +kernel
  exact hall n h

theorem addText?_placed {d : DateValues} {n : Nat} (h : n < 100) {pivot : Int}
    (hpivot : pivot ∈ [(2000 : Int), 2400]) :
    d.addText? (toString (fullYear pivot n false)) true =
      ({ d with century := true } : DateValues).addYear?
        (fullYear pivot n false) := by
  obtain ⟨hdigits, hlength, hinteger⟩ := (placed_around n h).2 pivot hpivot
  unfold DateValues.addText?
  rw [hinteger, Option.bind_eq_bind, Option.bind_some, hdigits,
    decide_eq_true hlength]
  rfl

theorem addText?_around {d : DateValues} {front : List Int} {month : Int}
    {n : Nat} (h : n < 100) (hvalues : d.values = front ++ [month])
    (hmonth : d.monthPlace = some front.length) :
    Alike Later (need (d.addText? (toString (fullYear 2000 n false)) true))
      (need (d.addText? (toString (fullYear 2400 n false)) true)) := by
  rw [addText?_placed h (by decide), addText?_placed h (by decide),
    (placed_around n h).1]
  obtain ⟨values, yearPlace, monthPlace, century⟩ := d
  cases hvalues
  cases hmonth
  unfold DateValues.addYear?
  cases yearPlace with
  | some place => exact .error _
  | none =>
    simpa [need]
      using Alike.ok (Later.intro front [] month (fullYear 2000 n false))

/-- The outcome is the same around every pivot, or related around 2000 and
2400. -/
def Splits {α : Type} (R : α → α → Prop) (x : Int → Except Failure α) : Prop :=
  (∀ pivot pivot', x pivot = x pivot') ∨ Alike R (x 2000) (x 2400)

section

variable {α β : Type} {R : β → β → Prop}

theorem splits_const (x : Except Failure β) : Splits R fun _ => x :=
  .inl fun _ _ => rfl

theorem splits_bind (x : Except Failure α) {k : Int → α → Except Failure β}
    (h : ∀ a, x = .ok a → Splits R fun pivot => k pivot a) :
    Splits R fun pivot => x >>= k pivot := by
  cases x with
  | error e => exact splits_const (.error e)
  | ok a => exact h a rfl

theorem Splits.bind {S : α → α → Prop} {x : Int → Except Failure α}
    {k : Int → α → Except Failure β} (hx : Splits S x)
    (hsame : ∀ a, Splits R fun pivot => k pivot a)
    (hrelated : ∀ a a', S a a' → Alike R (k 2000 a) (k 2400 a')) :
    Splits R fun pivot => x pivot >>= k pivot := by
  rcases hx with hx | hx
  · have heq : (fun pivot => x pivot >>= k pivot) = fun pivot =>
        x 0 >>= k pivot :=
      funext fun pivot => by rw [hx pivot 0]
    rw [heq]
    exact splits_bind _ fun a _ => hsame a
  · exact .inr (hx.bind hrelated)

end

theorem readMonth_splits (f : Findings) (month : Nat) (after : List String) :
    Splits (fun g g' => LaterYear g.1 g'.1 ∧ g.2 = g'.2) fun pivot =>
      readMonth pivot f month after := by
  have hplace : ∀ {dates}, need (f.dates.addMonth? month) = .ok dates →
      dates.values = f.dates.values ++ [(month : Int)] ∧
        dates.monthPlace = some f.dates.values.length := by
    intro dates hdates
    unfold DateValues.addMonth? at hdates
    split at hdates
    · cases hdates
    · cases hdates
      exact ⟨rfl, rfl⟩
  unfold readMonth
  refine splits_bind _ fun dates hdates => ?_
  cases after with
  | nil => exact splits_const _
  | cons sep rest =>
    dsimp only
    split
    · exact splits_const _
    · split
      · split
        · split
          · rename_i hyear
            refine splits_bind _ fun n hn => ?_
            obtain ⟨n, rfl⟩ :=
              Int.eq_ofNat_of_zero_le (nonneg_of_isDigits hyear hn)
            by_cases hshort : n < 100
            · exact .inr (inStep_dates
                (addText?_around hshort (hplace hdates).1 (hplace hdates).2))
            · have hfull : ∀ pivot, fullYear pivot n false = n :=
                fun pivot => fullYear_inFull (.inr (by omega))
              simp only [hfull]
              exact splits_const _
          · exact splits_const _
        · exact splits_const _
      · exact splits_const _

theorem readTokens_splits (fuel : Nat) (f : Findings)
    (before after : List String) :
    Splits LaterYear fun pivot => readTokens pivot fuel f before after := by
  induction fuel generalizing f before after with
  | zero => exact splits_const _
  | succ fuel ih =>
    cases after with
    | nil => exact splits_const _
    | cons token after =>
      unfold readTokens
      dsimp only
      split
      · exact splits_bind _ fun g _ => ih g.1 _ _
      · split
        · exact splits_const _
        · split
          · exact ih _ _ _
          · refine (readMonth_splits f _ after).bind (fun g => ih g.1 _ _) ?_
            rintro ⟨g, used⟩ ⟨g', used'⟩ ⟨⟨dates, hdates, hg⟩, hused⟩
            cases hg
            cases hused
            exact readTokens_inStep _ _ fuel hdates _ _
          · split
            · split
              · exact ih _ _ _
              · exact splits_const _
            · exact splits_const _
          · split
            · split
              · split
                · exact ih _ _ _
                · exact ih _ _ _
              · exact ih _ _ _
            · split
              · exact splits_bind _ fun g _ => ih g.1 _ _
              · split
                · exact ih _ _ _
                · exact splits_const _

/-! ## Moments of years four centuries apart -/

theorem resolve?_long {d : DateValues} (hyear : d.yearPlace.isSome = true)
    (hmonth : d.monthPlace.isSome = true) (h : 4 ≤ d.values.length) :
    d.resolve? = none := by
  have hlabels : ¬ d.values.length = 2 ∧ ¬ d.values.length = 3 := by omega
  unfold DateValues.resolve?
  simp only [hyear, hmonth, if_true, hlabels, decide_false, Bool.false_and,
    Bool.or_self, Bool.false_eq_true, if_false]
  match hvalues : d.values, h with
  | _ :: _ :: _ :: _ :: _, _ => rfl

theorem resolve?_later {d d' : DateValues} (h : Later d d') {date : PartialDate}
    (hdate : d.resolve? = some date) : ∃ year month,
      date = ⟨some year, some month, date.day⟩ ∧
        d'.resolve? = some ⟨some (year + 400), some month, date.day⟩ := by
  have hshort : d.values.length < 4 := by
    by_contra hlong
    rw [resolve?_long (by cases h; rfl) (by cases h; rfl) (not_lt.1 hlong)] at hdate
    cases hdate
  cases h with
  | intro front back month year =>
    refine ⟨year, month, ?_⟩
    match front, back, hshort with
    | [], [], _ =>
      cases hdate
      exact ⟨rfl, rfl⟩
    | [], [n], _ =>
      cases hdate
      exact ⟨rfl, rfl⟩
    | [n], [], _ =>
      cases hdate
      exact ⟨rfl, rfl⟩
    | [], _ :: _ :: _, hshort | _ :: _ :: _, _, hshort | [_], _ :: _, hshort =>
      simp at hshort
      try omega

theorem apart_of_centuries {b b' : Date} (hb : Proper b) (hb' : Proper b')
    (hyear : b'.year = b.year + 400) (hmonth : b'.month = b.month) :
    Apart b b' := by
  refine .inl (apart_of_months hb hb' ?_)
  unfold Date.monthNumber
  omega

theorem moment?_later_ne {f f' : Findings} (h : LaterYear f f')
    {d d' : Defaults} {m : Moment} (hm : moment? f d = some m) :
    moment? f' d' ≠ some m := by
  intro hm'
  obtain ⟨dates, hdates, rfl⟩ := h
  rw [moment?_eq] at hm hm'
  obtain ⟨⟨_, _, day⟩, hresolve, hplaced⟩ := Option.bind_eq_some_iff.1 hm
  obtain ⟨year, month, hdate, hresolve'⟩ := resolve?_later hdates hresolve
  cases hdate
  rw [hresolve', Option.bind_some] at hm'
  have hyears :
      (filled { f with dates } ⟨some (year + 400), some month, day⟩ d').year =
      (filled f ⟨some year, some month, day⟩ d).year + 400 := by
    simp [filled, fullYear, hdates.century]
  have hapart :=
    apart_of_centuries (placed_near hplaced).1 (placed_near hm').1 hyears rfl
  -- beside the date itself, only whether its fields are there is looked at
  exact placed_ne hapart hplaced hm' rfl

theorem fullYear_add {pivot year : Int} (h : year < 100) :
    fullYear (pivot + 400) year false = fullYear pivot year false + 400 := by
  unfold fullYear
  simp only [h, decide_true, Bool.not_false, Bool.and_self, if_true]
  split <;> split <;> (try split) <;> (try split) <;> omega

theorem moment?_short_ne {f : Findings} {date : PartialDate} {year : Int}
    {d d' : Defaults} {m : Moment} (hdate : f.dates.resolve? = some date)
    (hyear : date.year = some year) (hcomplete : Complete date)
    (hcentury : f.dates.century = false) (hshort : year < 100)
    (hpivot : d'.pivotYear = d.pivotYear + 400) (hm : moment? f d = some m) :
    moment? f d' ≠ some m := by
  intro hm'
  rw [moment?_eq, hdate, Option.bind_some] at hm hm'
  obtain ⟨month, hmonth⟩ := Option.isSome_iff_exists.1 hcomplete.2.1
  have hyears : (filled f date d').year = (filled f date d).year + 400 := by
    simp [filled, hyear, hcentury, hpivot, fullYear_add hshort]
  have hmonths : (filled f date d').month = (filled f date d).month := by
    simp [filled, hmonth]
  have hapart :=
    apart_of_centuries (placed_near hm).1 (placed_near hm').1 hyears hmonths
  exact placed_ne hapart hm hm' rfl

theorem findings_offset {text : String} {f f' : Findings}
    (hf : findings 2000 text = .ok f) (hf' : findings 2400 text = .ok f') :
    f'.offset? = f.offset? := by
  rcases readTokens_splits _ {} []
    (FreeForm.tokens text.toList) with hsame | hlater
  · cases (hf.symm.trans (hsame 2000 2400)).trans hf'
    rfl
  · have halike : Alike LaterYear (findings 2000 text) (findings 2400 text) :=
      hlater
    rw [hf, hf'] at halike
    cases halike with
    | ok hyear =>
      obtain ⟨dates, -, rfl⟩ := hyear
      rfl

/-- **A text gives its date** when it is read as one and the same moment from a
default date, from one far away, and around a pivot four centuries later. -/
theorem givesDate_of_reads {text : String} {d : Date} {m : Moment}
    (h : read text ⟨d, 2000⟩ = .ok (some m))
    (hfar : read text ⟨far d, 2000⟩ = .ok (some m))
    (hpivot : read text ⟨d, 2400⟩ = .ok (some m)) : GivesDate text := by
  obtain ⟨f, hf, hm⟩ := findings_of_read h
  obtain ⟨_, hf₂, hm₂⟩ := findings_of_read hfar
  obtain ⟨f', hf', hm'⟩ := findings_of_read hpivot
  cases hf.symm.trans hf₂
  rcases readTokens_splits _ {} []
    (FreeForm.tokens text.toList) with hsame | hlater
  · have hfindings : ∀ pivot, findings pivot text = .ok f :=
      fun pivot => (hsame pivot 2000).trans hf
    cases (hfindings 2400).symm.trans hf'
    obtain ⟨date, hdate, -⟩ :=
      Option.bind_eq_some_iff.1 ((moment?_eq f _).symm.trans hm)
    have hcomplete : Complete date := by
      by_contra hincomplete
      exact moment?_away_ne hdate hincomplete hm hm₂
    refine ⟨f, date, hfindings, hdate, hcomplete, fun year hyear => ?_⟩
    by_contra hshort
    rw [not_or, Bool.not_eq_true, not_le] at hshort
    exact moment?_short_ne hdate hyear hcomplete hshort.1 hshort.2 rfl hm hm'
  · have halike : Alike LaterYear (findings 2000 text) (findings 2400 text) :=
      hlater
    rw [hf, hf'] at halike
    cases halike with
    | ok hyear => exact absurd hm' (moment?_later_ne hyear hm)

end TimeWindow.Proofs.Reading.PivotYear

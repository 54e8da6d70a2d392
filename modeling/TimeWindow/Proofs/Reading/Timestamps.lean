import TimeWindow.Proofs.Calendar.Months
import TimeWindow.Proofs.Reading.DefaultDate
import TimeWindow.Proofs.Reading.WrittenForms

/-!
# Timestamps as a field reads them

Every reading of the calendar can be written so that a field takes the text for
it, with the offset zero or without an offset (`momentText_written`).
-/

namespace TimeWindow.Proofs.Reading.Timestamps

open TimeWindow.Text Calendar.Days Calendar.Months Calendar.Units
  DateMath.Decimal Number.Digits Occurrences Tokens WrittenForms DefaultDate

/-! ## Texts of a form are read -/

theorem digits?_append {n : Nat} {v : Int} {ds : List Char} (h : Digits n v ds)
    (rest : List Char) : Timestamp.digits? n (ds ++ rest) = some (v, rest) := by
  obtain ⟨hlength, hascii, hvalue⟩ := h
  unfold Timestamp.digits?
  rw [← hlength, List.take_left, List.drop_left, hvalue]
  simpa using hascii

theorem skip?_cons (c : Char) (rest : List Char) :
    Timestamp.skip? c (c :: rest) = some rest :=
  if_pos rfl

theorem readDate?_append {d : Date} {dt : List Char} (h : DateText d dt)
    (rest : List Char) :
    Timestamp.readDate? (dt ++ rest) = some (d, rest) := by
  obtain ⟨year, month, day⟩ := h
  unfold Timestamp.readDate?
  simp [digits?_append year, digits?_append month, digits?_append day, skip?_cons]

theorem fraction?_append {fraction rest : List Char} (hne : fraction ≠ [])
    (hascii : ∀ c ∈ fraction, isAsciiDigit c = true)
    (hrest : ∀ c ∈ rest.head?, isAsciiDigit c = false) :
    Timestamp.fraction? (fraction ++ rest) =
      some (↑(digitsValue ((fraction ++ List.replicate 6 '0').take 6)), rest) := by
  unfold Timestamp.fraction?
  rw [takeWhile_append hascii hrest]
  dsimp only
  rw [if_neg hne, List.drop_left]

theorem not_digit_of_ends {rest : List Char} (h : Ends rest) :
    ∀ c ∈ rest.head?, isAsciiDigit c = false := by
  intro c hc
  rw [Bool.eq_false_iff]
  intro hdigit
  have hlike := isDigitLike_of_isAsciiDigit hdigit
  rw [(h c hc).1] at hlike
  cases hlike

theorem secondsPart?_append {s micro : Int} {ss rest : List Char}
    (h : SecondsText s micro ss) (hrest : Ends rest) :
    Field.secondsPart? (ss ++ rest) = some (s, micro, rest) := by
  unfold Field.secondsPart?
  cases h with
  | whole second =>
    rw [digits?_append second]
    cases rest with
    | nil => rfl
    | cons c rest =>
      obtain ⟨-, hpoint, hcomma⟩ := hrest c rfl
      simp [hpoint, hcomma]
  | pointed second point filled ascii =>
    have hfraction := fraction?_append filled ascii (not_digit_of_ends hrest)
    rw [List.append_assoc, digits?_append second]
    rcases point with rfl | rfl <;> simp [hfraction]

theorem timePart?_append {c : ClockTime} {ct rest : List Char}
    (h : ClockText c ct) (hrest : Ends rest) (hcolon : rest.head? ≠ some ':') :
    Field.timePart? (ct ++ rest) = some (c, rest) := by
  unfold Field.timePart?
  cases h with
  | minutes hour minute =>
    cases rest with
    | nil =>
      have hminute := digits?_append minute []
      rw [List.append_nil] at hminute
      simp [digits?_append hour, hminute, skip?_cons]
    | cons c rest =>
      have hc : c ≠ ':' := fun hc => hcolon (by rw [hc]; rfl)
      simp [digits?_append hour, digits?_append minute, skip?_cons, hc]
  | seconds hour minute second =>
    simp [digits?_append hour, digits?_append minute, skip?_cons,
      secondsPart?_append second hrest]

/-! ## Numbers of a fixed width -/

theorem toList_padded {width : Nat} {n : Int} :
    (Timestamp.padded width n).toList =
      List.replicate (width - (Nat.toDigits 10 n.natAbs).length) '0' ++
        Nat.toDigits 10 n.natAbs := by
  unfold Timestamp.padded
  rw [String.toList_append, String.toList_ofList, ← String.length_toList,
    Nat.toString_eq_repr, Nat.toList_repr]

theorem digitsValue_zeros (count : Nat) (run : List Char) :
    digitsValue (List.replicate count '0' ++ run) = digitsValue run := by
  induction count with
  | zero => rfl
  | succ count ih => rw [List.replicate_succ, List.cons_append, ← ih]; rfl

theorem digits_padded {width : Nat} {n : Int} (hwidth : 0 < width)
    (hn : 0 ≤ n) (hlt : n < 10 ^ width) :
    Digits width n (Timestamp.padded width n).toList := by
  have hshort : (Nat.toDigits 10 n.natAbs).length ≤ width := by
    rw [Nat.length_toDigits_le_iff (by decide) hwidth]
    apply Int.ofNat_lt.1
    rw [Int.natAbs_of_nonneg hn]
    exact_mod_cast hlt
  rw [toList_padded]
  refine ⟨?_, fun c hc => ?_, ?_⟩
  · rw [List.length_append, List.length_replicate]
    omega
  · rcases List.mem_append.1 hc with hzero | hdigit
    · rw [List.eq_of_mem_replicate hzero]
      decide
    · exact isAsciiDigit_of_isDigit (isDigit_toDigits hdigit)
  · rw [digitsValue_zeros, digitsValue_toDigits, Int.natAbs_of_nonneg hn]

/-! ## Written readings -/

theorem dateText_date {d : Date} (h : d.isReal = true) :
    DateText d (Timestamp.date d).toList := by
  have hlength := (monthLength_bounds d.year d.month).2
  simp only [Date.isReal, Bool.and_eq_true, decide_eq_true_eq] at h
  obtain ⟨⟨⟨⟨⟨h₁, h₉⟩, hfirst⟩, hlast⟩, hday⟩, hend⟩ := h
  have hyear : Digits 4 d.year _ :=
    digits_padded (by decide) (by omega) (by omega)
  have hmonth : Digits 2 d.month _ :=
    digits_padded (by decide) (by omega) (by omega)
  have hday : Digits 2 d.day _ :=
    digits_padded (by decide) (by omega) (by omega)
  have htext : (Timestamp.date d).toList = (Timestamp.padded 4 d.year).toList ++
      '-' :: ((Timestamp.padded 2 d.month).toList ++
        '-' :: (Timestamp.padded 2 d.day).toList) := by
    simp [Timestamp.date]
  rw [htext]
  exact .mk hyear hmonth hday

theorem secondsText_seconds {s micro : Int} (hs : 0 ≤ s ∧ s < 60)
    (hmicro : 0 ≤ micro ∧ micro < 1000000) :
    SecondsText s micro ((Timestamp.padded 2 s).toList ++
      (if micro = 0 then "" else "." ++ Timestamp.padded 6 micro).toList) := by
  have hsecond : Digits 2 s _ := digits_padded (by decide) (by omega) (by omega)
  split
  · rename_i hzero
    rw [hzero]
    simpa using SecondsText.whole hsecond
  · have hfraction : Digits 6 micro _ :=
      digits_padded (by decide) hmicro.1 (by omega)
    have hpointed := SecondsText.pointed hsecond (.inl rfl)
      (List.ne_nil_of_length_pos (by rw [hfraction.length]; decide))
        hfraction.ascii
    rw [List.take_left' hfraction.length, ← hfraction.value] at hpointed
    simpa using hpointed

theorem clockText_time {c : ClockTime} (h : c.isReal = true) :
    ClockText c (Timestamp.time c).toList := by
  simp only [ClockTime.isReal, Bool.and_eq_true, decide_eq_true_eq] at h
  obtain ⟨⟨⟨⟨⟨⟨⟨h₁, h₂⟩, h₃⟩, h₄⟩, h₅⟩, h₆⟩, h₇⟩, h₈⟩ := h
  have hhour : Digits 2 c.hour _ := digits_padded (by decide) h₁ (by omega)
  have hminute : Digits 2 c.minute _ := digits_padded (by decide) h₃ (by omega)
  have htext :=
    ClockText.seconds hhour hminute (secondsText_seconds ⟨h₅, h₆⟩ ⟨h₇, h₈⟩)
  simpa [Timestamp.time] using htext

/-! ## Readings of the calendar -/

theorem isReal_date {w : Wall} (hw : w.inRange = true) :
    w.date.isReal = true := by
  obtain ⟨hfirst, hlast, hday, hend⟩ := date_proper w
  have hyears := inYears_monthNumber_iff.2 hw
  unfold InYears Date.monthNumber at hyears
  simp only [Date.isReal, Bool.and_eq_true, decide_eq_true_eq]
  omega

theorem isReal_time (w : Wall) : w.time.isReal = true := by
  have hbounds := sinceMidnight_bounds w
  unfold Wall.time ClockTime.ofTicks ClockTime.isReal
  simp only [Bool.and_eq_true, decide_eq_true_eq]
  unfold Calendar.day Calendar.hour Calendar.minute Calendar.second at *
  omega

theorem ticks_time (w : Wall) : w.time.ticks = w.sinceMidnight := by
  unfold Wall.time ClockTime.ofTicks ClockTime.ticks Calendar.hour
    Calendar.minute Calendar.second
  dsimp only
  omega

theorem of?_parts {w : Wall} (hw : w.inRange = true) :
    Wall.of? w.date w.time = some w := by
  unfold Wall.of?
  rw [isReal_date hw, isReal_time, ticks_time, onDate_date]
  rfl

theorem isNearDate_of_isReal {d : Date} (h : d.isReal = true) :
    Field.isNearDate d = true := by
  simp only [Date.isReal, Field.isNearDate, Bool.and_eq_true,
    decide_eq_true_eq] at h ⊢
  omega

/-- The text of a reading, with the mark of UTC or without an offset. -/
def written (w : Wall) (universal : Bool) : String :=
  Timestamp.wall "T" w ++ if universal then "Z" else ""

theorem momentText_written {w : Wall} (hw : w.inRange = true)
    (universal : Bool) :
    Field.momentText (written w universal) =
      .ok (if universal then .fixed (.ofUtc w) else .plain w) := by
  have hdate := dateText_date (isReal_date hw)
  have htime := clockText_time (isReal_time w)
  have htext : (written w universal).toList = (Timestamp.date w.date).toList ++
      'T' :: ((Timestamp.time w.time).toList ++ if universal then ['Z']
        else []) := by
    cases universal <;> simp [written, Timestamp.wall]
  have hwritten : Field.writtenMoment? (written w universal).toList =
      some (w.date, w.time, if universal then some 0 else none) := by
    unfold Field.writtenMoment?
    rw [htext, readDate?_append hdate]
    have hends : Ends (if universal then ['Z'] else []) := by
      cases universal
      · exact ends_nil
      · exact ends_cons [] (by decide) (by decide) (by decide)
    have hcolon : (if universal then ['Z'] else []).head? ≠ some ':' := by
      cases universal <;> decide
    have htimePart := timePart?_append htime hends hcolon
    have hoffset : Field.offsetPart? (if universal then ['Z'] else []) =
        some (if universal then some 0 else none) := by cases universal <;> rfl
    simp [htimePart, isNearDate_of_isReal (isReal_date hw), isReal_time, hoffset]
  unfold Field.momentText
  dsimp only
  rw [hwritten]
  dsimp only
  rw [of?_parts hw]
  cases universal <;> rfl

end TimeWindow.Proofs.Reading.Timestamps

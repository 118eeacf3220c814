import Stencil.Calendar.Pattern
import Stencil.Calendar.Reading
import Stencil.Proofs.FilledDigits
import Stencil.Proofs.IntegerConversion

/-!
Moments are read back from their texts. The text of a moment has no offset, and each part of it is
closed by a character that is no digit, so it is read part by part. What is lost on the way is the
fraction of a second, which is not written.
-/
namespace Stencil.Calendar

open Text Decimal

variable {low high n width : Nat} {s ds rest : List Char} {c : Char} {y : Int} {d : Date} {t : Time}
  {m : Moment}

/-- A text that does not go on with the number in front of it. -/
def EndsNumber (rest : List Char) : Prop := ∀ c ∈ rest.head?, isAsciiDigit c = false

theorem endsNumber_nil : EndsNumber [] := by
  intro c hc
  contradiction

theorem endsNumber_cons (h : isAsciiDigit c = false) : EndsNumber (c :: rest) := by
  intro c' hc
  obtain rfl := Option.some.inj hc
  exact h

/-! ### Parts -/

theorem takeWhile_take_of_endsNumber (h : EndsNumber rest) (n : Nat) :
    (rest.take n).takeWhile isAsciiDigit = [] := by
  cases rest with
  | nil => rw [List.take_nil, List.takeWhile_nil]
  | cons c rest =>
    have hc : isAsciiDigit c = false := h c rfl
    cases n with
    | zero => rfl
    | succ n => rw [List.take_succ_cons, List.takeWhile_cons, hc, if_neg Bool.false_ne_true]

/-- A number is taken as far as its digits go. -/
theorem takeNumber_append (hds : ∀ c ∈ ds, isAsciiDigit c = true) (hlow : low ≤ ds.length)
    (hhigh : ds.length ≤ high) (h : EndsNumber rest) :
    takeNumber low high (ds ++ rest) = some (digitsValue ds, rest) := by
  have hdigits : ((ds ++ rest).take high).takeWhile isAsciiDigit = ds := by
    rw [List.take_append, List.take_of_length_le hhigh, List.takeWhile_append_of_pos hds,
      takeWhile_take_of_endsNumber h, List.append_nil]
  simp only [takeNumber, hdigits, List.drop_left]
  rw [if_neg (by omega)]

theorem takeNumber_eq_none (hlow : 0 < low) (h : EndsNumber rest) :
    takeNumber low high rest = none := by
  simp only [takeNumber, takeWhile_take_of_endsNumber h, List.length_nil]
  rw [if_pos hlow]

theorem takeNumber_filled (hwidth : 0 < width) (hn : n < 10 ^ width) (h : EndsNumber rest) :
    takeNumber width width (filled width n ++ rest) = some (n, rest) := by
  have hlength := length_filled hwidth hn
  rw [takeNumber_append (fun _ => isAsciiDigit_of_mem_filled) (by omega) (by omega) h,
    digitsValue_filled]

theorem takeChar_self (c : Char) (s : List Char) : takeChar c (c :: s) = some ((), s) := by
  rw [takeChar, if_pos (beq_self_eq_true c)]

theorem exists_filled (width n : Nat) :
    ∃ c ds, filled width n = c :: ds ∧ isAsciiDigit c = true := by
  obtain ⟨c, ds, hcons⟩ := List.exists_cons_of_ne_nil (filled_ne_nil width n)
  have hmem : c ∈ filled width n := by
    rw [hcons]
    exact List.mem_cons_self
  exact ⟨c, ds, hcons, isAsciiDigit_of_mem_filled hmem⟩

theorem trimStart_cons (h : isBlank c = false) (s : List Char) : trimStart (c :: s) = c :: s := by
  rw [trimStart, List.dropWhile_cons, h, if_neg Bool.false_ne_true]

theorem trimStart_filled (width n : Nat) (rest : List Char) :
    trimStart (filled width n ++ rest) = filled width n ++ rest := by
  obtain ⟨c, ds, hcons, hc⟩ := exists_filled width n
  rw [hcons, List.cons_append, trimStart_cons (isBlank_of_isAsciiDigit hc)]

/-- A number of two digits, with or without a blank in front. -/
theorem takeField_filled (hn : n < 100) (h : EndsNumber rest) :
    takeField (filled 2 n ++ rest) = some (n, rest) ∧
      takeField (' ' :: (filled 2 n ++ rest)) = some (n, rest) := by
  have hlength : (filled 2 n).length = 2 := length_filled (by decide) hn
  have hnumber : takeNumber 1 2 (filled 2 n ++ rest) = some (n, rest) := by
    rw [takeNumber_append (fun _ => isAsciiDigit_of_mem_filled) (by omega) (by omega) h,
      digitsValue_filled]
  have hblank : trimStart (' ' :: (filled 2 n ++ rest)) = trimStart (filled 2 n ++ rest) :=
    trimStart_append (a := [' ']) (List.forall_mem_singleton.mpr (by decide)) _
  rw [takeField, takeField, hblank, trimStart_filled]
  exact ⟨hnumber, hnumber⟩

/-! ### Years -/

/-- A sign takes one place of the width. -/
theorem signed_zero (width : Nat) (alwaysSign : Bool) (k : Int) :
    ∃ sign, sign = (if k < 0 then ['-'] else if alwaysSign then ['+'] else []) ∧
      signed .zero width alwaysSign k = sign ++ filled (width - sign.length) k.natAbs := by
  refine ⟨_, rfl, ?_⟩
  simp only [signed, filled, Nat.sub_add_eq, List.append_assoc]

/-- A year from zero to 9999 is four digits, and any other year has a sign. -/
theorem yearText_cases (y : Int) :
    (0 ≤ y ∧ y < 10000 ∧ yearText .zero y = filled 4 y.toNat) ∨
      (y < 0 ∧ yearText .zero y = '-' :: filled 4 (-y).toNat) ∨
      (0 ≤ y ∧ yearText .zero y = '+' :: filled 4 y.toNat) := by
  rw [yearText]
  split
  · next h =>
    have habs : y.natAbs = y.toNat := by omega
    obtain ⟨sign, hsign, htext⟩ := signed_zero 4 false y
    rw [if_neg (by omega), if_neg Bool.false_ne_true] at hsign
    rw [htext, hsign, habs]
    exact .inl ⟨h.1, h.2, rfl⟩
  · next h =>
    obtain ⟨sign, hsign, htext⟩ := signed_zero 5 true y
    by_cases hneg : y < 0
    · have habs : y.natAbs = (-y).toNat := by omega
      rw [if_pos hneg] at hsign
      rw [htext, hsign, habs]
      exact .inr (.inl ⟨hneg, rfl⟩)
    · have habs : y.natAbs = y.toNat := by omega
      rw [if_neg hneg, if_pos rfl] at hsign
      rw [htext, hsign, habs]
      exact .inr (.inr ⟨by omega, rfl⟩)

/-- A signed year is taken with all of its digits. -/
theorem takeNumber_length (n : Nat) (h : EndsNumber rest) :
    takeNumber 1 (filled 4 n ++ rest).length (filled 4 n ++ rest) = some (n, rest) := by
  have hlength := le_length_filled 4 n
  rw [takeNumber_append (fun _ => isAsciiDigit_of_mem_filled) (by omega) _ h, digitsValue_filled]
  rw [List.length_append]
  omega

theorem takeYear_yearText (y : Int) (h : EndsNumber rest) :
    takeYear (yearText .zero y ++ rest) = some (y, rest) := by
  rcases yearText_cases y with ⟨hlow, hhigh, htext⟩ | ⟨hneg, htext⟩ | ⟨hlow, htext⟩
  · have hn : y.toNat < 10 ^ 4 := by omega
    have hlength : (filled 4 y.toNat).length = 4 := length_filled (by decide) hn
    have hnumber : takeNumber 1 4 (filled 4 y.toNat ++ rest) = some (y.toNat, rest) := by
      rw [takeNumber_append (fun _ => isAsciiDigit_of_mem_filled) (by omega) (by omega) h,
        digitsValue_filled]
    obtain ⟨c, ds, hcons, hc⟩ := exists_filled 4 y.toNat
    rw [htext, takeYear, trimStart_filled]
    split
    · next heq =>
      rw [hcons] at heq
      obtain ⟨rfl, -⟩ := List.cons.inj heq
      contradiction
    · next heq =>
      rw [hcons] at heq
      obtain ⟨rfl, -⟩ := List.cons.inj heq
      contradiction
    · rw [hnumber]
      exact congrArg some (Prod.ext (Int.toNat_of_nonneg hlow) rfl)
  · have hy : -(((-y).toNat : Nat) : Int) = y := by omega
    rw [htext, List.cons_append, takeYear, trimStart_cons (by decide)]
    show (takeNumber 1 (filled 4 (-y).toNat ++ rest).length (filled 4 (-y).toNat ++ rest)).map _ = _
    rw [takeNumber_length _ h]
    exact congrArg some (Prod.ext hy rfl)
  · rw [htext, List.cons_append, takeYear, trimStart_cons (by decide)]
    show (takeNumber 1 (filled 4 y.toNat ++ rest).length (filled 4 y.toNat ++ rest)).map _ = _
    rw [takeNumber_length _ h]
    exact congrArg some (Prod.ext (Int.toNat_of_nonneg hlow) rfl)

/-! ### Dates -/

theorem endsNumber_dash (rest : List Char) : EndsNumber ('-' :: rest) :=
  endsNumber_cons (by decide)

theorem endsNumber_colon (rest : List Char) : EndsNumber (':' :: rest) :=
  endsNumber_cons (by decide)

theorem endsNumber_space (rest : List Char) : EndsNumber (' ' :: rest) :=
  endsNumber_cons (by decide)

theorem dateText_append (d : Date) (rest : List Char) :
    dateText d ++ rest =
      yearText .zero d.year ++
        '-' :: (filled 2 d.month ++ '-' :: (filled 2 d.day ++ rest)) := by
  simp only [dateText, padded, filled, List.append_assoc, List.cons_append]

theorem daysInMonth_le (y : Int) (n : Nat) : daysInMonth y n ≤ 31 := by
  unfold daysInMonth
  split
  · split <;> decide
  all_goals decide

theorem Date.Valid.month_lt (hd : d.Valid) : d.month < 100 := by
  obtain ⟨-, -, -, hmonth, -, -⟩ := hd
  omega

theorem Date.Valid.day_lt (hd : d.Valid) : d.day < 100 := by
  obtain ⟨-, -, -, -, -, hday⟩ := hd
  have hmost := daysInMonth_le d.year d.month
  omega

/-- A date is read back from its text. -/
theorem takeDate_dateText (hd : d.Valid) (h : EndsNumber rest) :
    takeDate (dateText d ++ rest) = some (d, rest) := by
  have hof : Date.of? d.year d.month d.day = some d := if_pos hd
  rw [dateText_append]
  simp only [takeDate, takeYear_yearText _ (endsNumber_dash _), takeChar_self,
    (takeField_filled hd.month_lt (endsNumber_dash _)).1, (takeField_filled hd.day_lt h).1, hof,
    Option.bind_eq_bind, Option.bind_some]

/-! ### Times of day -/

/-- A time of day as the calendar has it: a leap second stands at the end of a minute. -/
structure Time.Proper (t : Time) : Prop where
  second_lt : t.second < secondsPerDay
  nanos_lt : t.nanos < 2 * nanosPerSecond
  leap : nanosPerSecond ≤ t.nanos → t.second % 60 = 59

/-- A time of day without its fraction of a second. -/
def Time.plain (t : Time) : Time := ⟨t.second, t.nanos / nanosPerSecond * nanosPerSecond⟩

theorem Time.of?_proper {hour minute second nanos : Nat}
    (h : Time.of? hour minute second nanos = some t) : t.Proper := by
  rw [Time.of?] at h
  have hpositive : 0 < nanosPerSecond := by decide
  split at h
  · contradiction
  · split at h
    · obtain rfl := Option.some.inj h
      exact ⟨by simp only [secondsPerDay]; omega, by dsimp only; omega, by dsimp only; omega⟩
    · split at h
      · obtain rfl := Option.some.inj h
        exact ⟨by simp only [secondsPerDay]; omega, by dsimp only; omega, by dsimp only; omega⟩
      · contradiction

/-- A time of day is read back from its text up to its fraction of a second. -/
theorem Time.of?_plain (ht : t.Proper) :
    Time.of? t.hour t.minute t.secondOfMinute 0 = some t.plain := by
  obtain ⟨hsecond, hnanos, hleap⟩ := ht
  have hrange : ¬ (24 ≤ t.hour ∨ 60 ≤ t.minute ∨ nanosPerSecond ≤ 0) := by
    simp only [Time.hour, Time.minute, nanosPerSecond]
    simp only [secondsPerDay] at hsecond
    omega
  have hclock : (t.hour * 60 + t.minute) * 60 + t.second % 60 = t.second := by
    simp only [Time.hour, Time.minute]
    omega
  rw [Time.of?, if_neg hrange, Time.plain]
  by_cases hpast : nanosPerSecond ≤ t.nanos
  · have hone : t.nanos / nanosPerSecond = 1 := Nat.div_eq_of_lt_le (by omega) (by omega)
    have hsixty : t.secondOfMinute = 60 := by rw [Time.secondOfMinute, hone, hleap hpast]
    rw [hsixty, if_neg (by decide), if_pos rfl, hone, ← hleap hpast, hclock]
    rfl
  · have hzero : t.nanos / nanosPerSecond = 0 := Nat.div_eq_of_lt (by omega)
    have hplain : t.secondOfMinute = t.second % 60 := by rw [Time.secondOfMinute, hzero]; rfl
    rw [hplain, if_pos (by omega), hclock, hzero, Nat.zero_mul]

theorem timeText_eq (t : Time) :
    timeText t =
      filled 2 t.hour ++
        ':' :: (filled 2 t.minute ++ ':' :: (filled 2 t.secondOfMinute ++ [])) := by
  simp only [timeText, padded, filled, List.append_assoc, List.cons_append, List.append_nil]

theorem Time.Proper.hour_lt (ht : t.Proper) : t.hour < 100 := by
  have hsecond := ht.second_lt
  simp only [secondsPerDay] at hsecond
  rw [Time.hour]
  omega

theorem Time.minute_lt (t : Time) : t.minute < 100 := by
  rw [Time.minute]
  omega

theorem Time.Proper.secondOfMinute_lt (ht : t.Proper) : t.secondOfMinute < 100 := by
  have hnanos := ht.nanos_lt
  simp only [nanosPerSecond] at hnanos
  rw [Time.secondOfMinute, nanosPerSecond]
  omega

theorem takeTime_timeText (ht : t.Proper) : takeTime (' ' :: timeText t) = some (t.plain, []) := by
  rw [timeText_eq]
  simp only [takeTime, takeChar_self, (takeField_filled ht.hour_lt (endsNumber_colon _)).2,
    (takeField_filled (Time.minute_lt t) (endsNumber_colon _)).1,
    (takeField_filled ht.secondOfMinute_lt endsNumber_nil).1, Time.of?_plain ht,
    Option.bind_eq_bind, Option.bind_some]

/-! ### Moments -/

/-- A date of the calendar, with a proper time of day if there is one. -/
def Moment.Proper : Moment → Prop
  | .date d => d.Valid
  | .dateTime dt => dt.date.Valid ∧ dt.time.Proper

/-- A moment without its fraction of a second. -/
def Moment.plain : Moment → Moment
  | .date d => .date d
  | .dateTime dt => .dateTime ⟨dt.date, dt.time.plain⟩

theorem trimStart_dateText (d : Date) (rest : List Char) :
    trimStart (dateText d ++ rest) = dateText d ++ rest := by
  rw [dateText_append]
  rcases yearText_cases d.year with ⟨-, -, htext⟩ | ⟨-, htext⟩ | ⟨-, htext⟩
  · rw [htext, trimStart_filled]
  · rw [htext]
    rfl
  · rw [htext]
    rfl

theorem trimEnd_filled (s : List Char) (n : Nat) : trimEnd (s ++ filled 2 n) = s ++ filled 2 n := by
  have hdigits : trim (filled 2 n) = filled 2 n :=
    trim_eq_self fun _ hc => isBlank_of_isAsciiDigit (isAsciiDigit_of_mem_filled hc)
  exact trimEnd_append_of_trim (filled_ne_nil 2 n) hdigits s

/-- The text of a moment starts with its year and ends with a number of two digits. -/
theorem trim_render (m : Moment) : trim m.render = m.render := by
  have hends : ∃ s n, m.render = s ++ filled 2 n := by
    cases m with
    | date d => exact ⟨yearText .zero d.year ++ '-' :: filled 2 d.month ++ ['-'], d.day, by
        simp only [Moment.render, dateText, padded, filled, List.append_assoc, List.cons_append,
          List.nil_append]⟩
    | dateTime dt => exact ⟨dateText dt.date ++ ' ' :: filled 2 dt.time.hour ++
          ':' :: filled 2 dt.time.minute ++ [':'], dt.time.secondOfMinute, by
        simp only [Moment.render, timeText, padded, filled, List.append_assoc, List.cons_append,
          List.nil_append]⟩
  have hstart : trimStart m.render = m.render := by
    cases m with
    | date d =>
      have htext := trimStart_dateText d []
      rwa [List.append_nil] at htext
    | dateTime dt => exact trimStart_dateText dt.date _
  obtain ⟨s, n, hs⟩ := hends
  rw [trim, hstart, hs, trimEnd_filled]

/-- A year is taken as four digits, unless it has a sign. -/
theorem takeNumber_yearText (y : Int) (rest : List Char) :
    takeNumber 4 4 (yearText .zero y ++ '-' :: rest) = none ∨
      (0 ≤ y ∧ takeNumber 4 4 (yearText .zero y ++ '-' :: rest) = some (y.toNat, '-' :: rest)) := by
  rcases yearText_cases y with ⟨hlow, hhigh, htext⟩ | ⟨-, htext⟩ | ⟨-, htext⟩
  · have hn : y.toNat < 10 ^ 4 := by omega
    rw [htext]
    exact .inr ⟨hlow, takeNumber_filled (by decide) hn (endsNumber_dash _)⟩
  · rw [htext]
    exact .inl (takeNumber_eq_none (by decide) (endsNumber_dash _))
  · rw [htext]
    exact .inl (takeNumber_eq_none (by decide) (endsNumber_cons (by decide)))

theorem takeFixedDate_dateText (hd : d.Valid) (h : EndsNumber rest) :
    takeFixedDate (dateText d ++ rest) = none ∨
      takeFixedDate (dateText d ++ rest) = some (d, rest) := by
  rw [dateText_append]
  rcases takeNumber_yearText d.year (filled 2 d.month ++ '-' :: (filled 2 d.day ++ rest)) with
    hyear | ⟨hlow, hyear⟩
  · left
    simp only [takeFixedDate, hyear, Option.bind_eq_bind, Option.bind_none]
  · right
    have hof : Date.of? d.year.toNat d.month d.day = some d := by
      rw [Int.toNat_of_nonneg hlow]
      exact if_pos hd
    simp only [takeFixedDate, hyear, takeChar_self,
      takeNumber_filled Nat.two_pos hd.month_lt (endsNumber_dash _),
      takeNumber_filled Nat.two_pos hd.day_lt h, hof, Option.bind_eq_bind, Option.bind_some]

theorem takeFixedTime_timeText (ht : t.Proper) :
    takeFixedTime (timeText t) = some (t.plain, []) := by
  rw [timeText_eq]
  simp only [takeFixedTime, takeChar_self,
    takeNumber_filled Nat.two_pos ht.hour_lt (endsNumber_colon _),
    takeNumber_filled Nat.two_pos (Time.minute_lt t) (endsNumber_colon _),
    takeNumber_filled Nat.two_pos ht.secondOfMinute_lt endsNumber_nil, takePointFraction,
    Time.of?_plain ht, Option.bind_eq_bind, Option.bind_some]

/-- The text of a moment has no offset. -/
theorem readWithOffset?_render (hm : m.Proper) : readWithOffset? m.render = none := by
  cases m with
  | date d =>
    have htext : (Moment.date d).render = dateText d ++ [] := (List.append_nil _).symm
    rw [htext, readWithOffset?]
    rcases takeFixedDate_dateText hm endsNumber_nil with hdate | hdate
    · rw [hdate]
      rfl
    · rw [hdate]
      rfl
  | dateTime dt =>
    obtain ⟨hd, ht⟩ := hm
    have htext : (Moment.dateTime dt).render = dateText dt.date ++ ' ' :: timeText dt.time := rfl
    rw [htext, readWithOffset?]
    rcases takeFixedDate_dateText hd (endsNumber_space _) with hdate | hdate
    · rw [hdate]
      rfl
    · have hoffset : takeOffset [] = none := rfl
      simp only [hdate, takeSeparator, takeFixedTime_timeText ht, hoffset, Option.bind_eq_bind,
        Option.bind_some, Option.bind_none]

/-- A moment is read back from its text, up to the fraction of a second, which is not written. -/
theorem read?_render (hm : m.Proper) : Moment.read? (trim m.render) = some m.plain := by
  rw [trim_render, Moment.read?, readWithOffset?_render hm]
  cases m with
  | date d =>
    have hdate : takeDate (dateText d) = some (d, []) := by
      rw [← List.append_nil (dateText d), takeDate_dateText hm endsNumber_nil]
    have htime : takeTime [] = none := rfl
    simp only [Moment.render, whole?, takeDateTime, hdate, htime, takeChar, Bool.false_eq_true,
      if_false, if_true, Option.bind_eq_bind, Option.bind_some, Option.map_none, Option.none_or,
      Option.bind_none, Option.map_some]
    rfl
  | dateTime dt =>
    obtain ⟨hd, ht⟩ := hm
    have hdate := takeDate_dateText hd (endsNumber_space (timeText dt.time))
    simp only [Moment.render, whole?, takeDateTime, hdate, takeTime_timeText ht,
      Bool.false_eq_true, if_false, Option.bind_eq_bind, Option.bind_some, Option.map_none,
      Option.none_or, Option.map_some, Option.some_or]
    rfl

/-! ### What is read is proper -/

theorem Date.of?_valid {month day : Nat} (h : Date.of? y month day = some d) : d.Valid := by
  rw [Date.of?] at h
  split at h
  · next hd => exact Option.some.inj h ▸ hd
  · contradiction

theorem takeDate_valid (h : takeDate s = some (d, rest)) : d.Valid := by
  simp only [takeDate, Option.bind_eq_bind, Option.bind_eq_some_iff] at h
  obtain ⟨_, -, _, -, _, -, _, -, _, -, _, hof, heq⟩ := h
  obtain ⟨rfl, -⟩ := Prod.mk.inj (Option.some.inj heq)
  exact Date.of?_valid hof

theorem takeTime_proper (h : takeTime s = some (t, rest)) : t.Proper := by
  simp only [takeTime, Option.bind_eq_bind, Option.bind_eq_some_iff] at h
  obtain ⟨_, -, _, -, _, -, _, -, _, -, _, hof, heq⟩ := h
  obtain ⟨rfl, -⟩ := Prod.mk.inj (Option.some.inj heq)
  exact Time.of?_proper hof

theorem takeFixedDate_valid (h : takeFixedDate s = some (d, rest)) : d.Valid := by
  simp only [takeFixedDate, Option.bind_eq_bind, Option.bind_eq_some_iff] at h
  obtain ⟨_, -, _, -, _, -, _, -, _, -, _, hof, heq⟩ := h
  obtain ⟨rfl, -⟩ := Prod.mk.inj (Option.some.inj heq)
  exact Date.of?_valid hof

theorem takeFixedTime_proper (h : takeFixedTime s = some (t, rest)) : t.Proper := by
  simp only [takeFixedTime, Option.bind_eq_bind, Option.bind_eq_some_iff] at h
  obtain ⟨_, -, _, -, _, -, _, -, _, -, _, -, _, hof, heq⟩ := h
  obtain ⟨rfl, -⟩ := Prod.mk.inj (Option.some.inj heq)
  exact Time.of?_proper hof

theorem readWithOffset?_proper {dt : DateTime} (h : readWithOffset? s = some dt) :
    dt.date.Valid ∧ dt.time.Proper := by
  simp only [readWithOffset?, Option.bind_eq_bind, Option.bind_eq_some_iff] at h
  obtain ⟨_, hdate, _, -, _, htime, _, -, heq⟩ := h
  split at heq
  · obtain rfl := Option.some.inj heq
    exact ⟨takeFixedDate_valid hdate, takeFixedTime_proper htime⟩
  · contradiction

theorem takeDateTime_proper {separated : Bool} {dt : DateTime}
    (h : takeDateTime separated s = some (dt, rest)) : dt.date.Valid ∧ dt.time.Proper := by
  simp only [takeDateTime, Option.bind_eq_bind, Option.bind_eq_some_iff] at h
  obtain ⟨_, hdate, h⟩ := h
  split at h
  all_goals
    simp only [Option.bind_eq_some_iff] at h
    obtain ⟨_, -, _, htime, heq⟩ := h
    obtain ⟨rfl, -⟩ := Prod.mk.inj (Option.some.inj heq)
    exact ⟨takeDate_valid hdate, takeTime_proper htime⟩

theorem whole?_eq_some {α : Type} {take : Take α} {a : α} (h : whole? take s = some a) :
    take s = some (a, []) := by
  rw [whole?] at h
  split at h
  · next hs => rw [hs, Option.some.inj h]
  · contradiction

/-- Every shape of text names a moment of the calendar. -/
theorem read?_proper (h : Moment.read? s = some m) : m.Proper := by
  simp only [Moment.read?, Option.or_eq_some_iff, Option.map_eq_some_iff] at h
  rcases h with ⟨dt, hdt, rfl⟩ | ⟨-, ⟨dt, hdt, rfl⟩ | ⟨-, ⟨dt, hdt, rfl⟩ | ⟨-, d, hd, rfl⟩⟩⟩
  · exact readWithOffset?_proper hdt
  · exact takeDateTime_proper (whole?_eq_some hdt)
  · exact takeDateTime_proper (whole?_eq_some hdt)
  · exact takeDate_valid (whole?_eq_some hd)

end Stencil.Calendar

import Stencil.Calendar.Date

/-!
Day numbers and their dates. The year of a day is found by an estimate and the month by a search,
and both leave a rest that lies within what they found, so the date of a day number is a date of
the calendar, and its day number is the one it comes from.
-/
namespace Stencil.Calendar

variable {y : Int} {n left m : Nat} {d e : Date} {k : Int}

theorem daysBeforeMonth_succ (hm : 1 ≤ m) :
    daysBeforeMonth y (m + 1) = daysBeforeMonth y m + daysInMonth y m := by
  cases m with
  | zero => contradiction
  | succ m => rfl

/-- The months of a year have as many days as the year. -/
theorem daysBeforeMonth_thirteen (y : Int) : daysBeforeMonth y 13 = daysInYear y := by
  simp only [daysBeforeMonth, daysInMonth, daysInYear]
  split <;> rfl

/-- A day of a year that lies in or behind a month is found from there on, as a day of a month. -/
theorem monthOfDay_spec (n : Nat) (hm : 1 ≤ m) (hleft : m + left = 12)
    (hn : daysBeforeMonth y m + n < daysInYear y) :
    1 ≤ (monthOfDay y n left m).1 ∧ (monthOfDay y n left m).1 ≤ 12 ∧
      1 ≤ (monthOfDay y n left m).2 ∧
      (monthOfDay y n left m).2 ≤ daysInMonth y (monthOfDay y n left m).1 ∧
      daysBeforeMonth y (monthOfDay y n left m).1 + (monthOfDay y n left m).2 =
        daysBeforeMonth y m + n + 1 := by
  induction left generalizing n m with
  | zero =>
    obtain rfl : m = 12 := hleft
    have hyear := daysBeforeMonth_thirteen y
    rw [daysBeforeMonth_succ hm] at hyear
    simp only [monthOfDay]
    omega
  | succ left ih =>
    have hsucc := daysBeforeMonth_succ (y := y) hm
    rw [monthOfDay]
    split
    · dsimp only
      omega
    · obtain ⟨hlow, hhigh, hday, hlast, hsum⟩ :=
        ih (n - daysInMonth y m) (m := m + 1) (by omega) (by omega) (by omega)
      exact ⟨hlow, hhigh, hday, hlast, by omega⟩

/-- A month of a year and a day of it. -/
structure Date.InYear (d : Date) : Prop where
  month_pos : 1 ≤ d.month
  month_le : d.month ≤ 12
  day_pos : 1 ≤ d.day
  day_le : d.day ≤ daysInMonth d.year d.month

/-- A day number is that of its date. -/
theorem ofDayNumber_spec (k : Int) :
    (Date.ofDayNumber k).InYear ∧ (Date.ofDayNumber k).dayNumber = k := by
  obtain ⟨hlow, hhigh⟩ := yearOfDay_bounds (k + epochDay)
  rw [daysBeforeYear_succ] at hhigh
  have hfirst : daysBeforeMonth (yearOfDay (k + epochDay)) 1 = 0 := rfl
  obtain ⟨hmonth, hmonth', hday, hlast, hsum⟩ :=
    monthOfDay_spec (k + epochDay - daysBeforeYear (yearOfDay (k + epochDay))).toNat
      (Nat.le_refl 1) (show 1 + 11 = 12 from rfl) (y := yearOfDay (k + epochDay)) (by omega)
  refine ⟨⟨hmonth, hmonth', hday, hlast⟩, ?_⟩
  have hday : (Date.ofDayNumber k).dayOfYear =
      (k + epochDay - daysBeforeYear (yearOfDay (k + epochDay))).toNat + 1 := by
    rw [hfirst, Nat.zero_add] at hsum
    exact hsum
  show daysBeforeYear (yearOfDay (k + epochDay)) + (Date.ofDayNumber k).dayOfYear - 1 - epochDay = k
  omega

theorem Date.ofDayNumber?_spec (h : Date.ofDayNumber? k = some d) :
    d.Valid ∧ d.dayNumber = k := by
  obtain ⟨hyear, hnumber⟩ := ofDayNumber_spec k
  rw [Date.ofDayNumber?] at h
  split at h
  · next hrange =>
    obtain rfl := Option.some.inj h
    exact ⟨⟨hrange.1, hrange.2, hyear.month_pos, hyear.month_le, hyear.day_pos, hyear.day_le⟩,
      hnumber⟩
  · contradiction

/-- Going on by some days gives a date of the calendar that is so many days away. -/
theorem Date.addDays?_spec (h : d.addDays? k = some e) :
    e.Valid ∧ e.dayNumber = d.dayNumber + k :=
  Date.ofDayNumber?_spec h

end Stencil.Calendar

import Stencil.Library.Dates
import Stencil.Proofs.DayNumbers
import Stencil.Proofs.MomentReading

/-!
Moving a date by days and counting the days that it was moved by. The text of the moved date names
the new moment up to its fraction of a second, and only whole days are counted, so that a day moved
forward is lost where a fraction of a second is.
-/
namespace Stencil.Calendar

variable {a b m e : Moment} {d : Date} {t s : Time} {n : Int}

/-! ### Days between moments -/

theorem Time.since_comm (t s : Time) : s.since t = -(t.since s) := by
  unfold Time.since nanosPerSecond
  dsimp only
  split <;> split <;> omega

theorem DateTime.since_comm (a b : DateTime) : b.since a = -(a.since b) := by
  have htime := Time.since_comm a.time b.time
  simp only [DateTime.since, htime, secondsPerDay, nanosPerSecond]
  omega

/-- The days between two moments are the same in both directions, but for the sign. -/
theorem Moment.daysBetween_comm (a b : Moment) : b.daysBetween a = -(a.daysBetween b) := by
  rw [Moment.daysBetween, Moment.daysBetween, DateTime.since_comm, Int.neg_tdiv]

/-- Nanoseconds of a moment behind its second. -/
def Moment.fraction (m : Moment) : Nat := m.toDateTime.time.fraction

/-- Days as they are counted from a moment to the text of the moment so many days away. -/
def Moment.countedDays (m : Moment) (n : Int) : Int := if 0 < n ∧ 0 < m.fraction then n - 1 else n

theorem Time.since_plain (t : Time) : t.plain.since t = -(t.fraction : Int) := by
  have hsplit := Nat.div_add_mod t.nanos nanosPerSecond
  rw [Nat.mul_comm] at hsplit
  simp only [Time.since, Time.plain, Time.fraction, lt_self_iff_false, false_and, if_false]
  omega

theorem Moment.toDateTime_plain (m : Moment) :
    m.plain.toDateTime = ⟨m.toDateTime.date, m.toDateTime.time.plain⟩ := by
  cases m with
  | date d =>
    have hmidnight : Time.midnight.plain = .midnight := by decide
    show DateTime.mk d .midnight = ⟨d, Time.midnight.plain⟩
    rw [hmidnight]
  | dateTime dt => rfl

/-- Days less a part of a day, cut off toward zero. -/
theorem tdiv_days {f day : Int} (hlow : 0 ≤ f) (hhigh : f < day) :
    (n * day - f).tdiv day = if 0 < n ∧ 0 < f then n - 1 else n := by
  have hday : day ≠ 0 := by omega
  by_cases hn : 0 < n
  · have hless : n * day - f = (day - f) + (n - 1) * day := by rw [Int.sub_mul]; omega
    have hpositive : 0 ≤ n * day - f := by
      have hproduct : 0 ≤ (n - 1) * day := Int.mul_nonneg (by omega) (by omega)
      omega
    rw [Int.tdiv_eq_ediv_of_nonneg hpositive]
    split
    · rw [hless, Int.add_mul_ediv_right _ _ hday, Int.ediv_eq_zero_of_lt (by omega) (by omega),
        Int.zero_add]
    · obtain rfl : f = 0 := by omega
      rw [Int.sub_zero, Int.mul_ediv_cancel _ hday]
  · have hnegated : n * day - f = -(f + -n * day) := by rw [Int.neg_mul]; omega
    have hpositive : 0 ≤ f + -n * day := Int.add_nonneg hlow (Int.mul_nonneg (by omega) (by omega))
    rw [if_neg fun h => hn h.1, hnegated, Int.neg_tdiv, Int.tdiv_eq_ediv_of_nonneg hpositive,
      Int.add_mul_ediv_right _ _ hday, Int.ediv_eq_zero_of_lt hlow hhigh, Int.zero_add, Int.neg_neg]

/-- The days to a moment whose date is so many days away and whose time of day is the same, but for
the fraction of a second. -/
theorem Moment.daysBetween_plain
    (hdate : e.toDateTime.date.dayNumber = m.toDateTime.date.dayNumber + n)
    (htime : e.toDateTime.time = m.toDateTime.time) : m.daysBetween e.plain = m.countedDays n := by
  have hfraction : (m.fraction : Int) < secondsPerDay * nanosPerSecond :=
    Int.lt_trans (Int.ofNat_lt.mpr (Nat.mod_lt _ (by decide))) (by decide)
  have hdays : m.toDateTime.date.dayNumber + n - m.toDateTime.date.dayNumber = n := by omega
  rw [Moment.daysBetween, Moment.toDateTime_plain, htime]
  simp only [DateTime.since, hdate, hdays, Time.since_plain, ← Int.sub_eq_add_neg]
  rw [← Moment.fraction, tdiv_days (Int.natCast_nonneg _) hfraction, Moment.countedDays]
  simp only [Int.natCast_pos]

/-- Whether a moment has a time of day. -/
def Moment.isTimed : Moment → Bool
  | .date _ => false
  | .dateTime _ => true

/-- What a move of the date does to a moment. -/
theorem Moment.mapDate?_spec {f : Date → Option Date} (h : m.mapDate? f = some e) :
    f m.toDateTime.date = some e.toDateTime.date ∧
      e.toDateTime.time = m.toDateTime.time ∧ e.isTimed = m.isTimed := by
  cases m with
  | date d =>
    obtain ⟨d', hd', rfl⟩ := Option.map_eq_some_iff.mp h
    exact ⟨hd', rfl, rfl⟩
  | dateTime dt =>
    obtain ⟨d', hd', rfl⟩ := Option.map_eq_some_iff.mp h
    exact ⟨hd', rfl, rfl⟩

theorem Moment.mapDate?_proper {f : Date → Option Date} (hm : m.Proper)
    (h : m.mapDate? f = some e) (hdate : e.toDateTime.date.Valid) : e.Proper := by
  cases m with
  | date d =>
    obtain ⟨d', -, rfl⟩ := Option.map_eq_some_iff.mp h
    exact hdate
  | dateTime dt =>
    obtain ⟨d', -, rfl⟩ := Option.map_eq_some_iff.mp h
    exact ⟨hdate, hm.2⟩

theorem DateTime.ofTimestamp?_proper {dt : DateTime} (h : DateTime.ofTimestamp? n = some dt) :
    dt.date.Valid ∧ dt.time.Proper := by
  obtain ⟨d, hd, heq⟩ := Option.bind_eq_some_iff.mp h
  obtain rfl := Option.some.inj heq
  have hsecond : n % secondsPerDay < secondsPerDay := Int.emod_lt_of_pos n (by decide)
  have hpositive : 0 ≤ n % secondsPerDay := Int.emod_nonneg n (by decide)
  have hnanos : ¬ nanosPerSecond ≤ 0 := by decide
  exact ⟨(Date.ofDayNumber?_spec hd).1, by dsimp only; omega, by dsimp only; omega,
    fun h => absurd h hnanos⟩

end Stencil.Calendar

namespace Stencil.Library.Dates

open Calendar

variable {v r : Value} {m : Moment} {n : Int64}

theorem moment?_proper (h : moment? v = some m) : m.Proper := by
  cases v with
  | number x =>
    obtain ⟨k, -, h⟩ := Option.bind_eq_some_iff.mp h
    obtain ⟨dt, hdt, heq⟩ := Option.bind_eq_some_iff.mp h
    obtain rfl := Option.some.inj heq
    exact DateTime.ofTimestamp?_proper hdt
  | string s => exact read?_proper h
  | _ => contradiction

theorem addDays_eq (hm : moment? v = some m) (n : Int64) :
    addDays [v, .int n] =
      match m.mapDate? (addDaysTo n.toInt) with
      | some e => .ok (.ofChars e.render)
      | none => complain .dateOutOfRange := by
  have harity : checkArity (.exactly 2) [v, .int n] = .ok () := rfl
  have hfirst : arg [v, .int n] 0 = v := rfl
  have hamount : intArg [v, .int n] 1 0 = .ok n := rfl
  rw [addDays, shift, harity]
  simp only [hfirst, hm, hamount, bind, Except.bind]
  rfl

/-- Moving a date by days writes the moved moment. -/
theorem addDays_spec (hm : moment? v = some m) (hr : addDays [v, .int n] = .ok r) :
    n.toInt.natAbs < dayShiftLimit ∧
      ∃ e : Moment, m.mapDate? (·.addDays? n.toInt) = some e ∧ r = .ofChars e.render := by
  rw [addDays_eq hm] at hr
  by_cases hlimit : n.toInt.natAbs < dayShiftLimit
  · have hmove : addDaysTo n.toInt = (·.addDays? n.toInt) := funext fun d => if_pos hlimit
    rw [hmove] at hr
    split at hr
    · next e he => exact ⟨hlimit, e, he, (Except.ok.inj hr).symm⟩
    · contradiction
  · have hmove : addDaysTo n.toInt = fun _ => none := funext fun d => if_neg hlimit
    have hnone : m.mapDate? (fun _ => none) = none := by cases m <;> rfl
    rw [hmove, hnone] at hr
    contradiction

theorem diffDays_eq {w : Value} {e : Moment} (hm : moment? v = some m) (he : moment? w = some e) :
    diffDays [v, w] = .ok (.number (.ofInt (m.daysBetween e))) := by
  have harity : checkArity (.exactly 2) [v, w] = .ok () := rfl
  have hfirst : arg [v, w] 0 = v := rfl
  have hsecond : arg [v, w] 1 = w := rfl
  rw [diffDays, harity]
  simp only [hfirst, hsecond, hm, he, bind, Except.bind]
  rfl

/-- A whole number of days that a date can be moved by is an integer. -/
theorem exists_int {k : Int} (h : k.natAbs ≤ dayShiftLimit) :
    ∃ i : Int64, i.toInt = k ∧ Number.ofInt k = .int i ∧ Number.ofInt (-k) = .int (-i) := by
  have hlimit : dayShiftLimit = 2147483648 := rfl
  have hmin : Int64.minValue.toInt = -9223372036854775808 := rfl
  have hmax : Int64.maxValue.toInt = 9223372036854775807 := rfl
  have hi : (Int64.ofInt k).toInt = k := Int64.toInt_ofInt_of_le (by omega) (by omega)
  have hneg : (-Int64.ofInt k).toInt = -k := by
    rw [Int64.toInt_neg, hi]
    exact Int.bmod_eq_of_le (by omega) (by omega)
  exact ⟨_, hi, by rw [← hi, Value.ofInt_toInt, hi], by rw [← hneg, Value.ofInt_toInt]⟩

theorem natAbs_countedDays_le {k : Int} (m : Moment) (h : k.natAbs < dayShiftLimit) :
    (m.countedDays k).natAbs ≤ dayShiftLimit := by
  rw [Moment.countedDays]
  split <;> omega

/-- A date that is moved by days is a date of the same shape, and the days to it are those that it
was moved by, in the other direction negated. Where the date has a fraction of a second, which the
moved one has lost, a day less is counted if it was moved forward. -/
theorem addDays_diffDays (hm : moment? v = some m) (hr : addDays [v, .int n] = .ok r) :
    ∃ (e : Moment) (k : Int64), moment? r = some e ∧ e.isTimed = m.isTimed ∧
      k.toInt = (if 0 < n.toInt ∧ 0 < m.fraction then n.toInt - 1 else n.toInt) ∧
      diffDays [v, r] = .ok (.int k) ∧ diffDays [r, v] = .ok (.int (-k)) := by
  obtain ⟨hlimit, e, he, rfl⟩ := addDays_spec hm hr
  obtain ⟨hdate, htime, htimed⟩ := Moment.mapDate?_spec he
  obtain ⟨hvalid, hnumber⟩ := Date.addDays?_spec hdate
  have hproper := Moment.mapDate?_proper (moment?_proper hm) he hvalid
  have hread : moment? (.ofChars e.render) = some e.plain := by
    show Moment.read? (Text.trim (String.ofList e.render).toList) = some e.plain
    rw [String.toList_ofList, read?_render hproper]
  have hplain : e.plain.isTimed = e.isTimed := by cases e <;> rfl
  obtain ⟨k, hk, hforward, hback⟩ := exists_int (natAbs_countedDays_le m hlimit)
  refine ⟨e.plain, k, hread, hplain.trans htimed, hk, ?_, ?_⟩
  · rw [diffDays_eq hm hread, Moment.daysBetween_plain hnumber htime, hforward]
    rfl
  · rw [diffDays_eq hread hm, Moment.daysBetween_comm, Moment.daysBetween_plain hnumber htime,
      hback]
    rfl

/-- Sixty days from the last second of a year, which has a fraction, to the end of a February. -/
theorem addDays_diffDays_newYear :
    let v := Value.string " 2023-12-31T23:59:60.999-05:00"
    let r := Value.string "2024-02-29 23:59:60"
    ∃ m, moment? v = some m ∧ addDays [v, .int 60] = .ok r ∧
      ∃ (e : Moment) (k : Int64), moment? r = some e ∧ e.isTimed = m.isTimed ∧
        k.toInt = (if 0 < (60 : Int64).toInt ∧ 0 < m.fraction then (60 : Int64).toInt - 1
          else (60 : Int64).toInt) ∧
        diffDays [v, r] = .ok (.int k) ∧ diffDays [r, v] = .ok (.int (-k)) := by
  intro v r
  have hm : moment? v = some (.dateTime ⟨⟨2023, 12, 31⟩, ⟨86399, 1999000000⟩⟩) := by decide +kernel
  have hr : addDays [v, .int 60] = .ok r := by
    have htext : String.ofList (Moment.dateTime ⟨⟨2024, 2, 29⟩, ⟨86399, 1999000000⟩⟩).render =
        "2024-02-29 23:59:60" := by
      decide +kernel
    rw [addDays_eq hm]
    exact congrArg (fun s => Except.ok (Value.string s)) htext
  exact ⟨_, hm, hr, addDays_diffDays hm hr⟩

/-- A day later is not a day away where the fraction of a second is lost. -/
theorem diffDays_addDays_ne :
    ¬ ∀ (v r : Value) (m : Moment) (n : Int64), moment? v = some m → addDays [v, .int n] = .ok r →
      (∃ e, moment? r = some e ∧ e.isTimed = m.isTimed) ∧
        diffDays [v, r] = .ok (.int n) ∧ diffDays [r, v] = .ok (.int (-n)) := by
  intro h
  have hm : moment? (.string "2024-01-01T00:00:00.5Z") =
      some (.dateTime ⟨⟨2024, 1, 1⟩, ⟨0, 500000000⟩⟩) := by decide +kernel
  have he : moment? (.string "2024-01-02 00:00:00") =
      some (.dateTime ⟨⟨2024, 1, 2⟩, ⟨0, 0⟩⟩) := by decide +kernel
  have htext : String.ofList (Moment.dateTime ⟨⟨2024, 1, 2⟩, ⟨0, 500000000⟩⟩).render =
      "2024-01-02 00:00:00" := by
    decide +kernel
  have hr : addDays [.string "2024-01-01T00:00:00.5Z", .int 1] =
      .ok (.string "2024-01-02 00:00:00") := by
    rw [addDays_eq hm]
    exact congrArg (fun s => Except.ok (Value.string s)) htext
  obtain ⟨-, hdiff, -⟩ := h _ _ _ 1 hm hr
  have hdays : diffDays [.string "2024-01-01T00:00:00.5Z", .string "2024-01-02 00:00:00"] =
      .ok (.int 0) := by
    rw [diffDays_eq hm he]
    rfl
  rw [hdays] at hdiff
  have hzero := Number.int.inj (Value.number.inj (Except.ok.inj hdiff))
  contradiction

end Stencil.Library.Dates

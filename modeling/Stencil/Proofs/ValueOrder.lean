import Stencil.Value.Equality
import Stencil.Proofs.WholeFloats

/-!
The order of values. Two values are compared the same way from both sides, and equality of numbers,
strings, booleans and nulls is that of the order. The order is transitive but for one case: integers
are compared exactly with each other and as floats with a float, so a float that stands between two
integers which both round to it is equal to both. Such a triple is the only one that breaks the
order or the equality of numbers.
-/
namespace Stencil

open Decimal

namespace Number

variable {a b c : Number} {m n : Int64} {x : Float}

/-- The place of a number in the order of floats. The value that is not a number has none. -/
def place? (n : Number) : Option Int := orderKey n.toFloat

theorem place?_int (n : Int64) : (int n).place? = some (integerKey n.toInt) :=
  orderKey_ofInt n.le_toInt n.toInt_lt

/-- Two numbers compare, and the first is not the greater one. -/
def AtMost (a b : Number) : Prop := a.compare? b = some .lt ∨ a.compare? b = some .eq

def IsFloat (a : Number) : Prop := ∃ x, a = .float x

/-- The integer compares as equal to the float. -/
def Blurs (n : Int64) (x : Float) : Prop := (int n).compare? (.float x) = some .eq

theorem compare?_of_isFloat (h : a.IsFloat ∨ b.IsFloat) :
    a.compare? b = a.place?.bind fun i => b.place?.bind fun j => some (compare i j) := by
  rcases h with ⟨x, rfl⟩ | ⟨x, rfl⟩
  · rfl
  · cases a <;> rfl

theorem ints_or_isFloat (a b : Number) :
    (∃ m n, a = .int m ∧ b = .int n) ∨ a.IsFloat ∨ b.IsFloat := by
  cases a with
  | float x => exact .inr (.inl ⟨x, rfl⟩)
  | int m =>
    cases b with
    | float x => exact .inr (.inr ⟨x, rfl⟩)
    | int n => exact .inl ⟨m, n, rfl, rfl⟩

theorem compare?_swap (a b : Number) : b.compare? a = (a.compare? b).map Ordering.swap := by
  rcases ints_or_isFloat a b with ⟨m, n, rfl, rfl⟩ | h
  · exact congrArg some (Int.compare_swap m.toInt n.toInt).symm
  · rw [compare?_of_isFloat h, compare?_of_isFloat h.symm]
    cases a.place? with
    | none => cases b.place? <;> rfl
    | some i =>
      cases b.place? with
      | none => rfl
      | some j => exact congrArg some (Int.compare_swap i j).symm

theorem compare_le_iff (i j : Int) :
    (some (compare i j) = some Ordering.lt ∨ some (compare i j) = some Ordering.eq) ↔ i ≤ j := by
  rw [Option.some.injEq, Option.some.injEq, Int.compare_eq_lt, Int.compare_eq_eq]
  omega

theorem atMost_int : (int m).AtMost (int n) ↔ m.toInt ≤ n.toInt :=
  compare_le_iff m.toInt n.toInt

theorem atMost_of_isFloat (h : a.IsFloat ∨ b.IsFloat) :
    a.AtMost b ↔ ∃ i j, a.place? = some i ∧ b.place? = some j ∧ i ≤ j := by
  rw [AtMost, compare?_of_isFloat h]
  cases a.place? with
  | none => simp
  | some i =>
    cases b.place? with
    | none => simp
    | some j =>
      show (some (compare i j) = some .lt ∨ some (compare i j) = some .eq) ↔ _
      rw [compare_le_iff]
      constructor
      · intro hle
        exact ⟨i, j, rfl, rfl, hle⟩
      · rintro ⟨_, _, hi, hj, hle⟩
        rwa [Option.some.inj hi, Option.some.inj hj]

/-- Numbers that compare have places in that order, also if both are integers. -/
theorem AtMost.places (h : a.AtMost b) :
    ∃ i j, a.place? = some i ∧ b.place? = some j ∧ i ≤ j := by
  rcases ints_or_isFloat a b with ⟨m, n, rfl, rfl⟩ | hfloat
  · exact ⟨_, _, place?_int m, place?_int n, integerKey_mono (atMost_int.mp h)⟩
  · exact (atMost_of_isFloat hfloat).mp h

theorem blurs_iff : Blurs n x ↔ (float x).place? = some (integerKey n.toInt) := by
  rw [Blurs, compare?_of_isFloat (.inr ⟨x, rfl⟩), place?_int]
  cases (float x).place? with
  | none => simp
  | some i =>
    show some (compare _ i) = some .eq ↔ _
    rw [Option.some.injEq, Option.some.injEq, Int.compare_eq_eq]
    exact eq_comm

theorem Blurs.swap (h : Blurs n x) : (float x).compare? (int n) = some .eq := by
  rw [compare?_swap, h]
  rfl

/-- A triple breaks the order only if a float stands between two integers in the wrong order that
both round to it. -/
theorem not_atMost_trans_iff (a b c : Number) :
    (a.AtMost b ∧ b.AtMost c ∧ ¬ a.AtMost c) ↔
      ∃ m n x, a = .int m ∧ b = .float x ∧ c = .int n ∧ n < m ∧ Blurs m x ∧ Blurs n x := by
  constructor
  · rintro ⟨hab, hbc, hac⟩
    obtain ⟨i, j, hi, hj, hij⟩ := hab.places
    obtain ⟨j', k, hj', hk, hjk⟩ := hbc.places
    obtain rfl : j = j' := Option.some.inj (hj.symm.trans hj')
    rcases ints_or_isFloat a c with ⟨m, n, rfl, rfl⟩ | hfloat
    · rw [atMost_int] at hac
      cases b with
      | int l =>
        have hml := atMost_int.mp hab
        have hln := atMost_int.mp hbc
        omega
      | float x =>
        -- The integers are in the wrong order and their places in the right one: one place.
        rw [place?_int, Option.some.injEq] at hi hk
        have hback : integerKey n.toInt ≤ integerKey m.toInt := integerKey_mono (by omega)
        have hm : j = integerKey m.toInt := by omega
        have hn : j = integerKey n.toInt := by omega
        refine ⟨m, n, x, rfl, rfl, rfl, ?_, ?_, ?_⟩
        · rw [Int64.lt_iff_toInt_lt]
          omega
        · rw [blurs_iff, hj, hm]
        · rw [blurs_iff, hj, hn]
    · have hplaces : a.AtMost c :=
        (atMost_of_isFloat hfloat).mpr ⟨i, k, hi, hk, Int.le_trans hij hjk⟩
      exact absurd hplaces hac
  · rintro ⟨m, n, x, rfl, rfl, rfl, hlt, hm, hn⟩
    refine ⟨.inr hm, .inr hn.swap, ?_⟩
    rw [Int64.lt_iff_toInt_lt] at hlt
    rw [atMost_int]
    omega

theorem beq_iff : (a == b) = true ↔ a.compare? b = some .eq := by
  show (a.compare? b == some .eq) = true ↔ _
  rw [beq_iff_eq]

/-- Numbers that are at most each other are equal. -/
theorem AtMost.antisymm (h : a.AtMost b) (hback : b.AtMost a) : (a == b) = true := by
  rw [beq_iff]
  rcases h with hlt | heq
  · rw [AtMost, compare?_swap a b, hlt] at hback
    rcases hback with hback | hback <;> exact absurd (Option.some.inj hback) (by decide)
  · exact heq

theorem AtMost.of_beq (h : (a == b) = true) : a.AtMost b ∧ b.AtMost a := by
  rw [beq_iff] at h
  refine ⟨.inr h, .inr ?_⟩
  rw [compare?_swap a b, h]
  rfl

/-- Equality of numbers fails to be transitive at such triples only, in whichever order. -/
theorem not_beq_trans_iff (a b c : Number) :
    ((a == b) = true ∧ (b == c) = true ∧ (a == c) = false) ↔
      ∃ m n x, a = .int m ∧ b = .float x ∧ c = .int n ∧ m ≠ n ∧ Blurs m x ∧ Blurs n x := by
  constructor
  · rintro ⟨hab, hbc, hac⟩
    obtain ⟨hab, hba⟩ := AtMost.of_beq hab
    obtain ⟨hbc, hcb⟩ := AtMost.of_beq hbc
    by_cases hle : a.AtMost c
    · have hnot : ¬ c.AtMost a := by
        intro hback
        rw [hle.antisymm hback] at hac
        contradiction
      obtain ⟨n, m, x, rfl, rfl, rfl, hlt, hn, hm⟩ :=
        (not_atMost_trans_iff c b a).mp ⟨hcb, hba, hnot⟩
      refine ⟨m, n, x, rfl, rfl, rfl, ?_, hm, hn⟩
      rintro rfl
      exact absurd hlt (Int64.lt_irrefl)
    · obtain ⟨m, n, x, rfl, rfl, rfl, hlt, hm, hn⟩ :=
        (not_atMost_trans_iff a b c).mp ⟨hab, hbc, hle⟩
      refine ⟨m, n, x, rfl, rfl, rfl, ?_, hm, hn⟩
      rintro rfl
      exact absurd hlt (Int64.lt_irrefl)
  · rintro ⟨m, n, x, rfl, rfl, rfl, hne, hm, hn⟩
    refine ⟨beq_iff.mpr hm, beq_iff.mpr hn.swap, ?_⟩
    rw [← Bool.not_eq_true, beq_iff]
    intro heq
    apply hne
    rw [← Int64.toInt_inj, ← Int.compare_eq_eq]
    exact Option.some.inj heq

end Number

namespace Value

variable {a b c : Value}

/-- Two values compare, and the first is not the greater one. -/
def AtMost (a b : Value) : Prop := a.compare? b = some .lt ∨ a.compare? b = some .eq

instance : Decidable (a.AtMost b) := inferInstanceAs (Decidable (_ ∨ _))

/-- A value of a kind that has an order. -/
def IsOrdered (v : Value) : Prop := v.kind ∈ [.null, .boolean, .number, .string]

theorem compare?_swap (a b : Value) : b.compare? a = (a.compare? b).map Ordering.swap := by
  cases a <;> cases b
  case number.number a b => exact Number.compare?_swap a b
  case string.string a b => exact congrArg some Std.OrientedCmp.eq_swap
  case bool.bool a b => exact congrArg some Std.OrientedCmp.eq_swap
  all_goals rfl

/-- Equality is that of the order, where there is one. -/
theorem compare?_eq_iff (a b : Value) :
    a.compare? b = some .eq ↔ (a.IsOrdered ∧ b.IsOrdered) ∧ (a == b) = true := by
  show _ ↔ _ ∧ beq a b = true
  cases a <;> cases b <;> simp [compare?, beq, IsOrdered, kind, Number.beq_iff]

/-- Values compare within a kind. -/
theorem AtMost.cases (h : a.AtMost b) :
    (∃ m n, a = .number m ∧ b = .number n ∧ m.AtMost n) ∨
      (∃ s t, a = .string s ∧ b = .string t ∧ (compare s t).isLE = true) ∨
      (∃ x y, a = .bool x ∧ b = .bool y ∧ (compare x y).isLE = true) ∨
      (a = .null ∧ b = .null) := by
  cases a <;> cases b <;>
    simp_all [AtMost, compare?, Number.AtMost, Ordering.isLE_iff_eq_lt_or_eq_eq]

theorem atMost_string {s t : String} :
    (string s).AtMost (string t) ↔ (compare s t).isLE = true := by
  simp [AtMost, compare?, Ordering.isLE_iff_eq_lt_or_eq_eq]

theorem atMost_bool {x y : Bool} : (bool x).AtMost (bool y) ↔ (compare x y).isLE = true := by
  simp [AtMost, compare?, Ordering.isLE_iff_eq_lt_or_eq_eq]

/-- A triple breaks the order of values only if it is one of numbers that does. -/
theorem not_atMost_trans_iff (a b c : Value) :
    (a.AtMost b ∧ b.AtMost c ∧ ¬ a.AtMost c) ↔
      ∃ m n x, a = .int m ∧ b = .float x ∧ c = .int n ∧
        n < m ∧ Number.Blurs m x ∧ Number.Blurs n x := by
  constructor
  · rintro ⟨hab, hbc, hac⟩
    rcases hab.cases with ⟨p, q, rfl, rfl, hpq⟩ | ⟨s, t, rfl, rfl, hst⟩ | ⟨x, y, rfl, rfl, hxy⟩ |
      ⟨rfl, rfl⟩
    · rcases hbc.cases with ⟨_, r, heq, rfl, hqr⟩ | ⟨_, _, heq, _⟩ | ⟨_, _, heq, _⟩ | ⟨heq, _⟩ <;>
        cases heq
      obtain ⟨m, n, x, rfl, rfl, rfl, h⟩ := (Number.not_atMost_trans_iff p q r).mp ⟨hpq, hqr, hac⟩
      exact ⟨m, n, x, rfl, rfl, rfl, h⟩
    · rcases hbc.cases with ⟨_, _, heq, _⟩ | ⟨_, u, heq, rfl, htu⟩ | ⟨_, _, heq, _⟩ | ⟨heq, _⟩ <;>
        cases heq
      exact absurd (atMost_string.mpr (Std.TransCmp.isLE_trans hst htu)) hac
    · rcases hbc.cases with ⟨_, _, heq, _⟩ | ⟨_, _, heq, _⟩ | ⟨_, z, heq, rfl, hyz⟩ | ⟨heq, _⟩ <;>
        cases heq
      exact absurd (atMost_bool.mpr (Std.TransCmp.isLE_trans hxy hyz)) hac
    · rcases hbc.cases with ⟨_, _, heq, _⟩ | ⟨_, _, heq, _⟩ | ⟨_, _, heq, _⟩ | ⟨_, rfl⟩
      · nomatch heq
      · nomatch heq
      · nomatch heq
      · exact absurd hbc hac
  · rintro ⟨m, n, x, rfl, rfl, rfl, h⟩
    exact (Number.not_atMost_trans_iff _ _ _).mpr ⟨m, n, x, rfl, rfl, rfl, h⟩

/-- The order of values and their equality, with the triples that break the order. -/
theorem compare?_laws (a b c : Value) (p q r : Number) :
    b.compare? a = (a.compare? b).map Ordering.swap ∧
    (a.compare? b = some .eq ↔ (a.IsOrdered ∧ b.IsOrdered) ∧ (a == b) = true) ∧
    ((a.AtMost b ∧ b.AtMost c ∧ ¬ a.AtMost c) ↔
      ∃ m n x, a = .int m ∧ b = .float x ∧ c = .int n ∧
        n < m ∧ Number.Blurs m x ∧ Number.Blurs n x) ∧
    (((p == q) = true ∧ (q == r) = true ∧ (p == r) = false) ↔
      ∃ m n x, p = .int m ∧ q = .float x ∧ r = .int n ∧
        m ≠ n ∧ Number.Blurs m x ∧ Number.Blurs n x) :=
  ⟨compare?_swap a b, compare?_eq_iff a b, not_atMost_trans_iff a b c,
    Number.not_beq_trans_iff p q r⟩

/-- A float between the first integer that is rounded and the one it is rounded to. -/
theorem not_atMost_of_blurred :
    (int 9007199254740993).AtMost (float 9007199254740992) ∧
      (float 9007199254740992).AtMost (int 9007199254740992) ∧
      ¬ (int 9007199254740993).AtMost (int 9007199254740992) ∧
      (Number.int 9007199254740993 == .float 9007199254740992) = true ∧
      (Number.float 9007199254740992 == .int 9007199254740992) = true ∧
      (Number.int 9007199254740993 == .int 9007199254740992) = false := by
  decide +kernel

end Value

end Stencil

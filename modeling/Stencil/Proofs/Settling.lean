import Stencil.Render.Engine

/-!
How many passes a text takes. A text that a pass does not change is settled at once, and a text that
one pass changes into such a text is settled after it; what ends a pass ends the settling.
-/
namespace Stencil.Engine

open Render

variable (e : Engine) {pass : List Char → RenderResult (List Char)} {s t : List Char}

theorem settle_of_unchanged (left : Nat) (h : pass s = .ok s) : e.settle pass left s = .ok s := by
  unfold settle
  rw [h]
  simp [bind, Except.bind, pure, Except.pure]

theorem settle_of_changed (left : Nat) (h : pass s = .ok t) (hne : t ≠ s) :
    e.settle pass (left + 1) s = e.settle pass left t := by
  have hbeq : (t == s) = false := beq_eq_false_iff_ne.mpr hne
  conv => left; unfold settle
  simp [h, bind, Except.bind, hbeq]

theorem settle_of_error {f : Fault RenderError} (left : Nat) (h : pass s = .error f) :
    e.settle pass left s = .error f := by
  unfold settle
  rw [h]
  rfl

/-- One pass that can change the text is enough where the next one changes nothing. -/
theorem settle_of_stable {left : Nat} (hleft : 0 < left) (hs : pass s = .ok t)
    (ht : pass t = .ok t) : e.settle pass left s = .ok t := by
  by_cases hne : t = s
  · subst hne
    exact e.settle_of_unchanged left hs
  · obtain ⟨left, rfl⟩ := Nat.exists_eq_succ_of_ne_zero (Nat.pos_iff_ne_zero.mp hleft)
    rw [e.settle_of_changed left hs hne, e.settle_of_unchanged left ht]

/-- What settling ends with is not changed by another pass. -/
theorem pass_of_settle {left : Nat} (h : e.settle pass left s = .ok t) : pass t = .ok t := by
  induction left generalizing s with
  | zero =>
    unfold settle at h
    cases hs : pass s with
    | error f => simp [hs, bind, Except.bind] at h
    | ok next =>
      by_cases hnext : next = s
      · subst hnext
        have hst : next = t := by simpa [hs, bind, Except.bind, pure, Except.pure] using h
        rwa [← hst]
      · simp [hs, bind, Except.bind, hnext] at h
  | succ left ih =>
    cases hs : pass s with
    | error f => simp [e.settle_of_error _ hs] at h
    | ok next =>
      by_cases hnext : next = s
      · subst hnext
        rw [e.settle_of_unchanged _ hs] at h
        rwa [← Except.ok.inj h]
      · rw [e.settle_of_changed left hs hnext] at h
        exact ih h

theorem maxPasses_pos : 0 < max e.config.maxPasses 1 :=
  Nat.lt_of_lt_of_le Nat.zero_lt_one (Nat.le_max_right ..)

theorem renderWithin_succ (levels : Nat) (scope : Scope) (s : List Char) :
    e.renderWithin (levels + 1) scope s =
      (e.settle (e.pass (e.renderWithin levels) scope) (max e.config.maxPasses 1) s).bind
        (e.interpolated scope) := rfl

/-- One level of rendering: a stable pass and the values of what is left. -/
theorem renderWithin_of_stable {levels : Nat} {scope : Scope}
    (hs : e.pass (e.renderWithin levels) scope s = .ok t)
    (ht : e.pass (e.renderWithin levels) scope t = .ok t) :
    e.renderWithin (levels + 1) scope s = e.interpolated scope t := by
  rw [renderWithin_succ, e.settle_of_stable e.maxPasses_pos hs ht]
  rfl

theorem renderWithin_of_error {levels : Nat} {scope : Scope} {f : Fault RenderError}
    (h : e.pass (e.renderWithin levels) scope s = .error f) :
    e.renderWithin (levels + 1) scope s = .error f := by
  rw [renderWithin_succ, e.settle_of_error _ h]
  rfl

end Stencil.Engine

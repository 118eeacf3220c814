/-!
Texts computed piece by piece and put together. The first piece that fails is the failure of the
whole; otherwise the texts stand in the order of the pieces.
-/
namespace Stencil

variable {α ε : Type}

/-- The texts of pieces, one behind the other. -/
def concatM (f : α → Except ε (List Char)) (l : List α) : Except ε (List Char) := do
  let texts ← l.mapM f
  return texts.flatten

theorem map_nil_append (x : Except ε (List Char)) : x.map (fun s => [] ++ s) = x := by
  cases x <;> rfl

theorem map_append_map (a b : List Char) (x : Except ε (List Char)) :
    (x.map (b ++ ·)).map (a ++ ·) = x.map (a ++ b ++ ·) := by
  cases x <;> simp [Except.map]

theorem map_append_comm (a b : List Char) (x : Except ε (List Char)) :
    (x.map (a ++ ·)).map (· ++ b) = (x.map (· ++ b)).map (a ++ ·) := by
  cases x <;> simp [Except.map]

theorem bind_append_comm (b : List Char) (x y : Except ε (List Char)) :
    (x.bind fun a => y.map (a ++ ·)).map (· ++ b) =
      x.bind fun a => (y.map (· ++ b)).map (a ++ ·) := by
  cases x with
  | error e => rfl
  | ok a => exact map_append_comm a b y

theorem bind_eq_ok {β : Type} {x : Except ε α} {f : α → Except ε β} {b : β} :
    x >>= f = .ok b ↔ ∃ a, x = .ok a ∧ f a = .ok b := by
  cases x <;> simp [bind, Except.bind]

theorem map_eq_ok {β : Type} {x : Except ε α} {f : α → β} {b : β} :
    x.map f = .ok b ↔ ∃ a, x = .ok a ∧ f a = b := by
  cases x <;> simp [Except.map]

theorem concatM_nil (f : α → Except ε (List Char)) : concatM f [] = .ok [] := rfl

theorem concatM_cons (f : α → Except ε (List Char)) (a : α) (l : List α) :
    concatM f (a :: l) = (f a).bind fun text => (concatM f l).map (text ++ ·) := by
  rw [concatM, concatM, List.mapM_cons]
  cases f a with
  | error e => rfl
  | ok text => cases l.mapM f <;> rfl

theorem concatM_singleton (f : α → Except ε (List Char)) (a : α) : concatM f [a] = f a := by
  rw [concatM_cons, concatM_nil]
  cases f a <;> simp [Except.bind, Except.map]

theorem concatM_map {β : Type} (f : β → Except ε (List Char)) (g : α → β) (l : List α) :
    concatM f (l.map g) = concatM (fun a => f (g a)) l := by
  rw [concatM, concatM, List.mapM_map]
  rfl

/-- The first of the pieces and the others have a text if all have one. -/
theorem concatM_cons_eq_ok {f : α → Except ε (List Char)} {a : α} {l : List α} {out : List Char} :
    concatM f (a :: l) = .ok out ↔
      ∃ text rest, f a = .ok text ∧ concatM f l = .ok rest ∧ out = text ++ rest := by
  rw [concatM_cons]
  cases f a with
  | error e => simp [Except.bind]
  | ok text => cases concatM f l <;> simp [Except.bind, Except.map, eq_comm]

/-- Texts that pieces have stay theirs under a rule that agrees with the old one where that has a
text. -/
theorem concatM_eq_ok_of_imp {f g : α → Except ε (List Char)} {l : List α} {out : List Char}
    (hfg : ∀ a ∈ l, ∀ text, f a = .ok text → g a = .ok text) (h : concatM f l = .ok out) :
    concatM g l = .ok out := by
  induction l generalizing out with
  | nil => exact h
  | cons a l ih =>
    obtain ⟨text, rest, htext, hrest, rfl⟩ := concatM_cons_eq_ok.mp h
    exact concatM_cons_eq_ok.mpr ⟨text, rest, hfg a (List.mem_cons_self ..) text htext,
      ih (fun b hb => hfg b (List.mem_cons_of_mem _ hb)) hrest, rfl⟩

/-- Pieces that all have a text. -/
theorem concatM_eq_ok {f : α → Except ε (List Char)} {g : α → List Char} {l : List α}
    (h : ∀ a ∈ l, f a = .ok (g a)) :
    concatM f l = .ok (l.flatMap g) := by
  induction l with
  | nil => rfl
  | cons a l ih =>
    rw [concatM_cons, h a (List.mem_cons_self ..), ih fun b hb => h b (List.mem_cons_of_mem _ hb)]
    rfl

end Stencil

import Stencil.Expr.Eval

/-!
Evaluation where nothing that can be called aborts. Then no expression aborts, and since every error
is taken for a path, every text has a value in every scope.
-/
namespace Stencil.Expr

/-- No helper and no function value aborts. -/
structure Environment.Total (env : Environment) : Prop where
  helpers : ∀ name f, env.registry.find? name = some f → ∀ args text, f args ≠ .error (.abort text)
  host : ∀ handle args text, env.host handle args ≠ .error (.abort text)

/-- A result or an error, but no abort. -/
def Settles {ε α : Type} (r : Except (Fault ε) α) : Prop := ∀ text, r ≠ .error (.abort text)

theorem settles_ok {ε α : Type} (a : α) : Settles (.ok a : Except (Fault ε) α) := by
  intro text h
  simp at h

theorem Settles.bind {ε α β : Type} {r : Except (Fault ε) α} {f : α → Except (Fault ε) β}
    (hr : Settles r) (hf : ∀ a, Settles (f a)) : Settles (r >>= f) := by
  intro text h
  cases r with
  | ok a => exact hf a text h
  | error fault =>
    cases fault with
    | error cause => simp [Bind.bind, Except.bind] at h
    | abort text' => exact hr text' rfl

theorem settles_mapError {ε δ α : Type} (f : ε → Fault δ) (hf : ∀ cause text, f cause ≠ .abort text)
    (r : Except ε α) : Settles (r.mapError f) := by
  intro text h
  cases r with
  | ok a => nomatch h
  | error cause => exact hf cause text (Except.error.inj h)

theorem settles_operated (r : Except EvalError Value) : Settles (operated r) :=
  settles_mapError Fault.error (fun _ _ h => by simp at h) r

theorem settles_invoke {result : Except (Fault HelperError) Value} (name : String)
    (h : Settles result) : Settles (invoke name result) := by
  intro text heq
  cases result with
  | ok v => nomatch heq
  | error fault =>
    cases fault with
    | error cause => nomatch Except.error.inj heq
    | abort text' => exact h text' rfl

namespace Environment.Total

variable {env : Environment}

theorem settles_call (henv : env.Total) (scope : Scope) (name : String) (args : List Value) :
    Settles (call env scope name args) := by
  unfold call
  split
  · next f hf => exact settles_invoke name (henv.helpers name f hf args)
  · split
    · exact settles_invoke name (henv.host _ args)
    · exact settles_ok _

theorem settles_callMethod (henv : env.Total) (receiver : Value) (name : String)
    (args : List Value) :
    Settles (callMethod env receiver name args) := by
  unfold callMethod
  split
  · exact settles_invoke name (settles_mapError Fault.error (fun _ _ h => by simp at h) _)
  · split
    · exact settles_invoke name (henv.host _ args)
    · split
      · next f hf => exact settles_invoke name (henv.helpers name f hf _)
      · intro text h
        simp at h

mutual

theorem settles_eval (henv : env.Total) (scope : Scope) (t : Tree) :
    Settles (eval env scope t) := by
  cases t with
  | literal v => rw [eval]; exact settles_ok v
  | var name => rw [eval]; exact settles_ok _
  | array items =>
    rw [eval]
    exact (henv.settles_evalAll scope items).bind fun _ => settles_ok _
  | object entries =>
    rw [eval]
    exact (henv.settles_evalEntries scope entries).bind fun _ => settles_ok _
  | member target name =>
    rw [eval]
    exact (henv.settles_eval scope target).bind fun _ => settles_ok _
  | index target position =>
    rw [eval]
    exact (henv.settles_eval scope target).bind fun _ =>
      (henv.settles_eval scope position).bind fun _ => settles_ok _
  | call name args =>
    rw [eval]
    exact (henv.settles_evalAll scope args).bind fun _ => henv.settles_call scope name _
  | method receiver name args =>
    rw [eval]
    exact (henv.settles_eval scope receiver).bind fun _ =>
      (henv.settles_evalAll scope args).bind fun _ => henv.settles_callMethod _ name _
  | unary op operand =>
    rw [eval]
    exact (henv.settles_eval scope operand).bind fun _ => settles_operated _
  | binary op left right =>
    have hl := henv.settles_eval scope left
    have hr := henv.settles_eval scope right
    cases op
    case and =>
      rw [eval]
      refine hl.bind fun l => ?_
      split
      · exact hr
      · exact settles_ok l
    case or =>
      rw [eval]
      refine hl.bind fun l => ?_
      split
      · exact settles_ok l
      · exact hr
    all_goals
      rw [eval]
      · exact hl.bind fun _ => hr.bind fun _ => settles_operated _
      all_goals simp
  | ternary condition yes no =>
    rw [eval]
    refine (henv.settles_eval scope condition).bind fun c => ?_
    split
    · exact henv.settles_eval scope yes
    · exact henv.settles_eval scope no
  | coalesce left right =>
    rw [eval]
    refine (henv.settles_eval scope left).bind fun l => ?_
    split
    · exact henv.settles_eval scope right
    · exact settles_ok l

theorem settles_evalAll (henv : env.Total) (scope : Scope) (ts : List Tree) :
    Settles (evalAll env scope ts) := by
  cases ts with
  | nil => rw [evalAll]; exact settles_ok _
  | cons t ts =>
    rw [evalAll]
    exact (henv.settles_eval scope t).bind fun _ =>
      (henv.settles_evalAll scope ts).bind fun _ => settles_ok _

theorem settles_evalEntries (henv : env.Total) (scope : Scope) (ts : List (String × Tree)) :
    Settles (evalEntries env scope ts) := by
  match ts with
  | [] => rw [evalEntries]; exact settles_ok _
  | (name, t) :: ts =>
    rw [evalEntries]
    exact (henv.settles_eval scope t).bind fun _ =>
      (henv.settles_evalEntries scope ts).bind fun _ => settles_ok _

end

/-- Every text has a value. -/
theorem exists_evaluate (henv : env.Total) (scope : Scope) (source : String) :
    ∃ v, evaluate env scope source = .ok v := by
  have hs : Settles (tryEvaluate env scope source) := by
    unfold tryEvaluate
    dsimp only
    split
    · exact settles_ok _
    · split
      · exact henv.settles_eval scope _
      · intro text h
        simp at h
  unfold evaluate
  split
  · next v _ => exact ⟨v, rfl⟩
  · exact ⟨_, rfl⟩
  · next text h => exact absurd h (hs text)

end Environment.Total

/-- Nothing to call. -/
def Environment.bare : Environment := ⟨Registry.empty, fun _ _ => .ok .null⟩

theorem Environment.bare_total : Environment.bare.Total := by
  refine ⟨fun name f hf => ?_, fun handle args text h => ?_⟩
  · simp [Environment.bare, Registry.empty, Registry.find?, Record.get?] at hf
  · simp [Environment.bare] at h

end Stencil.Expr

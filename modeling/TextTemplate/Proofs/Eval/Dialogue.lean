import TextTemplate.Proofs.Eval.Closures

/-!
# Evaluations as dialogues

An evaluation meets closures only by calling them, one after the other, and it ends with the first
call that halts. `Dialogue` says so of anything that is computed from a way to call closures.
`Scope.eval_segments_dialogue` shows that the evaluator is such a computation. Its consequences are
that more answers to calls never change a value (`Dialogue.mono`), and that an evaluation without an
answer has made a call without one (`Dialogue.exists_unanswered`).
-/

namespace TextTemplate

/-- A call of a closure, as a step of an evaluation. -/
structure Invocation where
  closure : Closure
  args : List Value
  origin : Origin

namespace Invocation

/-- What a way to call closures answers to the call. -/
def answer (call : Invocation) (invoke : Invoke) : Except Halt Value :=
  invoke call.closure call.args call.origin

/-- Every closure that takes part in the call satisfies `P`. -/
def Every (P : Closure → Prop) (call : Invocation) : Prop :=
  call.closure.Every P ∧ ∀ arg ∈ call.args, arg.Every P

end Invocation

namespace Invoke

/-- Calls of closures with `P` have values with `P`. -/
def Keeps (P : Closure → Prop) (invoke : Invoke) : Prop :=
  ∀ call : Invocation, call.Every P → ∀ value, call.answer invoke = .ok value → value.Every P

/-- `more` answers a call of closures with `P` as `less` does, if `less` answers it. -/
def Extends (P : Closure → Prop) (less more : Invoke) : Prop :=
  ∀ call : Invocation, call.Every P → call.answer less ≠ .error .exhausted →
    call.answer more = call.answer less

open Classical in
/-- Answers one call with a halt and all others as before. -/
noncomputable def halting (invoke : Invoke) (call : Invocation) (halt : Halt) : Invoke :=
  fun closure args origin =>
    if (⟨closure, args, origin⟩ : Invocation) = call then .error halt
    else invoke closure args origin

/-- The halted call is halted. -/
theorem answer_halting_self (invoke : Invoke) (call : Invocation) (halt : Halt) :
    call.answer (invoke.halting call halt) = .error halt :=
  if_pos rfl

/-- Other calls are answered as before. -/
theorem answer_halting_of_ne {call other : Invocation} (h : other ≠ call) (invoke : Invoke)
    (halt : Halt) : other.answer (invoke.halting call halt) = other.answer invoke :=
  if_neg h

end Invoke

variable {ε α β : Type}

/-- A computation makes a call, where calls are answered by `invoke`, if every way to halt the call
halts the computation. -/
def Makes (run : Invoke → Except Halt α) (invoke : Invoke) (call : Invocation) : Prop :=
  ∀ halt, run (invoke.halting call halt) = .error halt

/-- The computation only calls closures with `P` on values with `P`, one after the other, passes on
the first halt as the error `wrap halt`, and has a result with `Q` if all calls have values with
`P`. -/
inductive Dialogue (P : Closure → Prop) (wrap : Halt → ε) (Q : α → Prop) :
    (Invoke → Except ε α) → Prop where
  | settled (result : Except ε α) :
      (∀ value, result = .ok value → Q value) → result ≠ .error (wrap .exhausted) →
      Dialogue P wrap Q fun _ => result
  | asked (call : Invocation) (next : Value → Invoke → Except ε α) :
      call.Every P → (∀ value, value.Every P → Dialogue P wrap Q (next value)) →
      Dialogue P wrap Q fun invoke =>
        match call.answer invoke with
        | .ok value => next value invoke
        | .error halt => .error (wrap halt)

namespace Dialogue

variable {P : Closure → Prop} {wrap : Halt → ε} {Q : α → Prop} {R : β → Prop}

/-- A value with `Q` is a dialogue without calls. -/
theorem value {result : α} (h : Q result) : Dialogue P wrap Q fun _ => .ok result :=
  settled _ (fun _ heq => Except.ok.inj heq ▸ h) nofun

/-- An error that is not exhaustion is a dialogue without calls. -/
theorem error {reason : ε} (h : reason ≠ wrap .exhausted) :
    Dialogue P wrap Q fun _ => .error reason :=
  settled _ nofun fun heq => h (Except.error.inj heq)

/-- A fault is a dialogue without calls. -/
theorem fault (reason : EvalError) : Dialogue P id Q fun _ => .error (.fault reason) :=
  error nofun

/-- What is computed next from the result of a dialogue continues the dialogue. -/
theorem bind {run : Invoke → Except ε α} {next : α → Invoke → Except ε β}
    (hrun : Dialogue P wrap Q run) (hnext : ∀ value, Q value → Dialogue P wrap R (next value)) :
    Dialogue P wrap R fun invoke => run invoke >>= fun value => next value invoke := by
  induction hrun with
  | settled result hresult hne =>
      cases result with
      | ok value => exact hnext value (hresult value rfl)
      | error reason => exact error fun heq => hne (heq ▸ rfl)
  | asked call inner hcall _ ih =>
      convert asked call (fun value invoke => inner value invoke >>= fun v => next v invoke)
        hcall ih using 2 with invoke
      dsimp only
      cases call.answer invoke <;> rfl

/-- The result of a dialogue has its property if the calls keep theirs. -/
theorem keeps {run : Invoke → Except ε α} (hrun : Dialogue P wrap Q run) {invoke : Invoke}
    (hinvoke : invoke.Keeps P) {value : α} (h : run invoke = .ok value) : Q value := by
  induction hrun with
  | settled result hresult _ => exact hresult value h
  | asked call next hcall _ ih =>
      cases hanswer : call.answer invoke with
      | ok answer =>
          simp only [hanswer] at h
          exact ih answer (hinvoke call hcall answer hanswer) h
      | error halt =>
          simp only [hanswer] at h
          cases h

/-- More answers to calls do not change what has been computed. -/
theorem mono {run : Invoke → Except ε α} (hrun : Dialogue P wrap Q run) {less more : Invoke}
    (hless : less.Keeps P) (hmore : less.Extends P more)
    (h : run less ≠ .error (wrap .exhausted)) : run more = run less := by
  induction hrun with
  | settled => rfl
  | asked call next hcall _ ih =>
      cases hanswer : call.answer less with
      | ok answer =>
          have hsame := hmore call hcall (by simp [hanswer])
          simp only [hanswer] at h
          simp only [hsame, hanswer]
          exact ih answer (hless call hcall answer hanswer) h
      | error halt =>
          simp only [hanswer] at h
          have hne : halt ≠ .exhausted := fun heq => h (heq ▸ rfl)
          have hsame := hmore call hcall (by simpa [hanswer] using hne)
          simp only [hsame, hanswer]

/-- A call that a dialogue makes is one of closures with `P`. -/
theorem every_of_makes {run : Invoke → Except Halt α} (hrun : Dialogue P id Q run)
    {invoke : Invoke} (hinvoke : invoke.Keeps P) {call : Invocation}
    (h : Makes run invoke call) : call.Every P := by
  induction hrun with
  | settled result _ _ =>
      -- A result that does not depend on answers would be two faults at once.
      have hfirst : result = .error (.fault .missingFunctionName) := h _
      have hsecond : result = .error (.fault (.lambdaArity 0)) := h _
      rw [hfirst] at hsecond
      cases hsecond
  | asked first next hfirst _ ih =>
      by_cases heq : first = call
      · exact heq ▸ hfirst
      · -- The first call is answered as before, so the call is made behind it.
        have hother : ∀ halt, first.answer (invoke.halting call halt) = first.answer invoke :=
          fun halt => invoke.answer_halting_of_ne heq halt
        cases hanswer : first.answer invoke with
        | ok answer =>
            refine ih answer (hinvoke first hfirst answer hanswer) fun halt => ?_
            have hhalt := h halt
            simpa only [hother, hanswer] using hhalt
        | error reason =>
            have hone := h (.fault .missingFunctionName)
            have htwo := h (.fault (.lambdaArity 0))
            simp only [hother, hanswer, id] at hone htwo
            rw [hone] at htwo
            cases htwo

end Dialogue

end TextTemplate

import Accounts.Program

/-! What running a program shows beside its value, and how soon it ends. -/

namespace Accounts.Program

variable {Ask : Type} {Reply : Ask → Type} {α β σ : Type}

def transcript (answer : (request : Ask) → StateM σ (Reply request)) :
    Program Ask Reply α → σ → List ((request : Ask) × Reply request)
  | .done _, _ => []
  | .ask request next, state =>
    ⟨request, (answer request state).1⟩ ::
      (next (answer request state).1).transcript answer (answer request state).2

def states (answer : (request : Ask) → StateM σ (Reply request)) :
    Program Ask Reply α → σ → List σ
  | .done _, state => [state]
  | .ask request next, state =>
    state :: (next (answer request state).1).states answer (answer request state).2

def Along (answer : (request : Ask) → StateM σ (Reply request)) (good : Ask → σ → Prop) :
    Program Ask Reply α → σ → Prop
  | .done _, _ => True
  | .ask request next, state =>
    good request state ∧
      (next (answer request state).1).Along answer good (answer request state).2

instance decidableAlong (answer : (request : Ask) → StateM σ (Reply request))
    (good : Ask → σ → Prop) [∀ request state, Decidable (good request state)] :
    (program : Program Ask Reply α) → (state : σ) → Decidable (program.Along answer good state)
  | .done _, _ => .isTrue trivial
  | .ask request next, state =>
    have := decidableAlong answer good (next (answer request state).1) (answer request state).2
    inferInstanceAs (Decidable (_ ∧ _))

def Within : Nat → Program Ask Reply α → Prop
  | _, .done _ => True
  | 0, .ask _ _ => False
  | steps + 1, .ask _ next => ∀ reply, (next reply).Within steps

/-- Whether a program asks for nothing but what is allowed, whatever the replies. -/
def Only (allowed : Ask → Prop) : Program Ask Reply α → Prop
  | .done _ => True
  | .ask request next => allowed request ∧ ∀ reply, (next reply).Only allowed

/-- Whether what a program asks for, with the replies, and the value that it ends with are good,
whatever the replies. -/
def Always (good : List ((request : Ask) × Reply request) → α → Prop) :
    Program Ask Reply α → Prop
  | .done value => good [] value
  | .ask request next =>
    ∀ reply, (next reply).Always fun asked value => good (⟨request, reply⟩ :: asked) value

/-- Whether a program goes on in one way after replies that are alike. -/
def Respects (alike : (request : Ask) → Reply request → Reply request → Prop) :
    Program Ask Reply α → Prop
  | .done _ => True
  | .ask request next =>
    (∀ reply other, alike request reply other → next reply = next other) ∧
      ∀ reply, (next reply).Respects alike

theorem run_done (answer : (request : Ask) → StateM σ (Reply request)) (value : α) (state : σ) :
    (Program.done value).run answer state = (value, state) := rfl

theorem run_ask (answer : (request : Ask) → StateM σ (Reply request)) (request : Ask)
    (next : Reply request → Program Ask Reply α) (state : σ) :
    (Program.ask request next).run answer state =
      (next (answer request state).1).run answer (answer request state).2 := rfl

theorem Always.of_run {good : List ((request : Ask) × Reply request) → α → Prop}
    {program : Program Ask Reply α} (always : program.Always good)
    (answer : (request : Ask) → StateM σ (Reply request)) (state : σ) :
    good (program.transcript answer state) (program.run answer state).1 := by
  induction program generalizing good state with
  | done value => exact always
  | ask request next ih => exact ih _ (always _) _

theorem run_mem_states (answer : (request : Ask) → StateM σ (Reply request))
    (program : Program Ask Reply α) (state : σ) :
    (program.run answer state).2 ∈ program.states answer state := by
  induction program generalizing state with
  | done value => exact List.mem_singleton.mpr rfl
  | ask request next ih =>
      rw [run_ask]
      exact List.mem_cons_of_mem _ (ih _ _)

theorem Only.bind {allowed : Ask → Prop} {program : Program Ask Reply α}
    {next : α → Program Ask Reply β} (first : program.Only allowed)
    (later : ∀ value, (next value).Only allowed) : (program >>= next).Only allowed := by
  induction program with
  | done value => exact later value
  | ask request more ih =>
      obtain ⟨here, rest⟩ := first
      refine ⟨here, ?_⟩
      intro reply
      exact ih reply (rest reply)

theorem Only.along_of {allowed : Ask → Prop} {good : Ask → σ → Prop}
    {answer : (request : Ask) → StateM σ (Reply request)} {program : Program Ask Reply α}
    (only : program.Only allowed) (enough : ∀ request met, allowed request → good request met)
    (state : σ) : program.Along answer good state := by
  induction program generalizing state with
  | done value => trivial
  | ask request next ih =>
      obtain ⟨here, rest⟩ := only
      exact ⟨enough request state here, ih _ (rest _) _⟩

theorem Only.mono {allowed weaker : Ask → Prop} {program : Program Ask Reply α}
    (only : program.Only allowed) (enough : ∀ request, allowed request → weaker request) :
    program.Only weaker := by
  induction program with
  | done value => trivial
  | ask request next ih =>
      obtain ⟨here, rest⟩ := only
      exact ⟨enough request here, fun reply => ih reply (rest reply)⟩

theorem Only.along {allowed : Ask → Prop} {good : Ask → σ → Prop}
    {answer : (request : Ask) → StateM σ (Reply request)} {program : Program Ask Reply α}
    (only : program.Only allowed) {state : σ} (along : program.Along answer good state) :
    program.Along answer (fun request met => allowed request ∧ good request met) state := by
  induction program generalizing state with
  | done value => trivial
  | ask request next ih =>
      obtain ⟨here, rest⟩ := only
      exact ⟨⟨here, along.1⟩, ih _ (rest _) along.2⟩

theorem within_done (steps : Nat) (value : α) :
    (Program.done value : Program Ask Reply α).Within steps := by
  cases steps with
  | zero => trivial
  | succ steps => trivial

theorem Within.bind {steps : Nat} {program : Program Ask Reply α}
    {next : α → Program Ask Reply β} (first : program.Within steps)
    (later : ∀ value, (next value).Within 0) : (program >>= next).Within steps := by
  induction program generalizing steps with
  | done value =>
      have ended := later value
      change (next value).Within steps
      cases came : next value with
      | done value => exact within_done steps value
      | ask request more =>
          rw [came] at ended
          exact ended.elim
  | ask request more ih =>
      cases steps with
      | zero => exact first.elim
      | succ steps => exact fun reply => ih reply (first reply)

theorem run_bind (answer : (request : Ask) → StateM σ (Reply request))
    (program : Program Ask Reply α) (next : α → Program Ask Reply β) (state : σ) :
    (program >>= next).run answer state =
      (next (program.run answer state).1).run answer (program.run answer state).2 := by
  induction program generalizing state with
  | done value => rfl
  | ask request more ih =>
      have step : (Program.ask request more >>= next) =
          .ask request fun reply => more reply >>= next := rfl
      rw [step, run_ask, run_ask, ih]

theorem transcript_bind (answer : (request : Ask) → StateM σ (Reply request))
    (program : Program Ask Reply α) (next : α → Program Ask Reply β) (state : σ) :
    (program >>= next).transcript answer state = program.transcript answer state ++
      (next (program.run answer state).1).transcript answer (program.run answer state).2 := by
  induction program generalizing state with
  | done value => rfl
  | ask request more ih => exact congrArg (List.cons _) (ih _ _)

/-- A program that is run on programs, and these on something that answers their requests. -/
theorem run_run {Ask' : Type} {Reply' : Ask' → Type}
    (answer : (request : Ask') → StateM σ (Reply' request))
    (handle : (request : Ask) → Program Ask' Reply' (Reply request))
    (program : Program Ask Reply α) (state : σ) :
    (program.run handle).run answer state =
      program.run (fun request => (handle request).run answer) state := by
  induction program generalizing state with
  | done value => rfl
  | ask request next ih =>
      change (handle request >>= fun reply => (next reply).run handle).run answer state = _
      rw [run_bind, ih]
      rfl

/-- What good requests preserve holds throughout a run of good requests. -/
theorem forall_states {answer : (request : Ask) → StateM σ (Reply request)}
    {good : Ask → σ → Prop} {invariant : σ → Prop}
    (step : ∀ request state, good request state → invariant state →
      invariant (answer request state).2)
    {program : Program Ask Reply α} {state : σ} (along : program.Along answer good state)
    (start : invariant state) : ∀ met ∈ program.states answer state, invariant met := by
  induction program generalizing state with
  | done value =>
      intro met member
      rw [List.mem_singleton.mp member]
      exact start
  | ask request next ih =>
      intro met member
      rcases List.mem_cons.mp member with rfl | later
      · exact start
      · exact ih _ along.2 (step request state along.1 start) met later

theorem Respects.bind {alike : (request : Ask) → Reply request → Reply request → Prop}
    {program : Program Ask Reply α} {next : α → Program Ask Reply β}
    (first : program.Respects alike) (later : ∀ value, (next value).Respects alike) :
    (program >>= next).Respects alike := by
  induction program with
  | done value => exact later value
  | ask request more ih =>
      obtain ⟨here, rest⟩ := first
      refine ⟨?_, fun reply => ih reply (rest reply)⟩
      intro reply other same
      exact congrArg (andThen · next) (here reply other same)

theorem Respects.run {alike : (request : Ask) → Reply request → Reply request → Prop}
    {allowed : Ask → Prop} {related : σ → σ → Prop}
    {answer : (request : Ask) → StateM σ (Reply request)} {program : Program Ask Reply α}
    (respects : program.Respects alike) (only : program.Only allowed)
    (step : ∀ request state other, allowed request → related state other →
      alike request (answer request state).1 (answer request other).1 ∧
        related (answer request state).2 (answer request other).2)
    {state other : σ} (start : related state other) :
    (program.run answer state).1 = (program.run answer other).1 ∧
      related (program.run answer state).2 (program.run answer other).2 := by
  induction program generalizing state other with
  | done value => exact ⟨rfl, start⟩
  | ask request next ih =>
      obtain ⟨replies, later⟩ := step request state other only.1 start
      rw [run_ask, run_ask, respects.1 _ _ replies]
      exact ih _ (respects.2 _) (only.2 _) later

end Accounts.Program

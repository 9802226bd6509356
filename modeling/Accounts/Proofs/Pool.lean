import Accounts.Proofs.Program
import Mathlib.Logic.Function.Basic

/-! Programs that share a state and take turns with their requests. -/

namespace Accounts

structure Pool (ι σ Ask : Type) (Reply : Ask → Type) (α : Type) where
  state : σ
  programs : ι → Program Ask Reply α

namespace Pool

variable {ι σ Ask : Type} {Reply : Ask → Type} {α : Type} [DecidableEq ι]
variable (answer : (request : Ask) → StateM σ (Reply request))

def turn (pool : Pool ι σ Ask Reply α) (client : ι) : Pool ι σ Ask Reply α :=
  match pool.programs client with
  | .done _ => pool
  | .ask request next =>
    let (reply, state) := answer request pool.state
    { state, programs := Function.update pool.programs client (next reply) }

def run (pool : Pool ι σ Ask Reply α) (schedule : List ι) : Pool ι σ Ask Reply α :=
  schedule.foldl (turn answer) pool

def Ready (good : Ask → σ → Prop) (pool : Pool ι σ Ask Reply α) (client : ι) : Prop :=
  match pool.programs client with
  | .done _ => True
  | .ask request _ => good request pool.state

def Along (good : Ask → σ → Prop) : Pool ι σ Ask Reply α → List ι → Prop
  | _, [] => True
  | pool, client :: schedule =>
    pool.Ready good client ∧ (pool.turn answer client).Along good schedule

instance (good : Ask → σ → Prop) [∀ request state, Decidable (good request state)]
    (pool : Pool ι σ Ask Reply α) (client : ι) : Decidable (pool.Ready good client) :=
  match asked : pool.programs client with
  | .done _ => .isTrue (by rw [Ready, asked]; trivial)
  | .ask request _ => decidable_of_iff (good request pool.state) (by rw [Ready, asked])

instance decidableAlong (good : Ask → σ → Prop) [∀ request state, Decidable (good request state)]
    (pool : Pool ι σ Ask Reply α) : (schedule : List ι) →
    Decidable (pool.Along answer good schedule)
  | [] => .isTrue trivial
  | client :: schedule =>
    have := decidableAlong good (pool.turn answer client) schedule
    inferInstanceAs (Decidable (_ ∧ _))

variable {answer}

theorem turn_done {pool : Pool ι σ Ask Reply α} {client : ι} {value : α}
    (ended : pool.programs client = .done value) : pool.turn answer client = pool := by
  rw [turn, ended]

theorem turn_ask {pool : Pool ι σ Ask Reply α} {client : ι} {request : Ask}
    {next : Reply request → Program Ask Reply α}
    (asked : pool.programs client = .ask request next) :
    pool.turn answer client =
      ⟨(answer request pool.state).2,
        Function.update pool.programs client (next (answer request pool.state).1)⟩ := by
  rw [turn, asked]
  rfl

theorem state_turn {pool : Pool ι σ Ask Reply α} {client : ι} {request : Ask}
    {next : Reply request → Program Ask Reply α}
    (asked : pool.programs client = .ask request next) :
    (pool.turn answer client).state = (answer request pool.state).2 := by
  rw [turn_ask asked]

theorem programs_turn_self {pool : Pool ι σ Ask Reply α} {client : ι} {request : Ask}
    {next : Reply request → Program Ask Reply α}
    (asked : pool.programs client = .ask request next) :
    (pool.turn answer client).programs client = next (answer request pool.state).1 := by
  rw [turn_ask asked]
  exact Function.update_self _ _ _

theorem programs_turn_of_ne (pool : Pool ι σ Ask Reply α) {client other : ι}
    (different : other ≠ client) :
    (pool.turn answer client).programs other = pool.programs other := by
  cases came : pool.programs client with
  | done value => rw [turn_done came]
  | ask request next =>
      rw [turn_ask came]
      exact Function.update_of_ne different _ _

theorem programs_run_of_not_mem (pool : Pool ι σ Ask Reply α) {client : ι} {schedule : List ι}
    (idle : client ∉ schedule) :
    (pool.run answer schedule).programs client = pool.programs client := by
  induction schedule generalizing pool with
  | nil => rfl
  | cons next schedule ih =>
      obtain ⟨different, idle⟩ := List.ne_and_not_mem_of_not_mem_cons idle
      exact (ih _ idle).trans (programs_turn_of_ne pool different)

theorem run_append (pool : Pool ι σ Ask Reply α) (earlier later : List ι) :
    pool.run answer (earlier ++ later) = (pool.run answer earlier).run answer later :=
  List.foldl_append

theorem along_append {good : Ask → σ → Prop} {pool : Pool ι σ Ask Reply α}
    {earlier later : List ι} : pool.Along answer good (earlier ++ later) ↔
      pool.Along answer good earlier ∧ (pool.run answer earlier).Along answer good later := by
  induction earlier generalizing pool with
  | nil => exact ⟨fun along => ⟨trivial, along⟩, fun along => along.2⟩
  | cons client earlier ih =>
      rw [List.cons_append, Along, Along, ih, and_assoc]
      rfl

/-- What every good request preserves holds after a schedule of good requests. -/
theorem invariant_run {good : Ask → σ → Prop} {invariant : Pool ι σ Ask Reply α → Prop}
    (step : ∀ pool client request next, pool.programs client = .ask request next →
      good request pool.state → invariant pool → invariant (pool.turn answer client))
    {pool : Pool ι σ Ask Reply α} {schedule : List ι} (along : pool.Along answer good schedule)
    (start : invariant pool) : invariant (pool.run answer schedule) := by
  induction schedule generalizing pool with
  | nil => exact start
  | cons client schedule ih =>
      obtain ⟨ready, later⟩ := along
      apply ih later
      cases came : pool.programs client with
      | done value =>
          rw [turn_done came]
          exact start
      | ask request next =>
          rw [Ready, came] at ready
          exact step pool client request next came ready start

/-- A program ends once it has had as many turns as it may need, whatever the others do. -/
theorem ends_of_within {pool : Pool ι σ Ask Reply α} {client : ι} {steps : Nat}
    (within : (pool.programs client).Within steps) {schedule : List ι}
    (turns : steps ≤ schedule.count client) :
    ∃ value, (pool.run answer schedule).programs client = .done value := by
  induction schedule generalizing pool steps with
  | nil =>
      obtain rfl : steps = 0 := Nat.le_zero.mp turns
      cases came : pool.programs client with
      | done value => exact ⟨value, came⟩
      | ask request next =>
          rw [came] at within
          exact within.elim
  | cons next schedule ih =>
      by_cases same : next = client
      · subst same
        rw [List.count_cons_self] at turns
        cases came : pool.programs next with
        | done value =>
            have finished : ((pool.turn answer next).programs next).Within 0 := by
              rw [turn_done came, came]
              trivial
            exact ih finished (Nat.zero_le _)
        | ask request more =>
            rw [came] at within
            cases steps with
            | zero => exact within.elim
            | succ steps =>
                have nearer : ((pool.turn answer next).programs next).Within steps := by
                  rw [programs_turn_self came]
                  exact within _
                exact ih nearer (Nat.le_of_succ_le_succ turns)
      · rw [List.count_cons_of_ne same] at turns
        refine ih ?_ turns
        rw [programs_turn_of_ne pool (Ne.symm same)]
        exact within

end Pool

end Accounts

import Accounts.Proofs.Service.Login
import Accounts.Service.UseCases

/-! What happens to a store in memory in the course of time: calls by whoever holds it, and visits
of clients to the service. What every operation preserves holds of every memory that is met on the
way, the copies that transactions work on included. -/

namespace Accounts.Service

open Store

theorem exists_of_isOk {ε α : Type} {result : Except ε α} (isOk : result.isOk) :
    ∃ value, result = .ok value := by
  cases result with
  | error error => contradiction
  | ok value => exact ⟨value, rfl⟩

inductive Visit
  | register (input : Registration)
  | login (input : Login)
  | profile (id : Uuid)
  | seed (admin : DefaultAdmin)

namespace Visit

abbrev Value : Visit → Type
  | .register _ | .login _ => Session
  | .profile _ => User
  | .seed _ => Seeding

def useCase (signer : Token.Signer) : (visit : Visit) → UseCase (Except Failure visit.Value)
  | .register input => Service.register signer input
  | .login input => Service.login signer input
  | .profile id => Service.profile id
  | .seed admin => Service.seed admin

theorem useCase_only (signer : Token.Signer) (visit : Visit) :
    (visit.useCase signer).Only (Request.Adds fun _ => True) := by
  cases visit with
  | register input => exact register_only signer trivial input
  | login input => exact login_only signer input
  | profile id => exact profile_only id
  | seed admin => exact seed_only trivial admin

end Visit

inductive Event
  | call {α : Type} (asked : Call α)
  | abandoned {α : Type} (work : Work α)
  | visit (made : Visit)

namespace Event

variable (instruments : Instruments)

def execute (memory : Memory) : Event → Memory
  | .call asked => asked.execute memory
  | .abandoned work => (Memory.abandon work memory).2
  | .visit made =>
    ((Backend.ofMemory instruments.hasher).run (made.useCase instruments.signer) memory).2

/-- The memories that are met while an event happens, those before and after it included. A
transaction shows the copy that it works on. -/
def met (memory : Memory) : Event → List Memory
  | .call (.operation asked) => [memory, (Memory.perform asked memory).2]
  | .call (.transaction work) =>
    work.states Memory.perform memory ++ [(Memory.transact work memory).2]
  | .abandoned work => work.states Memory.perform memory ++ [(Memory.abandon work memory).2]
  | .visit made =>
    (made.useCase instruments.signer).states (Backend.ofMemory instruments.hasher).answer memory

def IdsNew (memory : Memory) : Event → Prop
  | .call asked => asked.IdsNew memory
  | .abandoned work => (Call.transaction work).IdsNew memory
  | .visit made =>
    (made.useCase instruments.signer).Along (Backend.ofMemory instruments.hasher).answer
      Request.IdNew memory

def after (memory : Memory) (events : List Event) : Memory :=
  events.foldl (execute instruments) memory

def allMet : Memory → List Event → List Memory
  | memory, [] => [memory]
  | memory, event :: events =>
    event.met instruments memory ++ allMet (event.execute instruments memory) events

def AllIdsNew : Memory → List Event → Prop
  | _, [] => True
  | memory, event :: events =>
    event.IdsNew instruments memory ∧ AllIdsNew (event.execute instruments memory) events

instance : (event : Event) → (memory : Memory) → Decidable (event.IdsNew instruments memory)
  | .call (.operation asked), memory => inferInstanceAs (Decidable (asked.IdNew memory))
  | .call (.transaction work), memory | .abandoned work, memory =>
    inferInstanceAs
      (Decidable (work.Along Memory.perform (fun asked copy => asked.IdNew copy) memory))
  | .visit made, memory =>
    inferInstanceAs (Decidable ((made.useCase instruments.signer).Along
      (Backend.ofMemory instruments.hasher).answer Request.IdNew memory))

instance decidableAllIdsNew : (memory : Memory) → (events : List Event) →
    Decidable (AllIdsNew instruments memory events)
  | _, [] => .isTrue trivial
  | memory, event :: events =>
    have := decidableAllIdsNew (event.execute instruments memory) events
    inferInstanceAs (Decidable (_ ∧ _))

variable {instruments} {memory : Memory}

theorem after_append (earlier later : List Event) :
    after instruments memory (earlier ++ later) =
      after instruments (after instruments memory earlier) later :=
  List.foldl_append

theorem allIdsNew_append {earlier later : List Event} :
    AllIdsNew instruments memory (earlier ++ later) ↔
      AllIdsNew instruments memory earlier ∧
      AllIdsNew instruments (after instruments memory earlier) later := by
  induction earlier generalizing memory with
  | nil => exact ⟨fun new => ⟨trivial, new⟩, fun new => new.2⟩
  | cons event events ih =>
      rw [List.cons_append, AllIdsNew, AllIdsNew, ih, and_assoc]
      rfl

theorem after_mem_allMet (events : List Event) :
    after instruments memory events ∈ allMet instruments memory events := by
  induction events generalizing memory with
  | nil => exact List.mem_singleton.mpr rfl
  | cons event events ih => exact List.mem_append_right _ ih

def Kept (invariant : Table → Prop) : Prop :=
  ∀ (operation : Operation) (memory : Memory), operation.IdNew memory → invariant memory.table →
    invariant (Memory.perform operation memory).2.table

variable {invariant : Table → Prop} (kept : Kept invariant)
include kept

theorem Kept.states {α : Type} {work : Work α} (idsNew : (Call.transaction work).IdsNew memory)
    (start : invariant memory.table) :
    ∀ copy ∈ work.states Memory.perform memory, invariant copy.table :=
  Program.forall_states (fun operation copy => kept operation copy) idsNew start

theorem Kept.transact {α : Type} {work : Work α} (idsNew : (Call.transaction work).IdsNew memory)
    (start : invariant memory.table) : invariant (Memory.transact work memory).2.table := by
  rw [Memory.transact_eq]
  by_cases well : (work.run Memory.perform memory).1.succeeded = true
  · simp only [well, if_true]
    exact kept.states idsNew start _ (Program.run_mem_states Memory.perform work memory)
  · simp only [well, if_false, Bool.false_eq_true]
    exact start

theorem Kept.answer (hasher : Password.Hasher) (request : Request) (memory : Memory)
    (idNew : request.IdNew memory) (start : invariant memory.table) :
    invariant ((Backend.ofMemory hasher).answer request memory).2.table := by
  rcases Backend.table_answer hasher request memory with same | ⟨operation, new, same⟩
  · rw [same]
    exact start
  · rw [same]
    exact kept operation memory (new idNew) start

theorem Kept.met {event : Event} (idsNew : event.IdsNew instruments memory)
    (start : invariant memory.table) :
    ∀ shown ∈ event.met instruments memory, invariant shown.table := by
  intro shown member
  cases event with
  | call asked =>
      cases asked with
      | operation operation =>
          rcases List.mem_pair.mp member with rfl | rfl
          · exact start
          · exact kept operation memory idsNew start
      | transaction work =>
          rcases List.mem_append.mp member with within | closed
          · exact kept.states idsNew start shown within
          · rw [List.mem_singleton.mp closed]
            exact kept.transact idsNew start
  | abandoned work =>
      rcases List.mem_append.mp member with within | closed
      · exact kept.states idsNew start shown within
      · rw [List.mem_singleton.mp closed]
        exact (Memory.abandon_table work memory).symm ▸ start
  | visit made =>
      exact Program.forall_states (kept.answer instruments.hasher) idsNew start shown member

omit kept in
theorem execute_mem_met (event : Event) :
    event.execute instruments memory ∈ event.met instruments memory := by
  cases event with
  | call asked =>
      cases asked with
      | operation operation => exact List.mem_cons_of_mem _ (List.mem_singleton.mpr rfl)
      | transaction work => exact List.mem_append_right _ (List.mem_singleton.mpr rfl)
  | abandoned work => exact List.mem_append_right _ (List.mem_singleton.mpr rfl)
  | visit made => exact Program.run_mem_states _ _ memory

theorem Kept.allMet {events : List Event} (idsNew : AllIdsNew instruments memory events)
    (start : invariant memory.table) :
    ∀ shown ∈ allMet instruments memory events, invariant shown.table := by
  -- The memory that an event leaves is among those met, and the next event starts from it.
  induction events generalizing memory with
  | nil =>
      intro shown member
      rw [List.mem_singleton.mp member]
      exact start
  | cons event events ih =>
      have now := kept.met idsNew.1 start
      intro shown member
      rcases List.mem_append.mp member with here | later
      · exact now shown here
      · exact ih idsNew.2 (now _ (execute_mem_met event)) shown later

theorem Kept.after {events : List Event} (idsNew : AllIdsNew instruments memory events)
    (start : invariant memory.table) : invariant (after instruments memory events).table :=
  kept.allMet idsNew start _ (after_mem_allMet events)

omit kept in
theorem kept_wellFormed : Kept Table.WellFormed :=
  fun operation _ idNew wellFormed => (wellFormed.perform operation idNew).1

omit kept in
theorem kept_buries (row : User) : Kept fun table => table.Buries row :=
  fun operation _ idNew buries => buries.perform operation idNew

end Event

end Accounts.Service

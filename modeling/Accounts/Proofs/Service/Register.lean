import Accounts.Proofs.Email
import Accounts.Proofs.Program
import Accounts.Proofs.Store.Table
import Accounts.Proofs.Store.Transaction
import Accounts.Service.UseCases
import Accounts.Service.Backend

/-! A registration request by request, and what a store in memory answers to each. -/

namespace Accounts.Service

open Store

/-! The inputs. -/

theorem readNames_cases (username email : String) :
    (∃ error, UserName.of username = .error error ∧
      readNames username email = .error (Failure.ofUserName error)) ∨
    (∃ error, Email.of email = .error error ∧
      readNames username email = .error (Failure.ofEmail error)) ∨
    (∃ name address, UserName.of username = .ok name ∧ Email.of email = .ok address ∧
      readNames username email = .ok (name, address)) := by
  unfold readNames
  cases name_read : UserName.of username with
  | error error => exact .inl ⟨error, rfl, rfl⟩
  | ok name =>
      cases address_read : Email.of email with
      | error error => exact .inr (.inl ⟨error, rfl, rfl⟩)
      | ok address => exact .inr (.inr ⟨name, address, rfl, rfl, rfl⟩)

theorem readNames_ok {username email : String} {name : UserName} {address : Email}
    (name_read : UserName.of username = .ok name) (address_read : Email.of email = .ok address) :
    readNames username email = .ok (name, address) := by
  rw [readNames, name_read, address_read]
  rfl

theorem readNames_of_refusedName {username email : String} {error : UserNameError}
    (refused : UserName.of username = .error error) :
    readNames username email = .error (Failure.ofUserName error) := by
  rw [readNames, refused]
  rfl

theorem readNames_of_refusedEmail {username email : String} {name : UserName} {error : EmailError}
    (name_read : UserName.of username = .ok name) (refused : Email.of email = .error error) :
    readNames username email = .error (Failure.ofEmail error) := by
  rw [readNames, name_read, refused]
  rfl

theorem readPassword_of_ok {password : String} {clear : Password.ClearText}
    (read : Password.ClearText.of password = .ok clear) : readPassword password = .ok clear := by
  rw [readPassword, read]
  rfl

theorem readPassword_of_refused {password : String} {error : Password.PolicyError}
    (refused : Password.ClearText.of password = .error error) :
    readPassword password = .error (Failure.ofPolicy error) := by
  rw [readPassword, refused]
  rfl

theorem text_of_readName {text : String} {name : UserName}
    (accepted : UserName.of text = .ok name) : name.text = text := by
  unfold UserName.of at accepted
  dsimp only at accepted
  split at accepted
  next => contradiction
  next =>
    split at accepted
    next => contradiction
    next =>
      split at accepted
      next => contradiction
      next => rw [← Except.ok.inj accepted]

theorem readNames_texts {username email : String} {names : UserName × Email}
    (accepted : readNames username email = .ok names) :
    names.1.text = username ∧ names.2.text = Email.normalize email ∧
      Email.normalize names.2.text = names.2.text := by
  rcases readNames_cases username email with
    ⟨error, -, refused⟩ | ⟨error, -, refused⟩ | ⟨name, address, name_read, address_read, read⟩
  · rw [refused] at accepted
    contradiction
  · rw [refused] at accepted
    contradiction
  · rw [read] at accepted
    rw [← Except.ok.inj accepted]
    exact ⟨text_of_readName name_read, (Email.of_eq_ok address_read).1,
      Email.normalize_of address_read⟩

theorem readNames_error {username email : String} {failure : Failure}
    (refused : readNames username email = .error failure) :
    ∃ reason, failure = .validation reason := by
  rcases readNames_cases username email with
    ⟨error, -, read⟩ | ⟨error, -, read⟩ | ⟨name, address, -, -, read⟩
  · rw [read] at refused
    exact ⟨error.message, (Except.error.inj refused).symm⟩
  · rw [read] at refused
    exact ⟨error.message, (Except.error.inj refused).symm⟩
  · rw [read] at refused
    contradiction

theorem readPassword_error {password : String} {failure : Failure}
    (refused : readPassword password = .error failure) :
    ∃ reason, failure = .validation reason := by
  unfold readPassword at refused
  cases read : Password.ClearText.of password with
  | error error =>
      rw [read] at refused
      exact ⟨error.message, (Except.error.inj refused).symm⟩
  | ok password =>
      rw [read] at refused
      contradiction

/-! What is left of a registration after each reply. -/

section Steps

variable (signer : Token.Signer)

def afterNow (user : User) (now : Time.Instant) : UseCase (Except Failure Session) :=
  match signer.issue user.id.render user.username.text user.role.code now with
  | .error error => .done (.error (Failure.ofToken error))
  | .ok token => .done (.ok { token, user := user.view })

def afterCreate : Except Failure User → UseCase (Except Failure Session)
  | .error failure => .done (.error failure)
  | .ok user => .ask .now (afterNow signer user)

def afterHash (names : UserName × Email) (password : Password.Hashed) :
    UseCase (Except Failure Session) :=
  .ask (.create { username := names.1, email := names.2, password, role := .user })
    (afterCreate signer)

def afterEmail (names : UserName × Email) (password : String) (search : Except Failure User) :
    UseCase (Except Failure Session) :=
  match ensureAbsent search .emailTaken with
  | .error failure => .done (.error failure)
  | .ok () =>
    match readPassword password with
    | .error failure => .done (.error failure)
    | .ok password => .ask (.hash password) (afterHash signer names)

def afterUsername (names : UserName × Email) (password : String) (search : Except Failure User) :
    UseCase (Except Failure Session) :=
  match ensureAbsent search .usernameTaken with
  | .error failure => .done (.error failure)
  | .ok () => .ask (.perform (.findByEmail names.2.text)) (afterEmail signer names password)

theorem register_eq (input : Registration) :
    register signer input =
      match readNames input.username input.email with
      | .error failure => .done (.error failure)
      | .ok names =>
        .ask (.perform (.findByUsername names.1.text))
          (afterUsername signer names input.password) := by
  unfold register
  simp only [bind, ask, Program.request, Program.andThen]
  cases readNames input.username input.email with
  | error failure => rfl
  | ok names =>
      refine congrArg (Program.ask _) (funext fun byUsername => ?_)
      unfold afterUsername
      cases ensureAbsent byUsername .usernameTaken with
      | error failure => rfl
      | ok free =>
          refine congrArg (Program.ask _) (funext fun byEmail => ?_)
          unfold afterEmail
          cases ensureAbsent byEmail .emailTaken with
          | error failure => rfl
          | ok free =>
              cases readPassword input.password with
              | error failure => rfl
              | ok password =>
                  refine congrArg (Program.ask _) (funext fun hashed => ?_)
                  refine congrArg (Program.ask _) (funext fun created => ?_)
                  cases created with
                  | error failure => rfl
                  | ok user => rfl

theorem afterNow_done (user : User) (now : Time.Instant) :
    ∃ result, afterNow signer user now = .done result := by
  unfold afterNow
  cases signer.issue user.id.render user.username.text user.role.code now with
  | error error => exact ⟨_, rfl⟩
  | ok token => exact ⟨_, rfl⟩

theorem afterNow_within (user : User) (now : Time.Instant) :
    (afterNow signer user now).Within 0 := by
  obtain ⟨result, issued⟩ := afterNow_done signer user now
  rw [issued]
  trivial

theorem register_within (input : Registration) : (register signer input).Within 5 := by
  rw [register_eq]
  cases readNames input.username input.email with
  | error failure => trivial
  | ok names =>
      intro byUsername
      unfold afterUsername
      cases ensureAbsent byUsername .usernameTaken with
      | error failure => trivial
      | ok free =>
          intro byEmail
          unfold afterEmail
          cases ensureAbsent byEmail .emailTaken with
          | error failure => trivial
          | ok free =>
              cases readPassword input.password with
              | error failure => trivial
              | ok password =>
                  intro hashed created
                  cases created with
                  | error failure => trivial
                  | ok user => exact afterNow_within signer user

end Steps

/-! What a store in memory answers. -/

namespace Backend

theorem answer_create (hasher : Password.Hasher) (new : NewUser) (memory : Memory) :
    (ofMemory hasher).answer (.create new) memory =
      ((memory.table.create memory.supply.next.1 new).1,
        ⟨(memory.table.create memory.supply.next.1 new).2, memory.supply.next.2⟩) := by
  have transacted : (ofMemory hasher).answer (.create new) memory =
      ((Memory.transact (Work.create new) memory).1.result,
        (Memory.transact (Work.create new) memory).2) := rfl
  rw [transacted, Memory.transact_eq, Work.create, Program.run_ask, Program.run_done]
  have performed : Memory.perform (.create new) memory =
      ((memory.table.create memory.supply.next.1 new).1,
        ⟨(memory.table.create memory.supply.next.1 new).2, memory.supply.next.2⟩) := rfl
  rw [performed]
  rcases Table.create_cases memory.table memory.supply.next.1 new with
    ⟨failure, -, refused⟩ | ⟨-, created⟩
  · rw [refused]
    rfl
  · rw [created]
    rfl

end Backend

end Accounts.Service

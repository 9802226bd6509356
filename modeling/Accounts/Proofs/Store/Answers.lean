import Accounts.Http.Api
import Accounts.Proofs.Service.Traffic
import Accounts.Service.Backend
import Accounts.Store.Sql

/-! What the answers of a server mean to the operations that they are given to. An operation has one
result for each kind of answer, and the same one whether it is performed by itself or within a
transaction. -/

namespace Accounts.Store

open Password

/-! Where operations are performed. -/

/-- How an operation gets a connection: one is opened for it if need be, or it uses the open one of
a transaction. -/
inductive Channel
  | pool
  | transaction

section Channels

variable {σ : Type} {link : Link σ}

def Channel.perform : Channel → (operation : Operation) → StateM (Link σ) operation.Result
  | .pool => Link.perform
  | .transaction => Link.performOpen

def Channel.Reaches : Channel → Link σ → Prop
  | .pool, link => link.barred = none
  | .transaction, link => link.connected = true

def Link.reply (link : Link σ) (operation : Operation) : Answer :=
  (link.server.answer operation.statement link.state).1

def Link.after (link : Link σ) (operation : Operation) : Link σ :=
  { link with
    state := (link.server.answer operation.statement link.state).2
    connected := link.reply operation ≠ .hungUp }

theorem Link.performOpen_eq (connected : link.connected = true) (operation : Operation) :
    Link.performOpen operation link =
      (operation.result (link.reply operation), link.after operation) := by
  simp only [Link.performOpen, Link.send, bind, StateT.bind, connected]
  rfl

theorem Channel.perform_eq {channel : Channel} (reaches : channel.Reaches link)
    (operation : Operation) :
    channel.perform operation link =
      (operation.result (link.reply operation), link.after operation) := by
  cases channel with
  | pool =>
      have barred : link.barred = none := reaches
      have opened : Channel.pool.perform operation link =
          Link.performOpen operation { link with connected := true } := by
        simp only [Channel.perform, Link.perform, Link.connect, barred, bind, StateT.bind]
      rw [opened]
      exact Link.performOpen_eq rfl operation
  | transaction => exact Link.performOpen_eq reaches operation

end Channels

/-! The user in a row. -/

def Row.taken (row : Row) : User where
  id := row.userId
  username := ⟨row.username⟩
  email := ⟨row.email⟩
  password := ⟨row.passwordHash⟩
  role := Role.ofCode row.role
  createdAt := row.createdAt
  updatedAt := row.updatedAt
  deletedAt := row.deletedAt

theorem Row.user_of_readable {row : Row} (readable : (Phc.parse? row.passwordHash).isSome = true) :
    row.user = .ok row.taken := by
  obtain ⟨phc, parsed⟩ := Option.isSome_iff_exists.mp readable
  simp only [Row.user, Hashed.of, parsed]
  rfl

def Row.complaint (row : Row) : String :=
  "stored hash for user " ++ row.userId.render ++ " is unusable: " ++
    HashError.message .invalidFormat

theorem Row.user_of_unreadable {row : Row} (unreadable : Phc.parse? row.passwordHash = none) :
    row.user = .error (.internal row.complaint) := by
  simp only [Row.user, Hashed.of, unreadable]
  rfl

/-! The kinds of answers. -/

def Answer.Violates (answer : Answer) (constraint : String) : Prop :=
  ∃ report : Report, answer = .refused report ∧ report.code = some "23505" ∧
    report.violated = some constraint

namespace Operation

def Writes : Operation → Prop
  | .create _ | .update _ => True
  | _ => False

def Returns : Operation → Prop
  | .delete _ => False
  | _ => True

def Clashes (operation : Operation) (answer : Answer) : Prop :=
  operation.Writes ∧
    (answer.Violates "users_username_key" ∨ answer.Violates "users_email_key")

/-- Whether the answer to an operation amounts to a failure of storage: the server has refused the
statement or hung up, it has returned no row for a user that it has stored, or the row cannot be
read. -/
inductive Faults (operation : Operation) : Answer → StorageError → Prop
  | refused (report : Report) : Faults operation (.refused report) (.reported report)
  | hungUp : Faults operation .hungUp brokenConnection
  | unreturned {new : NewUser} (creates : operation = .create new) (affected : Nat) :
      Faults operation (.done [] affected) .rowNotFound
  | unreadable {columns : Columns} {error : StorageError} (returns : operation.Returns)
      (unreadable : columns.row = .error error) (rest : List Columns) (affected : Nat) :
      Faults operation (.done (columns :: rest) affected) error

inductive Gives (operation : Operation) : Answer → Row → Prop
  | first {columns : Columns} {row : Row} (returns : operation.Returns)
      (read : columns.row = .ok row) (rest : List Columns) (affected : Nat) :
      Gives operation (.done (columns :: rest) affected) row

def Misses : Operation → Answer → Prop
  | .create _, _ => False
  | .delete _, answer => ∃ rows, answer = .done rows 0
  | _, answer => ∃ affected, answer = .done [] affected

def Succeeds (operation : Operation) (answer : Answer) : Prop :=
  (∃ row, operation.Gives answer row ∧ (Phc.parse? row.passwordHash).isSome = true) ∨
    ∃ id rows affected, operation = .delete id ∧ answer = .done rows affected ∧ affected ≠ 0

variable {operation : Operation} {answer : Answer}

/-! What each kind of answer gives. -/

theorem result_of_writes {report : Report} (writes : operation.Writes) :
    operation.result (.refused report) = .error (writeFailure report) := by
  cases operation with
  | create new => rfl
  | update user => rfl
  | _ => exact writes.elim

theorem result_of_columns {columns : Columns} {failure : Failure} (returns : operation.Returns)
    (failed : columns.user = .error failure) (rest : List Columns) (affected : Nat) :
    operation.result (.done (columns :: rest) affected) = .error failure := by
  cases operation with
  | delete id => exact returns.elim
  | _ => exact failed

theorem isOk_result_of_columns {columns : Columns} {user : User} (returns : operation.Returns)
    (read : columns.user = .ok user) (rest : List Columns) (affected : Nat) :
    (operation.result (.done (columns :: rest) affected)).isOk = true := by
  cases operation with
  | delete id => exact returns.elim
  | _ => exact congrArg Except.isOk read

theorem writeFailure_of_username {report : Report} (code : report.code = some "23505")
    (violated : report.violated = some "users_username_key") :
    writeFailure report = .usernameTaken := by
  have unique : report.isUniqueViolation = true := decide_eq_true code
  rw [writeFailure, if_pos unique, if_pos violated]

theorem writeFailure_of_email {report : Report} (code : report.code = some "23505")
    (violated : report.violated = some "users_email_key") :
    writeFailure report = .emailTaken := by
  have unique : report.isUniqueViolation = true := decide_eq_true code
  have other : report.violated ≠ some "users_username_key" := by
    rw [violated]
    decide
  rw [writeFailure, if_pos unique, if_neg other, if_pos violated]

theorem writeFailure_of_not_clashes {report : Report} (writes : operation.Writes)
    (apart : ¬ operation.Clashes (.refused report)) :
    writeFailure report = .storage (.reported report) := by
  unfold writeFailure
  split
  next unique =>
    have code : report.code = some "23505" := of_decide_eq_true unique
    have notName : report.violated ≠ some "users_username_key" := fun violated =>
      apart ⟨writes, .inl ⟨report, rfl, code, violated⟩⟩
    have notAddress : report.violated ≠ some "users_email_key" := fun violated =>
      apart ⟨writes, .inr ⟨report, rfl, code, violated⟩⟩
    rw [if_neg notName, if_neg notAddress]
  next => rfl

theorem result_of_username (writes : operation.Writes)
    (violates : answer.Violates "users_username_key") :
    operation.result answer = .error .usernameTaken := by
  obtain ⟨report, rfl, code, violated⟩ := violates
  rw [result_of_writes writes, writeFailure_of_username code violated]

theorem result_of_email (writes : operation.Writes)
    (violates : answer.Violates "users_email_key") :
    operation.result answer = .error .emailTaken := by
  obtain ⟨report, rfl, code, violated⟩ := violates
  rw [result_of_writes writes, writeFailure_of_email code violated]

theorem result_of_faults {error : StorageError} (faults : operation.Faults answer error)
    (apart : ¬ operation.Clashes answer) : operation.result answer = .error (.storage error) := by
  cases faults with
  | refused report =>
      by_cases writes : operation.Writes
      · rw [result_of_writes writes, writeFailure_of_not_clashes writes apart]
      · cases operation with
        | create new => exact absurd trivial writes
        | update user => exact absurd trivial writes
        | _ => rfl
  | hungUp => cases operation <;> rfl
  | unreturned creates affected =>
      rw [creates]
      rfl
  | unreadable returns unreadable rest affected =>
      apply result_of_columns returns
      rw [Columns.user, unreadable]

theorem result_of_misses (misses : operation.Misses answer) :
    operation.result answer = .error .userNotFound := by
  cases operation with
  | create new => exact misses.elim
  | delete id =>
      obtain ⟨rows, rfl⟩ := misses
      rfl
  | _ =>
      obtain ⟨affected, rfl⟩ := misses
      rfl

theorem result_of_unusable {row : Row} (gives : operation.Gives answer row)
    (unreadable : Phc.parse? row.passwordHash = none) :
    operation.result answer = .error (.internal row.complaint) := by
  obtain ⟨returns, read, rest, affected⟩ := gives
  apply result_of_columns returns
  rw [Columns.user, read, ← Row.user_of_unreadable unreadable]

theorem isOk_result_of_succeeds (succeeds : operation.Succeeds answer) :
    (operation.result answer).isOk = true := by
  rcases succeeds with ⟨row, ⟨returns, read, rest, affected⟩, readable⟩ |
    ⟨id, rows, affected, rfl, rfl, some⟩
  · apply isOk_result_of_columns returns
    rw [Columns.user, read]
    exact Row.user_of_readable readable
  · have done : (Operation.delete id).result (.done rows affected) = .ok () := if_neg some
    rw [done]
    rfl

/-! Every answer is of one of these kinds. -/

theorem empty_cases (returns : operation.Returns) (affected : Nat) :
    operation.Faults (.done [] affected) .rowNotFound ∨ operation.Misses (.done [] affected) := by
  cases operation with
  | create new => exact .inl (.unreturned rfl affected)
  | delete id => exact returns.elim
  | _ => exact .inr ⟨affected, rfl⟩

theorem answer_cases (operation : Operation) (answer : Answer) :
    operation.Clashes answer ∨
      (∃ error, operation.Faults answer error ∧ ¬ operation.Clashes answer) ∨
      operation.Misses answer ∨
      (∃ row, operation.Gives answer row ∧ Phc.parse? row.passwordHash = none) ∨
      operation.Succeeds answer := by
  by_cases clashes : operation.Clashes answer
  · exact .inl clashes
  right
  cases answer with
  | refused report => exact .inl ⟨_, .refused report, clashes⟩
  | hungUp => exact .inl ⟨_, .hungUp, clashes⟩
  | done rows affected =>
      by_cases returns : operation.Returns
      · cases rows with
        | nil =>
            rcases empty_cases returns affected with fault | misses
            · exact .inl ⟨_, fault, clashes⟩
            · exact .inr (.inl misses)
        | cons columns rest =>
            cases read : columns.row with
            | error error => exact .inl ⟨error, .unreadable returns read rest affected, clashes⟩
            | ok row =>
                have gives := Gives.first returns read rest affected
                cases parsed : Phc.parse? row.passwordHash with
                | none => exact .inr (.inr (.inl ⟨row, gives, parsed⟩))
                | some phc => exact .inr (.inr (.inr (.inl ⟨row, gives, parsed ▸ rfl⟩)))
      · cases operation with
        | delete id =>
            by_cases nobody : affected = 0
            · exact .inr (.inl ⟨rows, nobody ▸ rfl⟩)
            · exact .inr (.inr (.inr (.inr ⟨id, rows, affected, rfl, rfl, nobody⟩)))
        | _ => exact absurd trivial returns

inductive Outcome (operation : Operation) (answer : Answer) : operation.Result → Prop
  | usernameTaken (writes : operation.Writes) (violates : answer.Violates "users_username_key") :
      Outcome operation answer (.error .usernameTaken)
  | emailTaken (writes : operation.Writes) (violates : answer.Violates "users_email_key") :
      Outcome operation answer (.error .emailTaken)
  | fault {error : StorageError} (faults : operation.Faults answer error)
      (apart : ¬ operation.Clashes answer) : Outcome operation answer (.error (.storage error))
  | userNotFound (misses : operation.Misses answer) :
      Outcome operation answer (.error .userNotFound)
  | unusable {row : Row} (gives : operation.Gives answer row)
      (unreadable : Phc.parse? row.passwordHash = none) :
      Outcome operation answer (.error (.internal row.complaint))
  | ok {value : operation.Value} (succeeds : operation.Succeeds answer) :
      Outcome operation answer (.ok value)

theorem outcome_result (operation : Operation) (answer : Answer) :
    Outcome operation answer (operation.result answer) := by
  rcases operation.answer_cases answer with
    ⟨writes, name | address⟩ | ⟨error, faults, apart⟩ | misses | ⟨row, gives, unreadable⟩ | succeeds
  · rw [result_of_username writes name]
    exact .usernameTaken writes name
  · rw [result_of_email writes address]
    exact .emailTaken writes address
  · rw [result_of_faults faults apart]
    exact .fault faults apart
  · rw [result_of_misses misses]
    exact .userNotFound misses
  · rw [result_of_unusable gives unreadable]
    exact .unusable gives unreadable
  · obtain ⟨value, same⟩ := Service.exists_of_isOk (isOk_result_of_succeeds succeeds)
    rw [same]
    exact .ok succeeds

/-! Violated uniqueness. -/

def conflictResponse (detail : String) : Http.Response :=
  .ofDocument 409 (Problem.document { kind := .conflict, detail })

theorem response_writeFailure {report : Report} (code : report.code = some "23505") :
    ∃ detail ∈ ["username already exists", "email already exists", "conflicting record"],
      Http.failureResponse (writeFailure report) = conflictResponse detail := by
  have unique : report.isUniqueViolation = true := decide_eq_true code
  unfold writeFailure
  rw [if_pos unique]
  split
  · exact ⟨"username already exists", by simp, rfl⟩
  · split
    · exact ⟨"email already exists", by simp, rfl⟩
    · refine ⟨"conflicting record", by simp, ?_⟩
      obtain ⟨reported, message, violated⟩ := report
      obtain rfl : reported = some "23505" := code
      rfl

end Operation

structure Classified (operation : Operation) (answer : Answer) (result : operation.Result) :
    Prop where
  usernameTaken : result = .error .usernameTaken ↔
    operation.Writes ∧ answer.Violates "users_username_key"
  emailTaken : result = .error .emailTaken ↔ operation.Writes ∧ answer.Violates "users_email_key"
  storage : ∀ error, result = .error (.storage error) ↔
    operation.Faults answer error ∧ ¬ operation.Clashes answer
  conflict : ∀ report, operation.Writes → answer = .refused report → report.code = some "23505" →
    ∃ failure, result = .error failure ∧
      ∃ detail ∈ ["username already exists", "email already exists", "conflicting record"],
        Http.failureResponse failure = Operation.conflictResponse detail
  userNotFound : result = .error .userNotFound ↔ operation.Misses answer
  unusable : ∀ row, operation.Gives answer row → Phc.parse? row.passwordHash = none →
    result = .error (.internal row.complaint) ∧
      (Http.failureResponse (.internal row.complaint)).status = 500
  ok : result.isOk = true ↔ operation.Succeeds answer

theorem classified_result (operation : Operation) (answer : Answer) :
    Classified operation answer (operation.result answer) := by
  have outcome := operation.outcome_result answer
  refine ⟨⟨?_, ?_⟩, ⟨?_, ?_⟩, fun error => ⟨?_, ?_⟩, ?_, ⟨?_, ?_⟩, ?_, ⟨?_, ?_⟩⟩
  · intro same
    rw [same] at outcome
    cases outcome with
    | usernameTaken writes violates => exact ⟨writes, violates⟩
  · rintro ⟨writes, violates⟩
    exact Operation.result_of_username writes violates
  · intro same
    rw [same] at outcome
    cases outcome with
    | emailTaken writes violates => exact ⟨writes, violates⟩
  · rintro ⟨writes, violates⟩
    exact Operation.result_of_email writes violates
  · intro same
    rw [same] at outcome
    cases outcome with
    | fault faults apart => exact ⟨faults, apart⟩
  · rintro ⟨faults, apart⟩
    exact Operation.result_of_faults faults apart
  · rintro report writes rfl code
    exact ⟨_, Operation.result_of_writes writes, Operation.response_writeFailure code⟩
  · intro same
    rw [same] at outcome
    cases outcome with
    | userNotFound misses => exact misses
  · exact Operation.result_of_misses
  · intro row gives unreadable
    exact ⟨Operation.result_of_unusable gives unreadable, rfl⟩
  · intro good
    obtain ⟨value, same⟩ := Service.exists_of_isOk good
    rw [same] at outcome
    cases outcome with
    | ok succeeds => exact succeeds
  · exact Operation.isOk_result_of_succeeds

end Accounts.Store

namespace Accounts

open Password Service Store

/-! Logins. -/

theorem Service.LogsIn.eq_error {signer : Token.Signer} {input : Login} {failure : Failure}
    {result : Except Failure Session} {clear : ClearText}
    (outcome : LogsIn signer input (.error failure) result)
    (accepted : ClearText.of input.password = .ok clear) (other : failure ≠ .userNotFound) :
    result = .error failure := by
  cases outcome with
  | weak refused =>
      rw [accepted] at refused
      contradiction
  | unanswered _ failed _ => rw [Except.error.inj failed]
  | absent _ absent => exact absurd (Except.error.inj absent) other
  | wrong _ found _ => contradiction
  | right _ found _ _ => contradiction

/-- A login for which a row with an unreadable hash is found is a failure of the server, and not one
of credentials. -/
theorem Service.login_of_unusable {σ : Type} {link : Link σ} {input : Login} {row : Row}
    {clear : ClearText} (barred : link.barred = none)
    (accepted : ClearText.of input.password = .ok clear)
    (gives : (Operation.findByUsername input.username).Gives
      (link.reply (.findByUsername input.username)) row)
    (unreadable : Phc.parse? row.passwordHash = none) (hasher : Hasher) (signer : Token.Signer)
    (supply : Supply) :
    ((Backend.ofLink hasher).run (login signer input) (link, supply)).1 =
      .error (.internal row.complaint) := by
  have found : ((Backend.ofLink hasher).perform (.findByUsername input.username)
      (link, supply)).1 = .error (.internal row.complaint) := by
    have reaches : Channel.pool.Reaches link := barred
    change (Channel.pool.perform (.findByUsername input.username) link).1 = _
    rw [Channel.perform_eq reaches]
    exact Operation.result_of_unusable gives unreadable
  have outcome := run_login_logsIn signer input (Backend.ofLink hasher) (link, supply)
  rw [found] at outcome
  exact outcome.eq_error accepted (by simp)

/-- Answers of a server are classified exactly. Wherever an operation is performed, its result is
the one that the answer asks for, and a row whose hash cannot be read is a failure of the server to
a login as well. -/
theorem answers_are_classified {σ : Type} (link : Link σ) :
    (∀ (channel : Channel) (operation : Operation), channel.Reaches link →
      Classified operation (link.reply operation) (channel.perform operation link).1) ∧
    ∀ (hasher : Hasher) (signer : Token.Signer) (supply : Supply) (input : Login)
        (clear : ClearText) (row : Row),
      link.barred = none → ClearText.of input.password = .ok clear →
      (Operation.findByUsername input.username).Gives
        (link.reply (.findByUsername input.username)) row →
      Phc.parse? row.passwordHash = none →
      ((Backend.ofLink hasher).run (login signer input) (link, supply)).1 =
        .error (.internal row.complaint) := by
  constructor
  · intro channel operation reaches
    rw [Channel.perform_eq reaches]
    exact classified_result operation (link.reply operation)
  · intro hasher signer supply input clear row barred accepted gives unreadable
    exact login_of_unusable barred accepted gives unreadable hasher signer supply

/-- An address that is taken, told within a transaction, and a row with a hash that is no hash, met
by a login. -/
theorem answers_are_classified_scripted :
    let report : Report :=
      ⟨some "23505", "Key (email)=(eve@x.io) already exists.", some "users_email_key"⟩
    let taken : Link Script :=
      { server := Script.server, state := { answers := [.refused report] } }
    let user : User := ⟨.zero, ⟨"eve"⟩, ⟨"eve@x.io"⟩, ⟨"$argon2id"⟩, .user, .epoch, .epoch, none⟩
    let row : Row := ⟨.zero, "eve", "eve@x.io", "secret1", "user", .epoch, .epoch, none⟩
    let columns : Columns :=
      ⟨some .zero, some "eve", some "eve@x.io", some "secret1", some "user", some .epoch,
        some .epoch, none⟩
    let spoiled : Link Script :=
      { server := Script.server, state := { answers := [.done [columns] 1] } }
    let signer : Token.Signer := ⟨"key", 1, by decide, by decide, by decide⟩
    let input : Login := ⟨"eve", "secret1"⟩
    Channel.transaction.Reaches taken ∧
    (Channel.transaction.perform (.update user) taken).1 = .error .emailTaken ∧
    (Operation.findByUsername "eve").Gives (spoiled.reply (.findByUsername "eve")) row ∧
    Phc.parse? row.passwordHash = none ∧
    ((Backend.ofLink ⟨⟨8, 1, 1⟩, rfl⟩).run (login signer input)
      (spoiled, ⟨fun _ => ⟨.zero, Vector.replicate 16 0, .epoch⟩, 0⟩)).1 =
      .error (.internal row.complaint) := by
  intro report taken user row columns spoiled signer input
  have reaches : Channel.transaction.Reaches taken := rfl
  have classified := (answers_are_classified taken).1 .transaction (.update user) reaches
  have returns : (Operation.findByUsername "eve").Returns := trivial
  have gives : (Operation.findByUsername "eve").Gives (spoiled.reply (.findByUsername "eve")) row :=
    .first returns rfl [] 1
  have unreadable : Phc.parse? row.passwordHash = none := by decide +kernel
  have emailTaken := classified.emailTaken.mpr ⟨trivial, report, rfl, rfl, rfl⟩
  refine ⟨reaches, emailTaken, gives, unreadable, ?_⟩
  have accepted : (ClearText.of input.password).isOk = true := by decide +kernel
  obtain ⟨clear, accepted⟩ := exists_of_isOk accepted
  exact (answers_are_classified spoiled).2 _ signer _ input clear row rfl accepted gives unreadable

end Accounts

import Accounts.Proofs.Program
import Accounts.Proofs.Store.Answers

/-! A row that is read and written back stays as it is. No column is normalized, validated or made
into another on its way in and out, so that a change of one field of a user changes one column. -/

namespace Accounts.Store

open Password

def Row.rewrite (row : Row) : Statement :=
  .update row.userId row.username row.email row.passwordHash row.role

structure Row.HeldBy (row : Row) (user : User) : Prop where
  written : (Operation.update user).statement = row.rewrite
  createdAt : user.createdAt = row.createdAt
  updatedAt : user.updatedAt = row.updatedAt
  deletedAt : user.deletedAt = row.deletedAt

theorem Row.heldBy_taken (row : Row) : row.HeldBy row.taken where
  written := by
    have code : row.taken.role.code = row.role := Role.code_ofCode row.role
    rw [Operation.statement, updateStatement, code]
    rfl
  createdAt := rfl
  updatedAt := rfl
  deletedAt := rfl

theorem Row.user_eq_ok {row : Row} {user : User} :
    row.user = .ok user ↔ (Phc.parse? row.passwordHash).isSome = true ∧ user = row.taken := by
  cases parsed : Phc.parse? row.passwordHash with
  | none => simp [Row.user_of_unreadable parsed]
  | some phc =>
      have readable : (Phc.parse? row.passwordHash).isSome = true := parsed ▸ rfl
      rw [Row.user_of_readable readable]
      simp [eq_comm]

/-! Changes. -/

inductive Change
  | rename (name : UserName)
  | readdress (address : Email)
  | rehash (hash : Hashed)
  | promote (role : Role)

namespace Change

def apply : Change → User → User
  | .rename name, user => { user with username := name }
  | .readdress address, user => { user with email := address }
  | .rehash hash, user => { user with password := hash }
  | .promote role, user => { user with role }

def column : Change → Row → Row
  | .rename name, row => { row with username := name.text }
  | .readdress address, row => { row with email := address.text }
  | .rehash hash, row => { row with passwordHash := hash.phc }
  | .promote role, row => { row with role := role.code }

theorem written_apply (change : Change) {row : Row} {user : User} (held : row.HeldBy user) :
    (Operation.update (change.apply user)).statement = (change.column row).rewrite := by
  obtain ⟨id, username, email, hash, code⟩ := Statement.update.inj held.written
  rw [Operation.statement, updateStatement, Row.rewrite]
  -- The one column that a change names comes from it, and the others from the row.
  cases change <;> simp only [apply, column, id, username, email, hash, code]

end Change

/-! Searches. -/

inductive Search
  | byUsername (username : String)
  | byEmail (email : String)
  | byId (id : Uuid)

namespace Search

def operation : Search → Operation
  | .byUsername username => .findByUsername username
  | .byEmail email => .findByEmail email
  | .byId id => .findById id

def found : (search : Search) → search.operation.Result → Except Failure User
  | .byUsername _, result => result
  | .byEmail _, result => result
  | .byId _, result => result

theorem found_result (search : Search) (columns : Columns) (rest : List Columns) (affected : Nat) :
    search.found (search.operation.result (.done (columns :: rest) affected)) = columns.user := by
  cases search <;> rfl

def revise (search : Search) (change : Change) :
    Program Operation Operation.Result (Except Failure User) :=
  .ask search.operation fun result =>
    match search.found result with
    | .error failure => .done (.error failure)
    | .ok user => .ask (.update (change.apply user)) .done

end Search

/-! What a server is sent. -/

theorem Link.sent_after {link : Link Script} (scripted : link.server = Script.server)
    (operation : Operation) :
    (link.after operation).state.sent = link.state.sent ++ [operation.statement] := by
  rw [Link.after, scripted]
  simp only [Script.server, Script.answer]
  cases link.state.answers <;> rfl

theorem Link.reply_eq {link : Link Script} (scripted : link.server = Script.server)
    {answer : Answer} {more : List Answer} (answers : link.state.answers = answer :: more)
    (operation : Operation) : link.reply operation = answer := by
  rw [Link.reply, scripted]
  simp only [Script.server, Script.answer, answers]

theorem Channel.reaches_after {σ : Type} {channel : Channel} {link : Link σ}
    (reaches : channel.Reaches link) {operation : Operation}
    (answered : link.reply operation ≠ .hungUp) : channel.Reaches (link.after operation) := by
  cases channel with
  | pool => exact reaches
  | transaction => exact decide_eq_true answered

theorem Search.sent_revise {search : Search} {change : Change} {channel : Channel}
    {link : Link Script} {columns : Columns} {row : Row} {rest : List Columns} {affected : Nat}
    {more : List Answer} (scripted : link.server = Script.server) (reaches : channel.Reaches link)
    (answers : link.state.answers = .done (columns :: rest) affected :: more)
    (read : columns.row = .ok row) (readable : (Phc.parse? row.passwordHash).isSome = true) :
    ((search.revise change).run channel.perform link).2.state.sent =
      link.state.sent ++ [search.operation.statement, (change.column row).rewrite] := by
  have reply := Link.reply_eq scripted answers search.operation
  have found : search.found (search.operation.result (link.reply search.operation)) =
      .ok row.taken := by
    rw [reply, search.found_result, Columns.user, read]
    exact Row.user_of_readable readable
  have again : channel.Reaches (link.after search.operation) := by
    apply Channel.reaches_after reaches
    rw [reply]
    simp
  rw [revise, Program.run_ask, Channel.perform_eq reaches]
  simp only [found]
  rw [Program.run_ask, Channel.perform_eq again, Program.run_done]
  have still : (link.after search.operation).server = Script.server := scripted
  rw [Link.sent_after still, Link.sent_after scripted, change.written_apply row.heldBy_taken,
    List.append_assoc]
  rfl

/-- A row is written back as it has been read. It can be read just if its hash can, the user that it
is read as is written with the very texts of its columns and keeps its times, and whoever looks for
it and writes it back with a change of one field has the server write the change in one column, and
every other column as it was. -/
theorem rows_are_written_back (row : Row) :
    ((∃ user, row.user = .ok user) ↔ (Phc.parse? row.passwordHash).isSome = true) ∧
    (∀ user, row.user = .ok user → row.HeldBy user) ∧
    ∀ (search : Search) (change : Change) (channel : Channel) (link : Link Script)
        (columns : Columns) (rest : List Columns) (affected : Nat) (more : List Answer),
      link.server = Script.server → channel.Reaches link →
      link.state.answers = .done (columns :: rest) affected :: more →
      columns.row = .ok row → (Phc.parse? row.passwordHash).isSome = true →
      ((search.revise change).run channel.perform link).2.state.sent =
        link.state.sent ++ [search.operation.statement, (change.column row).rewrite] := by
  refine ⟨⟨?_, ?_⟩, ?_, ?_⟩
  · rintro ⟨user, read⟩
    exact (Row.user_eq_ok.mp read).1
  · intro readable
    exact ⟨row.taken, Row.user_of_readable readable⟩
  · intro user read
    rw [(Row.user_eq_ok.mp read).2]
    exact row.heldBy_taken
  · intro search change channel link columns rest affected more scripted reaches answers read
    exact Search.sent_revise scripted reaches answers read

/-- A row that no input would be accepted for keeps its texts when its user is promoted within a
transaction. -/
theorem rows_are_written_back_legacy :
    let row : Row := ⟨.zero, " bob\n", "BOB@@X", "$argon2id", "Auditor", .epoch, .epoch, none⟩
    let columns : Columns :=
      ⟨some .zero, some " bob\n", some "BOB@@X", some "$argon2id", some "Auditor", some .epoch,
        some .epoch, none⟩
    let link : Link Script :=
      { server := Script.server, state := { answers := [.done [columns] 1], sent := [.begin] } }
    columns.row = .ok row ∧ (∃ user, row.user = .ok user ∧ row.HeldBy user) ∧
    (((Search.byId .zero).revise (.promote .admin)).run Channel.transaction.perform
      link).2.state.sent =
      [.begin, .selectById .zero, .update .zero " bob\n" "BOB@@X" "$argon2id" "admin"] := by
  intro row columns link
  have readable : (Phc.parse? row.passwordHash).isSome = true := by decide +kernel
  obtain ⟨isRead, held, revised⟩ := rows_are_written_back row
  obtain ⟨user, read⟩ := isRead.mpr readable
  refine ⟨rfl, ⟨user, read, held user read⟩, ?_⟩
  exact revised (.byId .zero) (.promote .admin) .transaction link columns [] 1 [] rfl rfl rfl rfl
    readable

end Accounts.Store

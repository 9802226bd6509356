import Accounts.Proofs.Deletion
import Accounts.Proofs.Disclosure
import Accounts.Proofs.Service.Race

/-! A registration is refused for the first objection to it, in a fixed order, and leaves everything
as it is. Where there is no objection it adds one row. -/

namespace Accounts.Service

open Store

deriving instance DecidableEq for Mark

/-! Registrations on a store in memory, reply by reply. -/

def registerOn (hasher : Password.Hasher) (signer : Token.Signer) (input : Registration)
    (memory : Memory) : Except Failure Session × Memory :=
  (Backend.ofMemory hasher).run (register signer input) memory

section Replies

variable {hasher : Password.Hasher} {signer : Token.Signer} {input : Registration}
  {names : UserName × Email} {clear : Password.ClearText} {memory : Memory}

theorem registerOn_of_refused {failure : Failure}
    (refused : readNames input.username input.email = .error failure) :
    registerOn hasher signer input memory = (.error failure, memory) := by
  rw [registerOn, register_eq, refused]
  rfl

theorem registerOn_of_username (read : readNames input.username input.email = .ok names)
    {row : User}
    (found : memory.table.find (fun user => user.username.text == names.1.text) = .ok row) :
    registerOn hasher signer input memory =
      (.error .usernameTaken, ⟨memory.table, memory.supply.next.2⟩) := by
  rw [registerOn, register_eq, read]
  dsimp only
  rw [Backend.run_ask, Backend.perform_findByUsername, found]
  rfl

/-- What is at hand when a user is created: two searches and a hash have come before. -/
def registrationFresh (memory : Memory) : Fresh := memory.supply.next.2.next.2.next.2.next.1

def registrationLast (memory : Memory) : Fresh := memory.supply.next.2.next.2.next.2.next.2.next.1

def registrationUser (hasher : Password.Hasher) (names : UserName × Email)
    (clear : Password.ClearText) (memory : Memory) : NewUser where
  username := names.1
  email := names.2
  password := hasher.hash memory.supply.next.2.next.2.next.1.salt clear
  role := .user

variable (read : readNames input.username input.email = .ok names)
  (nameFree : memory.table.find (fun user => user.username.text == names.1.text) =
    .error .userNotFound)

include read nameFree

theorem registerOn_of_nameFree : registerOn hasher signer input memory =
    (Backend.ofMemory hasher).run
      (.ask (.perform (.findByEmail names.2.text)) (afterEmail signer names input.password))
      ⟨memory.table, memory.supply.next.2⟩ := by
  rw [registerOn, register_eq, read]
  dsimp only
  rw [Backend.run_ask, Backend.perform_findByUsername, nameFree]
  rfl

theorem registerOn_of_email {row : User}
    (found : memory.table.find (fun user => user.email.text == Email.normalize names.2.text) =
      .ok row) :
    registerOn hasher signer input memory =
      (.error .emailTaken, ⟨memory.table, memory.supply.next.2.next.2⟩) := by
  rw [registerOn_of_nameFree read nameFree, Backend.run_ask, Backend.perform_findByEmail, found]
  rfl

variable (addressFree : memory.table.find
    (fun user => user.email.text == Email.normalize names.2.text) = .error .userNotFound)

include addressFree

theorem registerOn_of_addressFree : registerOn hasher signer input memory =
    (Backend.ofMemory hasher).run
      (afterEmail signer names input.password (.error .userNotFound))
      ⟨memory.table, memory.supply.next.2.next.2⟩ := by
  rw [registerOn_of_nameFree read nameFree, Backend.run_ask, Backend.perform_findByEmail,
    addressFree]

theorem registerOn_of_password {failure : Failure}
    (refused : readPassword input.password = .error failure) :
    registerOn hasher signer input memory =
      (.error failure, ⟨memory.table, memory.supply.next.2.next.2⟩) := by
  rw [registerOn_of_addressFree read nameFree addressFree, afterEmail, ensureAbsent, refused]
  rfl

theorem registerOn_of_accepted (accepted : readPassword input.password = .ok clear) :
    registerOn hasher signer input memory = (Backend.ofMemory hasher).run
      (afterCreate signer (memory.table.create (registrationFresh memory)
        (registrationUser hasher names clear memory)).1)
      ⟨(memory.table.create (registrationFresh memory)
        (registrationUser hasher names clear memory)).2,
        memory.supply.next.2.next.2.next.2.next.2⟩ := by
  rw [registerOn_of_addressFree read nameFree addressFree, afterEmail, ensureAbsent, accepted,
    Backend.run_ask, afterHash, Backend.run_ask, Backend.answer_create]
  rfl

theorem favoured_of_accepted (accepted : readPassword input.password = .ok clear)
    (favoured : (register signer input).Along (Backend.ofMemory hasher).answer
      (Request.Favoured signer) memory)
    (free : memory.table.checkUnique names.1.text names.2.text none = .ok ()) :
    memory.table.get? (registrationFresh memory).id = none ∧
      ((registrationLast memory).now.later? signer.expirySeconds).isSome := by
  have created := Table.create_of_free (registrationFresh memory)
    (registrationUser hasher names clear memory) free
  rw [register_eq, read] at favoured
  have searching := favoured.2
  rw [Backend.perform_findByUsername, nameFree, afterUsername, ensureAbsent] at searching
  have hashing := searching.2
  rw [Backend.perform_findByEmail, addressFree, afterEmail, ensureAbsent, accepted] at hashing
  have idNew : (memory.table.create (registrationFresh memory)
      (registrationUser hasher names clear memory)).1.isOk →
        memory.table.get? (registrationFresh memory).id = none := hashing.2.1
  have issuing := hashing.2.2
  rw [Backend.answer_create] at issuing
  have issuing : (afterCreate signer (memory.table.create (registrationFresh memory)
      (registrationUser hasher names clear memory)).1).Along (Backend.ofMemory hasher).answer
        (Request.Favoured signer)
        ⟨(memory.table.create (registrationFresh memory)
          (registrationUser hasher names clear memory)).2,
          memory.supply.next.2.next.2.next.2.next.2⟩ := issuing
  rw [created] at idNew issuing
  exact ⟨idNew rfl, issuing.1⟩

theorem registerOn_of_free (accepted : readPassword input.password = .ok clear)
    (favoured : (register signer input).Along (Backend.ofMemory hasher).answer
      (Request.Favoured signer) memory)
    (free : memory.table.checkUnique names.1.text names.2.text none = .ok ()) :
    ∃ row session, row = createdRow (registrationFresh memory)
        (registrationUser hasher names clear memory) ∧
      (registerOn hasher signer input memory).1 = .ok session ∧ session.user = row.view ∧
      (registerOn hasher signer input memory).2.table.entries =
        memory.table.entries ++ [(row.id, row)] := by
  obtain ⟨idNew, inTime⟩ :=
    favoured_of_accepted read nameFree addressFree accepted favoured free
  have created := Table.create_of_free (registrationFresh memory)
    (registrationUser hasher names clear memory) free
  let row := createdRow (registrationFresh memory) (registrationUser hasher names clear memory)
  let stored : Memory :=
    ⟨memory.table.put row.id row, memory.supply.next.2.next.2.next.2.next.2⟩
  obtain ⟨session, came, issued⟩ := Backend.run_afterNow_inTime hasher stored row inTime
  rw [registerOn_of_accepted read nameFree addressFree accepted, created]
  refine ⟨row, session, rfl, came, issued.user, ?_⟩
  exact (congrArg Table.entries (Backend.table_afterNow hasher _)).trans
    (Table.put_of_none _ idNew)

/-- A registration for whose name or address there is a row that the searches have not found. -/
theorem registerOn_of_held (accepted : readPassword input.password = .ok clear)
    {failure : Failure}
    (held : memory.table.checkUnique names.1.text names.2.text none = .error failure) :
    (registerOn hasher signer input memory).1 = .error failure ∧
      (registerOn hasher signer input memory).2.table = memory.table := by
  have refused := Table.create_of_refused (registrationFresh memory)
    (registrationUser hasher names clear memory) held
  rw [registerOn_of_accepted read nameFree addressFree accepted, refused]
  exact ⟨rfl, rfl⟩

end Replies

end Accounts.Service

namespace Accounts.Http

open Service Store

/-! Objections. -/

/-- What can be said against a registration. A name or an address that a live row has is found
early, and one that only a deleted row has is found late. -/
inductive Objection
  | shortPassword
  | username
  | email
  | live (mark : Mark)
  | longPassword
  | deleted (mark : Mark)
  deriving DecidableEq

def asked (input : Wire.Registration) : Registration where
  username := input.username
  email := input.email
  password := input.password

def complaint : Mark → String
  | .username => "username already exists"
  | .email => "email already exists"

namespace Objection

def all : List Objection :=
  [.shortPassword, .username, .email, .live .username, .live .email, .longPassword,
   .deleted .username, .deleted .email]

def Applies (table : Table) (input : Wire.Registration) : Objection → Prop
  | .shortPassword => input.password.length < 6
  | .username => (UserName.of input.username).isOk = false
  | .email => (Email.of input.email).isOk = false
  | .live mark => ∃ row ∈ table.users,
      row.isDeleted = false ∧ mark.ofUser row = mark.ofInput (asked input)
  | .longPassword => 128 < input.password.length
  | .deleted mark => ∃ row ∈ table.users,
      row.isDeleted = true ∧ mark.ofUser row = mark.ofInput (asked input)

instance (table : Table) (input : Wire.Registration) :
    (objection : Objection) → Decidable (objection.Applies table input)
  | .shortPassword | .longPassword => inferInstanceAs (Decidable (_ < _))
  | .username | .email => inferInstanceAs (Decidable (_ = false))
  | .live mark => inferInstanceAs (Decidable (∃ row ∈ table.users,
      row.isDeleted = false ∧ mark.ofUser row = mark.ofInput (asked input)))
  | .deleted mark => inferInstanceAs (Decidable (∃ row ∈ table.users,
      row.isDeleted = true ∧ mark.ofUser row = mark.ofInput (asked input)))

def first? (table : Table) (input : Wire.Registration) : Option Objection :=
  all.find? fun objection => objection.Applies table input

def status : Objection → Nat
  | .live _ | .deleted _ => 409
  | _ => 400

inductive Tells (input : Wire.Registration) : Objection → Problem → Prop
  | shortPassword : Tells input .shortPassword
      { kind := .badRequest, detail := "password must be at least 6 characters" }
  | username {error : UserNameError} (refused : UserName.of input.username = .error error) :
      Tells input .username { kind := .badRequest, detail := error.message }
  | email {error : EmailError} (refused : Email.of input.email = .error error) :
      Tells input .email { kind := .badRequest, detail := error.message }
  | live (mark : Mark) :
      Tells input (.live mark) { kind := .conflict, detail := complaint mark }
  | longPassword {error : Password.PolicyError}
      (refused : Password.ClearText.of input.password = .error error) :
      Tells input .longPassword { kind := .badRequest, detail := error.message }
  | deleted (mark : Mark) :
      Tells input (.deleted mark) { kind := .conflict, detail := complaint mark }

theorem Tells.status {input : Wire.Registration} {objection : Objection} {problem : Problem}
    (tells : objection.Tells input problem) : problem.kind.status = objection.status := by
  cases tells <;> rfl

end Objection

/-! What a registration comes to. -/

def registration (instruments : Instruments) (input : Wire.Registration) (memory : Memory) :
    Response × Memory :=
  let (result, memory) := (Backend.ofMemory instruments.hasher).run
    (answerRegistration instruments.signer input) memory
  (respond 201 sessionDocument result, memory)

structure Refused (input : Wire.Registration) (memory : Memory) (objection : Objection)
    (answered : Response × Memory) : Prop where
  response : ∃ problem, objection.Tells input problem ∧
    answered.1 = .ofDocument objection.status problem.document
  unchanged : answered.2.table = memory.table

structure Accepted (input : Wire.Registration) (memory : Memory) (answered : Response × Memory) :
    Prop where
  added : ∃ row, RowOf (asked input) row ∧
    (∃ clear, Password.ClearText.of input.password = .ok clear ∧
      row.password.verifies clear = true) ∧
    answered.2.table.entries = memory.table.entries ++ [(row.id, row)] ∧
    ∃ session : Session, session.user = row.view ∧
      answered.1 = .ofDocument 201 (sessionDocument session)

def Decided (input : Wire.Registration) (memory : Memory) (answered : Response × Memory) :
    Option Objection → Prop
  | some objection => Refused input memory objection answered
  | none => Accepted input memory answered

section Registration

variable {instruments : Instruments} {input : Wire.Registration} {memory : Memory}

theorem registration_eq : registration instruments input memory =
    (respond 201 sessionDocument ((Backend.ofMemory instruments.hasher).run
        (answerRegistration instruments.signer input) memory).1,
      ((Backend.ofMemory instruments.hasher).run
        (answerRegistration instruments.signer input) memory).2) := rfl

theorem refused_of_error {objection : Objection} {failure : Failure}
    {ran : Except Failure Session × Memory} (failed : ran.1 = .error failure)
    (tells : objection.Tells input failure.problem) (same : ran.2.table = memory.table) :
    Refused input memory objection (respond 201 sessionDocument ran.1, ran.2) := by
  refine ⟨⟨failure.problem, tells, ?_⟩, same⟩
  rw [failed, ← tells.status]
  rfl

theorem answerRegistration_of_short (short : input.password.length < 6) (signer : Token.Signer) :
    answerRegistration signer input =
      .done (.error (.validation "password must be at least 6 characters")) := by
  have refused : input.check =
      .error (.validation "password must be at least 6 characters") := if_pos short
  rw [answerRegistration, refused]
  rfl

theorem answerRegistration_of_long (long : ¬ input.password.length < 6) (signer : Token.Signer) :
    answerRegistration signer input = Service.register signer (asked input) := by
  have accepted : input.check = .ok () := if_neg long
  rw [answerRegistration, accepted]
  rfl

theorem registration_of_long (long : ¬ input.password.length < 6) :
    registration instruments input memory = (respond 201 sessionDocument
      (registerOn instruments.hasher instruments.signer (asked input) memory).1,
      (registerOn instruments.hasher instruments.signer (asked input) memory).2) := by
  rw [registration_eq, answerRegistration_of_long long]
  rfl

theorem find_mark (table : Table) (mark : Mark) (text : String) :
    ((∃ row ∈ table.users, row.isDeleted = false ∧ mark.ofUser row = text) ∧
      ∃ row, table.find (fun user => mark.ofUser user == text) = .ok row) ∨
    ((¬ ∃ row ∈ table.users, row.isDeleted = false ∧ mark.ofUser row = text) ∧
      table.find (fun user => mark.ofUser user == text) = .error .userNotFound) := by
  rcases table.find_cases fun user => mark.ofUser user == text with
    ⟨row, member, live, same, found⟩ | ⟨hidden, absent⟩
  · exact .inl ⟨⟨row, member, live, eq_of_beq same⟩, row, found⟩
  · refine .inr ⟨?_, absent⟩
    rintro ⟨row, member, live, same⟩
    rw [hidden row member (by simp [same])] at live
    contradiction

theorem held_iff_deleted {table : Table} {mark : Mark}
    (dead : ¬ (Objection.live mark).Applies table input) :
    (∃ row ∈ table.users, mark.ofUser row = mark.ofInput (asked input)) ↔
      (Objection.deleted mark).Applies table input := by
  constructor
  · rintro ⟨row, member, same⟩
    cases gone : row.isDeleted with
    | true => exact ⟨row, member, gone, same⟩
    | false => exact absurd ⟨row, member, gone, same⟩ dead
  · rintro ⟨row, member, -, same⟩
    exact ⟨row, member, same⟩

theorem readPassword_cases (long : ¬ input.password.length < 6) :
    (128 < input.password.length ∧ ∃ error, Password.ClearText.of input.password = .error error) ∨
    (¬ 128 < input.password.length ∧ ∃ clear,
      Password.ClearText.of input.password = .ok clear) := by
  have nonempty : input.password ≠ "" := by
    intro empty
    rw [empty] at long
    exact long (by decide)
  rw [Password.ClearText.of, dif_neg nonempty]
  by_cases short : input.password.length ≤ Password.maxLength
  · rw [dif_pos short]
    exact .inr ⟨Nat.not_lt_of_le short, _, rfl⟩
  · rw [dif_neg short]
    exact .inl ⟨Nat.lt_of_not_le short, _, rfl⟩

theorem accepted_of_ok {session : Session} {row : User} {clear : Password.ClearText}
    {ran : Except Failure Session × Memory} (ended : ran.1 = .ok session)
    (user : session.user = row.view) (rowOf : RowOf (asked input) row)
    (password : Password.ClearText.of input.password = .ok clear)
    (verified : row.password.verifies clear = true)
    (entries : ran.2.table.entries = memory.table.entries ++ [(row.id, row)]) :
    Accepted input memory (respond 201 sessionDocument ran.1, ran.2) := by
  refine ⟨row, rowOf, ⟨clear, password, verified⟩, entries, session, user, ?_⟩
  rw [ended]
  rfl

section Read

variable {names : UserName × Email} {clear : Password.ClearText}
  (read : readNames (asked input).username (asked input).email = .ok names)

include read

theorem find_username (table : Table) :
    (∃ row, table.find (fun user => user.username.text == names.1.text) = .ok row ∧
      (Objection.live .username).Applies table input) ∨
    (table.find (fun user => user.username.text == names.1.text) = .error .userNotFound ∧
      ¬ (Objection.live .username).Applies table input) := by
  rw [(readNames_texts read).1]
  rcases find_mark table .username (asked input).username with
    ⟨live, row, found⟩ | ⟨dead, absent⟩
  · exact .inl ⟨row, found, live⟩
  · exact .inr ⟨absent, dead⟩

theorem find_email (table : Table) :
    (∃ row, table.find (fun user => user.email.text == Email.normalize names.2.text) = .ok row ∧
      (Objection.live .email).Applies table input) ∨
    (table.find (fun user => user.email.text == Email.normalize names.2.text) =
      .error .userNotFound ∧ ¬ (Objection.live .email).Applies table input) := by
  obtain ⟨-, email, again⟩ := readNames_texts read
  rw [again, email]
  rcases find_mark table .email (Email.normalize (asked input).email) with
    ⟨live, row, found⟩ | ⟨dead, absent⟩
  · exact .inl ⟨row, found, live⟩
  · exact .inr ⟨absent, dead⟩

/-- Where no live row has a mark of a registration, the table refuses for the deleted ones. -/
theorem checkUnique_of_dead (dead : ∀ mark, ¬ (Objection.live mark).Applies memory.table input) :
    ((Objection.deleted .username).Applies memory.table input ∧
      memory.table.checkUnique names.1.text names.2.text none = .error .usernameTaken) ∨
    (¬ (Objection.deleted .username).Applies memory.table input ∧
      (Objection.deleted .email).Applies memory.table input ∧
      memory.table.checkUnique names.1.text names.2.text none = .error .emailTaken) ∨
    ((∀ mark, ¬ (Objection.deleted mark).Applies memory.table input) ∧
      memory.table.checkUnique names.1.text names.2.text none = .ok ()) := by
  obtain ⟨username, email, -⟩ := readNames_texts read
  have everyone : memory.table.others none = memory.table.users := by simp [Table.others]
  -- The table counts all rows; where no live row has a mark, those that have it are deleted.
  simp only [← held_iff_deleted (dead _)]
  rw [username, email]
  by_cases name : ∃ row ∈ memory.table.users,
      Mark.username.ofUser row = Mark.username.ofInput (asked input)
  · refine .inl ⟨name, Table.checkUnique_eq_usernameTaken.mpr ?_⟩
    rw [everyone]
    exact name
  · have nameFree : ∀ row ∈ memory.table.users,
        Mark.username.ofUser row ≠ Mark.username.ofInput (asked input) :=
      fun row member same => name ⟨row, member, same⟩
    by_cases address : ∃ row ∈ memory.table.users,
        Mark.email.ofUser row = Mark.email.ofInput (asked input)
    · refine .inr (.inl ⟨name, address, Table.checkUnique_eq_emailTaken.mpr ?_⟩)
      rw [everyone]
      exact ⟨nameFree, address⟩
    · refine .inr (.inr ⟨?_, Table.checkUnique_eq_ok.mpr ?_⟩)
      · intro mark
        cases mark with
        | username => exact name
        | email => exact address
      · rw [everyone]
        exact fun row member => ⟨nameFree row member, fun same => address ⟨row, member, same⟩⟩

theorem decided_of_dead (fits : instruments.hasher.cost.Fits)
    (favoured : (Service.register instruments.signer (asked input)).Along
      (Backend.ofMemory instruments.hasher).answer (Request.Favoured instruments.signer) memory)
    (nameFree : memory.table.find (fun user => user.username.text == names.1.text) =
      .error .userNotFound)
    (addressFree : memory.table.find
      (fun user => user.email.text == Email.normalize names.2.text) = .error .userNotFound)
    (password : Password.ClearText.of input.password = .ok clear)
    (dead : ∀ mark, ¬ (Objection.live mark).Applies memory.table input)
    (valid : ∀ objection ∈ [.shortPassword, .username, .email, .longPassword],
      ¬ Objection.Applies memory.table input objection) :
    Decided input memory (respond 201 sessionDocument
      (registerOn instruments.hasher instruments.signer (asked input) memory).1,
      (registerOn instruments.hasher instruments.signer (asked input) memory).2)
      (Objection.first? memory.table input) := by
  have accepted : readPassword (asked input).password = .ok clear := readPassword_of_ok password
  rcases checkUnique_of_dead read dead with
    ⟨held, refused⟩ | ⟨nameless, held, refused⟩ | ⟨nobody, free⟩
  · have first : Objection.first? memory.table input = some (.deleted .username) := by
      simp [Objection.first?, Objection.all, valid, dead, held]
    obtain ⟨failed, same⟩ := registerOn_of_held read nameFree addressFree accepted refused
    rw [first]
    exact refused_of_error failed (.deleted .username) same
  · have first : Objection.first? memory.table input = some (.deleted .email) := by
      simp [Objection.first?, Objection.all, valid, dead, nameless, held]
    obtain ⟨failed, same⟩ := registerOn_of_held read nameFree addressFree accepted refused
    rw [first]
    exact refused_of_error failed (.deleted .email) same
  · have first : Objection.first? memory.table input = none := by
      simp [Objection.first?, Objection.all, valid, dead, nobody]
    obtain ⟨row, session, rfl, ended, user, entries⟩ :=
      registerOn_of_free read nameFree addressFree accepted favoured free
    rw [first]
    exact accepted_of_ok ended user (rowOf_createdRow read _ _) password
      (Password.verifies_hash instruments.hasher fits _ clear) entries

theorem decided_of_read (fits : instruments.hasher.cost.Fits)
    (favoured : (Service.register instruments.signer (asked input)).Along
      (Backend.ofMemory instruments.hasher).answer (Request.Favoured instruments.signer) memory)
    (short : ¬ Objection.shortPassword.Applies memory.table input)
    (named : ¬ Objection.username.Applies memory.table input)
    (addressed : ¬ Objection.email.Applies memory.table input) :
    Decided input memory (respond 201 sessionDocument
      (registerOn instruments.hasher instruments.signer (asked input) memory).1,
      (registerOn instruments.hasher instruments.signer (asked input) memory).2)
      (Objection.first? memory.table input) := by
  rcases find_username read memory.table with ⟨row, found, live⟩ | ⟨nameFree, nameDead⟩
  · have first : Objection.first? memory.table input = some (.live .username) := by
      simp [Objection.first?, Objection.all, short, named, addressed, live]
    rw [first, registerOn_of_username read found]
    exact refused_of_error rfl (.live .username) rfl
  rcases find_email read memory.table with ⟨row, found, live⟩ | ⟨addressFree, addressDead⟩
  · have first : Objection.first? memory.table input = some (.live .email) := by
      simp [Objection.first?, Objection.all, short, named, addressed, nameDead, live]
    rw [first, registerOn_of_email read nameFree found]
    exact refused_of_error rfl (.live .email) rfl
  rcases readPassword_cases short with ⟨long, error, refused⟩ | ⟨fine, clear, password⟩
  · have applies : Objection.longPassword.Applies memory.table input := long
    have first : Objection.first? memory.table input = some .longPassword := by
      simp [Objection.first?, Objection.all, short, named, addressed, nameDead, addressDead,
        applies]
    have failed : readPassword (asked input).password = .error (Failure.ofPolicy error) :=
      readPassword_of_refused refused
    rw [first, registerOn_of_password read nameFree addressFree failed]
    exact refused_of_error rfl (.longPassword refused) rfl
  have fine : ¬ Objection.longPassword.Applies memory.table input := fine
  refine decided_of_dead read fits favoured nameFree addressFree password ?_ ?_
  · intro mark
    cases mark with
    | username => exact nameDead
    | email => exact addressDead
  · simp [short, named, addressed, fine]

end Read

theorem registration_is_decided (fits : instruments.hasher.cost.Fits)
    (favoured : (answerRegistration instruments.signer input).Along
      (Backend.ofMemory instruments.hasher).answer (Request.Favoured instruments.signer) memory) :
    Decided input memory (registration instruments input memory)
      (Objection.first? memory.table input) := by
  by_cases short : Objection.shortPassword.Applies memory.table input
  · have first : Objection.first? memory.table input = some .shortPassword := by
      simp [Objection.first?, Objection.all, short]
    have tells : Objection.shortPassword.Tells input
        (Failure.problem (.validation "password must be at least 6 characters")) :=
      .shortPassword
    rw [first, registration_eq, answerRegistration_of_short short]
    exact refused_of_error rfl tells rfl
  rw [answerRegistration_of_long short] at favoured
  rw [registration_of_long short]
  cases name_read : UserName.of input.username with
  | error error =>
      have applies : Objection.username.Applies memory.table input := by
        rw [Objection.Applies, name_read]
        rfl
      have first : Objection.first? memory.table input = some .username := by
        simp [Objection.first?, Objection.all, short, applies]
      have refused : readNames (asked input).username (asked input).email =
          .error (Failure.ofUserName error) := readNames_of_refusedName name_read
      rw [first, registerOn_of_refused refused]
      exact refused_of_error rfl (.username name_read) rfl
  | ok name =>
      have named : ¬ Objection.username.Applies memory.table input := by
        rw [Objection.Applies, name_read]
        exact Bool.noConfusion
      cases address_read : Email.of input.email with
      | error error =>
          have applies : Objection.email.Applies memory.table input := by
            rw [Objection.Applies, address_read]
            rfl
          have first : Objection.first? memory.table input = some .email := by
            simp [Objection.first?, Objection.all, short, named, applies]
          have refused : readNames (asked input).username (asked input).email =
              .error (Failure.ofEmail error) := readNames_of_refusedEmail name_read address_read
          rw [first, registerOn_of_refused refused]
          exact refused_of_error rfl (.email address_read) rfl
      | ok address =>
          have addressed : ¬ Objection.email.Applies memory.table input := by
            rw [Objection.Applies, address_read]
            exact Bool.noConfusion
          have read : readNames (asked input).username (asked input).email =
              .ok (name, address) := readNames_ok name_read address_read
          exact decided_of_read read fits favoured short named addressed

structure ReadsRegistration (request : Request) (input : Wire.Registration) : Prop where
  path : request.path = "/auth/register"
  method : request.method = "POST"
  read : readDocument Wire.Registration.reader request = .ok input

theorem ReadsRegistration.exchange {request : Request} (reads : ReadsRegistration request input) :
    Http.exchange instruments request memory = registration instruments input memory := by
  have path : request.path = Route.register.path := reads.path
  have notHead : request.method ≠ "HEAD" := by
    rw [reads.method]
    decide
  have allowed : Route.register.allows request.method = true := by
    rw [reads.method]
    decide
  have answered : answerOpen instruments.signer .register request = (do
      return respond 201 sessionDocument (← answerRegistration instruments.signer input)) := by
    unfold answerOpen
    rw [reads.read]
  rw [exchange_of_path instruments path, exchangeAt_of_open instruments rfl, if_pos allowed,
    sent_of_allowed notHead allowed, answered, Backend.run, Program.run_bind]
  rfl

/-- A registration is refused for the first objection to it and leaves the table as it is; if there
is none, it gets a session and adds its row to the table and nothing else. That is what a client is
told who posts it. -/
theorem registration_decides (fits : instruments.hasher.cost.Fits)
    (favoured : (answerRegistration instruments.signer input).Along
      (Backend.ofMemory instruments.hasher).answer (Request.Favoured instruments.signer) memory) :
    Decided input memory (registration instruments input memory)
      (Objection.first? memory.table input) ∧
    ∀ request, ReadsRegistration request input →
      Http.exchange instruments request memory = registration instruments input memory :=
  ⟨registration_is_decided fits favoured, fun _ reads => reads.exchange⟩

end Registration

/-- A name is registered, and it is refused where a row that has been deleted has it. -/
theorem registration_decides_namesake :
    let signer : Token.Signer := ⟨"key", 1, by decide, by decide, by decide⟩
    let instruments : Instruments := ⟨signer, ⟨⟨8, 1, 1⟩, rfl⟩⟩
    let row : User := deletedRow (countingSupply.piece 14)
      (createdRow (countingSupply.piece 15) ⟨⟨"bob"⟩, ⟨"bob@example.com"⟩, ⟨""⟩, .user⟩)
    let empty : Memory := ⟨Table.empty, countingSupply⟩
    let memory : Memory := ⟨⟨[(row.id, row)]⟩, countingSupply⟩
    let input : Wire.Registration := ⟨"bob", "Bob@x.io", "secret1"⟩
    Accepted input empty (registration instruments input empty) ∧
    Refused input memory (.deleted .username) (registration instruments input memory) := by
  intro signer instruments row empty memory input
  have fits : instruments.hasher.cost.Fits := ⟨by decide, by decide⟩
  have nothing : Objection.first? empty.table input = none := by
    decide +kernel
  have namesake : Objection.first? memory.table input = some (.deleted .username) := by
    decide +kernel
  have here : (answerRegistration instruments.signer input).Along
      (Backend.ofMemory instruments.hasher).answer (Request.Favoured instruments.signer) empty := by
    decide +kernel
  have there : (answerRegistration instruments.signer input).Along
      (Backend.ofMemory instruments.hasher).answer (Request.Favoured instruments.signer)
        memory := by
    decide +kernel
  have accepted := (registration_decides fits here).1
  have refused := (registration_decides fits there).1
  rw [nothing] at accepted
  rw [namesake] at refused
  exact ⟨accepted, refused⟩

end Accounts.Http

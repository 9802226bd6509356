import Accounts.Proofs.Http.Api
import Accounts.Proofs.Service.Traffic

/-! A deleted row is there for good. Nobody finds it, changes it or logs in with it any more, and
its name and its address stay taken. -/

namespace Accounts

open Service Store

namespace Service.Backend

variable (hasher : Password.Hasher) {memory : Memory} {row : User}

theorem perform_findByUsername (username : String) :
    (ofMemory hasher).answer (.perform (.findByUsername username)) memory =
      (memory.table.find fun user => user.username.text == username,
        ⟨memory.table, memory.supply.next.2⟩) := rfl

theorem perform_findByEmail (email : String) :
    (ofMemory hasher).answer (.perform (.findByEmail email)) memory =
      (memory.table.find fun user => user.email.text == Email.normalize email,
        ⟨memory.table, memory.supply.next.2⟩) := rfl

theorem run_afterCreate_isTaken {signer : Token.Signer} {created : Except Failure User}
    (taken : IsTaken created) :
    IsTaken ((ofMemory hasher).run (afterCreate signer created) memory).1 := by
  rcases taken with rfl | rfl
  · exact .inl rfl
  · exact .inr rfl

theorem run_afterSeeded_of_isTaken {created : Except Failure User} (taken : IsTaken created) :
    ((ofMemory hasher).run (afterSeeded created) memory).1 = .ok .alreadyPresent := by
  rcases taken with rfl | rfl
  · rfl
  · rfl

theorem run_register_of_buries (buries : memory.table.Buries row) {signer : Token.Signer}
    {input : Registration} {names : UserName × Email} {clear : Password.ClearText}
    (read : readNames input.username input.email = .ok names)
    (accepted : readPassword input.password = .ok clear)
    (claims : names.1.text = row.username.text ∨ names.2.text = row.email.text) :
    IsTaken ((ofMemory hasher).run (register signer input) memory).1 := by
  rw [register_eq, read]
  dsimp only
  rw [run_ask, perform_findByUsername]
  rcases memory.table.find_cases fun user => user.username.text == names.1.text with
    ⟨other, -, -, -, found⟩ | ⟨-, absent⟩
  · rw [found]
    exact .inl rfl
  · -- The searches see live rows only, and so it is the table that refuses.
    rw [absent, afterUsername, ensureAbsent, run_ask, perform_findByEmail]
    rcases memory.table.find_cases fun user => user.email.text == Email.normalize names.2.text with
      ⟨other, -, -, -, found⟩ | ⟨-, absent⟩
    · rw [found]
      exact .inr rfl
    · rw [absent, afterEmail, ensureAbsent, accepted, run_ask, afterHash, run_ask, answer_create]
      apply run_afterCreate_isTaken
      exact buries.create_isTaken _ claims

/-- An administrator with the name or the address of a deleted row counts as present. -/
theorem run_seed_of_buries (buries : memory.table.Buries row) {admin : DefaultAdmin}
    {names : UserName × Email} {clear : Password.ClearText}
    (read : readNames admin.username admin.email = .ok names)
    (accepted : readPassword admin.password = .ok clear)
    (claims : names.1.text = row.username.text ∨ names.2.text = row.email.text) :
    ((ofMemory hasher).run (seed admin) memory).1 = .ok .alreadyPresent := by
  rw [seed_eq, read]
  dsimp only
  rw [run_ask, perform_findByUsername]
  rcases memory.table.find_cases fun user => user.username.text == names.1.text with
    ⟨other, -, -, -, found⟩ | ⟨-, absent⟩
  · rw [found]
    rfl
  · rw [absent, afterSought, foundUser, accepted, run_ask, run_ask, answer_create]
    apply run_afterSeeded_of_isTaken
    exact buries.create_isTaken _ claims

end Service.Backend

variable (instruments : Instruments) {row : User} {memory : Memory}

/-- What a deleted row is to whoever uses a store. -/
structure Buried (row : User) (memory : Memory) : Prop where
  stored : memory.table.get? row.id = some row
  byUsername : ∀ username user,
    (Memory.perform (.findByUsername username) memory).1 = .ok user → user.id ≠ row.id
  byEmail : ∀ email user,
    (Memory.perform (.findByEmail email) memory).1 = .ok user → user.id ≠ row.id
  byId : ∀ id user, (Memory.perform (.findById id) memory).1 = .ok user → user.id ≠ row.id
  update : ∀ user, user.id = row.id →
    (Memory.perform (.update user) memory).1 = .error .userNotFound
  delete : (Memory.perform (.delete row.id) memory).1 = .error .userNotFound
  login : ∀ password, ((Backend.ofMemory instruments.hasher).run
    (Service.login instruments.signer ⟨row.username.text, password⟩) memory).1 =
      .error .invalidCredentials
  profile : ∀ request claims, request.path = "/auth/profile" → request.method = "GET" →
    Http.authenticate instruments.signer memory.supply.next.1.now.second request = .ok claims →
    Uuid.parse? claims.userId = some row.id →
    (Http.exchange instruments request memory).1.status = 404
  apart : ∀ other ∈ memory.table.users, other ≠ row → other.id ≠ row.id ∧
    other.username.text ≠ row.username.text ∧ other.email.text ≠ row.email.text
  create : ∀ new, new.username.text = row.username.text ∨ new.email.text = row.email.text →
    IsTaken (Memory.perform (.create new) memory).1
  rename : ∀ user, (memory.table.live? user.id).isSome →
    user.username.text = row.username.text ∨ user.email.text = row.email.text →
    IsTaken (Memory.perform (.update user) memory).1
  register : ∀ input, (readNames input.username input.email).isOk →
    (readPassword input.password).isOk →
    input.username = row.username.text ∨ Email.normalize input.email = row.email.text →
    IsTaken ((Backend.ofMemory instruments.hasher).run
      (Service.register instruments.signer input) memory).1
  seed : ∀ admin, (readNames admin.username admin.email).isOk →
    (readPassword admin.password).isOk →
    admin.username = row.username.text ∨ Email.normalize admin.email = row.email.text →
    ((Backend.ofMemory instruments.hasher).run (Service.seed admin) memory).1 =
      .ok .alreadyPresent

theorem buried_of_buries (buries : memory.table.Buries row) : Buried instruments row memory where
  stored := buries.stored
  byUsername := fun _ _ found => buries.find_ne found
  byEmail := fun _ _ found => buries.find_ne found
  byId := fun _ _ found => buries.find_ne found
  update := by
    intro user same
    change (memory.table.update memory.supply.next.1 user).1 = _
    rw [Table.update, same, buries.live?_eq_none]
  delete := by
    change (memory.table.delete memory.supply.next.1 row.id).1 = _
    rw [Table.delete, buries.live?_eq_none]
  login := by
    intro password
    apply Backend.run_login_of_absent
    apply buries.find_eq_userNotFound
    intro other member named
    exact Table.eq_of_same_text buries.wellFormed.usernames member
      (Table.mem_users_of_get? buries.stored) (eq_of_beq named)
  profile := by
    intro request claims path method authentic named
    have allowed : Http.Route.profile.allows request.method = true := by
      rw [method]
      decide
    have absent : memory.table.find (fun user => user.id == row.id) = .error .userNotFound := by
      apply buries.find_eq_userNotFound
      intro other member same
      exact buries.wellFormed.eq_of_same_id buries.stored member (eq_of_beq same)
    rw [Http.exchange_profile instruments path allowed authentic named, absent, Http.status_sent]
    rfl
  apart := by
    intro other member different
    refine ⟨?_, buries.texts_ne member different⟩
    intro same
    exact different (buries.wellFormed.eq_of_same_id buries.stored member same)
  create := fun new claims => buries.create_isTaken memory.supply.next.1 claims
  rename := by
    intro user live claims
    obtain ⟨other, found⟩ := Option.isSome_iff_exists.mp live
    exact buries.update_isTaken memory.supply.next.1 found claims
  register := by
    intro input names accepted claims
    obtain ⟨names, read⟩ := exists_of_isOk names
    obtain ⟨clear, accepted⟩ := exists_of_isOk accepted
    obtain ⟨username, email, -⟩ := readNames_texts read
    rw [← username, ← email] at claims
    exact Backend.run_register_of_buries instruments.hasher buries read accepted claims
  seed := by
    intro admin names accepted claims
    obtain ⟨names, read⟩ := exists_of_isOk names
    obtain ⟨clear, accepted⟩ := exists_of_isOk accepted
    obtain ⟨username, email, -⟩ := readNames_texts read
    rw [← username, ← email] at claims
    exact Backend.run_seed_of_buries instruments.hasher buries read accepted claims

/-- Once a row has been deleted, whatever happens: at every memory that is met, the copies that
transactions work on included, the row is there as it was, nobody finds it or changes it or logs in
with it, and nobody else has or gets its name or its address. -/
theorem deleted_rows_stay_buried (supply : Supply) (earlier later : List Event)
    (idsNew : Event.AllIdsNew instruments ⟨Table.empty, supply⟩ (earlier ++ later))
    (member : row ∈ (Event.after instruments ⟨Table.empty, supply⟩ earlier).table.users)
    (deleted : row.isDeleted = true) :
    ∀ met ∈ Event.allMet instruments (Event.after instruments ⟨Table.empty, supply⟩ earlier) later,
      Buried instruments row met := by
  obtain ⟨early, late⟩ := Event.allIdsNew_append.mp idsNew
  have wellFormed := Event.kept_wellFormed.after early Table.wellFormed_empty
  have buries : (Event.after instruments ⟨Table.empty, supply⟩ earlier).table.Buries row :=
    ⟨wellFormed, wellFormed.get?_of_mem_users member, deleted⟩
  intro met shown
  apply buried_of_buries
  exact (Event.kept_buries row).allMet late buries met shown

/-- A user is created and deleted; then the row is to be brought back, and its name to be registered
with another address. -/
theorem deleted_rows_stay_buried_revived :
    let signer : Token.Signer := ⟨"key", 1, by decide, by decide, by decide⟩
    let instruments : Instruments := ⟨signer, ⟨⟨8, 1, 1⟩, rfl⟩⟩
    let new : NewUser := ⟨⟨"alice"⟩, ⟨"alice@example.com"⟩, ⟨""⟩, .user⟩
    let created : User := createdRow (countingSupply.piece 0) new
    let row : User := deletedRow (countingSupply.piece 1) created
    let earlier : List Event :=
      [.call (.operation (.create new) : Call Unit),
        .call (.operation (.delete created.id) : Call Unit)]
    let later : List Event :=
      [.call (.operation (.update created) : Call Unit),
        .visit (.register ⟨"alice", "other@example.com", "secret1"⟩)]
    Event.AllIdsNew instruments ⟨Table.empty, countingSupply⟩ (earlier ++ later) ∧
    row ∈ (Event.after instruments ⟨Table.empty, countingSupply⟩ earlier).table.users ∧
    row.isDeleted = true ∧
    ∀ met ∈ Event.allMet instruments
      (Event.after instruments ⟨Table.empty, countingSupply⟩ earlier) later,
      Buried instruments row met := by
  intro signer instruments new created row earlier later
  have idsNew :
      Event.AllIdsNew instruments ⟨Table.empty, countingSupply⟩ (earlier ++ later) := by
    decide +kernel
  have member :
      row ∈ (Event.after instruments ⟨Table.empty, countingSupply⟩ earlier).table.users := by
    decide +kernel
  have deleted : row.isDeleted = true := rfl
  exact ⟨idsNew, member, deleted,
    deleted_rows_stay_buried instruments countingSupply earlier later idsNew member deleted⟩

end Accounts

import Accounts.Proofs.Deletion
import Accounts.Proofs.Disclosure
import Accounts.Proofs.Pool

/-! The administrator is created once: where no row, deleted or not, has the name or the address, by
the first who asks for it, and never again. -/

namespace Accounts.Service

open Store

/-! Tables in which the administrator counts as present. -/

def Occupied (admin : DefaultAdmin) (table : Table) : Prop :=
  ∃ row ∈ table.users, row.username.text = admin.username ∨
    row.email.text = Email.normalize admin.email

def Request.Spares : Request → Prop
  | .perform (.update _) => False
  | _ => True

theorem Request.spares_of_adds {request : Request} (adds : request.Adds fun _ => True) :
    request.Spares := by
  cases request with
  | perform operation =>
      cases operation with
      | update user => exact adds
      | _ => trivial
  | _ => trivial

section Occupied

variable {admin : DefaultAdmin} {names : UserName × Email} {table : Table} {memory : Memory}

theorem checkUnique_of_occupied (read : readNames admin.username admin.email = .ok names)
    (occupied : Occupied admin table) :
    IsTaken (table.checkUnique names.1.text names.2.text none) := by
  obtain ⟨username, email, -⟩ := readNames_texts read
  obtain ⟨row, member, same⟩ := occupied
  apply Table.checkUnique_isTaken
  rw [username, email]
  exact ⟨row, Table.mem_others.mpr ⟨member, nofun⟩, same⟩

theorem occupied_of_checkUnique (read : readNames admin.username admin.email = .ok names)
    {failure : Failure}
    (refused : table.checkUnique names.1.text names.2.text none = .error failure) :
    Occupied admin table ∧ IsTaken (.error failure : Except Failure User) := by
  obtain ⟨username, email, -⟩ := readNames_texts read
  rcases Table.checkUnique_error refused with
    ⟨rfl, row, member, same⟩ | ⟨rfl, row, member, same⟩
  · exact ⟨⟨row, member, .inl (same.trans username)⟩, .inl rfl⟩
  · exact ⟨⟨row, member, .inr (same.trans email)⟩, .inr rfl⟩

theorem not_occupied_of_checkUnique (read : readNames admin.username admin.email = .ok names)
    (free : table.checkUnique names.1.text names.2.text none = .ok ()) :
    ¬ Occupied admin table := by
  intro occupied
  have taken := checkUnique_of_occupied read occupied
  rw [free] at taken
  exact not_isTaken_ok _ taken

theorem occupied_of_find (read : readNames admin.username admin.email = .ok names) {row : User}
    (member : row ∈ table.users) (same : (row.username.text == names.1.text) = true) :
    Occupied admin table := by
  obtain ⟨username, -⟩ := readNames_texts read
  exact ⟨row, member, .inl ((eq_of_beq same).trans username)⟩

theorem occupied_put (read : readNames admin.username admin.email = .ok names) (fresh : Fresh)
    (password : Password.Hashed) (role : Role) :
    Occupied admin (table.put fresh.id
      (createdRow fresh { username := names.1, email := names.2, password, role })) := by
  obtain ⟨username, -⟩ := readNames_texts read
  exact ⟨_, Table.mem_users.mpr ⟨fresh.id, Table.mem_put.mpr (.inl rfl)⟩, .inl username⟩

theorem Occupied.grows {good : User → Prop} {later : Table} (occupied : Occupied admin table)
    (grows : table.Grows good later) : Occupied admin later := by
  obtain ⟨row, member, same⟩ := occupied
  exact ⟨row, grows.mem_users member, same⟩

theorem Occupied.delete (occupied : Occupied admin table) (wellFormed : table.WellFormed)
    (fresh : Fresh) (id : Uuid) : Occupied admin (table.delete fresh id).2 := by
  rcases table.delete_cases fresh id with ⟨-, refused⟩ | ⟨gone, live, deleted⟩
  · rw [refused]
    exact occupied
  · rw [deleted]
    obtain ⟨row, member, same⟩ := occupied
    obtain ⟨key, entry⟩ := Table.mem_users.mp member
    by_cases own : key = id
    · subst own
      have found := (Table.live?_eq_some.mp live).1
      rw [Table.get?_of_mem wellFormed.keys entry] at found
      obtain rfl := Option.some.inj found
      exact ⟨_, Table.mem_users.mpr ⟨key, Table.mem_put.mpr (.inl rfl)⟩, same⟩
    · exact ⟨row, Table.mem_users.mpr ⟨key, Table.mem_put.mpr (.inr ⟨entry, own⟩)⟩, same⟩

/-- Whatever is asked but to write over a row, the administrator stays present. -/
theorem Occupied.answer (occupied : Occupied admin memory.table)
    (wellFormed : memory.table.WellFormed) (hasher : Password.Hasher) {request : Request}
    (spares : request.Spares) (idNew : request.IdNew memory) :
    Occupied admin ((Backend.ofMemory hasher).answer request memory).2.table := by
  have add : ∀ new, Request.IdNew (.create new) memory →
      Occupied admin (memory.table.create memory.supply.next.1 new).2 := by
    intro new idNew
    have grows : memory.table.Grows (fun _ => True)
        (memory.table.create memory.supply.next.1 new).2 := Table.create_grows trivial idNew
    exact occupied.grows grows
  cases request with
  | perform operation =>
      cases operation with
      | create new => exact add new idNew
      | update user => exact spares.elim
      | delete id => exact occupied.delete wellFormed memory.supply.next.1 id
      | _ => exact occupied
  | create new =>
      rw [Backend.answer_create]
      exact add new idNew
  | _ => exact occupied

end Occupied

/-! One administrator after another. -/

structure IsAdmin (admin : DefaultAdmin) (clear : Password.ClearText) (row : User) : Prop where
  username : row.username.text = admin.username
  email : row.email.text = Email.normalize admin.email
  role : row.role = .admin
  live : row.deletedAt = none
  password : row.password.verifies clear = true

def seedOn (hasher : Password.Hasher) (admin : DefaultAdmin) (memory : Memory) :
    Except Failure Seeding × Memory :=
  (Backend.ofMemory hasher).run (seed admin) memory

/-- Whether the administrator is created just if it is not there, and nothing else is done. -/
structure SeedsExactly (hasher : Password.Hasher) (admin : DefaultAdmin)
    (clear : Password.ClearText) (memory : Memory) : Prop where
  created_iff : (∃ id, (seedOn hasher admin memory).1 = .ok (.created id)) ↔
    ¬ Occupied admin memory.table
  created : ∀ id, (seedOn hasher admin memory).1 = .ok (.created id) →
    ∃ row, row.id = id ∧ IsAdmin admin clear row ∧
      (seedOn hasher admin memory).2.table.entries = memory.table.entries ++ [(id, row)]
  present : Occupied admin memory.table → (seedOn hasher admin memory).1 = .ok .alreadyPresent ∧
    (seedOn hasher admin memory).2.table = memory.table

section Alone

variable {admin : DefaultAdmin} {names : UserName × Email} {clear : Password.ClearText}
  (hasher : Password.Hasher) {memory : Memory}

def adminOf (names : UserName × Email) (password : Password.Hashed) : NewUser where
  username := names.1
  email := names.2
  password := password
  role := .admin

theorem afterSeeded_of_isTaken {failure : Failure}
    (taken : IsTaken (.error failure : Except Failure User)) :
    afterSeeded (.error failure) = .done (.ok .alreadyPresent) := by
  rcases taken with same | same
  · rw [same]
    rfl
  · rw [same]
    rfl

def seedFresh (memory : Memory) : Fresh := memory.supply.next.2.next.2.next.1

def seedUser (names : UserName × Email) (clear : Password.ClearText) (memory : Memory) : NewUser :=
  adminOf names (hasher.hash memory.supply.next.2.next.1.salt clear)

theorem seedOn_of_found (read : readNames admin.username admin.email = .ok names) {row : User}
    (found : memory.table.find (fun user => user.username.text == names.1.text) = .ok row) :
    (seedOn hasher admin memory).1 = .ok .alreadyPresent ∧
      (seedOn hasher admin memory).2.table = memory.table := by
  rw [seedOn, seed_eq, read]
  dsimp only
  rw [Backend.run_ask, Backend.perform_findByUsername, found]
  exact ⟨rfl, rfl⟩

theorem seedOn_of_absent (read : readNames admin.username admin.email = .ok names)
    (accepted : readPassword admin.password = .ok clear)
    (absent : memory.table.find (fun user => user.username.text == names.1.text) =
      .error .userNotFound) :
    seedOn hasher admin memory = (Backend.ofMemory hasher).run
      (afterSeeded (memory.table.create (seedFresh memory) (seedUser hasher names clear memory)).1)
      ⟨(memory.table.create (seedFresh memory) (seedUser hasher names clear memory)).2,
        memory.supply.next.2.next.2.next.2⟩ := by
  rw [seedOn, seed_eq, read]
  dsimp only
  rw [Backend.run_ask, Backend.perform_findByUsername, absent, afterSought, foundUser, accepted,
    Backend.run_ask, Backend.run_ask, Backend.answer_create]
  rfl

theorem idNew_of_absent (read : readNames admin.username admin.email = .ok names)
    (accepted : readPassword admin.password = .ok clear)
    (absent : memory.table.find (fun user => user.username.text == names.1.text) =
      .error .userNotFound)
    (idsNew : (seed admin).Along (Backend.ofMemory hasher).answer Request.IdNew memory) :
    (memory.table.create (seedFresh memory) (seedUser hasher names clear memory)).1.isOk →
      memory.table.get? (seedFresh memory).id = none := by
  rw [seed_eq, read] at idsNew
  have later := idsNew.2
  rw [Backend.perform_findByUsername, absent, afterSought, foundUser, accepted] at later
  exact later.2.1

theorem seedOn_cases (read : readNames admin.username admin.email = .ok names)
    (accepted : readPassword admin.password = .ok clear)
    (idsNew : (seed admin).Along (Backend.ofMemory hasher).answer Request.IdNew memory) :
    (Occupied admin memory.table ∧ (seedOn hasher admin memory).1 = .ok .alreadyPresent ∧
      (seedOn hasher admin memory).2.table = memory.table) ∨
    (¬ Occupied admin memory.table ∧
      (seedOn hasher admin memory).1 = .ok (.created (seedFresh memory).id) ∧
      (seedOn hasher admin memory).2.table.entries = memory.table.entries ++
        [((seedFresh memory).id,
          createdRow (seedFresh memory) (seedUser hasher names clear memory))]) := by
  rcases memory.table.find_cases fun user => user.username.text == names.1.text with
    ⟨row, member, -, same, found⟩ | ⟨-, absent⟩
  · exact .inl ⟨occupied_of_find read member same, seedOn_of_found hasher read found⟩
  · have idNew := idNew_of_absent hasher read accepted absent idsNew
    rw [seedOn_of_absent hasher read accepted absent]
    rcases memory.table.create_cases (seedFresh memory) (seedUser hasher names clear memory) with
      ⟨failure, refused, created⟩ | ⟨free, created⟩
    · obtain ⟨occupied, taken⟩ := occupied_of_checkUnique read refused
      rw [created]
      dsimp only
      rw [afterSeeded_of_isTaken taken]
      exact .inl ⟨occupied, rfl, rfl⟩
    · rw [created] at idNew ⊢
      exact .inr ⟨not_occupied_of_checkUnique read free, rfl, Table.put_of_none _ (idNew rfl)⟩

theorem isAdmin_created (fits : hasher.cost.Fits)
    (read : readNames admin.username admin.email = .ok names) :
    IsAdmin admin clear (createdRow (seedFresh memory) (seedUser hasher names clear memory)) where
  username := (readNames_texts read).1
  email := (readNames_texts read).2.1
  role := rfl
  live := rfl
  password := Password.verifies_hash hasher fits memory.supply.next.2.next.1.salt clear

theorem seedsExactly (fits : hasher.cost.Fits)
    (read : readNames admin.username admin.email = .ok names)
    (accepted : readPassword admin.password = .ok clear)
    (idsNew : (seed admin).Along (Backend.ofMemory hasher).answer Request.IdNew memory) :
    SeedsExactly hasher admin clear memory := by
  rcases seedOn_cases hasher read accepted idsNew with
    ⟨occupied, came, same⟩ | ⟨free, came, entries⟩
  · have notCreated : ∀ id, (seedOn hasher admin memory).1 ≠ .ok (.created id) := by
      intro id
      rw [came]
      simp
    refine ⟨?_, ?_, fun _ => ⟨came, same⟩⟩
    · simp [notCreated, occupied]
    · intro id created
      exact absurd created (notCreated id)
  · refine ⟨?_, ?_, ?_⟩
    · exact iff_of_true ⟨_, came⟩ free
    · intro id created
      rw [came] at created
      obtain rfl : (seedFresh memory).id = id := by simpa using created
      exact ⟨_, rfl, isAdmin_created hasher fits read, entries⟩
    · intro occupied
      contradiction

theorem seed_of_invalid {admin : DefaultAdmin}
    (refused : ¬ ((UserName.of admin.username).isOk ∧ (Email.of admin.email).isOk)) :
    ∃ reason, seed admin = .done (.error (.validation reason)) := by
  rw [seed_eq]
  rcases readNames_cases admin.username admin.email with
    ⟨error, -, read⟩ | ⟨error, -, read⟩ | ⟨name, address, name_read, address_read, -⟩
  · rw [read]
    exact ⟨_, rfl⟩
  · rw [read]
    exact ⟨_, rfl⟩
  · rw [name_read, address_read] at refused
    exact absurd ⟨rfl, rfl⟩ refused

end Alone

end Accounts.Service

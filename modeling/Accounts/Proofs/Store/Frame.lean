import Accounts.Proofs.Store.Rows

/-! What each operation on a table refuses and what it changes. A refusal leaves the table as it is,
and an operation that succeeds changes one row and in it no more than it has to. -/

namespace Accounts.Store.Table

def HasLive (table : Table) (id : Uuid) : Prop :=
  ∃ row ∈ table.users, row.id = id ∧ row.isDeleted = false

def Holds (table : Table) (except : Option Uuid) (text : User → String) (value : String) : Prop :=
  ∃ row ∈ table.users, some row.id ≠ except ∧ text row = value

instance (table : Table) (id : Uuid) : Decidable (table.HasLive id) :=
  inferInstanceAs (Decidable (∃ row ∈ table.users, _))

instance (table : Table) (except : Option Uuid) (text : User → String) (value : String) :
    Decidable (table.Holds except text value) :=
  inferInstanceAs (Decidable (∃ row ∈ table.users, _))

structure Sets (key : Uuid) (row : User) (table after : Table) : Prop where
  keyed : after.Keyed
  here : after.get? key = some row
  elsewhere : ∀ other, other ≠ key → after.get? other = table.get? other

variable {table : Table}

theorem Keyed.hasLive_iff (keyed : table.Keyed) {id : Uuid} :
    table.HasLive id ↔ ∃ row, table.live? id = some row := by
  constructor
  · rintro ⟨row, member, rfl, live⟩
    exact ⟨row, live?_eq_some.mpr ⟨keyed.get?_of_mem_users member, live⟩⟩
  · rintro ⟨row, found⟩
    obtain ⟨stored, live⟩ := live?_eq_some.mp found
    exact ⟨row, mem_users_of_get? stored, keyed.id_of_get? stored, live⟩

theorem Keyed.live?_cases (keyed : table.Keyed) (id : Uuid) :
    (¬ table.HasLive id ∧ table.live? id = none) ∨
    (table.HasLive id ∧ ∃ row, table.get? id = some row ∧ row.isDeleted = false ∧
      table.live? id = some row) := by
  rw [keyed.hasLive_iff]
  cases found : table.live? id with
  | none =>
      refine .inl ⟨?_, rfl⟩
      rintro ⟨row, same⟩
      contradiction
  | some row =>
      obtain ⟨stored, live⟩ := live?_eq_some.mp found
      exact .inr ⟨⟨row, rfl⟩, row, stored, live, rfl⟩

theorem checkUnique_cases (table : Table) (username email : String) (except : Option Uuid) :
    (table.Holds except (·.username.text) username ∧
      table.checkUnique username email except = .error .usernameTaken) ∨
    (¬ table.Holds except (·.username.text) username ∧
      table.Holds except (·.email.text) email ∧
      table.checkUnique username email except = .error .emailTaken) ∨
    (¬ table.Holds except (·.username.text) username ∧
      ¬ table.Holds except (·.email.text) email ∧
      table.checkUnique username email except = .ok ()) := by
  have among : ∀ (text : User → String) (value : String),
      table.Holds except text value ↔ ∃ row ∈ table.others except, text row = value := by
    simp only [Holds, mem_others, and_assoc, implies_true]
  have named : table.checkUnique username email except = .error .usernameTaken ↔
      ∃ row ∈ table.others except, row.username.text = username := checkUnique_eq_usernameTaken
  rw [among, among, ← named]
  cases decided : table.checkUnique username email except with
  | error failure =>
      rcases checkUnique_error decided with ⟨rfl, -⟩ | ⟨rfl, -⟩
      · exact .inl ⟨rfl, rfl⟩
      · exact .inr (.inl ⟨nofun, (checkUnique_eq_emailTaken.mp decided).2, rfl⟩)
  | ok free =>
      refine .inr (.inr ⟨nofun, ?_, rfl⟩)
      rintro ⟨row, member, same⟩
      exact (checkUnique_eq_ok.mp decided row member).2 same

theorem Keyed.sets_put (keyed : table.Keyed) {key : Uuid} {row : User} (own : row.id = key) :
    Sets key row table (table.put key row) where
  keyed := by
    refine ⟨nodup_keys_put keyed.keys key row, ?_⟩
    intro entry member
    rcases mem_put.mp member with rfl | ⟨member, -⟩
    · exact own
    · exact keyed.own entry member
  here := by rw [get?_put, if_pos rfl]
  elsewhere := fun other different => by rw [get?_put, if_neg different]

/-! Updates. -/

/-- What updating a user comes to. Of the given user nothing counts but the name, the address, the
password and the role. -/
structure UpdatesExactly (table : Table) (fresh : Fresh) (user : User) : Prop where
  userNotFound_iff : (table.update fresh user).1 = .error .userNotFound ↔ ¬ table.HasLive user.id
  usernameTaken_iff : (table.update fresh user).1 = .error .usernameTaken ↔
    table.HasLive user.id ∧ table.Holds (some user.id) (·.username.text) user.username.text
  emailTaken_iff : (table.update fresh user).1 = .error .emailTaken ↔
    table.HasLive user.id ∧
      ¬ table.Holds (some user.id) (·.username.text) user.username.text ∧
      table.Holds (some user.id) (·.email.text) user.email.text
  refused : ∀ failure, (table.update fresh user).1 = .error failure →
    failure ∈ [.userNotFound, .usernameTaken, .emailTaken] ∧ (table.update fresh user).2 = table
  updated : table.HasLive user.id →
    ¬ table.Holds (some user.id) (·.username.text) user.username.text →
    ¬ table.Holds (some user.id) (·.email.text) user.email.text →
    ∃ row, table.get? user.id = some row ∧ row.isDeleted = false ∧
      (table.update fresh user).1 = .ok (updatedRow fresh row user) ∧
      Sets user.id (updatedRow fresh row user) table (table.update fresh user).2
  ignored : ∀ createdAt updatedAt deletedAt,
    table.update fresh { user with createdAt, updatedAt, deletedAt } = table.update fresh user

theorem Keyed.update_decides (keyed : table.Keyed) (fresh : Fresh) (user : User) :
    (¬ table.HasLive user.id ∧ table.update fresh user = (.error .userNotFound, table)) ∨
    (table.HasLive user.id ∧ table.Holds (some user.id) (·.username.text) user.username.text ∧
      table.update fresh user = (.error .usernameTaken, table)) ∨
    (table.HasLive user.id ∧ ¬ table.Holds (some user.id) (·.username.text) user.username.text ∧
      table.Holds (some user.id) (·.email.text) user.email.text ∧
      table.update fresh user = (.error .emailTaken, table)) ∨
    (table.HasLive user.id ∧ ¬ table.Holds (some user.id) (·.username.text) user.username.text ∧
      ¬ table.Holds (some user.id) (·.email.text) user.email.text ∧
      ∃ row, table.get? user.id = some row ∧ row.isDeleted = false ∧
        table.update fresh user =
          (.ok (updatedRow fresh row user), table.put user.id (updatedRow fresh row user))) := by
  rcases keyed.live?_cases user.id with ⟨gone, absent⟩ | ⟨live, row, stored, alive, found⟩
  · refine .inl ⟨gone, ?_⟩
    rw [update, absent]
  · rcases table.checkUnique_cases user.username.text user.email.text (some user.id) with
      ⟨held, refused⟩ | ⟨free, held, refused⟩ | ⟨nameFree, addressFree, accepted⟩
    · refine .inr (.inl ⟨live, held, ?_⟩)
      rw [update, found]
      simp only [refused]
    · refine .inr (.inr (.inl ⟨live, free, held, ?_⟩))
      rw [update, found]
      simp only [refused]
    · refine .inr (.inr (.inr ⟨live, nameFree, addressFree, row, stored, alive, ?_⟩))
      rw [update, found]
      simp only [accepted]
      rfl

theorem Keyed.updatesExactly (keyed : table.Keyed) (fresh : Fresh) (user : User) :
    table.UpdatesExactly fresh user := by
  rcases keyed.update_decides fresh user with ⟨gone, came⟩ | ⟨live, held, came⟩ |
    ⟨live, free, held, came⟩ | ⟨live, nameFree, addressFree, row, stored, alive, came⟩
  · refine ⟨?_, ?_, ?_, ?_, ?_, fun _ _ _ => rfl⟩ <;> simp [came, gone]
  · refine ⟨?_, ?_, ?_, ?_, ?_, fun _ _ _ => rfl⟩ <;> simp [came, live, held]
  · refine ⟨?_, ?_, ?_, ?_, ?_, fun _ _ _ => rfl⟩ <;> simp [came, live, free, held]
  · have own : row.id = user.id := keyed.id_of_get? stored
    have sets : Sets user.id (updatedRow fresh row user) table _ := keyed.sets_put own
    refine ⟨?_, ?_, ?_, ?_, fun _ _ _ => ⟨row, stored, alive, ?_, ?_⟩, fun _ _ _ => rfl⟩ <;>
      simp [came, live, nameFree, addressFree, sets]

/-! Creations. -/

structure CreatesExactly (table : Table) (fresh : Fresh) (new : NewUser) : Prop where
  usernameTaken_iff : (table.create fresh new).1 = .error .usernameTaken ↔
    table.Holds none (·.username.text) new.username.text
  emailTaken_iff : (table.create fresh new).1 = .error .emailTaken ↔
    ¬ table.Holds none (·.username.text) new.username.text ∧
      table.Holds none (·.email.text) new.email.text
  refused : ∀ failure, (table.create fresh new).1 = .error failure →
    failure ∈ [.usernameTaken, .emailTaken] ∧ (table.create fresh new).2 = table
  created : ¬ table.Holds none (·.username.text) new.username.text →
    ¬ table.Holds none (·.email.text) new.email.text →
    (table.create fresh new).1 = .ok (createdRow fresh new) ∧
      Sets fresh.id (createdRow fresh new) table (table.create fresh new).2
  kept : table.get? fresh.id = none → ∀ id row, table.get? id = some row →
    (table.create fresh new).2.get? id = some row

theorem Keyed.createsExactly (keyed : table.Keyed) (fresh : Fresh) (new : NewUser) :
    table.CreatesExactly fresh new := by
  rcases table.checkUnique_cases new.username.text new.email.text none with
    ⟨held, refused⟩ | ⟨free, held, refused⟩ | ⟨nameFree, addressFree, accepted⟩
  · have came := create_of_refused fresh new refused
    constructor <;> simp [came, held]
  · have came := create_of_refused fresh new refused
    constructor <;> simp [came, free, held]
  · have came := create_of_free fresh new accepted
    have sets : Sets fresh.id (createdRow fresh new) table _ := keyed.sets_put rfl
    refine ⟨?_, ?_, ?_, ?_, ?kept⟩
    case kept =>
      intro absent id row stored
      have different : id ≠ fresh.id := by
        rintro rfl
        rw [absent] at stored
        contradiction
      rw [came, sets.elsewhere id different, stored]
    all_goals simp [came, nameFree, addressFree, sets]

/-! Deletions. -/

structure DeletesExactly (table : Table) (fresh : Fresh) (id : Uuid) : Prop where
  userNotFound_iff : (table.delete fresh id).1 = .error .userNotFound ↔ ¬ table.HasLive id
  refused : ∀ failure, (table.delete fresh id).1 = .error failure →
    failure = .userNotFound ∧ (table.delete fresh id).2 = table
  deleted : table.HasLive id → ∃ row, table.get? id = some row ∧ row.isDeleted = false ∧
    (table.delete fresh id).1 = .ok () ∧
    Sets id (deletedRow fresh row) table (table.delete fresh id).2

theorem Keyed.deletesExactly (keyed : table.Keyed) (fresh : Fresh) (id : Uuid) :
    table.DeletesExactly fresh id := by
  rcases keyed.live?_cases id with ⟨gone, absent⟩ | ⟨live, row, stored, alive, found⟩
  · have came : table.delete fresh id = (.error .userNotFound, table) := by
      rw [delete, absent]
    constructor <;> simp [came, gone]
  · have came : table.delete fresh id = (.ok (), table.put id (deletedRow fresh row)) := by
      rw [delete, found]
      rfl
    have own : row.id = id := keyed.id_of_get? stored
    have sets : Sets id (deletedRow fresh row) table _ := keyed.sets_put own
    refine ⟨?_, ?_, fun _ => ⟨row, stored, alive, ?_, ?_⟩⟩ <;> simp [came, live, sets]

/-! All operations. -/

/-- Where every row is stored once under the identifier of its user, an operation refuses for the
first of its reasons that applies and then leaves the table alone, or it changes the one row that it
is about and nothing else; and a search changes nothing. -/
theorem operations_change_one_row (keyed : table.Keyed) (fresh : Fresh) :
    (∀ user, table.UpdatesExactly fresh user) ∧ (∀ new, table.CreatesExactly fresh new) ∧
    (∀ id, table.DeletesExactly fresh id) ∧
    (∀ operation failure, (table.perform fresh operation).1 = .error failure →
      (table.perform fresh operation).2 = table) ∧
    ∀ operation, operation.IsSearch → (table.perform fresh operation).2 = table := by
  refine ⟨keyed.updatesExactly fresh, keyed.createsExactly fresh, keyed.deletesExactly fresh,
    fun operation failure => perform_error, ?_⟩
  intro operation search
  exact search.table ⟨table, ⟨fun _ => fresh, 0⟩⟩

/-- Three rows, of which the second has been deleted. The first is to be written with forged times:
under the name of the second and the address of the third, under that address alone, and under an
address of its own. -/
theorem operations_change_one_row_forged :
    let fresh := countingSupply.piece 3
    let row : Nat → String → User := fun place name => createdRow (countingSupply.piece place)
      ⟨⟨name⟩, ⟨name ++ "@example.com"⟩, ⟨""⟩, .user⟩
    let table : Table :=
      ⟨[(countingSupply.piece 0).id, (countingSupply.piece 1).id, (countingSupply.piece 2).id].zip
        [row 0 "alice", deletedRow (countingSupply.piece 1) (row 1 "bob"), row 2 "carol"]⟩
    let forged : String → String → User := fun name email =>
      { row 0 "alice" with
        username := ⟨name⟩, email := ⟨email⟩, role := .admin, deletedAt := some Time.Instant.epoch }
    table.Keyed ∧
    (table.update fresh (forged "bob" "carol@example.com")).1 = .error .usernameTaken ∧
    (table.update fresh (forged "alice" "carol@example.com")).1 = .error .emailTaken ∧
    Sets (row 0 "alice").id
      { row 0 "alice" with email := ⟨"a@example.com"⟩, role := .admin, updatedAt := fresh.now }
      table (table.update fresh (forged "alice" "a@example.com")).2 := by
  intro fresh row table forged
  have keyed : table.Keyed := ⟨by decide +kernel, by decide +kernel⟩
  have updates := (operations_change_one_row keyed fresh).1
  refine ⟨keyed, (updates _).usernameTaken_iff.mpr (by decide +kernel),
    (updates _).emailTaken_iff.mpr (by decide +kernel), ?_⟩
  obtain ⟨stored, found, -, -, sets⟩ := (updates (forged "alice" "a@example.com")).updated
    (by decide +kernel) (by decide +kernel) (by decide +kernel)
  have first : table.get? (forged "alice" "a@example.com").id = some (row 0 "alice") := by
    decide +kernel
  obtain rfl := Option.some.inj (first.symm.trans found)
  exact sets

end Accounts.Store.Table

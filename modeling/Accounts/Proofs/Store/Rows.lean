import Accounts.Proofs.Store.Representation

/-! Rows that stay as they are. A deleted row outlives every operation, and nobody else gets its
name or its address; whatever only adds to a table leaves all rows of it alone. -/

namespace Accounts.Store

def IsTaken {α : Type} (result : Except Failure α) : Prop :=
  result = .error .usernameTaken ∨ result = .error .emailTaken

theorem IsTaken.of_error {α β : Type} {failure : Failure}
    (taken : IsTaken (.error failure : Except Failure α)) :
    IsTaken (.error failure : Except Failure β) := by
  rcases taken with same | same
  · exact .inl (congrArg Except.error (Except.error.inj same))
  · exact .inr (congrArg Except.error (Except.error.inj same))

theorem not_isTaken_ok {α : Type} (value : α) : ¬ IsTaken (.ok value) := by
  rintro (same | same)
  · contradiction
  · contradiction

namespace Table

variable {table : Table}

theorem get?_of_mem (keys : (table.entries.map Prod.fst).Nodup) {key : Uuid} {row : User}
    (member : (key, row) ∈ table.entries) : table.get? key = some row := by
  obtain ⟨row', found⟩ : ∃ row', table.get? key = some row' := by
    cases came : table.get? key with
    | none => exact absurd rfl (get?_eq_none.mp came _ member)
    | some row' => exact ⟨row', rfl⟩
  have same := List.inj_on_of_nodup_map keys (get?_mem found) member rfl
  rw [found, (Prod.mk.inj same).2]

structure Keyed (table : Table) : Prop where
  keys : (table.entries.map Prod.fst).Nodup
  own : ∀ entry ∈ table.entries, entry.2.id = entry.1

theorem WellFormed.keyed (wellFormed : table.WellFormed) : table.Keyed :=
  ⟨wellFormed.keys, wellFormed.own⟩

theorem Keyed.get?_of_mem_users (keyed : table.Keyed) {row : User} (member : row ∈ table.users) :
    table.get? row.id = some row := by
  obtain ⟨key, entry⟩ := mem_users.mp member
  obtain rfl : row.id = key := keyed.own _ entry
  exact get?_of_mem keyed.keys entry

theorem Keyed.id_of_get? (keyed : table.Keyed) {id : Uuid} {row : User}
    (stored : table.get? id = some row) : row.id = id :=
  keyed.own _ (get?_mem stored)

theorem WellFormed.get?_of_mem_users (wellFormed : table.WellFormed) {row : User}
    (member : row ∈ table.users) : table.get? row.id = some row :=
  wellFormed.keyed.get?_of_mem_users member

theorem WellFormed.eq_of_same_id (wellFormed : table.WellFormed) {row other : User}
    (stored : table.get? row.id = some row) (member : other ∈ table.users)
    (same : other.id = row.id) : other = row := by
  have found := wellFormed.get?_of_mem_users member
  rw [same, stored] at found
  exact (Option.some.inj found).symm

theorem mem_users_of_get? {key : Uuid} {row : User} (found : table.get? key = some row) :
    row ∈ table.users :=
  mem_users.mpr ⟨key, get?_mem found⟩

theorem eq_of_same_text {text : User → String} (distinct : (table.users.map text).Nodup)
    {row other : User} (member : row ∈ table.users) (other_member : other ∈ table.users)
    (same : text row = text other) : row = other :=
  List.inj_on_of_nodup_map distinct member other_member same

def OnlyOne (table : Table) (predicate : User → Bool) : Prop :=
  ∀ row ∈ table.users, ∀ other ∈ table.users, predicate row = true → predicate other = true →
    row = other

theorem WellFormed.onlyOne_username (wellFormed : table.WellFormed) (username : String) :
    table.OnlyOne fun user => user.username.text == username := by
  intro row member other other_member named named'
  apply eq_of_same_text wellFormed.usernames member other_member
  exact (eq_of_beq named).trans (eq_of_beq named').symm

theorem WellFormed.onlyOne_email (wellFormed : table.WellFormed) (email : String) :
    table.OnlyOne fun user => user.email.text == email := by
  intro row member other other_member reached reached'
  apply eq_of_same_text wellFormed.emails member other_member
  exact (eq_of_beq reached).trans (eq_of_beq reached').symm

theorem WellFormed.onlyOne_id (wellFormed : table.WellFormed) (id : Uuid) :
    table.OnlyOne fun user => user.id == id := by
  intro row member other other_member own own'
  apply wellFormed.eq_of_same_id (wellFormed.get?_of_mem_users other_member) member
  exact (eq_of_beq own).trans (eq_of_beq own').symm

theorem find_eq_ok {row : User} (member : row ∈ table.users) (live : row.isDeleted = false)
    {predicate : User → Bool} (holds : predicate row = true)
    (own : ∀ other ∈ table.users, predicate other = true → other = row) :
    table.find predicate = .ok row := by
  rcases table.find_cases predicate with ⟨user, among, -, met, found⟩ | ⟨hidden, -⟩
  · rw [found, own user among met]
  · rw [hidden row member holds] at live
    contradiction

theorem WellFormed.find_id (wellFormed : table.WellFormed) {row : User}
    (member : row ∈ table.users) (live : row.isDeleted = false) :
    table.find (fun user => user.id == row.id) = .ok row := by
  apply find_eq_ok member live (beq_self_eq_true row.id)
  intro other other_member same
  exact wellFormed.eq_of_same_id (wellFormed.get?_of_mem_users member) other_member
    (eq_of_beq same)

theorem find_of_hidden {predicate : User → Bool}
    (hidden : ∀ row ∈ table.users, predicate row = true → row.isDeleted = true) :
    table.find predicate = .error .userNotFound := by
  rcases table.find_cases predicate with ⟨row, member, live, holds, -⟩ | ⟨-, none⟩
  · rw [hidden row member holds] at live
    contradiction
  · exact none

theorem checkUnique_isTaken {username email : String} {except : Option Uuid}
    (taken : ∃ row ∈ table.others except, row.username.text = username ∨ row.email.text = email) :
    IsTaken (table.checkUnique username email except) := by
  cases result : table.checkUnique username email except with
  | error failure =>
      rcases checkUnique_error result with ⟨rfl, -⟩ | ⟨rfl, -⟩
      · exact .inl rfl
      · exact .inr rfl
  | ok free =>
      obtain ⟨row, member, same⟩ := taken
      have free := checkUnique_eq_ok.mp result row member
      rcases same with same | same
      · exact absurd same free.1
      · exact absurd same free.2

/-! Deleted rows. -/

structure Buries (row : User) (table : Table) : Prop where
  wellFormed : table.WellFormed
  stored : table.get? row.id = some row
  deleted : row.isDeleted = true

variable {row : User}

theorem Buries.live?_eq_none (buries : table.Buries row) : table.live? row.id = none := by
  rw [live?, buries.stored, Option.filter_some, buries.deleted]
  rfl

theorem Buries.ne_of_live (buries : table.Buries row) {id : Uuid} {other : User}
    (live : table.live? id = some other) : id ≠ row.id := by
  rintro rfl
  rw [buries.live?_eq_none] at live
  contradiction

theorem Buries.id_ne_of_live (buries : table.Buries row) {other : User}
    (member : other ∈ table.users) (live : other.isDeleted = false) : other.id ≠ row.id := by
  intro same
  rw [buries.wellFormed.eq_of_same_id buries.stored member same, buries.deleted] at live
  contradiction

theorem Buries.find_ne (buries : table.Buries row) {predicate : User → Bool} {other : User}
    (found : table.find predicate = .ok other) : other.id ≠ row.id := by
  rcases table.find_cases predicate with ⟨user, member, live, -, came⟩ | ⟨-, came⟩
  · rw [came] at found
    obtain rfl := Except.ok.inj found
    exact buries.id_ne_of_live member live
  · rw [came] at found
    contradiction

theorem Buries.find_eq_userNotFound (buries : table.Buries row) {predicate : User → Bool}
    (own : ∀ other ∈ table.users, predicate other = true → other = row) :
    table.find predicate = .error .userNotFound := by
  apply find_of_hidden
  intro user member holds
  rw [own user member holds, buries.deleted]

theorem Buries.put (buries : table.Buries row) {key : Uuid} {user : User} (other : key ≠ row.id) :
    (table.put key user).get? row.id = some row := by
  rw [get?_put, if_neg other.symm]
  exact buries.stored

theorem Buries.perform {memory : Memory} (buries : memory.table.Buries row)
    (operation : Operation) (idNew : operation.IdNew memory) :
    (Memory.perform operation memory).2.table.Buries row := by
  refine ⟨(buries.wellFormed.perform operation idNew).1, ?_, buries.deleted⟩
  cases operation with
  | create new =>
      change (memory.table.create memory.supply.next.1 new).2.get? row.id = some row
      rcases create_cases memory.table memory.supply.next.1 new with
        ⟨failure, -, refused⟩ | ⟨-, created⟩
      · rw [refused]
        exact buries.stored
      · -- A new row takes a key of its own, for the deleted one still holds its key.
        have absent : memory.table.get? memory.supply.next.1.id = none := by
          apply idNew
          rw [created]
          rfl
        rw [created]
        apply buries.put
        intro same
        rw [same, buries.stored] at absent
        contradiction
  | findByUsername username => exact buries.stored
  | findByEmail email => exact buries.stored
  | findById id => exact buries.stored
  | update user =>
      change (memory.table.update memory.supply.next.1 user).2.get? row.id = some row
      rcases update_cases memory.table memory.supply.next.1 user with
        ⟨-, refused⟩ | ⟨other, failure, -, -, refused⟩ | ⟨other, live, -, updated⟩
      · rw [refused]
        exact buries.stored
      · rw [refused]
        exact buries.stored
      · rw [updated]
        exact buries.put (buries.ne_of_live live)
  | delete id =>
      change (memory.table.delete memory.supply.next.1 id).2.get? row.id = some row
      rcases delete_cases memory.table memory.supply.next.1 id with
        ⟨-, refused⟩ | ⟨other, live, deleted⟩
      · rw [refused]
        exact buries.stored
      · rw [deleted]
        exact buries.put (buries.ne_of_live live)

theorem Buries.texts_ne (buries : table.Buries row) {other : User} (member : other ∈ table.users)
    (different : other ≠ row) :
    other.username.text ≠ row.username.text ∧ other.email.text ≠ row.email.text := by
  have stored := mem_users_of_get? buries.stored
  constructor
  · intro same
    exact different (eq_of_same_text buries.wellFormed.usernames member stored same)
  · intro same
    exact different (eq_of_same_text buries.wellFormed.emails member stored same)

/-- The deleted row itself stands in the way of its name and of its address. -/
theorem Buries.checkUnique_isTaken (buries : table.Buries row) {username email : String}
    {except : Option Uuid} (apart : some row.id ≠ except)
    (claims : username = row.username.text ∨ email = row.email.text) :
    IsTaken (table.checkUnique username email except) := by
  apply Table.checkUnique_isTaken
  refine ⟨row, mem_others.mpr ⟨mem_users_of_get? buries.stored, apart⟩, ?_⟩
  rcases claims with same | same
  · exact .inl same.symm
  · exact .inr same.symm

theorem Buries.create_isTaken (buries : table.Buries row) (fresh : Fresh) {new : NewUser}
    (claims : new.username.text = row.username.text ∨ new.email.text = row.email.text) :
    IsTaken (table.create fresh new).1 := by
  have taken : IsTaken (table.checkUnique new.username.text new.email.text none) :=
    buries.checkUnique_isTaken nofun claims
  rcases create_cases table fresh new with ⟨failure, refused, came⟩ | ⟨free, -⟩
  · rw [refused] at taken
    rw [came]
    exact taken.of_error
  · rw [free] at taken
    exact absurd taken (not_isTaken_ok _)

theorem Buries.update_isTaken (buries : table.Buries row) (fresh : Fresh) {user other : User}
    (live : table.live? user.id = some other)
    (claims : user.username.text = row.username.text ∨ user.email.text = row.email.text) :
    IsTaken (table.update fresh user).1 := by
  have apart : some row.id ≠ some user.id :=
    fun same => buries.ne_of_live live (Option.some.inj same).symm
  have taken := buries.checkUnique_isTaken apart claims
  rcases update_cases table fresh user with
    ⟨absent, -⟩ | ⟨found, failure, -, refused, came⟩ | ⟨found, -, free, -⟩
  · rw [absent] at live
    contradiction
  · rw [refused] at taken
    rw [came]
    exact taken.of_error
  · rw [free] at taken
    exact absurd taken (not_isTaken_ok _)

/-! Rows that are added. -/

def Grows (good : User → Prop) (earlier later : Table) : Prop :=
  ∃ added, later.entries = earlier.entries ++ added ∧ ∀ entry ∈ added, good entry.2

variable {good : User → Prop}

theorem Grows.refl (table : Table) : table.Grows good table :=
  ⟨[], (List.append_nil _).symm, fun _ member => absurd member List.not_mem_nil⟩

theorem Grows.trans {first second third : Table} (early : first.Grows good second)
    (late : second.Grows good third) : first.Grows good third := by
  obtain ⟨added, entries, rows⟩ := early
  obtain ⟨more, more_entries, more_rows⟩ := late
  refine ⟨added ++ more, ?_, ?_⟩
  · rw [more_entries, entries, List.append_assoc]
  · intro entry member
    rcases List.mem_append.mp member with member | member
    · exact rows entry member
    · exact more_rows entry member

theorem Grows.get? {earlier later : Table} (grows : earlier.Grows good later) {key : Uuid}
    {row : User} (found : earlier.get? key = some row) : later.get? key = some row := by
  obtain ⟨added, entries, -⟩ := grows
  obtain ⟨entry, first, same⟩ := Option.map_eq_some_iff.mp found
  rw [Table.get?, entries, List.find?_append, first, Option.some_or, Option.map_some, same]

theorem Grows.mem_users {earlier later : Table} (grows : earlier.Grows good later) {row : User}
    (member : row ∈ earlier.users) : row ∈ later.users := by
  obtain ⟨added, entries, -⟩ := grows
  obtain ⟨key, entry⟩ := Table.mem_users.mp member
  refine Table.mem_users.mpr ⟨key, ?_⟩
  rw [entries]
  exact List.mem_append_left added entry

theorem mem_users_of_grows {earlier later : Table} (grows : earlier.Grows good later) {row : User}
    (member : row ∈ later.users) : row ∈ earlier.users ∨ good row := by
  obtain ⟨added, entries, rows⟩ := grows
  obtain ⟨key, entry⟩ := mem_users.mp member
  rw [entries, List.mem_append] at entry
  rcases entry with before | since
  · exact .inl (mem_users.mpr ⟨key, before⟩)
  · exact .inr (rows _ since)

theorem create_grows {fresh : Fresh} {new : NewUser} (row : good (createdRow fresh new))
    (idNew : (table.create fresh new).1.isOk → table.get? fresh.id = none) :
    table.Grows good (table.create fresh new).2 := by
  rcases create_cases table fresh new with ⟨failure, -, refused⟩ | ⟨-, created⟩
  · rw [refused]
    exact Grows.refl table
  · rw [created] at idNew ⊢
    refine ⟨[(fresh.id, createdRow fresh new)], put_of_none _ (idNew rfl), ?_⟩
    intro entry member
    rw [List.mem_singleton.mp member]
    exact row

end Table

def Operation.IsSearch : Operation → Prop
  | .findByUsername _ | .findByEmail _ | .findById _ => True
  | _ => False

theorem Operation.IsSearch.table {operation : Operation} (search : operation.IsSearch)
    (memory : Memory) : (Memory.perform operation memory).2.table = memory.table := by
  cases operation with
  | findByUsername username => rfl
  | findByEmail email => rfl
  | findById id => rfl
  | create new => exact search.elim
  | update user => exact search.elim
  | delete id => exact search.elim

end Accounts.Store

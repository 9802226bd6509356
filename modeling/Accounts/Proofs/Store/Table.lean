import Accounts.Store.Memory
import Mathlib.Data.List.Nodup

/-! What the operations on a table do to its rows. -/

namespace Accounts.Store

def createdRow (fresh : Fresh) (new : NewUser) : User where
  id := fresh.id
  username := new.username
  email := new.email
  password := new.password
  role := new.role
  createdAt := fresh.now
  updatedAt := fresh.now
  deletedAt := none

def updatedRow (fresh : Fresh) (row user : User) : User :=
  { row with
    username := user.username
    email := user.email
    password := user.password
    role := user.role
    updatedAt := fresh.now }

def deletedRow (fresh : Fresh) (row : User) : User :=
  { row with deletedAt := some fresh.now, updatedAt := fresh.now }

namespace Table

/-! Rows under keys. -/

theorem mem_users {table : Table} {user : User} :
    user ∈ table.users ↔ ∃ key, (key, user) ∈ table.entries := by
  simp [users]

theorem get?_mem {table : Table} {key : Uuid} {user : User} (found : table.get? key = some user) :
    (key, user) ∈ table.entries := by
  obtain ⟨⟨key', user'⟩, first, rfl⟩ := Option.map_eq_some_iff.mp found
  have same : key' = key := by simpa using List.find?_some first
  subst same
  exact List.mem_of_find?_eq_some first

theorem get?_eq_none {table : Table} {key : Uuid} :
    table.get? key = none ↔ ∀ entry ∈ table.entries, entry.1 ≠ key := by
  simp [get?]

theorem live?_eq_some {table : Table} {key : Uuid} {user : User} :
    table.live? key = some user ↔ table.get? key = some user ∧ user.isDeleted = false := by
  simp [live?, Option.filter_eq_some_iff]

theorem put_of_none {table : Table} {key : Uuid} (user : User) (absent : table.get? key = none) :
    (table.put key user).entries = table.entries ++ [(key, user)] := by
  have none : table.entries.any (fun entry => entry.1 = key) = false := by
    simpa using get?_eq_none.mp absent
  simp [put, none]

theorem mem_put {table : Table} {key : Uuid} {user : User} {entry : Uuid × User} :
    entry ∈ (table.put key user).entries ↔
      entry = (key, user) ∨ entry ∈ table.entries ∧ entry.1 ≠ key := by
  by_cases present : table.entries.any (fun entry => entry.1 = key) = true
  · rw [put, if_pos present, List.mem_map]
    obtain ⟨old, member, same⟩ := List.any_eq_true.mp present
    constructor
    · rintro ⟨other, other_member, rfl⟩
      by_cases replaced : other.1 = key
      · exact .inl (if_pos replaced)
      · rw [if_neg replaced]
        exact .inr ⟨other_member, replaced⟩
    · rintro (rfl | ⟨member, different⟩)
      · exact ⟨old, member, if_pos (of_decide_eq_true same)⟩
      · exact ⟨entry, member, if_neg different⟩
  · have absent : ∀ other ∈ table.entries, other.1 ≠ key := by
      intro other member same
      exact present (List.any_eq_true.mpr ⟨other, member, decide_eq_true same⟩)
    rw [put, if_neg present, List.mem_append, List.mem_singleton]
    constructor
    · rintro (member | rfl)
      · exact .inr ⟨member, absent entry member⟩
      · exact .inl rfl
    · rintro (rfl | ⟨member, -⟩)
      · exact .inr rfl
      · exact .inl member

theorem keys_put (table : Table) (key : Uuid) (user : User) :
    (table.put key user).entries.map Prod.fst =
      if table.entries.any (fun entry => entry.1 = key) then table.entries.map Prod.fst
      else table.entries.map Prod.fst ++ [key] := by
  by_cases present : table.entries.any (fun entry => entry.1 = key) = true
  · rw [put, if_pos present, if_pos present, List.map_map]
    apply List.map_congr_left
    intro entry _
    by_cases replaced : entry.1 = key
    · simp [replaced]
    · simp [replaced]
  · rw [put, if_neg present, if_neg present]
    simp

theorem get?_put (table : Table) (key other : Uuid) (user : User) :
    (table.put key user).get? other = if other = key then some user else table.get? other := by
  by_cases present : table.entries.any (fun entry => entry.1 = key) = true
  · rw [put, if_pos present]
    have kept : (fun entry : Uuid × User => decide (entry.1 = other)) ∘
        (fun entry => if entry.1 = key then (key, user) else entry) =
        fun entry => decide (entry.1 = other) := by
      funext entry
      by_cases replaced : entry.1 = key
      · simp [replaced]
      · simp [replaced]
    simp only [get?, List.find?_map, kept, Option.map_map]
    cases found : table.entries.find? fun entry => decide (entry.1 = other) with
    | none =>
        obtain ⟨old, member, same⟩ := List.any_eq_true.mp present
        have different : other ≠ key := by
          rintro rfl
          exact List.find?_eq_none.mp found old member same
        simp [different]
    | some entry =>
        have same : entry.1 = other := by simpa using List.find?_some found
        subst same
        by_cases replaced : entry.1 = key
        · simp [replaced]
        · simp [replaced]
  · rw [put, if_neg present]
    have absent : table.get? key = none := by
      apply get?_eq_none.mpr
      intro entry member same
      exact present (List.any_eq_true.mpr ⟨entry, member, decide_eq_true same⟩)
    simp only [get?, List.find?_append]
    by_cases same : other = key
    · subst same
      have nowhere : table.entries.find? (fun entry => decide (entry.1 = other)) = none := by
        simpa [get?] using absent
      simp [nowhere]
    · have elsewhere : ¬ key = other := fun equal => same equal.symm
      simp [same, elsewhere]

/-! Names and addresses that are taken. -/

theorem mem_others {table : Table} {except : Option Uuid} {user : User} :
    user ∈ table.others except ↔ user ∈ table.users ∧ some user.id ≠ except := by
  simp [others]

theorem checkUnique_eq_ok {table : Table} {username email : String} {except : Option Uuid} :
    table.checkUnique username email except = .ok () ↔
      ∀ user ∈ table.others except, user.username.text ≠ username ∧ user.email.text ≠ email := by
  unfold checkUnique
  constructor
  · intro accepted user member
    split at accepted
    · contradiction
    next nameFree =>
      split at accepted
      · contradiction
      next addressFree =>
        simp only [List.any_eq_true, not_exists, not_and, beq_iff_eq] at nameFree addressFree
        exact ⟨nameFree user member, addressFree user member⟩
  · intro free
    have nameFree : ¬ ((table.others except).any fun user => user.username.text == username) := by
      simpa using fun user member => (free user member).1
    have addressFree : ¬ ((table.others except).any fun user => user.email.text == email) := by
      simpa using fun user member => (free user member).2
    rw [if_neg nameFree, if_neg addressFree]

theorem checkUnique_eq_usernameTaken {table : Table} {username email : String}
    {except : Option Uuid} :
    table.checkUnique username email except = .error .usernameTaken ↔
      ∃ user ∈ table.others except, user.username.text = username := by
  unfold checkUnique
  split
  next taken => simpa using taken
  next free =>
    have none : ¬ ∃ user ∈ table.others except, user.username.text = username := by
      simpa using free
    split
    · simp [none]
    · simp [none]

theorem checkUnique_eq_emailTaken {table : Table} {username email : String}
    {except : Option Uuid} :
    table.checkUnique username email except = .error .emailTaken ↔
      (∀ user ∈ table.others except, user.username.text ≠ username) ∧
      ∃ user ∈ table.others except, user.email.text = email := by
  unfold checkUnique
  split
  next taken =>
    simp only [List.any_eq_true, beq_iff_eq] at taken
    obtain ⟨user, member, same⟩ := taken
    simp only [reduceCtorEq, Except.error.injEq, false_iff, not_and]
    intro free
    exact absurd same (free user member)
  next free =>
    simp only [List.any_eq_true, beq_iff_eq, not_exists, not_and] at free
    split
    next taken =>
      simp only [List.any_eq_true, beq_iff_eq] at taken
      exact iff_of_true rfl ⟨free, taken⟩
    next unused =>
      simp only [List.any_eq_true, beq_iff_eq] at unused
      exact iff_of_false (by simp) fun both => unused both.2

theorem checkUnique_error {table : Table} {username email : String} {except : Option Uuid}
    {failure : Failure} (refused : table.checkUnique username email except = .error failure) :
    (failure = .usernameTaken ∧ ∃ user ∈ table.users, user.username.text = username) ∨
    (failure = .emailTaken ∧ ∃ user ∈ table.users, user.email.text = email) := by
  have among : ∀ user ∈ table.others except, user ∈ table.users :=
    fun user member => (mem_others.mp member).1
  have known : failure = .usernameTaken ∨ failure = .emailTaken := by
    unfold checkUnique at refused
    split at refused
    · exact .inl (Except.error.inj refused).symm
    · split at refused
      · exact .inr (Except.error.inj refused).symm
      · contradiction
  rcases known with rfl | rfl
  · obtain ⟨user, member, same⟩ := checkUnique_eq_usernameTaken.mp refused
    exact .inl ⟨rfl, user, among user member, same⟩
  · obtain ⟨-, user, member, same⟩ := checkUnique_eq_emailTaken.mp refused
    exact .inr ⟨rfl, user, among user member, same⟩

/-! What an operation does. -/

theorem find_cases (table : Table) (predicate : User → Bool) :
    (∃ user ∈ table.users, user.isDeleted = false ∧ predicate user = true ∧
      table.find predicate = .ok user) ∨
    ((∀ user ∈ table.users, predicate user = true → user.isDeleted = true) ∧
      table.find predicate = .error .userNotFound) := by
  unfold find
  split
  next user found =>
    have holds := List.find?_some found
    simp only [Bool.and_eq_true, Bool.not_eq_true'] at holds
    exact .inl ⟨user, List.mem_of_find?_eq_some found, holds.1, holds.2, rfl⟩
  next absent =>
    refine .inr ⟨?_, rfl⟩
    intro user member holds
    have hidden := List.find?_eq_none.mp absent user member
    simpa [holds] using hidden

theorem create_cases (table : Table) (fresh : Fresh) (new : NewUser) :
    (∃ failure, table.checkUnique new.username.text new.email.text none = .error failure ∧
      table.create fresh new = (.error failure, table)) ∨
    (table.checkUnique new.username.text new.email.text none = .ok () ∧
      table.create fresh new =
        (.ok (createdRow fresh new), table.put fresh.id (createdRow fresh new))) := by
  unfold create
  split
  next failure refused => exact .inl ⟨failure, refused, rfl⟩
  next accepted => exact .inr ⟨accepted, rfl⟩

theorem create_of_refused {table : Table} (fresh : Fresh) (new : NewUser) {failure : Failure}
    (refused : table.checkUnique new.username.text new.email.text none = .error failure) :
    table.create fresh new = (.error failure, table) := by
  rcases table.create_cases fresh new with ⟨other, held, came⟩ | ⟨free, -⟩
  · obtain rfl := Except.error.inj (refused.symm.trans held)
    exact came
  · rw [refused] at free
    contradiction

theorem create_of_free {table : Table} (fresh : Fresh) (new : NewUser)
    (free : table.checkUnique new.username.text new.email.text none = .ok ()) :
    table.create fresh new =
      (.ok (createdRow fresh new), table.put fresh.id (createdRow fresh new)) := by
  rcases table.create_cases fresh new with ⟨failure, held, -⟩ | ⟨-, came⟩
  · rw [free] at held
    contradiction
  · exact came

theorem update_cases (table : Table) (fresh : Fresh) (user : User) :
    (table.live? user.id = none ∧ table.update fresh user = (.error .userNotFound, table)) ∨
    (∃ row failure, table.live? user.id = some row ∧
      table.checkUnique user.username.text user.email.text (some user.id) = .error failure ∧
      table.update fresh user = (.error failure, table)) ∨
    (∃ row, table.live? user.id = some row ∧
      table.checkUnique user.username.text user.email.text (some user.id) = .ok () ∧
      table.update fresh user =
        (.ok (updatedRow fresh row user), table.put user.id (updatedRow fresh row user))) := by
  unfold update
  split
  next absent => exact .inl ⟨absent, rfl⟩
  next row live =>
    split
    next failure refused => exact .inr (.inl ⟨row, failure, live, refused, rfl⟩)
    next accepted => exact .inr (.inr ⟨row, live, accepted, rfl⟩)

theorem delete_cases (table : Table) (fresh : Fresh) (id : Uuid) :
    (table.live? id = none ∧ table.delete fresh id = (.error .userNotFound, table)) ∨
    (∃ row, table.live? id = some row ∧
      table.delete fresh id = (.ok (), table.put id (deletedRow fresh row))) := by
  unfold delete
  split
  next absent => exact .inl ⟨absent, rfl⟩
  next row live => exact .inr ⟨row, live, rfl⟩

theorem perform_error {table : Table} {fresh : Fresh} {operation : Operation} {failure : Failure}
    (failed : (table.perform fresh operation).1 = .error failure) :
    (table.perform fresh operation).2 = table := by
  cases operation with
  | create new =>
      rcases create_cases table fresh new with ⟨_, -, refused⟩ | ⟨-, created⟩
      · exact congrArg Prod.snd refused
      · change (table.create fresh new).1 = _ at failed
        rw [created] at failed
        contradiction
  | findByUsername username => rfl
  | findByEmail email => rfl
  | findById id => rfl
  | update user =>
      rcases update_cases table fresh user with
        ⟨-, refused⟩ | ⟨_, _, -, -, refused⟩ | ⟨_, -, -, updated⟩
      · exact congrArg Prod.snd refused
      · exact congrArg Prod.snd refused
      · change (table.update fresh user).1 = _ at failed
        rw [updated] at failed
        contradiction
  | delete id =>
      rcases delete_cases table fresh id with ⟨-, refused⟩ | ⟨_, -, deleted⟩
      · exact congrArg Prod.snd refused
      · change (table.delete fresh id).1 = _ at failed
        rw [deleted] at failed
        contradiction

end Table

end Accounts.Store

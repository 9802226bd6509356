import Accounts.Proofs.Store.Rows
import Mathlib.Data.List.Perm.Basic

/-! Tables that differ in nothing but the password hashes of their rows. Searches find the same in
both, and what is put into both leaves them alike. -/

namespace Accounts

def User.unhashed (user : User) : User := { user with password := ⟨""⟩ }

theorem User.told_alike {α : Type} (tell : User → α)
    (blind : ∀ user, tell user.unhashed = tell user) {user like : User}
    (same : like.unhashed = user.unhashed) : tell like = tell user := by
  rw [← blind like, same, blind user]

namespace Store.Table

def unhashed (table : Table) : Table := ⟨table.entries.map (Prod.map id User.unhashed)⟩

def Alike (table other : Table) : Prop := table.unhashed.entries.Perm other.unhashed.entries

variable {table other : Table}

theorem Alike.symm (alike : table.Alike other) : other.Alike table := List.Perm.symm alike

theorem mem_unhashed {entry : Uuid × User} :
    entry ∈ table.unhashed.entries ↔
      ∃ row, (entry.1, row) ∈ table.entries ∧ row.unhashed = entry.2 := by
  rw [unhashed, List.mem_map]
  constructor
  · rintro ⟨found, member, rfl⟩
    exact ⟨found.2, member, rfl⟩
  · rintro ⟨row, member, same⟩
    exact ⟨_, member, Prod.ext rfl same⟩

theorem Alike.exists_row (alike : table.Alike other) {row : User} (member : row ∈ table.users) :
    ∃ like ∈ other.users, like.unhashed = row.unhashed := by
  obtain ⟨key, entry⟩ := mem_users.mp member
  have here : (key, row.unhashed) ∈ table.unhashed.entries := mem_unhashed.mpr ⟨row, entry, rfl⟩
  obtain ⟨like, there, same⟩ := mem_unhashed.mp (List.Perm.mem_iff alike |>.mp here)
  exact ⟨like, mem_users.mpr ⟨key, there⟩, same⟩

/-! Searches. -/

/-- Searches that do not look at hashes, and for what no two rows have, find the same. -/
theorem Alike.find (alike : table.Alike other) {predicate : User → Bool}
    (blind : ∀ user, predicate user.unhashed = predicate user) (unique : table.OnlyOne predicate) :
    (table.find predicate).map User.unhashed = (other.find predicate).map User.unhashed := by
  have holds_like : ∀ {row like : User}, like.unhashed = row.unhashed →
      predicate like = predicate row := User.told_alike predicate blind
  have live_like : ∀ {row like : User}, like.unhashed = row.unhashed →
      like.isDeleted = row.isDeleted := User.told_alike User.isDeleted fun _ => rfl
  rcases table.find_cases predicate with ⟨row, member, live, holds, found⟩ | ⟨hidden, absent⟩
  · rcases other.find_cases predicate with ⟨like, there, -, met, found'⟩ | ⟨hidden', -⟩
    · obtain ⟨second, here, same⟩ := alike.symm.exists_row there
      have again : second = row :=
        unique second here row member ((holds_like same).trans met) holds
      rw [found, found', ← again]
      exact congrArg Except.ok same
    · obtain ⟨like, there, same⟩ := alike.exists_row member
      have deleted := hidden' like there ((holds_like same).trans holds)
      rw [live_like same, live] at deleted
      contradiction
  · rw [absent, find_of_hidden]
    intro like there met
    obtain ⟨row, member, same⟩ := alike.symm.exists_row there
    rw [← live_like same]
    exact hidden row member ((holds_like same).trans met)

theorem Alike.find_username (alike : table.Alike other) (wellFormed : table.WellFormed)
    (username : String) :
    (table.find fun user => user.username.text == username).map User.unhashed =
      (other.find fun user => user.username.text == username).map User.unhashed :=
  alike.find (fun _ => rfl) (wellFormed.onlyOne_username username)

theorem Alike.find_email (alike : table.Alike other) (wellFormed : table.WellFormed)
    (email : String) :
    (table.find fun user => user.email.text == email).map User.unhashed =
      (other.find fun user => user.email.text == email).map User.unhashed :=
  alike.find (fun _ => rfl) (wellFormed.onlyOne_email email)

theorem Alike.find_id (alike : table.Alike other) (wellFormed : table.WellFormed) (id : Uuid) :
    (table.find fun user => user.id == id).map User.unhashed =
      (other.find fun user => user.id == id).map User.unhashed :=
  alike.find (fun _ => rfl) (wellFormed.onlyOne_id id)

/-! Changes. -/

theorem Alike.any_others (alike : table.Alike other) (except : Option Uuid)
    {predicate : User → Bool} (blind : ∀ user, predicate user.unhashed = predicate user) :
    (table.others except).any predicate = (other.others except).any predicate := by
  have onward : ∀ {table other : Table}, table.Alike other →
      (table.others except).any predicate = true → (other.others except).any predicate = true := by
    intro table other alike
    simp only [List.any_eq_true, mem_others]
    rintro ⟨row, ⟨member, different⟩, holds⟩
    obtain ⟨like, there, same⟩ := alike.exists_row member
    have id : like.id = row.id := User.told_alike User.id (fun _ => rfl) same
    refine ⟨like, ⟨there, ?_⟩, ?_⟩
    · rwa [id]
    · rwa [User.told_alike predicate blind same]
  rw [Bool.eq_iff_iff]
  exact ⟨onward alike, onward alike.symm⟩

theorem Alike.checkUnique (alike : table.Alike other) (username email : String)
    (except : Option Uuid) :
    table.checkUnique username email except = other.checkUnique username email except := by
  rw [Table.checkUnique, Table.checkUnique, alike.any_others except fun user => rfl,
    alike.any_others except fun user => rfl]

theorem unhashed_put (table : Table) (key : Uuid) (row : User) :
    (table.put key row).unhashed = table.unhashed.put key row.unhashed := by
  have present : table.unhashed.entries.any (fun entry => entry.1 = key) =
      table.entries.any fun entry => entry.1 = key := by
    rw [unhashed, List.any_map]
    rfl
  by_cases known : table.entries.any (fun entry => entry.1 = key) = true
  · rw [put, if_pos known, put, present, if_pos known, unhashed, unhashed, List.map_map,
      List.map_map]
    congr 1
    apply List.map_congr_left
    intro entry _
    by_cases replaced : entry.1 = key
    · simp [replaced]
    · simp [replaced]
  · rw [put, if_neg known, put, present, if_neg known, unhashed, unhashed, List.map_append]
    rfl

theorem put_perm {table other : Table} (perm : table.entries.Perm other.entries) (key : Uuid)
    (row : User) : (table.put key row).entries.Perm (other.put key row).entries := by
  have present : table.entries.any (fun entry => entry.1 = key) =
      other.entries.any fun entry => entry.1 = key := by
    rw [Bool.eq_iff_iff, List.any_eq_true, List.any_eq_true]
    constructor
    · rintro ⟨entry, member, same⟩
      exact ⟨entry, perm.mem_iff.mp member, same⟩
    · rintro ⟨entry, member, same⟩
      exact ⟨entry, perm.mem_iff.mpr member, same⟩
  rw [put, put, present]
  split
  · exact perm.map _
  · exact perm.append_right _

theorem Alike.put (alike : table.Alike other) (key : Uuid) (row : User) :
    (table.put key row).Alike (other.put key row) := by
  rw [Alike, unhashed_put, unhashed_put]
  exact put_perm alike key row.unhashed

/-- Whether two tables differ in nothing but the hashes of rows that they have had ever since they
were two others. -/
structure SameButHashes (start start' table table' : Table) : Prop where
  wellFormed : table.WellFormed
  alike : table.Alike table'
  kept : ∀ key, table.get? key = table'.get? key ∨
    table.get? key = start.get? key ∧ table'.get? key = start'.get? key

variable {start start' table' : Table}

theorem SameButHashes.put (same : SameButHashes start start' table table') {key : Uuid}
    {row : User} (wellFormed : (table.put key row).WellFormed) :
    SameButHashes start start' (table.put key row) (table'.put key row) where
  wellFormed := wellFormed
  alike := same.alike.put key row
  kept := by
    intro other
    rw [get?_put, get?_put]
    by_cases here : other = key
    · rw [if_pos here, if_pos here]
      exact .inl rfl
    · rw [if_neg here, if_neg here]
      exact same.kept other

theorem SameButHashes.create (same : SameButHashes start start' table table') (fresh : Fresh)
    (new : NewUser) :
    (table.create fresh new).1 = (table'.create fresh new).1 ∧
      SameButHashes start start' (table.create fresh new).2 (table'.create fresh new).2 := by
  have unique := same.alike.checkUnique new.username.text new.email.text none
  rw [Table.create, Table.create, ← unique]
  cases free : table.checkUnique new.username.text new.email.text none with
  | error failure => exact ⟨rfl, same⟩
  | ok accepted =>
      refine ⟨rfl, same.put (same.wellFormed.put rfl ?_)⟩
      intro row member
      exact checkUnique_eq_ok.mp free row (mem_others.mpr ⟨(mem_others.mp member).1, nofun⟩)

end Store.Table

end Accounts

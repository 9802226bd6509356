import Accounts.Proofs.Store.Shared
import Accounts.Proofs.Store.Table

/-! What holds of the rows of every table that a store in memory can reach, and what becomes of a
row from one table to the next. -/

namespace Accounts.Store

/-- Whether a row may become another in the course of time. It stays the row of the same user, and
once it has been deleted it stays deleted as it is. -/
structure RowEvolves (earlier later : User) : Prop where
  id : later.id = earlier.id
  createdAt : later.createdAt = earlier.createdAt
  deletedAt : earlier.deletedAt.isSome → later.deletedAt = earlier.deletedAt

theorem RowEvolves.refl (row : User) : RowEvolves row row := ⟨rfl, rfl, fun _ => rfl⟩

theorem RowEvolves.trans {first second third : User} (early : RowEvolves first second)
    (late : RowEvolves second third) : RowEvolves first third where
  id := late.id.trans early.id
  createdAt := late.createdAt.trans early.createdAt
  deletedAt := by
    intro deleted
    have kept := early.deletedAt deleted
    rw [← kept]
    exact late.deletedAt (kept ▸ deleted)

namespace Table

/-- Whether every row is stored once under the identifier of its user, and no two rows, deleted or
not, have a name or an address in common. -/
structure WellFormed (table : Table) : Prop where
  keys : (table.entries.map Prod.fst).Nodup
  own : ∀ entry ∈ table.entries, entry.2.id = entry.1
  usernames : (table.users.map fun user => user.username.text).Nodup
  emails : (table.users.map fun user => user.email.text).Nodup

def Evolves (earlier later : Table) : Prop :=
  ∀ key row, earlier.get? key = some row →
    ∃ row', later.get? key = some row' ∧ RowEvolves row row'

theorem Evolves.refl (table : Table) : table.Evolves table :=
  fun _ row found => ⟨row, found, RowEvolves.refl row⟩

theorem Evolves.trans {first second third : Table} (early : first.Evolves second)
    (late : second.Evolves third) : first.Evolves third := by
  intro key row found
  obtain ⟨row', found', evolves⟩ := early key row found
  obtain ⟨row'', found'', evolves'⟩ := late key row' found'
  exact ⟨row'', found'', evolves.trans evolves'⟩

theorem wellFormed_empty : WellFormed empty where
  keys := List.nodup_nil
  own := fun _ member => nomatch member
  usernames := List.nodup_nil
  emails := List.nodup_nil

/-- Where every key is there once, a text that rows are told apart by is one that no two entries
have in common. -/
theorem nodup_texts_iff {table : Table} (keys : (table.entries.map Prod.fst).Nodup)
    (text : User → String) :
    (table.users.map text).Nodup ↔
      ∀ entry ∈ table.entries, ∀ other ∈ table.entries,
        text entry.2 = text other.2 → entry = other := by
  rw [users, List.map_map]
  exact List.nodup_map_iff_inj_on (List.Nodup.of_map _ keys)

theorem nodup_keys_put {table : Table} (keys : (table.entries.map Prod.fst).Nodup) (key : Uuid)
    (user : User) : ((table.put key user).entries.map Prod.fst).Nodup := by
  rw [keys_put]
  split
  · exact keys
  next absent =>
    have new : key ∉ table.entries.map Prod.fst := by
      intro member
      obtain ⟨entry, here, same⟩ := List.mem_map.mp member
      exact absent (List.any_eq_true.mpr ⟨entry, here, decide_eq_true same⟩)
    exact List.nodup_append.mpr ⟨keys, List.nodup_singleton key, by
      intro other member _ single
      rw [List.mem_singleton.mp single]
      exact fun same => new (same ▸ member)⟩

theorem nodup_texts_put {table : Table} (keys : (table.entries.map Prod.fst).Nodup)
    (text : User → String) (distinct : (table.users.map text).Nodup) (key : Uuid) (user : User)
    (free : ∀ entry ∈ table.entries, entry.1 ≠ key → text entry.2 ≠ text user) :
    ((table.put key user).users.map text).Nodup := by
  apply (nodup_texts_iff (nodup_keys_put keys key user) text).mpr
  have apart := (nodup_texts_iff keys text).mp distinct
  intro entry member other other_member same
  rcases mem_put.mp member with rfl | ⟨member, different⟩
  · rcases mem_put.mp other_member with rfl | ⟨other_member, other_different⟩
    · rfl
    · exact absurd same.symm (free other other_member other_different)
  · rcases mem_put.mp other_member with rfl | ⟨other_member, -⟩
    · exact absurd same (free entry member different)
    · exact apart entry member other other_member same

theorem WellFormed.put {table : Table} (wellFormed : table.WellFormed) {key : Uuid} {user : User}
    (own : user.id = key)
    (free : ∀ other ∈ table.others (some key),
      other.username.text ≠ user.username.text ∧ other.email.text ≠ user.email.text) :
    (table.put key user).WellFormed := by
  have apart : ∀ entry ∈ table.entries, entry.1 ≠ key →
      entry.2.username.text ≠ user.username.text ∧ entry.2.email.text ≠ user.email.text := by
    intro entry member different
    apply free entry.2
    refine mem_others.mpr ⟨mem_users.mpr ⟨entry.1, member⟩, ?_⟩
    rw [wellFormed.own entry member]
    exact fun same => different (Option.some.inj same)
  refine ⟨nodup_keys_put wellFormed.keys key user, ?_, ?_, ?_⟩
  · intro entry member
    rcases mem_put.mp member with rfl | ⟨member, -⟩
    · exact own
    · exact wellFormed.own entry member
  · exact nodup_texts_put wellFormed.keys _ wellFormed.usernames key user
      fun entry member different => (apart entry member different).1
  · exact nodup_texts_put wellFormed.keys _ wellFormed.emails key user
      fun entry member different => (apart entry member different).2

theorem evolves_put {table : Table} {key : Uuid} {user : User}
    (evolves : ∀ row, table.get? key = some row → RowEvolves row user) :
    table.Evolves (table.put key user) := by
  intro other row found
  rw [get?_put]
  by_cases same : other = key
  · subst same
    exact ⟨user, if_pos rfl, evolves row found⟩
  · exact ⟨row, by rw [if_neg same, found], RowEvolves.refl row⟩

/-- A table stays well formed when a user is created, even in the place of the row that a generated
identifier already had. -/
theorem WellFormed.created {table : Table} (wellFormed : table.WellFormed) (fresh : Fresh)
    (new : NewUser) : (table.create fresh new).2.WellFormed := by
  rcases create_cases table fresh new with ⟨failure, -, refused⟩ | ⟨unique, created⟩
  · rw [refused]
    exact wellFormed
  · rw [created]
    refine wellFormed.put rfl ?_
    intro other member
    exact checkUnique_eq_ok.mp unique other (mem_others.mpr ⟨(mem_others.mp member).1, nofun⟩)

theorem WellFormed.create {table : Table} (wellFormed : table.WellFormed) (fresh : Fresh)
    (new : NewUser) (idNew : (table.create fresh new).1.isOk → table.get? fresh.id = none) :
    (table.create fresh new).2.WellFormed ∧ table.Evolves (table.create fresh new).2 := by
  refine ⟨wellFormed.created fresh new, ?_⟩
  rcases create_cases table fresh new with ⟨failure, -, refused⟩ | ⟨-, created⟩
  · rw [refused]
    exact Evolves.refl table
  · rw [created] at idNew ⊢
    have absent : table.get? fresh.id = none := idNew rfl
    apply evolves_put
    intro row found
    rw [absent] at found
    contradiction

theorem WellFormed.update {table : Table} (wellFormed : table.WellFormed) (fresh : Fresh)
    (user : User) :
    (table.update fresh user).2.WellFormed ∧ table.Evolves (table.update fresh user).2 := by
  rcases update_cases table fresh user with
    ⟨-, refused⟩ | ⟨row, failure, -, -, refused⟩ | ⟨row, live, unique, updated⟩
  · rw [refused]
    exact ⟨wellFormed, Evolves.refl table⟩
  · rw [refused]
    exact ⟨wellFormed, Evolves.refl table⟩
  · rw [updated]
    have found := (live?_eq_some.mp live).1
    refine ⟨wellFormed.put (wellFormed.own _ (get?_mem found)) ?_, evolves_put ?_⟩
    · exact checkUnique_eq_ok.mp unique
    · intro row' found'
      obtain rfl := Option.some.inj (found.symm.trans found')
      exact ⟨rfl, rfl, fun _ => rfl⟩

theorem WellFormed.delete {table : Table} (wellFormed : table.WellFormed) (fresh : Fresh)
    (id : Uuid) :
    (table.delete fresh id).2.WellFormed ∧ table.Evolves (table.delete fresh id).2 := by
  rcases delete_cases table fresh id with ⟨-, refused⟩ | ⟨row, live, deleted⟩
  · rw [refused]
    exact ⟨wellFormed, Evolves.refl table⟩
  · rw [deleted]
    obtain ⟨found, alive⟩ := live?_eq_some.mp live
    have stored := get?_mem found
    refine ⟨wellFormed.put (wellFormed.own _ stored) ?_, evolves_put ?_⟩
    · -- the row keeps its name and its address, which no other row had before
      intro other member
      obtain ⟨here, different⟩ := mem_others.mp member
      obtain ⟨key, entry⟩ := mem_users.mp here
      have apart : (key, other) ≠ (id, row) := by
        intro same
        obtain ⟨rfl, rfl⟩ := Prod.mk.inj same
        exact different (congrArg some (wellFormed.own _ stored))
      constructor
      · intro same
        exact apart ((nodup_texts_iff wellFormed.keys _).mp wellFormed.usernames
          _ entry _ stored same)
      · intro same
        exact apart ((nodup_texts_iff wellFormed.keys _).mp wellFormed.emails
          _ entry _ stored same)
    · intro row' found'
      obtain rfl := Option.some.inj (found.symm.trans found')
      refine ⟨rfl, rfl, ?_⟩
      intro gone
      rw [User.isDeleted] at alive
      rw [alive] at gone
      contradiction

end Table

/-- Whether the identifier that an operation generates, if it generates one, is not a key yet. -/
def Operation.IdNew (memory : Memory) : Operation → Prop
  | .create new => (memory.table.create memory.supply.next.1 new).1.isOk →
      memory.table.get? memory.supply.next.1.id = none
  | _ => True

theorem Table.WellFormed.perform {memory : Memory} (wellFormed : memory.table.WellFormed)
    (operation : Operation) (idNew : operation.IdNew memory) :
    (Memory.perform operation memory).2.table.WellFormed ∧
      memory.table.Evolves (Memory.perform operation memory).2.table := by
  cases operation with
  | create new => exact wellFormed.create memory.supply.next.1 new idNew
  | findByUsername username => exact ⟨wellFormed, Evolves.refl memory.table⟩
  | findByEmail email => exact ⟨wellFormed, Evolves.refl memory.table⟩
  | findById id => exact ⟨wellFormed, Evolves.refl memory.table⟩
  | update user => exact wellFormed.update memory.supply.next.1 user
  | delete id => exact wellFormed.delete memory.supply.next.1 id

namespace Call

variable {α : Type}

def execute (memory : Memory) : Call α → Memory
  | .operation asked => (Memory.perform asked memory).2
  | .transaction work => (Memory.transact work memory).2

def IdsNew (memory : Memory) : Call α → Prop
  | .operation asked => asked.IdNew memory
  | .transaction work => work.Along Memory.perform (fun asked copy => asked.IdNew copy) memory

def AllIdsNew : Memory → List (Call α) → Prop
  | _, [] => True
  | memory, call :: calls => call.IdsNew memory ∧ AllIdsNew (call.execute memory) calls

theorem allIdsNew_append {memory : Memory} {earlier later : List (Call α)} :
    AllIdsNew memory (earlier ++ later) ↔
      AllIdsNew memory earlier ∧ AllIdsNew (earlier.foldl execute memory) later := by
  induction earlier generalizing memory with
  | nil => simp [AllIdsNew]
  | cons call calls ih => simp [AllIdsNew, ih, and_assoc]

end Call

variable {α : Type}

theorem Table.WellFormed.states {memory : Memory} (wellFormed : memory.table.WellFormed)
    {work : Work α} (idsNew : (Call.transaction work).IdsNew memory) :
    ∀ copy ∈ work.states Memory.perform memory,
      copy.table.WellFormed ∧ memory.table.Evolves copy.table := by
  refine Program.forall_states ?_ idsNew ⟨wellFormed, Evolves.refl memory.table⟩
  rintro operation copy idNew ⟨wellFormed, evolves⟩
  have done := wellFormed.perform operation idNew
  exact ⟨done.1, evolves.trans done.2⟩

theorem Table.WellFormed.execute {memory : Memory} (wellFormed : memory.table.WellFormed)
    {call : Call α} (idsNew : call.IdsNew memory) :
    (call.execute memory).table.WellFormed ∧ memory.table.Evolves (call.execute memory).table := by
  cases call with
  | operation operation => exact wellFormed.perform operation idsNew
  | transaction work =>
      rw [Call.execute, Memory.transact_eq]
      have worked := wellFormed.states idsNew _ (Program.run_mem_states Memory.perform work memory)
      by_cases well : (work.run Memory.perform memory).1.succeeded = true
      · simp only [well, if_true]
        exact worked
      · simp only [well, if_false, Bool.false_eq_true]
        exact ⟨wellFormed, Evolves.refl memory.table⟩

theorem Table.WellFormed.executeAll {memory : Memory} (wellFormed : memory.table.WellFormed)
    {calls : List (Call α)} (idsNew : Call.AllIdsNew memory calls) :
    (calls.foldl Call.execute memory).table.WellFormed ∧
      memory.table.Evolves (calls.foldl Call.execute memory).table := by
  induction calls generalizing memory with
  | nil => exact ⟨wellFormed, Evolves.refl memory.table⟩
  | cons call calls ih =>
      have first := wellFormed.execute idsNew.1
      have rest := ih first.1 idsNew.2
      exact ⟨rest.1, first.2.trans rest.2⟩

/-- Every table that a store reaches from the empty one is well formed, the copies that
transactions work on included, and every row of the table at one time is there in the table at any
later time, as the same row of the same user, deleted for good once it has been deleted. -/
theorem reachable_tables_wellFormed (supply : Supply) (earlier later : List (Call α))
    (idsNew : Call.AllIdsNew ⟨Table.empty, supply⟩ (earlier ++ later)) :
    (earlier.foldl Call.execute ⟨Table.empty, supply⟩).table.WellFormed ∧
    (earlier.foldl Call.execute ⟨Table.empty, supply⟩).table.Evolves
      ((earlier ++ later).foldl Call.execute ⟨Table.empty, supply⟩).table ∧
    ∀ work rest, later = .transaction work :: rest →
      ∀ copy ∈ work.states Memory.perform (earlier.foldl Call.execute ⟨Table.empty, supply⟩),
        copy.table.WellFormed ∧
        (earlier.foldl Call.execute ⟨Table.empty, supply⟩).table.Evolves copy.table := by
  obtain ⟨early, late⟩ := Call.allIdsNew_append.mp idsNew
  have wellFormed := (Table.WellFormed.executeAll Table.wellFormed_empty early).1
  refine ⟨wellFormed, ?_, ?_⟩
  · rw [List.foldl_append]
    exact (wellFormed.executeAll late).2
  · rintro work rest rfl
    exact wellFormed.states late.1

def countingSupply : Supply where
  piece := fun place =>
    { id := ⟨Vector.replicate 32 ⟨place % 16, Nat.mod_lt place (by decide)⟩⟩,
      salt := Vector.replicate 16 (UInt8.ofNat 0), now := Time.Instant.epoch }
  taken := 0

/-- A user is created and deleted around a transaction that creates another and is undone. -/
theorem reachable_tables_wellFormed_undone :
    let created : NewUser := ⟨⟨"alice"⟩, ⟨"alice@example.com"⟩, ⟨""⟩, .user⟩
    let undone : NewUser := ⟨⟨"bob"⟩, ⟨"bob@example.com"⟩, ⟨""⟩, .user⟩
    let earlier : List (Call Unit) := [.operation (.create created)]
    let later : List (Call Unit) :=
      [.transaction (.ask (.create undone) fun _ => .done (.returned (.error .usernameTaken))),
        .operation (.delete (countingSupply.piece 0).id)]
    Call.AllIdsNew ⟨Table.empty, countingSupply⟩ (earlier ++ later) ∧
    (earlier.foldl Call.execute ⟨Table.empty, countingSupply⟩).table.WellFormed ∧
    (earlier.foldl Call.execute ⟨Table.empty, countingSupply⟩).table.Evolves
      ((earlier ++ later).foldl Call.execute ⟨Table.empty, countingSupply⟩).table := by
  intro created undone earlier later
  have idsNew : Call.AllIdsNew ⟨Table.empty, countingSupply⟩ (earlier ++ later) := by
    refine ⟨fun _ => ?_, ⟨fun _ => ?_, trivial⟩, trivial, trivial⟩
    · decide +kernel
    · decide +kernel
  have result := reachable_tables_wellFormed countingSupply earlier later idsNew
  exact ⟨idsNew, result.1, result.2.1⟩

end Accounts.Store

import Accounts.Proofs.Email
import Accounts.Proofs.Store.Order
import Accounts.Store.Sql

/-! Addresses are looked up as they are stored. Every store looks for the normalized text, and a
normalized address is its own normalized text. -/

namespace Accounts

open Store

namespace Email

theorem of_eq_of_iff {text other : String} {email address : Email}
    (accepted : Email.of text = .ok email) (accepted' : Email.of other = .ok address) :
    Email.of text = Email.of other ↔ email.text = address.text := by
  constructor
  · intro same
    rw [accepted, accepted'] at same
    rw [Except.ok.inj same]
  · intro same
    apply of_eq_of_normalize
    rw [← (of_eq_ok accepted).1, ← (of_eq_ok accepted').1, same]

end Email

namespace Store

/-- Whether stores of all kinds look a text up by a key: a table in memory, the copy of one that a
transaction works on, and a server. -/
structure LookedUpBy (text key : String) : Prop where
  memory : ∀ memory : Memory, (Memory.perform (.findByEmail text) memory).1 =
    memory.table.find fun user => user.email.text == key
  transaction : ∀ staging : Memory.Staging,
    (Memory.Staging.perform (.findByEmail text) staging).1 =
      staging.copy.table.find fun user => user.email.text == key
  server : ∀ σ : Type, (Link.performOpen (.findByEmail text) : StateM (Link σ) _) =
    Operation.searchResult <$> Link.send (.selectByEmail key)

theorem lookedUpBy_normalize (text : String) : LookedUpBy text (Email.normalize text) where
  memory := fun _ => rfl
  transaction := fun _ => rfl
  server := fun _ => rfl

theorem lookedUpBy_of_ok {text : String} {email : Email} (accepted : Email.of text = .ok email) :
    LookedUpBy text email.text := by
  rw [(Email.of_eq_ok accepted).1]
  exact lookedUpBy_normalize text

theorem Table.WellFormed.find_email_iff {table : Table} (wellFormed : table.WellFormed)
    {row : User} (member : row ∈ table.users) (live : row.isDeleted = false) (key : String) :
    table.find (fun user => user.email.text == key) = .ok row ↔ row.email.text = key := by
  constructor
  · intro found
    rcases table.find_cases fun user => user.email.text == key with
      ⟨user, -, -, holds, came⟩ | ⟨-, absent⟩
    · rw [came] at found
      rw [← Except.ok.inj found]
      exact eq_of_beq holds
    · rw [absent] at found
      contradiction
  · intro same
    have holds : (row.email.text == key) = true := beq_iff_eq.mpr same
    refine find_eq_ok member live holds ?_
    intro other other_member reached
    exact wellFormed.onlyOne_email key other other_member row member reached holds

theorem Memory.row_of_create {memory after : Memory} {new : NewUser} {user : User}
    (created : Memory.perform (.create new) memory = (.ok user, after)) :
    user ∈ after.table.users ∧ user.isDeleted = false ∧ user.email = new.email := by
  have result : (memory.table.create memory.supply.next.1 new).1 = .ok user :=
    congrArg Prod.fst created
  have left : (memory.table.create memory.supply.next.1 new).2 = after.table :=
    congrArg (·.2.table) created
  rcases Table.create_cases memory.table memory.supply.next.1 new with
    ⟨failure, -, refused⟩ | ⟨-, came⟩
  · rw [refused] at result
    contradiction
  · rw [came] at result left
    obtain rfl := Except.ok.inj result
    refine ⟨?_, rfl, rfl⟩
    rw [← left]
    exact Table.mem_users.mpr ⟨_, Table.mem_put.mpr (.inl rfl)⟩

end Store

/-- Addresses are found as they are stored. An accepted address is accepted as it is, and it is what
stores of all kinds look for, be it given as it was typed or as it is stored. A user who is created
with it in any table that can be attained is found by just those texts that are the same address,
within the transaction or without. -/
theorem addresses_are_found_as_stored {text : String} {email : Email}
    (accepted : Email.of text = .ok email) :
    Email.of email.text = .ok email ∧
    LookedUpBy text email.text ∧ LookedUpBy email.text email.text ∧
    ∀ (memory after : Memory) (new : NewUser) (user : User), memory.table.Attainable →
      new.email = email → Memory.perform (.create new) memory = (.ok user, after) →
      ∀ other address, Email.of other = .ok address →
        ((Memory.perform (.findByEmail other) after).1 = .ok user ↔
          Email.of text = Email.of other) ∧
        ∀ committed, (Memory.Staging.perform (.findByEmail other) ⟨after, committed⟩).1 =
          .ok user ↔ Email.of text = Email.of other := by
  have again := Email.of_text accepted
  refine ⟨again, lookedUpBy_of_ok accepted, lookedUpBy_of_ok again, ?_⟩
  intro memory after new user attainable same created other address accepted'
  have wellFormed : after.table.WellFormed := by
    have performed := attainable.wellFormed.performed memory.supply.next.1 (.create new)
    have left : (memory.table.perform memory.supply.next.1 (.create new)).2 = after.table :=
      congrArg (·.2.table) created
    rwa [left] at performed
  obtain ⟨member, live, address_kept⟩ := Memory.row_of_create created
  have found := wellFormed.find_email_iff member live address.text
  rw [address_kept, same, ← Email.of_eq_of_iff accepted accepted'] at found
  have keys := lookedUpBy_of_ok accepted'
  constructor
  · rw [keys.memory, found]
  · intro committed
    rw [keys.transaction, found]

/-- An address with a letter that has two in lowercase and with a final sigma, between blanks. It is
found as it is stored, and not under a small sigma of the other form. -/
theorem addresses_are_found_as_stored_sigma :
    let typed := " \u0130\u03A3@Example.COM\u00A0"
    let email : Email := ⟨"i\u0307\u03C2@example.com"⟩
    let memory : Memory := ⟨Table.empty, countingSupply⟩
    let new : NewUser := ⟨⟨"alice"⟩, email, ⟨""⟩, .user⟩
    let user := createdRow (countingSupply.piece 0) new
    let after := (Memory.perform (.create new) memory).2
    Email.of typed = .ok email ∧
    (Memory.perform (.findByEmail typed) after).1 = .ok user ∧
    (Memory.perform (.findByEmail email.text) after).1 = .ok user ∧
    (Memory.perform (.findByEmail "i\u0307\u03C3@example.com") after).1 ≠ .ok user := by
  intro typed email memory new user after
  have accepted : Email.of typed = .ok email := by decide +kernel
  have other : Email.of "i\u0307\u03C3@example.com" = .ok ⟨"i\u0307\u03C3@example.com"⟩ := by
    decide +kernel
  have created : Memory.perform (.create new) memory = (.ok user, after) := rfl
  obtain ⟨again, -, -, found⟩ := addresses_are_found_as_stored accepted
  have finds := found memory after new user .empty rfl created
  refine ⟨accepted, (finds _ _ accepted).1.mpr rfl, (finds _ _ again).1.mpr ?_, ?_⟩
  · rw [accepted, again]
  · intro same
    have equal := (finds _ _ other).1.mp same
    rw [accepted, other] at equal
    exact absurd equal (by decide +kernel)

end Accounts

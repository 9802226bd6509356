import Accounts.Json.Records
import Accounts.Proofs.Json.Numerals
import Accounts.Proofs.Json.Strings

/-! Records are read back from their compact spelling, member by member. -/

namespace Accounts.Json

open Text

def Value.bytes (value : Value) : List UInt8 := spell value.print

theorem utf8_render (value : Value) : utf8 value.render = value.bytes := utf8_ofList value.print

/-- Whether a reader reads a value from some bytes, whatever comes behind them. -/
def Reads {α : Type} (reader : Reader α) (bytes : List UInt8) (value : α) : Prop :=
  ∀ rest, Ends rest → reader (bytes ++ rest) = .ok (value, rest)

theorem text_reads (value : String) : Reads text (Value.text value).bytes value :=
  fun rest _ => text_print value rest

theorem integer_reads {value : Int} (least : -0x8000000000000000 ≤ value)
    (most : value < 0x8000000000000000) : Reads integer (Value.integer value).bytes value :=
  fun _ ends => integer_print least most ends

theorem optional_text_reads (value : String) :
    Reads (optional text) (Value.text value).bytes (some value) := by
  intro rest ends
  have read := map_of_ok some (text_reads value rest ends)
  have spelled : (Value.text value).bytes = 0x22 :: textTail value := rfl
  rw [spelled, List.cons_append] at read ⊢
  unfold optional
  rw [afterSpace_cons rfl]
  exact read

theorem optional_null_reads {α : Type} (reader : Reader α) :
    Reads (optional reader) Value.null.bytes none := by
  intro rest _
  rfl

theorem value_text (depth : Nat) (value : String) (rest : List UInt8) :
    Json.value depth ((Value.text value).bytes ++ rest) = .ok (.text value, rest) := by
  have spelled : (Value.text value).bytes = 0x22 :: textTail value := rfl
  have read := map_of_ok Value.text (stringTail_print value rest)
  have kept : ∀ inner, valueWith inner (0x22 :: (textTail value ++ rest)) =
      .ok (.text value, rest) := by
    intro inner
    rw [valueWith, afterSpace_cons rfl]
    exact read
  rw [spelled, List.cons_append]
  cases depth with
  | zero => exact kept none
  | succ depth => exact kept (some (Json.value depth))

theorem passValue_text (value : String) : Reads passValue (Value.text value).bytes () := by
  intro rest _
  have bytes : (Value.text value).bytes = 0x22 :: textTail value := rfl
  rw [bytes, List.cons_append]
  apply passValue_of_opening rfl
  rw [passOpening, if_neg (by decide), if_neg (by decide), if_neg (by decide),
    if_neg (by decide), if_pos rfl, passString_print]
  rfl

theorem passValue_reads_integer (value : Int) : Reads passValue (Value.integer value).bytes () :=
  fun _ ends => passValue_integer value ends

/-! One member. -/

inductive Members.Takes : {αs : List Type} → Members αs → Slots αs → String → List UInt8 →
    Slots αs → Prop
  | here {α : Type} {αs : List Type} {key : String} {reader : Reader α} {missing : Option α}
      {rest : Members αs} {slots : Slots αs} {bytes : List UInt8} {value : α}
      (reads : Reads reader bytes value) :
      Takes (.cons key reader missing rest) (none, slots) key bytes (some value, slots)
  | later {α : Type} {αs : List Type} {name key : String} {reader : Reader α}
      {missing : Option α} {rest : Members αs} {slot : Option α} {slots next : Slots αs}
      {bytes : List UInt8} (other : key ≠ name) (takes : Takes rest slots key bytes next) :
      Takes (.cons name reader missing rest) (slot, slots) key bytes (slot, next)

variable {αs : List Type} {members : Members αs} {slots next last : Slots αs}

theorem Members.accept_of_ne {α : Type} {name key : String} {reader : Reader α}
    {missing : Option α} {slot : Option α} (other : key ≠ name) :
    (Members.cons name reader missing members).accept key (slot, slots) =
      (members.accept key slots).map (fun more => do let slots ← more; pure (slot, slots)) :=
  if_neg other

theorem Members.Takes.accept {key : String} {bytes : List UInt8}
    (takes : members.Takes slots key bytes next) :
    ∃ reader, members.accept key slots = some reader ∧ Reads reader (0x3A :: bytes) next := by
  induction takes with
  | here reads =>
      refine ⟨_, if_pos rfl, ?_⟩
      intro rest ends
      rw [List.cons_append, bind_of_ok (mark_cons rfl _), bind_of_ok (reads rest ends)]
      rfl
  | @later _ _ _ _ _ _ _ slot _ _ _ other takes ih =>
      obtain ⟨reader, accepted, reads⟩ := ih
      refine ⟨do let slots ← reader; pure (slot, slots), ?_, ?_⟩
      · rw [Members.accept_of_ne other, accepted]
        rfl
      · intro rest ends
        rw [bind_of_ok (reads rest ends)]
        rfl

/-! All members. -/

/-- Whether the members of a record lead from some values met to others: each is read into its
place, or it is none of the record's and can be passed over. -/
inductive Members.Collects (members : Members αs) :
    Slots αs → List (String × Value) → Slots αs → Prop
  | nil {slots : Slots αs} : Collects members slots [] slots
  | member {slots next last : Slots αs} {key : String} {value : Value}
      {entries : List (String × Value)} (takes : members.Takes slots key value.bytes next)
      (rest : Collects members next entries last) :
      Collects members slots ((key, value) :: entries) last
  | unknown {slots last : Slots αs} {key : String} {value : Value}
      {entries : List (String × Value)} (unknown : members.accept key slots = none)
      (passes : Reads passValue value.bytes ()) (rest : Collects members slots entries last) :
      Collects members slots ((key, value) :: entries) last

def entriesBytes (first : Bool) : List (String × Value) → List UInt8
  | [] => [0x7D]
  | (key, value) :: entries =>
    (if first then [] else [0x2C]) ++ 0x22 :: textTail key ++ 0x3A :: value.bytes ++
      entriesBytes false entries

theorem ends_entriesBytes (entries : List (String × Value)) (rest : List UInt8) :
    Ends (entriesBytes false entries ++ rest) := by
  cases entries with
  | nil => exact ends_brace rest
  | cons entry entries => exact ends_comma _

theorem length_entriesBytes (first : Bool) (entries : List (String × Value)) :
    entries.length < (entriesBytes first entries).length := by
  induction entries generalizing first with
  | nil => exact Nat.zero_lt_one
  | cons entry entries ih =>
      have later := ih false
      simp only [entriesBytes, List.length_append, List.length_cons]
      omega

theorem spell_printMembers (key : String) (value : Value) (entries : List (String × Value)) :
    spell (printMembers ((key, value) :: entries) ++ ['}']) =
      0x22 :: textTail key ++ 0x3A :: value.bytes ++ entriesBytes false entries := by
  have colon : ∀ rest, spell (':' :: rest) = 0x3A :: spell rest := fun _ => rfl
  have comma : ∀ rest, spell (',' :: rest) = 0x2C :: spell rest := fun _ => rfl
  induction entries generalizing key value with
  | nil =>
      rw [printMembers, spell_append, spell_append, spell_printText, colon]
      rfl
  | cons entry entries ih =>
      obtain ⟨other, second⟩ := entry
      rw [printMembers, entriesBytes, List.append_assoc, List.cons_append, spell_append,
        spell_append, spell_printText, colon, comma, ih other second]
      · simp [Value.bytes]
      · simp

theorem bytes_record (entries : List (String × Value)) :
    (Value.record entries).bytes = 0x7B :: entriesBytes true entries := by
  rw [Value.bytes, Value.print]
  cases entries with
  | nil => rfl
  | cons entry entries =>
      obtain ⟨key, value⟩ := entry
      rw [List.cons_append, spell_cons, spell_printMembers]
      rfl

theorem moreMembers_entry (first : Bool) (rest : List UInt8) :
    moreMembers first ((if first then [] else [0x2C]) ++ 0x22 :: rest) = .ok (true, rest) := by
  cases first with
  | true => rfl
  | false => rfl

theorem moreMembers_end (first : Bool) (rest : List UInt8) :
    moreMembers first (0x7D :: rest) = .ok (false, 0x7D :: rest) := rfl

theorem entriesFrom_entry {first : Bool} {key : String} {value : Value}
    {entries : List (String × Value)} {rest : List UInt8} {reader : Reader (Slots αs)}
    (accepted : (members.accept key slots).getD (mark 0x3A *> passValue *> pure slots) = reader)
    (reads : Reads reader (0x3A :: value.bytes) next) (fuel : Nat) :
    members.entriesFrom first slots (fuel + 1)
        (entriesBytes first ((key, value) :: entries) ++ rest) =
      members.entriesFrom false next fuel (entriesBytes false entries ++ rest) := by
  have spelled : entriesBytes first ((key, value) :: entries) ++ rest =
      (if first then [] else [0x2C]) ++ 0x22 :: (textTail key ++
        ((0x3A :: value.bytes) ++ (entriesBytes false entries ++ rest))) := by
    simp [entriesBytes]
  have read := reads _ (ends_entriesBytes entries rest)
  rw [spelled]
  simp only [Members.entriesFrom, moreMembers_entry, stringTail_print, accepted, read]

theorem Members.Collects.entriesFrom {entries : List (String × Value)}
    (collects : members.Collects slots entries last) {row : Row αs}
    (finished : members.finish last = some row) (first : Bool) {fuel : Nat}
    (enough : entries.length < fuel) (rest : List UInt8) :
    members.entriesFrom first slots fuel (entriesBytes first entries ++ rest) =
      .ok (row, rest) := by
  induction collects generalizing first fuel with
  | nil =>
      cases fuel with
      | zero => contradiction
      | succ fuel =>
          simp only [entriesBytes, List.cons_append, Members.entriesFrom, moreMembers_end, finished]
          rw [seqRight_of_ok (mark_cons rfl _)]
          rfl
  | member takes _ ih =>
      cases fuel with
      | zero => contradiction
      | succ fuel =>
          obtain ⟨reader, accepted, reads⟩ := takes.accept
          rw [entriesFrom_entry (congrArg (Option.getD · _) accepted) reads]
          exact ih finished false (Nat.lt_of_succ_lt_succ enough)
  | @unknown slots _ _ value _ unknown passes _ ih =>
      cases fuel with
      | zero => contradiction
      | succ fuel =>
          have passed :
              Reads (mark 0x3A *> passValue *> pure slots) (0x3A :: value.bytes) slots := by
            intro rest ends
            have both : (mark 0x3A *> passValue) (0x3A :: value.bytes ++ rest) =
                .ok ((), rest) := by
              rw [List.cons_append, seqRight_of_ok (mark_cons rfl _)]
              exact passes rest ends
            rw [seqRight_of_ok both]
            rfl
          rw [entriesFrom_entry (congrArg (Option.getD · _) unknown) passed]
          exact ih finished false (Nat.lt_of_succ_lt_succ enough)

/-- The members of a whole record are read with the fuel that its length gives. -/
theorem Members.Collects.record {entries : List (String × Value)}
    (collects : members.Collects members.empty entries last) {row : Row αs}
    (finished : members.finish last = some row) (rest : List UInt8) :
    members.entriesFrom true members.empty ((entriesBytes true entries ++ rest).length + 1)
      (entriesBytes true entries ++ rest) = .ok (row, rest) := by
  apply collects.entriesFrom finished
  have enough := length_entriesBytes true entries
  rw [List.length_append]
  omega

theorem recordOf_reads {entries : List (String × Value)}
    (collects : members.Collects members.empty entries last) {row : Row αs}
    (finished : members.finish last = some row) :
    Reads (recordOf members) (Value.record entries).bytes row := by
  intro rest _
  rw [bytes_record, List.cons_append]
  exact collects.record finished rest

/-! Records with all of their members in order. -/

inductive Members.InOrder : {αs : List Type} → Members αs → List (String × Value) → Row αs → Prop
  | nil : InOrder .nil [] ()
  | cons {α : Type} {αs : List Type} {key : String} {reader : Reader α} {missing : Option α}
      {rest : Members αs} {document : Value} {value : α} {entries : List (String × Value)}
      {row : Row αs} (reads : Reads reader document.bytes value)
      (once : key ∉ entries.map Prod.fst) (inOrder : InOrder rest entries row) :
      InOrder (.cons key reader missing rest) ((key, document) :: entries) (value, row)

theorem Members.Collects.beside {α : Type} {name : String} {reader : Reader α} {missing : Option α}
    {slot : Option α} {entries : List (String × Value)} (apart : name ∉ entries.map Prod.fst)
    (collects : members.Collects slots entries last) :
    (Members.cons name reader missing members).Collects (slot, slots) entries (slot, last) := by
  induction collects with
  | nil => exact .nil
  | member takes _ ih =>
      simp only [List.map_cons, List.mem_cons, not_or] at apart
      exact .member (.later (Ne.symm apart.1) takes) (ih apart.2)
  | unknown unknown passes _ ih =>
      simp only [List.map_cons, List.mem_cons, not_or] at apart
      refine .unknown ?_ passes (ih apart.2)
      rw [Members.accept_of_ne (Ne.symm apart.1), unknown]
      rfl

theorem Members.InOrder.collects {entries : List (String × Value)} {row : Row αs}
    (inOrder : members.InOrder entries row) :
    ∃ last, members.Collects members.empty entries last ∧ members.finish last = some row := by
  induction inOrder with
  | nil => exact ⟨(), .nil, rfl⟩
  | @cons _ _ _ _ _ _ _ value _ _ reads once _ ih =>
      obtain ⟨last, collects, finished⟩ := ih
      refine ⟨(some value, last), .member (.here reads) (collects.beside once), ?_⟩
      simp [Members.finish, finished]

theorem Members.InOrder.reads {entries : List (String × Value)} {row : Row αs}
    (inOrder : members.InOrder entries row) :
    Reads (recordOf members) (Value.record entries).bytes row := by
  obtain ⟨last, collects, finished⟩ := inOrder.collects
  exact recordOf_reads collects finished

theorem textAs_reads {α : Type} {parse : String → Option α} {spelling : String} {value : α}
    (parsed : parse spelling = some value) :
    Reads (textAs parse) (Value.text spelling).bytes value := by
  intro rest ends
  rw [textAs, bind_of_ok (text_reads spelling rest ends)]
  simp only [parsed]
  rfl

end Accounts.Json

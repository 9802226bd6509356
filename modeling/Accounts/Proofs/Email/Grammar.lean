import Accounts.Proofs.Email
import Accounts.Proofs.Text.Scanner

/-! The grammar of addresses: what stands before the at sign, and the labels between the dots behind
it. Validation accepts the texts of the grammar and tells what is wrong with all others, and gives
addresses that it leaves as they are. The reader of documents does not validate. -/

namespace Accounts

open Text

/-! Letters that lowercasing leaves. -/

def Text.isCapital (c : Char) : Bool := 'A' ≤ c && c ≤ 'Z'

theorem Text.not_isCapital_of_isSteady {c : Char} (steady : IsSteady c) : isCapital c = false := by
  have capitals : ∀ offset < 26,
      lowerChar (Char.ofNat (0x41 + offset)) ≠ [Char.ofNat (0x41 + offset)] := by
    decide +kernel
  rw [Bool.eq_false_iff]
  intro capital
  simp only [isCapital, Bool.and_eq_true, decide_eq_true_eq, Char.le_def,
    UInt32.le_iff_toNat_le] at capital
  have first : 0x41 ≤ c.toNat := capital.1
  have last : c.toNat ≤ 0x5A := capital.2
  apply capitals (c.toNat - 0x41) (by omega)
  rw [Nat.add_sub_cancel' first, Char.ofNat_toNat]
  exact steady.2

theorem Text.not_isCapital_of_mem_lowercase {text : String} {c : Char}
    (member : c ∈ (lowercase text).toList) : isCapital c = false := by
  rw [lowercase, String.toList_ofList] at member
  exact not_isCapital_of_isSteady (isSteady_of_mem_lowerFrom member)

namespace Email

/-! Domains. -/

def isLabelChar (c : Char) : Bool := ('a' ≤ c && c ≤ 'z') || ('0' ≤ c && c ≤ '9') || c == '-'

/-- Whether some texts are the labels of a domain. A hyphen may stand at either end of a label but
at neither end of the domain. -/
structure Labels (labels : List (List Char)) : Prop where
  several : 2 ≤ labels.length
  nonempty : [] ∉ labels
  letters : ∀ label ∈ labels, ∀ c ∈ label, isLabelChar c = true
  start : ∀ label ∈ labels.head?, label.head? ≠ some '-'
  finish : ∀ label ∈ labels.getLast?, label.getLast? ≠ some '-'

def joined (labels : List (List Char)) : List Char := ['.'].intercalate labels

theorem joined_cons_cons (label next : List Char) (labels : List (List Char)) :
    joined (label :: next :: labels) = label ++ '.' :: joined (next :: labels) := by
  simp [joined, List.intercalate_cons_cons]

theorem joined_singleton (label : List Char) : joined [label] = label :=
  List.intercalate_singleton

theorem isDomainChar_iff {c : Char} (small : isCapital c = false) :
    isDomainChar c = true ↔ c = '.' ∨ isLabelChar c = true := by
  simp only [isCapital, isDomainChar, isLabelChar] at small ⊢
  simp only [small, Bool.or_false, Bool.or_eq_true, beq_iff_eq]
  tauto

/-! A dot that follows a dot, or stands at an end, leaves a label empty. -/

theorem doubleDot_cons (c : Char) (rest : List Char) :
    doubleDot (c :: rest) = (decide (c = '.' ∧ rest.head? = some '.') || doubleDot rest) := by
  by_cases dots : c = '.' ∧ rest.head? = some '.'
  · obtain ⟨rfl, head⟩ := dots
    obtain ⟨more, rfl⟩ := List.head?_eq_some_iff.mp head
    simp [doubleDot]
  · rw [decide_eq_false dots, Bool.false_or, doubleDot]
    intro more dot next
    rw [dot, next] at dots
    exact dots ⟨rfl, rfl⟩

theorem doubleDot_append {label : List Char} (free : '.' ∉ label) (rest : List Char) :
    doubleDot (label ++ rest) = doubleDot rest := by
  induction label with
  | nil => rfl
  | cons c label ih =>
      obtain ⟨apart, free⟩ := List.ne_and_not_mem_of_not_mem_cons free
      rw [List.cons_append, doubleDot_cons, ih free]
      simp [apart.symm]

structure Spaced (text : List Char) : Prop where
  nonempty : text ≠ []
  apart : doubleDot text = false
  start : text.head? ≠ some '.'
  finish : text.getLast? ≠ some '.'

theorem spaced_of_free {label : List Char} (free : '.' ∉ label) : Spaced label ↔ label ≠ [] := by
  constructor
  · exact Spaced.nonempty
  · intro nonempty
    refine ⟨nonempty, ?_, ?_, ?_⟩
    · have apart := doubleDot_append free []
      rwa [List.append_nil] at apart
    · exact fun head => free (List.mem_of_head? head)
    · exact fun last => free (List.mem_of_getLast? last)

theorem spaced_cons {label : List Char} (free : '.' ∉ label) (rest : List Char) :
    Spaced (label ++ '.' :: rest) ↔ label ≠ [] ∧ Spaced rest := by
  have dots : doubleDot (label ++ '.' :: rest) =
      (decide (rest.head? = some '.') || doubleDot rest) := by
    rw [doubleDot_append free, doubleDot_cons]
    simp
  have last : (label ++ '.' :: rest).getLast? = some (rest.getLast?.getD '.') := by
    simp [List.getLast?_append, List.getLast?_cons]
  constructor
  · intro spaced
    have apart := spaced.apart
    have finish := spaced.finish
    rw [dots, Bool.or_eq_false_iff] at apart
    rw [last] at finish
    refine ⟨?_, ?_, apart.2, of_decide_eq_false apart.1, ?_⟩
    · rintro rfl
      exact spaced.start rfl
    · rintro rfl
      exact finish rfl
    · intro dot
      rw [dot] at finish
      exact finish rfl
  · intro both
    obtain ⟨nonempty, spaced⟩ := both
    refine ⟨by simp, ?_, ?_, ?_⟩
    · rw [dots, decide_eq_false spaced.start, spaced.apart]
      rfl
    · obtain ⟨c, label, rfl⟩ := List.exists_cons_of_ne_nil nonempty
      have different := List.ne_of_not_mem_cons free
      simpa using different.symm
    · rw [last]
      intro dot
      have finish := spaced.finish
      rw [List.getLast?_eq_some_getLast spaced.nonempty] at dot finish
      exact finish dot

theorem spaced_joined {labels : List (List Char)} (some : labels ≠ [])
    (free : ∀ label ∈ labels, '.' ∉ label) : Spaced (joined labels) ↔ [] ∉ labels := by
  induction labels with
  | nil => contradiction
  | cons label labels ih =>
      obtain ⟨here, later⟩ := List.forall_mem_cons.mp free
      cases labels with
      | nil => rw [joined_singleton, spaced_of_free here, List.mem_singleton, eq_comm]
      | cons next labels =>
          rw [joined_cons_cons, spaced_cons here, ih (List.cons_ne_nil _ _) later,
            List.mem_cons (b := label), not_or, ne_comm]

/-! What else is asked of a domain is asked of its labels. -/

theorem mem_joined {labels : List (List Char)} {c : Char} :
    c ∈ joined labels ↔ (c = '.' ∧ 2 ≤ labels.length) ∨ ∃ label ∈ labels, c ∈ label := by
  induction labels with
  | nil => simp [joined]
  | cons label labels ih =>
      cases labels with
      | nil => simp [joined_singleton]
      | cons next labels =>
          rw [joined_cons_cons, List.mem_append, List.mem_cons, ih]
          simp only [List.mem_cons (b := label), List.length_cons, exists_eq_or_imp]
          constructor
          · rintro (here | dot | ⟨dot, -⟩ | later)
            · exact .inr (.inl here)
            · exact .inl ⟨dot, by omega⟩
            · exact .inl ⟨dot, by omega⟩
            · exact .inr (.inr later)
          · rintro (⟨dot, -⟩ | here | later)
            · exact .inr (.inl dot)
            · exact .inl here
            · exact .inr (.inr (.inr later))

theorem head?_joined {label : List Char} (labels : List (List Char)) (nonempty : label ≠ []) :
    (joined (label :: labels)).head? = label.head? := by
  obtain ⟨c, label, rfl⟩ := List.exists_cons_of_ne_nil nonempty
  cases labels with
  | nil => rw [joined_singleton]
  | cons next labels => rw [joined_cons_cons]; rfl

theorem getLast?_joined {labels : List (List Char)} {label : List Char} (nonempty : label ≠ [])
    (last : labels.getLast? = some label) : (joined labels).getLast? = label.getLast? := by
  induction labels with
  | nil => contradiction
  | cons first labels ih =>
      cases labels with
      | nil =>
          obtain rfl : first = label := Option.some.inj last
          rw [joined_singleton]
      | cons next labels =>
          have ends := ih (by simpa using last)
          rw [List.getLast?_eq_some_getLast nonempty] at ends ⊢
          rw [joined_cons_cons, List.getLast?_append, List.getLast?_cons, ends]
          rfl

theorem isDomain_iff {text : List Char} :
    isDomain text = true ↔ '.' ∈ text ∧ Spaced text ∧ (∀ c ∈ text, isDomainChar c = true) ∧
      text.head? ≠ some '-' ∧ text.getLast? ≠ some '-' := by
  have ends : ∀ c : Option Char, c.any isInnerChar = false ↔ c ≠ some '.' ∧ c ≠ some '-' := by
    intro c
    cases c with
    | none => simp
    | some c => simp [isInnerChar]
  simp only [isDomain, Bool.and_eq_true, Bool.not_eq_true', Bool.or_eq_false_iff, ends,
    List.contains_iff_mem, List.all_eq_true]
  constructor
  · rintro ⟨⟨⟨dot, apart⟩, letters⟩, start, finish⟩
    exact ⟨dot, ⟨List.ne_nil_of_mem dot, apart, start.1, finish.1⟩, letters, start.2, finish.2⟩
  · rintro ⟨dot, spaced, letters, start, finish⟩
    exact ⟨⟨⟨dot, spaced.apart⟩, letters⟩, ⟨spaced.start, start⟩, spaced.finish, finish⟩

theorem isDomain_joined {labels : List (List Char)} (some : labels ≠ [])
    (free : ∀ label ∈ labels, '.' ∉ label)
    (small : ∀ c ∈ joined labels, isCapital c = false) :
    isDomain (joined labels) = true ↔ Labels labels := by
  rw [isDomain_iff, spaced_joined some free]
  constructor
  · rintro ⟨dot, nonempty, letters, start, finish⟩
    refine ⟨?_, nonempty, ?_, ?_, ?_⟩
    · rcases mem_joined.mp dot with ⟨-, several⟩ | ⟨label, member, dot⟩
      · exact several
      · exact absurd dot (free label member)
    · intro label member c letter
      have within : c ∈ joined labels := mem_joined.mpr (.inr ⟨label, member, letter⟩)
      rcases (isDomainChar_iff (small c within)).mp (letters c within) with rfl | good
      · exact absurd letter (free label member)
      · exact good
    · intro label first
      obtain ⟨labels, rfl⟩ := List.head?_eq_some_iff.mp first
      rwa [head?_joined labels] at start
      rintro rfl
      exact nonempty List.mem_cons_self
    · intro label last
      rwa [getLast?_joined _ last] at finish
      rintro rfl
      exact nonempty (List.mem_of_getLast? last)
  · intro good
    obtain ⟨first, labels, rfl⟩ := List.exists_cons_of_ne_nil some
    refine ⟨mem_joined.mpr (.inl ⟨rfl, good.several⟩), good.nonempty, ?_, ?_, ?_⟩
    · intro c member
      apply (isDomainChar_iff (small c member)).mpr
      rcases mem_joined.mp member with ⟨dot, -⟩ | ⟨label, among, letter⟩
      · exact .inl dot
      · exact .inr (good.letters label among c letter)
    · rw [head?_joined labels]
      · exact good.start first rfl
      · rintro rfl
        exact good.nonempty List.mem_cons_self
    · have last := List.getLast?_eq_some_getLast some
      rw [getLast?_joined _ last]
      · exact good.finish _ last
      · intro empty
        rw [empty] at last
        exact good.nonempty (List.mem_of_getLast? last)

/-! Addresses. -/

structure LocalPart (text : List Char) : Prop where
  long : 1 ≤ (String.ofList text).utf8ByteSize
  short : (String.ofList text).utf8ByteSize ≤ 64
  noSign : '@' ∉ text
  noBlank : ∀ c ∈ text, isBlank c = false

def Grammatical (text : List Char) : Prop :=
  ∃ before labels, text = before ++ '@' :: joined labels ∧ LocalPart before ∧ Labels labels

theorem isLocal_iff {text : List Char} (free : '@' ∉ text) :
    isLocal text = true ↔ LocalPart text := by
  have long : text.isEmpty = false ↔ 1 ≤ (String.ofList text).utf8ByteSize := by
    rw [Nat.one_le_iff_ne_zero]
    simp
  simp only [isLocal, Bool.and_eq_true, Bool.not_eq_true', long,
    decide_eq_true_eq, List.any_eq_false, Bool.not_eq_true]
  constructor
  · rintro ⟨⟨long, short⟩, noBlank⟩
    exact ⟨long, short, free, noBlank⟩
  · intro good
    exact ⟨⟨good.long, good.short⟩, good.noBlank⟩

theorem Labels.nonnil {labels : List (List Char)} (good : Labels labels) : labels ≠ [] := by
  rintro rfl
  exact absurd good.several (by decide)

theorem Labels.free {labels : List (List Char)} (good : Labels labels) :
    ∀ label ∈ labels, '.' ∉ label := by
  intro label member dot
  exact absurd (good.letters label member '.' dot) (by decide)

theorem isAddress_iff_grammatical {text : List Char}
    (small : ∀ c ∈ text, isCapital c = false) : isAddress text = true ↔ Grammatical text := by
  rw [isAddress_iff]
  constructor
  · rintro ⟨before, behind, rfl, free, inLocal, inDomain⟩
    have cut : joined (behind.splitOn '.') = behind := List.intercalate_splitOn '.'
    refine ⟨before, behind.splitOn '.', by rw [cut], (isLocal_iff free).mp inLocal, ?_⟩
    apply (isDomain_joined (List.splitOn_ne_nil '.' behind) _ _).mp
    · rw [cut]
      exact inDomain
    · exact fun label => not_mem_of_mem_splitOn
    · rw [cut]
      intro c member
      exact small c (by simp [member])
  · rintro ⟨before, labels, rfl, inLocal, good⟩
    have isLocal := (isLocal_iff inLocal.noSign).mpr inLocal
    refine ⟨before, joined labels, rfl, inLocal.noSign, isLocal, ?_⟩
    apply (isDomain_joined good.nonnil good.free _).mpr good
    intro c member
    exact small c (by simp [member])

theorem Grammatical.ne_nil {text : List Char} (grammatical : Grammatical text) : text ≠ [] := by
  obtain ⟨before, labels, rfl, -, -⟩ := grammatical
  simp

theorem of_cases (text normal : String) (same : normalize text = normal) :
    (Email.of text = .error .empty ∧ normal = "") ∨
    (Email.of text = .error .tooLong ∧ 254 < normal.utf8ByteSize) ∨
    (Email.of text = .error .invalidFormat ∧
      normal ≠ "" ∧ normal.utf8ByteSize ≤ 254 ∧ ¬ Grammatical normal.toList) ∨
    (Email.of text = .ok ⟨normal⟩ ∧
      normal.utf8ByteSize ≤ 254 ∧ Grammatical normal.toList) := by
  have form : isAddress normal.toList = true ↔ Grammatical normal.toList := by
    apply isAddress_iff_grammatical
    intro c member
    rw [← same] at member
    exact not_isCapital_of_mem_lowercase member
  rw [Email.of, same, ← form]
  split
  next empty => exact .inl ⟨rfl, empty⟩
  next nonempty =>
    split
    next long => exact .inr (.inl ⟨rfl, long⟩)
    next short =>
      have short := Nat.le_of_not_lt short
      split
      next address => exact .inr (.inr (.inr ⟨rfl, short, address⟩))
      next other => exact .inr (.inr (.inl ⟨rfl, nonempty, short, other⟩))

/-- Validation accepts the texts that are trimmed and lowercased to an address of 254 bytes at most,
and of any other text it tells the first thing that is wrong with it: that it is empty, that it is
too long, or that it has not the form of an address. -/
theorem validation_exact (text : String) :
    let normal := lowercase (trim text)
    (∀ email, Email.of text = .ok email ↔
      email.text = normal ∧ normal.utf8ByteSize ≤ 254 ∧ Grammatical normal.toList) ∧
    (Email.of text = .error .empty ↔ normal = "") ∧
    (Email.of text = .error .tooLong ↔ 254 < normal.utf8ByteSize) ∧
    (Email.of text = .error .invalidFormat ↔
      normal ≠ "" ∧ normal.utf8ByteSize ≤ 254 ∧ ¬ Grammatical normal.toList) := by
  intro normal
  rcases of_cases text normal rfl with
    ⟨came, empty⟩ | ⟨came, long⟩ | ⟨came, nonempty, short, other⟩ | ⟨came, short, grammatical⟩
  · have formless : ¬ Grammatical normal.toList := by
      intro grammatical
      exact grammatical.ne_nil (by simp [empty])
    simp [came, empty] at formless ⊢
    exact fun _ _ => formless
  · have notShort : ¬ normal.utf8ByteSize ≤ 254 := Nat.not_le_of_lt long
    have nonempty : normal ≠ "" := by
      intro empty
      simp [empty] at long
    simp [came, long, notShort, nonempty]
  · have notLong : ¬ 254 < normal.utf8ByteSize := Nat.not_lt_of_le short
    simp [came, nonempty, short, notLong, other]
  · have notLong : ¬ 254 < normal.utf8ByteSize := Nat.not_lt_of_le short
    have nonempty : normal ≠ "" := by
      intro empty
      exact grammatical.ne_nil (by simp [empty])
    have whole : ∀ email : Email, (⟨normal⟩ : Email) = email ↔ email.text = normal := by
      intro email
      cases email
      simp [eq_comm]
    simp [came, nonempty, short, notLong, grammatical, whole]

/-! Addresses in documents, where any text is an address. -/

variable {email : Email}

/-- Whether an address is what validation makes of its own text. -/
def Validated (email : Email) : Prop := Email.of email.text = .ok email

theorem validated_iff_grammatical : Validated email ↔ lowercase (trim email.text) = email.text ∧
    email.text.utf8ByteSize ≤ 254 ∧ Grammatical email.text.toList := by
  have verdict := (validation_exact email.text).1 email
  constructor
  · intro validated
    obtain ⟨normal, short, grammatical⟩ := verdict.mp validated
    rw [← normal] at short grammatical
    exact ⟨normal.symm, short, grammatical⟩
  · rintro ⟨normal, short, grammatical⟩
    apply verdict.mpr
    rw [normal]
    exact ⟨rfl, short, grammatical⟩

/-- A document holds an address just if it holds a text, which is taken as it is. -/
theorem ofJson_eq_ok {value : Json.Value} : ofJson value = .ok email ↔ value = .text email.text := by
  cases value with
  | text text =>
      change (.ok ⟨text⟩ : Except String Email) = .ok email ↔ _
      cases email
      simp
  | _ => exact ⟨nofun, nofun⟩

/-- Validation of a text gives nothing but valid addresses, and the reader of documents takes any text
for an address: it keeps addresses valid just where the text was trimmed, in lowercase and of the
grammar before. -/
theorem documents_skip_validation (text : String) :
    (∀ email, Email.of text = .ok email → Validated email) ∧
    (∀ value email, ofJson value = .ok email ↔ value = .text email.text) ∧
    ((∀ email, ofJson (.text text) = .ok email → Validated email) ↔
      lowercase (trim text) = text ∧ text.utf8ByteSize ≤ 254 ∧ Grammatical text.toList) := by
  have taken : ofJson (.text text) = .ok ⟨text⟩ := rfl
  refine ⟨fun _ => of_text, fun _ _ => ofJson_eq_ok, ?_⟩
  constructor
  · intro valid
    exact validated_iff_grammatical.mp (valid ⟨text⟩ taken)
  · intro canonical email read
    rw [taken] at read
    rw [← Except.ok.inj read]
    exact validated_iff_grammatical.mpr canonical

/-- A text without an at sign is refused by validation and is an address in a document. -/
theorem document_with_invalid_address :
    Email.of "not an address" = .error .invalidFormat ∧
    ofJson (.text "not an address") = .ok ⟨"not an address"⟩ ∧
    ¬ ∀ text email, Email.of text = .ok email ∨ ofJson (.text text) = .ok email →
      Email.of email.text = .ok email := by
  have refused : Email.of "not an address" = .error .invalidFormat := by decide +kernel
  have taken : ofJson (.text "not an address") = .ok ⟨"not an address"⟩ := rfl
  refine ⟨refused, taken, ?_⟩
  intro valid
  have accepted := valid _ _ (.inr taken)
  rw [refused] at accepted
  contradiction

end Email

end Accounts

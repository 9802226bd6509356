import Accounts.Proofs.Except
import Accounts.UserName

/-! User names. A text is a name just if it has from 3 to 50 characters without blanks and controls
among them, and of any other text the first offence is told. -/

namespace Accounts.UserName

open Text

def Clean (c : Char) : Prop := isBlank c = false ∧ isControl c = false

instance (c : Char) : Decidable (Clean c) := inferInstanceAs (Decidable (_ ∧ _))

structure Grammatical (text : String) : Prop where
  least : 3 ≤ text.length
  most : text.length ≤ 50
  clean : ∀ c ∈ text.toList, Clean c

structure FirstOffence (text : String) (index : Nat) (c : Char) : Prop where
  found : text.toList[index]? = some c
  offends : ¬ Clean c
  earlier : ∀ d ∈ text.toList.take index, Clean d

/-- Why a text is no name. The length is looked at before the characters, and a blank is told as one
even where it is a control as well. -/
inductive Refuses (text : String) : UserNameError → Prop
  | short (short : text.length < 3) : Refuses text (.tooShort text.length)
  | long (long : 50 < text.length) : Refuses text (.tooLong text.length)
  | blank {index : Nat} {c : Char} (least : 3 ≤ text.length) (most : text.length ≤ 50)
      (first : FirstOffence text index c) (blank : isBlank c = true) :
      Refuses text .containsWhitespace
  | control {index : Nat} {c : Char} (least : 3 ≤ text.length) (most : text.length ≤ 50)
      (first : FirstOffence text index c) (notBlank : isBlank c = false) :
      Refuses text (.invalidCharacter index)

/-! The search for the first offence. -/

theorem offence?_append (position : Nat) {before : List Char} (clean : ∀ c ∈ before, Clean c)
    (rest : List Char) :
    offence? position (before ++ rest) = offence? (position + before.length) rest := by
  induction before generalizing position with
  | nil => rfl
  | cons c before ih =>
      have first : Clean c := clean c (by simp)
      rw [List.cons_append, offence?, first.1, first.2, if_neg Bool.false_ne_true,
        if_neg Bool.false_ne_true, ih (position + 1) fun d member => clean d (by simp [member]),
        List.length_cons, Nat.add_assoc, Nat.add_comm 1]

theorem offence?_of_clean (position : Nat) {chars : List Char} (clean : ∀ c ∈ chars, Clean c) :
    offence? position chars = none := by
  have passed := offence?_append position clean []
  rw [List.append_nil] at passed
  exact passed

theorem offence?_of_first {text : String} {index : Nat} {c : Char}
    (first : FirstOffence text index c) :
    offence? 0 text.toList =
      some (if isBlank c then .containsWhitespace else .invalidCharacter index) := by
  obtain ⟨bound, found⟩ := List.getElem?_eq_some_iff.mp first.found
  have parts : text.toList.take index ++ c :: text.toList.drop (index + 1) = text.toList := by
    rw [← found, ← List.drop_eq_getElem_cons bound, List.take_append_drop]
  have length : (text.toList.take index).length = index := by
    rw [List.length_take]
    omega
  have step := offence?_append 0 first.earlier (c :: text.toList.drop (index + 1))
  rw [parts, length, Nat.zero_add] at step
  rw [step, offence?]
  by_cases blank : isBlank c = true
  · rw [if_pos blank, if_pos blank]
  · have notBlank : isBlank c = false := by simpa using blank
    have control : isControl c = true := by
      have offends := first.offends
      simpa [Clean, notBlank] using offends
    rw [if_neg blank, if_neg blank, if_pos control]

theorem clean_or_first (text : String) :
    (∀ c ∈ text.toList, Clean c) ∨ ∃ index c, FirstOffence text index c := by
  cases search : text.toList.find? fun c => decide (¬ Clean c) with
  | none =>
      left
      simpa using search
  | some c =>
      right
      obtain ⟨offends, before, after, parts, earlier⟩ := List.find?_eq_some_iff_append.mp search
      refine ⟨before.length, c, ?_, of_decide_eq_true offends, ?_⟩
      · simp [parts]
      · intro d member
        rw [parts, List.take_left] at member
        simpa using earlier d member

/-! The verdict. -/

variable {text : String}

theorem of_of_grammatical (grammatical : Grammatical text) : of text = .ok ⟨text⟩ := by
  have short : ¬ text.length < minLength := Nat.not_lt_of_le grammatical.least
  have long : ¬ text.length > maxLength := Nat.not_lt_of_le grammatical.most
  unfold of
  rw [offence?_of_clean 0 grammatical.clean]
  simp [short, long]

theorem of_of_first {index : Nat} {c : Char} (least : 3 ≤ text.length) (most : text.length ≤ 50)
    (first : FirstOffence text index c) :
    of text = .error (if isBlank c then .containsWhitespace else .invalidCharacter index) := by
  have short : ¬ text.length < minLength := Nat.not_lt_of_le least
  have long : ¬ text.length > maxLength := Nat.not_lt_of_le most
  unfold of
  rw [offence?_of_first first]
  simp [short, long]

theorem of_of_refuses {error : UserNameError} (refuses : Refuses text error) :
    of text = .error error := by
  cases refuses with
  | short short => exact if_pos short
  | long long =>
      have notShort : ¬ text.length < minLength := by
        rw [minLength]
        omega
      exact (if_neg notShort).trans (if_pos long)
  | blank least most first blank => rw [of_of_first least most first, if_pos blank]
  | control least most first notBlank => simp [of_of_first least most first, notBlank]

theorem grammatical_or_refuses (text : String) :
    Grammatical text ∨ ∃ error, Refuses text error := by
  by_cases least : 3 ≤ text.length
  · by_cases most : text.length ≤ 50
    · rcases clean_or_first text with clean | ⟨index, c, first⟩
      · exact .inl ⟨least, most, clean⟩
      · right
        by_cases blank : isBlank c = true
        · exact ⟨_, .blank least most first blank⟩
        · exact ⟨_, .control least most first (by simpa using blank)⟩
    · exact .inr ⟨_, .long (by omega)⟩
  · exact .inr ⟨_, .short (by omega)⟩

theorem of_eq_ok {name : UserName} : of text = .ok name ↔ name.text = text ∧ Grammatical text := by
  obtain ⟨stored⟩ := name
  rcases grammatical_or_refuses text with grammatical | ⟨error, refuses⟩
  · simp [of_of_grammatical grammatical, grammatical, eq_comm]
  · have refused := of_of_refuses refuses
    have formless : ¬ Grammatical text := by
      intro grammatical
      rw [of_of_grammatical grammatical] at refused
      contradiction
    simp [refused, formless]

theorem of_eq_error {error : UserNameError} : of text = .error error ↔ Refuses text error := by
  constructor
  · intro refused
    rcases grammatical_or_refuses text with grammatical | ⟨other, refuses⟩
    · rw [of_of_grammatical grammatical] at refused
      contradiction
    · rw [of_of_refuses refuses] at refused
      rwa [← Except.error.inj refused]
  · exact of_of_refuses

/-! Documents. -/

theorem ofJson_eq_ok {name : UserName} : ofJson (.text text) = .ok name ↔ of text = .ok name :=
  except_mapError_eq_ok

theorem ofJson_eq_error {message : String} :
    ofJson (.text text) = .error message ↔
      ∃ error, of text = .error error ∧ error.message = message :=
  except_mapError_eq_error

/-- The check of names is exact. A text from 3 to 50 characters without blanks and controls is
accepted as it is, of any other its first offence is told, and a text in a document goes through the
same check, of which the document's reader tells the message. The text of an accepted name is
accepted as that name again. -/
theorem names_are_checked_exactly (text : String) :
    (∀ name, of text = .ok name ↔ name.text = text ∧ Grammatical text) ∧
    (∀ error, of text = .error error ↔ Refuses text error) ∧
    (∀ name, ofJson (.text text) = .ok name ↔ name.text = text ∧ Grammatical text) ∧
    (∀ message, ofJson (.text text) = .error message ↔
      ∃ error, Refuses text error ∧ error.message = message) ∧
    ∀ name, of text = .ok name → of name.text = .ok name ∧ ofJson (.text name.text) = .ok name := by
  refine ⟨fun _ => of_eq_ok, fun _ => of_eq_error, ?_, ?_, ?_⟩
  · intro name
    rw [ofJson_eq_ok, of_eq_ok]
  · intro message
    simp only [ofJson_eq_error, of_eq_error]
  · intro name accepted
    have again : of name.text = .ok name := by
      rw [(of_eq_ok.mp accepted).1, accepted]
    exact ⟨again, ofJson_eq_ok.mpr again⟩

/-- A name of three characters in nine bytes, and texts with a control that is a blank before one
that is none, and the other way round. -/
theorem names_are_checked_exactly_controls :
    of "\u65E5\u672C\u8A9E" = .ok ⟨"\u65E5\u672C\u8A9E"⟩ ∧
    ofJson (.text "\u65E5\u672C\u8A9E") = .ok ⟨"\u65E5\u672C\u8A9E"⟩ ∧
    of "bo\u0085\u0000" = .error .containsWhitespace ∧
    of "bob\u0000 x" = .error (.invalidCharacter 3) ∧
    ofJson (.text "bob\u0000 x") =
      .error "username contains an invalid character at position 3" := by
  have grammatical : Grammatical "\u65E5\u672C\u8A9E" :=
    ⟨by decide, by decide, by simp; decide⟩
  have accepted := (names_are_checked_exactly _).1 ⟨_⟩ |>.mpr ⟨rfl, grammatical⟩
  have nextLine : FirstOffence "bo\u0085\u0000" 2 '\u0085' :=
    ⟨rfl, by decide, by simp; decide⟩
  have null : FirstOffence "bob\u0000 x" 3 '\u0000' :=
    ⟨rfl, by decide, by simp; decide⟩
  have refuses : Refuses "bob\u0000 x" (.invalidCharacter 3) :=
    .control (by decide) (by decide) null (by decide)
  obtain ⟨-, -, -, -, again⟩ := names_are_checked_exactly "\u65E5\u672C\u8A9E"
  obtain ⟨-, refused, -, messages, -⟩ := names_are_checked_exactly "bob\u0000 x"
  refine ⟨accepted, (again _ accepted).2, ?_, (refused _).mpr refuses, (messages _).mpr ?_⟩
  · exact ((names_are_checked_exactly _).2.1 _).mpr
      (.blank (by decide) (by decide) nextLine (by decide))
  · exact ⟨_, refuses, rfl⟩

end Accounts.UserName

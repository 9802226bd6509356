import Accounts.Text.LetterCase

/-! Lowercasing leaves a text that lowercasing leaves alone. -/

namespace Accounts.Text

def IsSteady (c : Char) : Prop := c.toNat ≠ 0x3A3 ∧ lowerChar c = [c]

theorem isSteady_ofNat {point : Nat} (valid : point.isValidChar) (notSigma : point ≠ 0x3A3)
    (notDotted : point ≠ 0x130) (noImage : imageInRuns point lowercaseRuns = none) :
    IsSteady (Char.ofNat point) := by
  have same : (Char.ofNat point).toNat = point := by
    rw [Char.ofNat, dif_pos valid]
    rfl
  constructor
  · rw [same]
    exact notSigma
  · rw [lowerChar, same, if_neg notDotted, noImage]

namespace CaseRun

def Covers (run : CaseRun) (point : Nat) : Prop :=
  run.first ≤ point ∧ point ≤ run.last ∧ (point - run.first) % run.step = 0

def lastImage (run : CaseRun) : Nat := run.image + (run.last - run.first)

def imagesApart (run other : CaseRun) : Bool :=
  Nat.blt run.lastImage other.first || Nat.blt other.last run.image ||
    ((run.step == 2 || run.first == run.last) && other.step == 2 &&
      run.image % 2 != other.first % 2)

def imagesPlain (run : CaseRun) : Bool :=
  (Nat.blt run.lastImage 0xD800 || Nat.blt 0xDFFF run.image && Nat.blt run.lastImage 0x110000) &&
    (Nat.blt run.lastImage 0x130 || Nat.blt 0x130 run.image) &&
    (Nat.blt run.lastImage 0x3A3 || Nat.blt 0x3A3 run.image)

theorem not_covers_image {run other : CaseRun} {point : Nat}
    (apart : run.imagesApart other = true) (covers : run.Covers point) :
    ¬ other.Covers (run.image + (point - run.first)) := by
  rintro ⟨notBefore, notBehind, onStep⟩
  obtain ⟨first_le, le_last, onOwnStep⟩ := covers
  simp only [imagesApart, lastImage, Bool.or_eq_true, Bool.and_eq_true, Nat.blt_eq, beq_iff_eq,
    bne_iff_ne] at apart
  rcases apart with (below | above) | ⟨⟨step | single, other_step⟩, parity⟩
  · omega
  · omega
  · rw [step] at onOwnStep
    rw [other_step] at onStep
    omega
  · rw [other_step] at onStep
    omega

end CaseRun

theorem imageInRuns_eq_some {point image : Nat} {runs : List CaseRun}
    (found : imageInRuns point runs = some image) :
    ∃ run ∈ runs, run.Covers point ∧ image = run.image + (point - run.first) := by
  induction runs with
  | nil => contradiction
  | cons run rest ih =>
      rw [imageInRuns] at found
      split at found
      · contradiction
      next notBefore =>
        split at found
        next notBehind =>
          split at found
          next onStep =>
            have covers : run.Covers point := ⟨by omega, notBehind, by simpa using onStep⟩
            exact ⟨run, List.mem_cons_self, covers, (Option.some.inj found).symm⟩
          · contradiction
        next behind =>
          obtain ⟨later, member, image⟩ := ih found
          exact ⟨later, List.mem_cons_of_mem run member, image⟩

theorem lowercaseRuns_imagesPlain : lowercaseRuns.all CaseRun.imagesPlain = true := by
  decide +kernel

theorem lowercaseRuns_imagesApart :
    (lowercaseRuns.all fun run => lowercaseRuns.all run.imagesApart) = true := by
  decide +kernel

theorem isSteady_image {point image : Nat} (found : imageInRuns point lowercaseRuns = some image) :
    IsSteady (Char.ofNat image) := by
  obtain ⟨run, member, covers, rfl⟩ := imageInRuns_eq_some found
  have plain := List.all_eq_true.mp lowercaseRuns_imagesPlain run member
  have apart := List.all_eq_true.mp lowercaseRuns_imagesApart run member
  simp only [CaseRun.imagesPlain, CaseRun.lastImage, Bool.and_eq_true, Bool.or_eq_true,
    Nat.blt_eq] at plain
  have bounds := covers.1
  have bounds' := covers.2.1
  refine isSteady_ofNat ?_ (by omega) (by omega) ?_
  · unfold Nat.isValidChar
    omega
  · -- another run that gave the image an image would cover it
    rw [Option.eq_none_iff_forall_ne_some]
    intro again foundAgain
    obtain ⟨other, other_member, other_covers, -⟩ := imageInRuns_eq_some foundAgain
    exact CaseRun.not_covers_image (List.all_eq_true.mp apart other other_member) covers
      other_covers

theorem isSteady_of_mem_lowerChar {c d : Char} (notSigma : c.toNat ≠ 0x3A3)
    (member : d ∈ lowerChar c) : IsSteady d := by
  by_cases dotted : c.toNat = 0x130
  · rw [lowerChar, if_pos dotted] at member
    rcases List.mem_cons.mp member with rfl | member
    · exact isSteady_ofNat (by decide) (by decide) (by decide) (by decide +kernel)
    · rw [List.mem_singleton.mp member]
      exact isSteady_ofNat (by decide) (by decide) (by decide) (by decide +kernel)
  · cases image : imageInRuns c.toNat lowercaseRuns with
    | none =>
        have alone : lowerChar c = [c] := by rw [lowerChar, if_neg dotted, image]
        rw [alone] at member
        rw [List.mem_singleton.mp member]
        exact ⟨notSigma, alone⟩
    | some point =>
        rw [lowerChar, if_neg dotted, image] at member
        rw [List.mem_singleton.mp member]
        exact isSteady_image image

theorem isSteady_of_mem_lowerBetween {after : Bool} {c d : Char} {rest : List Char}
    (member : d ∈ lowerBetween after c rest) : IsSteady d := by
  rw [lowerBetween] at member
  split at member
  next sigma =>
    rw [List.mem_singleton.mp member]
    split
    · exact isSteady_ofNat (by decide) (by decide) (by decide) (by decide +kernel)
    · exact isSteady_ofNat (by decide) (by decide) (by decide) (by decide +kernel)
  next notSigma => exact isSteady_of_mem_lowerChar notSigma member

theorem lowerFrom_cons (after : Bool) (c : Char) (rest : List Char) :
    lowerFrom [] after (c :: rest) =
      lowerBetween after c rest ++
        lowerFrom [] (if isCaseIgnorable c then after else isCased c) rest := by
  rw [lowerFrom, lowerFrom_eq_append]
  simp

theorem isSteady_of_mem_lowerFrom {after : Bool} {text : List Char} {d : Char}
    (member : d ∈ lowerFrom [] after text) : IsSteady d := by
  induction text generalizing after with
  | nil => contradiction
  | cons c rest ih =>
      rw [lowerFrom_cons, List.mem_append] at member
      rcases member with now | later
      · exact isSteady_of_mem_lowerBetween now
      · exact ih later

theorem lowerFrom_of_isSteady {after : Bool} {text : List Char}
    (steady : ∀ c ∈ text, IsSteady c) : lowerFrom [] after text = text := by
  induction text generalizing after with
  | nil => rfl
  | cons c rest ih =>
      obtain ⟨⟨notSigma, alone⟩, restSteady⟩ := List.forall_mem_cons.mp steady
      rw [lowerFrom_cons, ih restSteady, lowerBetween, if_neg notSigma, alone]
      rfl

theorem lowercase_lowercase (text : String) : lowercase (lowercase text) = lowercase text := by
  have steady : ∀ c ∈ lowerFrom [] false text.toList, IsSteady c :=
    fun c => isSteady_of_mem_lowerFrom
  rw [lowercase, lowercase, String.toList_ofList, lowerFrom_of_isSteady steady]

end Accounts.Text

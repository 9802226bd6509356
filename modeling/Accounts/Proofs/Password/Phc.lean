import Accounts.Password.Hasher
import Accounts.Proofs.Text.Base64
import Accounts.Proofs.Text.Numerals

/-! A password hash is read back from its text, and the password that it was made of belongs to
it. -/

namespace Accounts.Password

open Text

namespace Phc

/-! Fields and the marks between them. -/

theorem not_mem_of_name? {text : List Char} {name : String} (read : name? text = some name)
    {mark : Char} (strange : isNameChar mark = false) : mark ∉ text := by
  unfold name? at read
  split at read
  next good =>
    intro member
    have letter := List.all_eq_true.mp good.2.2 mark member
    rw [strange] at letter
    contradiction
  next => contradiction

theorem not_mem_of_value? {text : List Char} {value : String} (read : value? text = some value)
    {mark : Char} (strange : isValueChar mark = false) : mark ∉ text := by
  unfold value? at read
  split at read
  next good =>
    intro member
    have letter := List.all_eq_true.mp good.2 mark member
    rw [strange] at letter
    contradiction
  next => contradiction

theorem value?_of_salt? {text : List Char} {salt : String} (read : salt? text = some salt) :
    value? text = some salt := by
  unfold salt? at read
  split at read
  · exact read
  · contradiction

theorem not_mem_decimal {n : Nat} {mark : Char} (strange : mark.isDigit = false) :
    mark ∉ decimal n := by
  intro member
  rw [isDigit_of_mem_decimal member] at strange
  contradiction

/-! Numbers. -/

theorem toDigits_ne_zero_cons (n : Nat) (digit : Char) (rest : List Char) :
    decimal n ≠ '0' :: digit :: rest := by
  induction n using Nat.strongRecOn generalizing digit rest with
  | ind n ih =>
      intro same
      by_cases small : n < 10
      · rw [decimal, Nat.toDigits_of_lt_base small] at same
        exact absurd (List.cons.inj same).2 (List.cons_ne_nil digit rest).symm
      · have tenth : n / 10 < n := by omega
        rw [decimal, Nat.toDigits_of_base_le (by decide) (by omega)] at same
        obtain ⟨first, more, spelled⟩ :=
          List.exists_cons_of_ne_nil (Nat.toDigits_ne_nil : Nat.toDigits 10 (n / 10) ≠ [])
        rw [spelled, List.cons_append] at same
        obtain ⟨rfl, tail⟩ := List.cons.inj same
        cases more with
        | cons second more => exact ih (n / 10) tenth second more spelled
        | nil =>
            -- a tenth that is one zero is zero
            have zero : n / 10 = 0 := by
              have value := readDecimal_decimal (n / 10)
              rw [decimal, spelled] at value
              exact (Option.some.inj value).symm
            omega

theorem number?_decimal {n : Nat} (fits : n ≤ 0xFFFFFFFF) : number? (decimal n) = some n := by
  unfold number?
  split
  next digit rest same => exact absurd same (toDigits_ne_zero_cons n digit rest)
  next =>
    rw [readDecimal_decimal, Option.bind_some]
    exact if_pos fits

theorem length_decimal {n : Nat} (fits : n ≤ 0xFFFFFFFF) : (decimal n).length ≤ 10 := by
  apply (Nat.length_toDigits_le_iff (by decide) (by decide)).mpr
  omega

/-! Parameters. -/

def Legible (parameters : List (String × String)) : Prop :=
  ∀ parameter ∈ parameters, name? parameter.1.toList = some parameter.1 ∧
    value? parameter.2.toList = some parameter.2

variable {parameters : List (String × String)}

theorem toList_printParameter (parameter : String × String) :
    (printParameter parameter).toList = parameter.1.toList ++ '=' :: parameter.2.toList := by
  simp [printParameter]

theorem parameter?_print {parameter : String × String}
    (name : name? parameter.1.toList = some parameter.1)
    (value : value? parameter.2.toList = some parameter.2) :
    parameter? (printParameter parameter).toList = some parameter := by
  have left : '=' ∉ parameter.1.toList := not_mem_of_name? name (by decide)
  have right : '=' ∉ parameter.2.toList := not_mem_of_value? value (by decide)
  rw [parameter?, toList_printParameter, cut, List.splitOn_append_cons_self_of_not_mem left,
    List.splitOn_eq_singleton right]
  simp only [name, value]

theorem not_mem_printParameter {parameter : String × String}
    (name : name? parameter.1.toList = some parameter.1)
    (value : value? parameter.2.toList = some parameter.2) {mark : Char}
    (strangeName : isNameChar mark = false) (strangeValue : isValueChar mark = false)
    (other : mark ≠ '=') : mark ∉ (printParameter parameter).toList := by
  rw [toList_printParameter]
  intro member
  rcases List.mem_append.mp member with left | right
  · exact not_mem_of_name? name strangeName left
  · rcases List.mem_cons.mp right with same | right
    · exact other same
    · exact not_mem_of_value? value strangeValue right

def parametersField (parameters : List (String × String)) : List Char :=
  (",".intercalate (parameters.map printParameter)).toList

theorem parametersField_eq (parameters : List (String × String)) :
    parametersField parameters =
      [','].intercalate (parameters.map fun parameter => (printParameter parameter).toList) := by
  rw [parametersField, String.toList_intercalate, List.map_map]
  rfl

theorem mapM_parameter? (legible : Legible parameters) :
    (parameters.map fun parameter => (printParameter parameter).toList).mapM parameter? =
      some parameters := by
  induction parameters with
  | nil => rfl
  | cons parameter parameters ih =>
      obtain ⟨name, value⟩ := legible parameter List.mem_cons_self
      have rest := ih fun other member => legible other (List.mem_cons_of_mem _ member)
      rw [List.map_cons, List.mapM_cons, parameter?_print name value, rest]
      rfl

theorem parameters?_field (legible : Legible parameters) (some : parameters ≠ [])
    (short : (parametersField parameters).length ≤ 127) :
    parameters? (parametersField parameters) = .some parameters := by
  have commas : ∀ field ∈ parameters.map (fun parameter => (printParameter parameter).toList),
      ',' ∉ field := by
    intro field member
    obtain ⟨parameter, here, rfl⟩ := List.mem_map.mp member
    obtain ⟨name, value⟩ := legible parameter here
    exact not_mem_printParameter name value (by decide) (by decide) (by decide)
  have fields : parameters.map (fun parameter => (printParameter parameter).toList) ≠ [] := by
    simpa using some
  rw [parameters?, if_pos short, parametersField_eq, cut,
    List.splitOn_intercalate ',' commas fields]
  exact mapM_parameter? legible

theorem mem_parametersField {mark : Char} (other : mark ≠ ',')
    (member : mark ∈ parametersField parameters) :
    ∃ parameter ∈ parameters, mark ∈ (printParameter parameter).toList := by
  rw [parametersField_eq] at member
  induction parameters with
  | nil => contradiction
  | cons parameter parameters ih =>
      cases parameters with
      | nil =>
          rw [List.map_singleton, List.intercalate_singleton] at member
          exact ⟨parameter, List.mem_cons_self, member⟩
      | cons second parameters =>
          rw [List.map_cons, List.map_cons, List.intercalate_cons_cons] at member
          rcases List.mem_append.mp member with here | later
          · rcases List.mem_append.mp here with here | comma
            · exact ⟨parameter, List.mem_cons_self, here⟩
            · exact absurd (List.mem_singleton.mp comma) other
          · obtain ⟨found, among, within⟩ := ih later
            exact ⟨found, List.mem_cons_of_mem _ among, within⟩

theorem equals_mem_parametersField (some : parameters ≠ []) :
    '=' ∈ parametersField parameters := by
  obtain ⟨parameter, parameters, rfl⟩ := List.exists_cons_of_ne_nil some
  have here : '=' ∈ (printParameter parameter).toList := by
    rw [toList_printParameter]
    exact List.mem_append_right _ List.mem_cons_self
  rw [parametersField_eq]
  cases parameters with
  | nil =>
      rw [List.map_singleton, List.intercalate_singleton]
      exact here
  | cons second parameters =>
      rw [List.map_cons, List.map_cons, List.intercalate_cons_cons]
      exact List.mem_append_left _ (List.mem_append_left _ here)

/-! The whole text. -/

structure Complete (algorithm : String) (version : Nat) (parameters : List (String × String))
    (salt : String) (hash : List UInt8) : Prop where
  algorithm : name? algorithm.toList = some algorithm
  version : version ≤ 0xFFFFFFFF
  legible : Legible parameters
  some : parameters ≠ []
  short : (parametersField parameters).length ≤ 127
  salt : salt? salt.toList = .some salt
  hash : 10 ≤ hash.length ∧ hash.length ≤ 64

variable {algorithm salt : String} {version : Nat} {hash : List UInt8}

def fields (algorithm : String) (version : Nat) (parameters : List (String × String))
    (salt : String) (hash : List UInt8) : List (List Char) :=
  [[], algorithm.toList, 'v' :: '=' :: decimal version, parametersField parameters, salt.toList,
    encodeFrom .standard [] hash]

theorem toList_render (some : parameters ≠ []) :
    (render ⟨algorithm, .some version, parameters, .some salt, .some hash⟩).toList =
      ['$'].intercalate (fields algorithm version parameters salt hash) := by
  obtain ⟨parameter, parameters, rfl⟩ := List.exists_cons_of_ne_nil some
  simp [render, fields, parametersField, base64, List.intercalate_cons_cons]

theorem Complete.no_dollar (complete : Complete algorithm version parameters salt hash) :
    ∀ field ∈ fields algorithm version parameters salt hash, '$' ∉ field := by
  intro field member
  simp only [fields, List.mem_cons, List.not_mem_nil, or_false] at member
  rcases member with rfl | rfl | rfl | rfl | rfl | rfl
  · exact List.not_mem_nil
  · exact not_mem_of_name? complete.algorithm (by decide)
  · intro member
    have digit : '$' ∈ decimal version := by simpa using member
    exact not_mem_decimal (by decide) digit
  · intro member
    obtain ⟨parameter, among, within⟩ := mem_parametersField (by decide) member
    obtain ⟨name, value⟩ := complete.legible parameter among
    exact not_mem_printParameter name value (by decide) (by decide) (by decide) within
  · exact not_mem_of_value? (value?_of_salt? complete.salt) (by decide)
  · intro member
    obtain ⟨value, small, same⟩ := digit_of_mem_encodeFrom .standard hash member
    have strange : ∀ value < 64, Alphabet.standard.digit value ≠ '$' := by decide +kernel
    exact strange value small same.symm

theorem parse?_render (complete : Complete algorithm version parameters salt hash) :
    parse? (render ⟨algorithm, some version, parameters, some salt, some hash⟩) =
      some ⟨algorithm, some version, parameters, some salt, some hash⟩ := by
  have noComma : ',' ∉ decimal version := not_mem_decimal (by decide)
  have version_read : takeVersion (('v' :: '=' :: decimal version) :: [parametersField parameters,
      salt.toList, encodeFrom .standard [] hash]) =
        some (some version, [parametersField parameters, salt.toList,
          encodeFrom .standard [] hash]) := by
    simp [takeVersion, noComma, number?_decimal complete.version]
  have parameters_read : takeParameters [parametersField parameters, salt.toList,
      encodeFrom .standard [] hash] =
        some (parameters, [salt.toList, encodeFrom .standard [] hash]) := by
    have marked := equals_mem_parametersField complete.some
    have read := parameters?_field complete.legible complete.some complete.short
    simp [takeParameters, marked, read]
  have hash_read : hash? (encodeFrom .standard [] hash) = some hash := by
    rw [hash?, decodeFrom_encodeFrom, Option.bind_some]
    exact if_pos complete.hash
  rw [parse?, toList_render complete.some, cut,
    List.splitOn_intercalate '$' complete.no_dollar (List.cons_ne_nil _ _), fields]
  simp only [complete.algorithm, version_read, parameters_read, complete.salt, hash_read, bind,
    Option.bind]

end Phc

/-! The hash of a password. -/

structure Cost.Fits (cost : Cost) : Prop where
  memory : cost.memory ≤ 0xFFFFFFFF
  iterations : cost.iterations ≤ 0xFFFFFFFF

theorem parallelism_le {cost : Cost} (valid : cost.fault? = none) :
    cost.parallelism ≤ 0xFFFFFF := by
  unfold Cost.fault? at valid
  split at valid
  · contradiction
  split at valid
  · contradiction
  split at valid
  · contradiction
  split at valid
  · contradiction
  next few => exact Nat.le_of_not_gt few

theorem value?_decimal {n : Nat} (fits : n ≤ 0xFFFFFFFF) :
    Phc.value? (String.ofList (decimal n)).toList = some (String.ofList (decimal n)) := by
  have short := Phc.length_decimal fits
  have characters : (decimal n).all Phc.isValueChar = true := by
    apply List.all_eq_true.mpr
    intro c member
    have digit := isDigit_of_mem_decimal member
    simp only [Char.isDigit, Bool.and_eq_true, decide_eq_true_eq] at digit
    simp only [Phc.isValueChar, Bool.or_eq_true, Bool.and_eq_true, decide_eq_true_eq]
    exact .inl (.inl (.inl (.inl (.inr digit))))
  rw [String.toList_ofList, Phc.value?, if_pos ⟨by omega, characters⟩]

variable (hasher : Hasher)

theorem legible_parameters {cost : Cost} (fits : cost.Fits) (valid : cost.fault? = none) :
    Phc.Legible cost.parameters := by
  have lanes := parallelism_le valid
  have names : ∀ name ∈ ["m", "t", "p"], Phc.name? name.toList = some name := by decide
  intro parameter member
  simp only [Cost.parameters, List.mem_cons, List.not_mem_nil, or_false] at member
  rcases member with rfl | rfl | rfl
  · exact ⟨names "m" (by decide), value?_decimal fits.memory⟩
  · exact ⟨names "t" (by decide), value?_decimal fits.iterations⟩
  · exact ⟨names "p" (by decide), value?_decimal (by omega)⟩

theorem length_parametersField {cost : Cost} (fits : cost.Fits) (valid : cost.fault? = none) :
    (Phc.parametersField cost.parameters).length ≤ 127 := by
  have lanes := parallelism_le valid
  have memory := Phc.length_decimal fits.memory
  have iterations := Phc.length_decimal fits.iterations
  have parallelism : (decimal cost.parallelism).length ≤ 10 := Phc.length_decimal (by omega)
  rw [Phc.parametersField_eq, Cost.parameters]
  simp only [List.map_cons, List.map_nil, List.intercalate_cons_cons, List.intercalate_singleton,
    Phc.toList_printParameter, String.toList_ofList, List.length_append, List.length_cons,
    List.length_nil]
  have short : ∀ name ∈ ["m", "t", "p"], name.toList.length = 1 := by decide
  rw [short "m" (by decide), short "t" (by decide), short "p" (by decide)]
  omega

theorem salt?_base64 {salt : Salt} :
    Phc.salt? (base64 .standard salt.toList).toList = some (base64 .standard salt.toList) := by
  have digits : ∀ value < 64, Phc.isValueChar (Alphabet.standard.digit value) = true := by
    decide +kernel
  have characters : (encodeFrom .standard [] salt.toList).all Phc.isValueChar = true := by
    apply List.all_eq_true.mpr
    intro c member
    obtain ⟨value, small, rfl⟩ := digit_of_mem_encodeFrom .standard salt.toList member
    exact digits value small
  have length : (encodeFrom .standard [] salt.toList).length = 22 := by
    rw [length_encodeFrom, Vector.length_toList]
  rw [base64, String.toList_ofList, Phc.salt?, if_pos (by omega), Phc.value?,
    if_pos ⟨by omega, characters⟩]

theorem request?_parameters {cost : Cost} (fits : cost.Fits) (valid : cost.fault? = none) :
    request? cost.parameters = some { cost, data := [] } := by
  have lanes := parallelism_le valid
  have parallelism : Phc.number? (decimal cost.parallelism) = some cost.parallelism :=
    Phc.number?_decimal (by omega)
  simp [request?, Cost.parameters, Request.add, Phc.number?_decimal fits.memory,
    Phc.number?_decimal fits.iterations, parallelism, valid]

theorem complete_phc (fits : hasher.cost.Fits) (salt : Salt) {hash : List UInt8}
    (length : hash.length = hashLength) :
    Phc.Complete "argon2id" 19 hasher.cost.parameters (base64 .standard salt.toList) hash where
  algorithm := by decide
  version := by decide
  legible := legible_parameters fits hasher.valid
  some := List.cons_ne_nil _ _
  short := length_parametersField fits hasher.valid
  salt := salt?_base64
  hash := by
    rw [length, hashLength]
    decide

theorem parse?_hash (fits : hasher.cost.Fits) (salt : Salt) (password : ClearText) :
    Phc.parse? (hasher.hash salt password).phc = some (hasher.phc salt password) :=
  Phc.parse?_render <| complete_phc hasher fits salt <| Hash.Argon2.length_hash _ _ _ _

theorem verifies_hash (fits : hasher.cost.Fits) (salt : Salt) (password : ClearText) :
    (hasher.hash salt password).verifies password = true := by
  have settings : ∃ settings : Hash.Argon2.Settings, hasher.phc salt password =
      ⟨"argon2id", some 19, hasher.cost.parameters, some (base64 .standard salt.toList),
        some (Hash.Argon2.hash settings (utf8 password.text) salt.toList hashLength)⟩ ∧
      settings =
        { variant := .id, version := .v19, memory := hasher.cost.memory,
          passes := hasher.cost.iterations, lanes := hasher.cost.parallelism, data := [] } :=
    ⟨_, rfl, rfl⟩
  obtain ⟨settings, phc, same⟩ := settings
  have parsed := parse?_hash hasher fits salt password
  have length := Hash.Argon2.length_hash settings (utf8 password.text) salt.toList hashLength
  -- Nothing but its length matters of the hash, and it must not be computed here.
  generalize computed : Hash.Argon2.hash settings (utf8 password.text) salt.toList hashLength =
    hash at phc length
  have recipe : (hasher.phc salt password).recipe? = some (settings, salt.toList, hash) := by
    have enough : ¬ salt.toList.length < 8 := by simp
    have decoded : ofBase64? .standard (base64 .standard salt.toList) = some salt.toList :=
      ofBase64?_base64 .standard salt.toList
    rw [phc, same]
    simp only [Phc.recipe?, variant?, version?, request?_parameters fits hasher.valid, decoded,
      bind, Option.bind, enough]
    rfl
  rw [Hashed.verifies, parsed, Option.bind_some, recipe]
  dsimp only
  rw [length, computed]
  exact beq_self_eq_true hash

end Accounts.Password

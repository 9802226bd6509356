import Accounts.Proofs.Password.Phc
import Accounts.Service.Backend
import Mathlib.Data.List.Induction
import Mathlib.Tactic.SplitIfs

/-! Verification goes by the text of a password hash: by what its algorithm, its version and its
parameters say, and by its salt. So hashes outlive the cost that they were made at. -/

namespace Accounts.Password

open Text

/-! Numerals. A run of digits without a leading zero is the numeral of its value. -/

theorem digitChar_of_isDigit {c : Char} (digit : c.isDigit = true) :
    c.toNat - 48 < 10 ∧ Nat.digitChar (c.toNat - 48) = c := by
  have digits : ∀ n < 10, Nat.digitChar n = Char.ofNat (48 + n) := by decide
  simp only [Char.isDigit, Bool.and_eq_true, decide_eq_true_eq] at digit
  have least : 48 ≤ c.toNat := digit.1
  have most : c.toNat ≤ 57 := digit.2
  refine ⟨by omega, ?_⟩
  rw [digits _ (by omega), Nat.add_sub_cancel' least, Char.ofNat_toNat]

theorem decimal_ofDigitChars {text : List Char} (digits : ∀ c ∈ text, c.isDigit = true)
    (nonempty : text ≠ []) (canonical : ∀ c rest, text ≠ '0' :: c :: rest) :
    decimal (Nat.ofDigitChars 10 text 0) = text := by
  induction text using List.reverseRecOn with
  | nil => exact absurd rfl nonempty
  | append_singleton front last ih =>
      obtain ⟨small, same⟩ := digitChar_of_isDigit (digits last (by simp))
      have value : Nat.ofDigitChars 10 (front ++ [last]) 0 =
          10 * Nat.ofDigitChars 10 front 0 + (last.toNat - 48) := by
        rw [Nat.ofDigitChars_append, Nat.ofDigitChars_cons, Nat.ofDigitChars_nil]
        rfl
      rw [value, decimal]
      cases front with
      | nil => rw [Nat.ofDigitChars_nil, Nat.toDigits_of_lt_base (by omega)]; simp [same]
      | cons first rest =>
          have spelled : decimal (Nat.ofDigitChars 10 (first :: rest) 0) = first :: rest := by
            apply ih
            · exact fun c member => digits c (List.mem_append_left _ member)
            · exact List.cons_ne_nil first rest
            · intro c more lead
              exact canonical c (more ++ [last]) (by rw [lead]; rfl)
          -- In front of another digit there is no zero.
          have positive : 0 < Nat.ofDigitChars 10 (first :: rest) 0 := by
            apply Nat.pos_of_ne_zero
            intro zero
            rw [zero] at spelled
            exact canonical last [] (by rw [← spelled]; rfl)
          rw [← Nat.toDigits_append_toDigits (by decide) positive small,
            Nat.toDigits_of_lt_base small, same]
          exact congrArg (· ++ [last]) spelled

structure Numeral (text : String) (n : Nat) : Prop where
  spelled : text = String.ofList (decimal n)
  fits : n ≤ 0xFFFFFFFF

theorem number?_eq_some {text : String} {n : Nat} :
    Phc.number? text.toList = some n ↔ Numeral text n := by
  constructor
  · intro read
    unfold Phc.number? at read
    split at read
    next => contradiction
    next canonical =>
      obtain ⟨value, found, bounded⟩ := Option.bind_eq_some_iff.mp read
      unfold readDecimal at found
      split at found
      next run =>
        obtain rfl := Option.some.inj found
        split at bounded
        next fits =>
          obtain rfl := Option.some.inj bounded
          refine ⟨?_, fits⟩
          rw [decimal_ofDigitChars (List.all_eq_true.mp run.2) run.1 canonical,
            String.ofList_toList]
        next => contradiction
      next => contradiction
  · rintro ⟨rfl, fits⟩
    rw [String.toList_ofList]
    exact Phc.number?_decimal fits

theorem Numeral.unique {text : String} {m n : Nat} (first : Numeral text m)
    (second : Numeral text n) : m = n :=
  Option.some.inj ((number?_eq_some.mpr first).symm.trans (number?_eq_some.mpr second))

structure Spells (most : Nat) (text : String) (bytes : List UInt8) : Prop where
  spelled : text = base64 .standard bytes
  short : bytes.length ≤ most

theorem shortBytes?_eq_some {most : Nat} {text : String} {bytes : List UInt8} :
    shortBytes? most text = some bytes ↔ Spells most text bytes := by
  simp only [shortBytes?, Option.bind_eq_some_iff, ofBase64?_eq_some, Option.ite_none_right_eq_some,
    Option.some.injEq]
  constructor
  · rintro ⟨read, spelled, short, rfl⟩
    exact ⟨spelled, short⟩
  · intro spells
    exact ⟨bytes, spells.spelled, spells.short, rfl⟩

theorem Spells.unique {most : Nat} {text : String} {bytes others : List UInt8}
    (first : Spells most text bytes) (second : Spells most text others) : bytes = others :=
  Option.some.inj ((shortBytes?_eq_some.mpr first).symm.trans (shortBytes?_eq_some.mpr second))

/-! Parameters. The last one of a name counts. -/

inductive Known : String × String → Prop
  | memory {value : String} {n : Nat} : Numeral value n → Known ("m", value)
  | iterations {value : String} {n : Nat} : Numeral value n → Known ("t", value)
  | parallelism {value : String} {n : Nat} : Numeral value n → Known ("p", value)
  | key {value : String} {bytes : List UInt8} : Spells 8 value bytes → Known ("keyid", value)
  | data {value : String} {bytes : List UInt8} : Spells 32 value bytes → Known ("data", value)

section Says

variable {α : Type} (otherwise value : α) (means : String → α → Prop)
variable (parameters : List (String × String)) (name : String)

/-- Whether parameters say something of a name: the last value of the name means it, or without a
value it is what goes without saying. -/
def Says : Prop :=
  match parameters.reverse.lookup name with
  | none => value = otherwise
  | some text => means text value

variable {otherwise value means parameters name}

theorem Says.cons {parameter : String × String} {between : α}
    (first : Says otherwise between means [parameter] name)
    (rest : Says between value means parameters name) :
    Says otherwise value means (parameter :: parameters) name := by
  unfold Says at first rest ⊢
  rw [List.reverse_cons, List.lookup_append]
  rw [List.reverse_singleton] at first
  cases later : parameters.reverse.lookup name with
  | some text => rwa [later] at rest
  | none =>
      rw [later] at rest
      rw [Option.none_or, rest]
      exact first

theorem Says.unique {other : α}
    (functional : ∀ text value other, means text value → means text other → value = other)
    (first : Says otherwise value means parameters name)
    (second : Says otherwise other means parameters name) : value = other := by
  unfold Says at first second
  cases last : parameters.reverse.lookup name with
  | none =>
      rw [last] at first second
      exact first.trans second.symm
  | some text =>
      rw [last] at first second
      exact functional text value other first second

end Says

structure Asks (parameters : List (String × String)) (start request : Request) : Prop where
  known : ∀ parameter ∈ parameters, Known parameter
  memory : Says start.cost.memory request.cost.memory Numeral parameters "m"
  iterations : Says start.cost.iterations request.cost.iterations Numeral parameters "t"
  parallelism : Says start.cost.parallelism request.cost.parallelism Numeral parameters "p"
  data : Says start.data request.data (Spells 32) parameters "data"

variable {parameters : List (String × String)} {start request : Request}

theorem Asks.nil (request : Request) : Asks [] request request := by
  constructor
  · exact fun parameter member => absurd member List.not_mem_nil
  all_goals rfl

theorem Asks.cons {parameter : String × String} {between : Request}
    (first : Asks [parameter] start between) (rest : Asks parameters between request) :
    Asks (parameter :: parameters) start request where
  known := List.forall_mem_cons.mpr ⟨first.known parameter List.mem_cons_self, rest.known⟩
  memory := first.memory.cons rest.memory
  iterations := first.iterations.cons rest.iterations
  parallelism := first.parallelism.cons rest.parallelism
  data := first.data.cons rest.data

theorem Asks.unique {other : Request} (first : Asks parameters start request)
    (second : Asks parameters start other) : request = other := by
  have numeral : ∀ text m n, Numeral text m → Numeral text n → m = n := fun _ _ _ => Numeral.unique
  have spells : ∀ text bytes others, Spells 32 text bytes → Spells 32 text others →
      bytes = others := fun _ _ _ => Spells.unique
  have memory := first.memory.unique numeral second.memory
  have iterations := first.iterations.unique numeral second.iterations
  have parallelism := first.parallelism.unique numeral second.parallelism
  have data := first.data.unique spells second.data
  obtain ⟨⟨_, _, _⟩, _⟩ := request
  obtain ⟨⟨_, _, _⟩, _⟩ := other
  simp_all

theorem asks_of_add {parameter : String × String} (added : start.add parameter = some request) :
    Asks [parameter] start request := by
  obtain ⟨name, value⟩ := parameter
  have alone : Known (name, value) → ∀ parameter ∈ [(name, value)], Known parameter := by
    simp
  unfold Request.add at added
  dsimp only at added
  split_ifs at added with memory iterations parallelism key data
  · subst memory
    obtain ⟨n, read, rfl⟩ := Option.map_eq_some_iff.mp added
    have numeral := number?_eq_some.mp read
    exact ⟨alone (.memory numeral), numeral, rfl, rfl, rfl⟩
  · subst iterations
    obtain ⟨n, read, rfl⟩ := Option.map_eq_some_iff.mp added
    have numeral := number?_eq_some.mp read
    exact ⟨alone (.iterations numeral), rfl, numeral, rfl, rfl⟩
  · subst parallelism
    obtain ⟨n, read, rfl⟩ := Option.map_eq_some_iff.mp added
    have numeral := number?_eq_some.mp read
    exact ⟨alone (.parallelism numeral), rfl, rfl, numeral, rfl⟩
  · subst key
    obtain ⟨bytes, read, rfl⟩ := Option.map_eq_some_iff.mp added
    exact ⟨alone (.key (shortBytes?_eq_some.mp read)), rfl, rfl, rfl, rfl⟩
  · subst data
    obtain ⟨bytes, read, rfl⟩ := Option.map_eq_some_iff.mp added
    have spells := shortBytes?_eq_some.mp read
    exact ⟨alone (.data spells), rfl, rfl, rfl, spells⟩

theorem add_of_known {parameter : String × String} (known : Known parameter) (start : Request) :
    ∃ request, start.add parameter = some request := by
  cases known with
  | memory numeral => simp [Request.add, number?_eq_some.mpr numeral]
  | iterations numeral => simp [Request.add, number?_eq_some.mpr numeral]
  | parallelism numeral => simp [Request.add, number?_eq_some.mpr numeral]
  | key spells => simp [Request.add, shortBytes?_eq_some.mpr spells]
  | data spells => simp [Request.add, shortBytes?_eq_some.mpr spells]

theorem asks_of_foldlM (folded : parameters.foldlM Request.add start = some request) :
    Asks parameters start request := by
  induction parameters generalizing start with
  | nil =>
      obtain rfl := Option.some.inj folded
      exact Asks.nil start
  | cons parameter parameters ih =>
      obtain ⟨between, added, folded⟩ := Option.bind_eq_some_iff.mp folded
      exact (asks_of_add added).cons (ih folded)

theorem foldlM_of_known (known : ∀ parameter ∈ parameters, Known parameter) (start : Request) :
    ∃ request, parameters.foldlM Request.add start = some request := by
  induction parameters generalizing start with
  | nil => exact ⟨start, rfl⟩
  | cons parameter parameters ih =>
      obtain ⟨first, rest⟩ := List.forall_mem_cons.mp known
      obtain ⟨between, added⟩ := add_of_known first start
      obtain ⟨request, folded⟩ := ih rest between
      exact ⟨request, Option.bind_eq_some_iff.mpr ⟨between, added, folded⟩⟩

theorem foldlM_add_eq_some :
    parameters.foldlM Request.add start = some request ↔ Asks parameters start request := by
  constructor
  · exact asks_of_foldlM
  · intro asks
    obtain ⟨other, folded⟩ := foldlM_of_known asks.known start
    rwa [asks.unique (asks_of_foldlM folded)]

/-! Costs. -/

structure Cost.Valid (cost : Cost) : Prop where
  least : 8 ≤ cost.memory
  memory : 8 * cost.parallelism ≤ cost.memory
  iterations : 1 ≤ cost.iterations
  some : 1 ≤ cost.parallelism
  few : cost.parallelism ≤ 0xFFFFFF

theorem fault?_eq_none_iff {cost : Cost} : cost.fault? = none ↔ cost.Valid := by
  constructor
  · intro faultless
    have few := parallelism_le faultless
    have whole : leastMemory cost.parallelism = 8 * cost.parallelism :=
      Nat.mod_eq_of_lt (by omega)
    unfold Cost.fault? at faultless
    rw [whole] at faultless
    split_ifs at faultless with memory iterations lanes
    exact ⟨by omega, by omega, by omega, by omega, few⟩
  · intro valid
    have few := valid.few
    have whole : leastMemory cost.parallelism = 8 * cost.parallelism :=
      Nat.mod_eq_of_lt (by omega)
    have memory : ¬ (cost.memory < 8 ∨ cost.memory < 8 * cost.parallelism) := by
      have least := valid.least
      have memory := valid.memory
      omega
    rw [Cost.fault?, whole, if_neg memory, if_neg (Nat.not_lt_of_le valid.iterations),
      if_neg (Nat.not_lt_of_le valid.some), if_neg (Nat.not_lt_of_le few)]

theorem request?_eq_some : request? parameters = some request ↔
    Asks parameters ⟨.standard, []⟩ request ∧ request.cost.Valid := by
  rw [← foldlM_add_eq_some, ← fault?_eq_none_iff, request?]
  constructor
  · intro asked
    obtain ⟨other, folded, valid⟩ := Option.bind_eq_some_iff.mp asked
    split at valid
    next faultless =>
      obtain rfl := Option.some.inj valid
      exact ⟨folded, faultless⟩
    next => contradiction
  · rintro ⟨folded, valid⟩
    rw [folded]
    exact if_pos valid

/-! Recipes. -/

def variantName : Hash.Argon2.Variant → String
  | .d => "argon2d"
  | .i => "argon2i"
  | .id => "argon2id"

theorem variant?_eq_some {name : String} {variant : Hash.Argon2.Variant} :
    variant? name = some variant ↔ name = variantName variant := by
  constructor
  · intro found
    unfold variant? at found
    split_ifs at found with d i id
    · rw [d, ← Option.some.inj found, variantName]
    · rw [i, ← Option.some.inj found, variantName]
    · rw [id, ← Option.some.inj found, variantName]
  · rintro rfl
    cases variant <;> decide

theorem version?_eq_some {number : Option Nat} {version : Hash.Argon2.Version} :
    version? number = some version ↔
      number = some version.code ∨ number = none ∧ version = .v19 := by
  constructor
  · intro found
    unfold version? at found
    split at found
    next => exact .inr ⟨rfl, (Option.some.inj found).symm⟩
    next => exact .inl (by rw [← Option.some.inj found]; rfl)
    next => exact .inl (by rw [← Option.some.inj found]; rfl)
    next => contradiction
  · rintro (rfl | ⟨rfl, rfl⟩)
    · cases version <;> rfl
    · rfl

structure Prescribes (phc : Phc) (settings : Hash.Argon2.Settings) (salt hash : List UInt8) :
    Prop where
  variant : phc.algorithm = variantName settings.variant
  version : phc.version = some settings.version.code ∨
    phc.version = none ∧ settings.version = .v19
  parameters : Asks phc.parameters ⟨.standard, []⟩
    ⟨⟨settings.memory, settings.passes, settings.lanes⟩, settings.data⟩
  valid : Cost.Valid ⟨settings.memory, settings.passes, settings.lanes⟩
  long : 8 ≤ salt.length
  salt : phc.salt = some (base64 .standard salt)
  hash : phc.hash = some hash

theorem recipe?_eq_some {phc : Phc} {settings : Hash.Argon2.Settings} {salt hash : List UInt8} :
    phc.recipe? = some (settings, salt, hash) ↔ Prescribes phc settings salt hash := by
  constructor
  · intro found
    unfold Phc.recipe? at found
    obtain ⟨variant, variantFound, found⟩ := Option.bind_eq_some_iff.mp found
    obtain ⟨version, versionFound, found⟩ := Option.bind_eq_some_iff.mp found
    obtain ⟨request, requestFound, found⟩ := Option.bind_eq_some_iff.mp found
    obtain ⟨text, textFound, found⟩ := Option.bind_eq_some_iff.mp found
    obtain ⟨bytes, bytesFound, found⟩ := Option.bind_eq_some_iff.mp found
    obtain ⟨output, outputFound, found⟩ := Option.bind_eq_some_iff.mp found
    split at found
    next => contradiction
    next long =>
      obtain ⟨rfl, rfl, rfl⟩ : _ ∧ _ ∧ _ := by simpa using found
      obtain ⟨asks, valid⟩ := request?_eq_some.mp requestFound
      obtain rfl := (ofBase64?_eq_some .standard).mp bytesFound
      exact ⟨variant?_eq_some.mp variantFound, version?_eq_some.mp versionFound, asks, valid,
        Nat.le_of_not_lt long, textFound, outputFound⟩
  · intro prescribes
    have variant := variant?_eq_some.mpr prescribes.variant
    have version := version?_eq_some.mpr prescribes.version
    have request := request?_eq_some.mpr ⟨prescribes.parameters, prescribes.valid⟩
    have long := Nat.not_lt_of_le prescribes.long
    simp only [Phc.recipe?, variant, version, request, prescribes.salt, prescribes.hash,
      ofBase64?_base64, bind, Option.bind, long, if_false]
    rfl

theorem verifies_iff (hashed : Hashed) (password : ClearText) :
    hashed.verifies password = true ↔ ∃ phc settings salt hash,
      Phc.parse? hashed.phc = some phc ∧ Prescribes phc settings salt hash ∧
      Hash.Argon2.hash settings (utf8 password.text) salt hash.length = hash := by
  simp only [← recipe?_eq_some]
  unfold Hashed.verifies
  constructor
  · intro verified
    split at verified
    next => contradiction
    next settings salt hash recipe =>
      obtain ⟨phc, parsed, recipe⟩ := Option.bind_eq_some_iff.mp recipe
      exact ⟨phc, settings, salt, hash, parsed, recipe, eq_of_beq verified⟩
  · rintro ⟨phc, settings, salt, hash, parsed, recipe, computed⟩
    rw [parsed, Option.bind_some, recipe]
    exact beq_iff_eq.mpr computed

/-! What a service replies, whatever the cost that it hashes at. -/

theorem cost_of_of {cost : Cost} {hasher : Hasher} (made : Hasher.of cost = .ok hasher) :
    hasher.cost = cost := by
  unfold Hasher.of at made
  split at made
  next => rw [← Except.ok.inj made]
  next => contradiction

open Service Store

def verdict (hasher : Hasher) (memory : Memory) (hashed : Hashed) (password : ClearText) : Bool :=
  ((Backend.ofMemory hasher).answer (.verify (some hashed) password) memory).1

theorem verdict_eq (hasher : Hasher) (memory : Memory) (hashed : Hashed) (password : ClearText) :
    verdict hasher memory hashed password = hashed.verifies password := rfl

/-- The hash of a password is read back from its text, which names the algorithm, the version and
the cost, and a service of any cost finds the password right. More generally, the cost of a service
never matters: a password is right just if the hash is what its text prescribes. -/
theorem verification_goes_by_the_text :
    (∀ (cost : Cost) (hasher : Hasher) (salt : Salt) (password : ClearText),
      cost.Fits → Hasher.of cost = .ok hasher →
      let hashed := hasher.hash salt password
      Hashed.of hashed.phc = .ok hashed ∧
      (∃ phc, Phc.parse? hashed.phc = some phc ∧ phc.algorithm = "argon2id" ∧
        phc.version = some 19 ∧ phc.parameters =
          [("m", String.ofList (decimal cost.memory)),
           ("t", String.ofList (decimal cost.iterations)),
           ("p", String.ofList (decimal cost.parallelism))]) ∧
      ∀ other memory, verdict other memory hashed password = true) ∧
    (∀ hashed password one other memory rest,
      verdict one memory hashed password = verdict other rest hashed password) ∧
    (∀ hashed password hasher memory, verdict hasher memory hashed password = true ↔
      ∃ phc settings salt hash,
        Phc.parse? hashed.phc = some phc ∧ Prescribes phc settings salt hash ∧
        Hash.Argon2.hash settings (utf8 password.text) salt hash.length = hash) := by
  refine ⟨?_, ?_, ?_⟩
  · intro cost hasher salt password fits made hashed
    obtain rfl := cost_of_of made
    have parsed : Phc.parse? hashed.phc = some (hasher.phc salt password) :=
      parse?_hash hasher fits salt password
    refine ⟨?_, ⟨_, parsed, rfl, rfl, rfl⟩, ?_⟩
    · rw [Hashed.of, parsed]
    · intro other memory
      rw [verdict_eq]
      exact verifies_hash hasher fits salt password
  · intro hashed password one other memory rest
    rw [verdict_eq, verdict_eq]
  · intro hashed password hasher memory
    rw [verdict_eq]
    exact verifies_iff hashed password

/-- What has been hashed at a light cost is right for services of every other cost, whatever the salt
was. -/
theorem verification_goes_by_the_text_light :
    ∃ hasher password, Hasher.of ⟨1024, 1, 1⟩ = .ok hasher ∧
      ClearText.of "secret1" = .ok password ∧
      ∀ salt other memory, verdict other memory (hasher.hash salt password) password = true := by
  obtain ⟨roundTrip, -⟩ := verification_goes_by_the_text
  refine ⟨⟨⟨1024, 1, 1⟩, by decide⟩, ⟨"secret1", by decide, by decide⟩, rfl, rfl, ?_⟩
  intro salt
  exact (roundTrip ⟨1024, 1, 1⟩ _ salt _ ⟨by decide, by decide⟩ rfl).2.2

end Accounts.Password

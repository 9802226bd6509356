import Accounts.Proofs.Json.Sync
import Accounts.Token.Claims

/-! Whether a payload names an audience. -/

namespace Accounts.Token

open Json Text

variable {α : Type} {left text rest behind : List UInt8} {depth : Nat}

def IsAudience (tree : Tree) : Prop :=
  (∃ value, IsText tree value) ∨ ∃ values, IsListOf IsText tree values

/-! The readers of members that tokens of all kinds share. -/

theorem settled_near {value : Option α} (settled : Settled left depth value rest) :
    Near left depth rest := by
  cases value with
  | some value => exact Outside.near settled
  | none => exact settled

theorem synced_strays {value : Option α} (synced : Synced left depth behind value rest) :
    Strays left depth behind rest := by
  cases value with
  | some value => exact .inl synced
  | none => exact synced

theorem roams_of_wanders {β : Type} {attempt : Attempt α} (wanders : Wanders attempt)
    {reader : Reader β} (ends : ∀ text value rest, reader text = .ok (value, rest) →
      rest = (attempt text).2) : Roams reader where
  near := by
    intro left depth text value rest outside read
    obtain rfl := ends text value rest read
    exact settled_near (wanders.settled _ _ _ _ _ outside rfl)
  strays := by
    intro left depth text tree behind value rest outside spells read
    obtain rfl := ends text value rest read
    exact synced_strays (wanders.synced _ _ _ _ _ _ _ outside spells rfl)

theorem passText_roams : Roams passText :=
  roams_of_wanders (attemptValue_wanders 0) fun _ _ _ read =>
    (Prod.mk.inj (Except.ok.inj read)).2.symm

theorem passTexts_roams : Roams passTexts :=
  roams_of_wanders (attemptValue_wanders payloadDepth) fun _ _ _ read =>
    (Prod.mk.inj (Except.ok.inj read)).2.symm

theorem audience_eq (text : List UInt8) : audience text =
    .ok ((attemptValue payloadDepth text).1.any namesAudience,
      (attemptValue payloadDepth text).2) := rfl

theorem audience_roams : Roams audience :=
  roams_of_wanders (attemptValue_wanders payloadDepth) fun _ _ _ read =>
    (Prod.mk.inj (Except.ok.inj read)).2.symm

theorem passNumber_of_scalar (scalar : ∀ rest, afterSpace text ≠ 0x5B :: rest ∧
    afterSpace text ≠ 0x7B :: rest) : passNumber text = .ok ((), (attemptValue 0 text).2) := by
  have spaced : attemptValue 0 (afterSpace text) = attemptValue 0 text := by
    rw [attemptValue, attemptWith, attemptWith, afterSpace_afterSpace]
  unfold passNumber
  split
  next rest here => exact absurd here (scalar rest).1
  next rest here => exact absurd here (scalar rest).2
  next => rw [spaced]

theorem passNumber_near {value : Unit} (outside : Outside left depth text)
    (read : passNumber text = .ok (value, rest)) : Near left depth rest := by
  by_cases list : ∃ inner, afterSpace text = 0x5B :: inner
  · obtain ⟨inner, here⟩ := list
    rw [passNumber, here] at read
    obtain ⟨-, rfl⟩ := Prod.mk.inj (Except.ok.inj read)
    have inside := (outside_opening (.inl rfl) here).mp outside
    exact afterFaultyItem_near inside.near
  by_cases record : ∃ inner, afterSpace text = 0x7B :: inner
  · obtain ⟨inner, here⟩ := record
    rw [passNumber, here] at read
    obtain ⟨-, rfl⟩ := Prod.mk.inj (Except.ok.inj read)
    have inside := (outside_opening (.inr rfl) here).mp outside
    exact afterFaultyMember_near inside.near
  · rw [passNumber_of_scalar fun rest => ⟨fun here => list ⟨rest, here⟩,
      fun here => record ⟨rest, here⟩⟩] at read
    obtain ⟨-, rfl⟩ := Prod.mk.inj (Except.ok.inj read)
    exact settled_near ((attemptValue_wanders 0).settled _ _ _ _ _ outside rfl)

theorem passNumber_strays {tree : Tree} {value : Unit} (outside : Outside left depth text)
    (spells : Spells (.value tree) text behind) (read : passNumber text = .ok (value, rest)) :
    Strays left depth behind rest := by
  by_cases list : ∃ items, tree = .list items
  · obtain ⟨items, rfl⟩ := list
    cases spells with
    | list here items_spelled =>
        have inside := (outside_opening (.inl rfl) here).mp outside
        rw [passNumber, here] at read
        obtain ⟨-, rfl⟩ := Prod.mk.inj (Except.ok.inj read)
        cases items_spelled with
        | noItem closing => exact .inl (afterFaultyItem_closing closing)
        | @item _ _ _ _ next _ _ introduced spelled _ =>
            obtain rfl : _ = next := introduced
            have stays := afterFaultyItem_outside inside fun byte member =>
              (stuck_of_spells spelled byte (by rwa [afterSpace_afterSpace])).2.1
            exact .inr (.inl stays.near)
  by_cases record : ∃ members, tree = .record members
  · obtain ⟨members, rfl⟩ := record
    cases spells with
    | record here members_spelled =>
        have inside := (outside_opening (.inr rfl) here).mp outside
        rw [passNumber, here] at read
        obtain ⟨-, rfl⟩ := Prod.mk.inj (Except.ok.inj read)
        cases members_spelled with
        | noMember closing => exact .inl (afterFaultyMember_closing closing)
        | @member _ _ _ _ _ next _ _ _ _ introduced _ quote _ _ _ =>
            obtain rfl : _ = next := introduced
            have stays := afterFaultyMember_outside inside (by rw [quote]; rintro byte ⟨⟩; decide)
            exact .inr (.inl stays.near)
  · have scalar : ∀ inner, afterSpace text ≠ 0x5B :: inner ∧ afterSpace text ≠ 0x7B :: inner :=
      fun inner => ⟨fun here => list (Tree.exists_list_of_startsWith (spells.startsWith here)),
        fun here => record (Tree.exists_record_of_startsWith (spells.startsWith here))⟩
    rw [passNumber_of_scalar scalar] at read
    obtain ⟨-, rfl⟩ := Prod.mk.inj (Except.ok.inj read)
    exact synced_strays ((attemptValue_wanders 0).synced _ _ _ _ _ _ _ outside spells rfl)

theorem passNumber_roams : Roams passNumber where
  near := fun _ _ _ _ _ => passNumber_near
  strays := fun _ _ _ _ _ _ _ => passNumber_strays

theorem sharedMembers_roam : sharedMembers.All fun _ _ reader => Roams reader :=
  ⟨passNumber_roams, passNumber_roams, passText_roams, passTexts_roams, audience_roams, trivial⟩

/-- No key of these can be made of what stands outside of strings. -/
theorem sharedMembers_alien : sharedMembers.All fun _ key _ => IsAlienKey key :=
  ⟨by decide +kernel, by decide +kernel, by decide +kernel, by decide +kernel, by decide +kernel,
    trivial⟩

/-! Audiences are noticed. -/

theorem attemptStringFrom_eq_some {done bytes : List UInt8} {mode : StringMode} :
    attemptStringFrom done mode text = (some bytes, rest) ↔
      stringFrom done mode text = .ok (bytes, rest) := by
  induction text generalizing done mode with
  | nil => simp [attemptStringFrom, stringFrom]
  | cons byte text ih =>
      by_cases closing : mode = .plain ∧ byte = 0x22
      · obtain ⟨rfl, rfl⟩ := closing
        simp [attemptStringFrom, stringFrom]
      · have inside : mode = .plain → byte ≠ 0x22 := fun plain quote => closing ⟨plain, quote⟩
        cases stepped : mode.step byte with
        | error fault =>
            rw [attemptStringFrom_fault inside stepped, stringFrom_fault inside stepped]
            simp
        | ok taken =>
            rw [attemptStringFrom_step inside stepped, stringFrom_step inside stepped]
            exact ih

theorem attemptString_of_said {body : List UInt8} {value : String} (said : Says body value)
    (rest : List UInt8) : attemptString (body ++ 0x22 :: rest) = (some value, rest) := by
  have read := attemptStringFrom_eq_some.mpr (stringFrom_of_denotes said [] rest)
  simp only [attemptString, read, List.reverse_nil, List.nil_append, Option.bind_some,
    ofUtf8?_utf8]

theorem attemptValue_of_text {tree : Tree} {value : String} (depth : Nat)
    (spells : Spells (.value tree) text behind) (isText : IsText tree value) :
    attemptValue depth text = (some (.text value), behind) := by
  cases spells with
  | text quoted here =>
      have scalar := attemptScalar?_text (attemptString_of_said isText behind)
      cases depth with
      | zero => exact attemptWith_of_scalar here scalar
      | succ depth => exact attemptWith_of_scalar here scalar
  | _ => contradiction

theorem attemptItems_of_texts {items : List Tree} {values : List String} {first : Bool}
    {done : List Value} {fuel : Nat} (depth : Nat)
    (spells : Spells (.items first items) text behind) (areTexts : List.Forall₂ IsText items values)
    (enough : text.length < fuel) : attemptItems (attemptValue depth) first done fuel text =
      (some (.list (done.reverse ++ values.map .text)), behind) := by
  induction areTexts generalizing first done fuel text with
  | nil =>
      obtain ⟨fuel, rfl⟩ := Nat.exists_eq_add_of_lt enough
      cases spells with
      | noItem here =>
          have more : moreItems first text = .ok (false, afterSpace text) :=
            moreItems_false.mpr ⟨rfl, behind, here⟩
          simp only [attemptItems, more,
            afterFaultyItem_closing ((afterSpace_afterSpace text).trans here)]
          rw [List.map_nil, List.append_nil]
  | @cons tree value items values isText _ ih =>
      obtain ⟨fuel, rfl⟩ := Nat.exists_eq_add_of_lt enough
      obtain ⟨next, middle, introduced, spelled, items_spelled⟩ := spells_items_cons spells
      have more := moreItems_of_introduces introduced spelled
      have read := attemptValue_of_text depth
        (spells_value_congr (afterSpace_afterSpace next).symm spelled) isText
      have shorter := Nat.lt_of_lt_of_le spelled.length introduced.length
      simp only [attemptItems, more, read]
      rw [ih items_spelled (by omega), List.reverse_cons, List.append_assoc]
      rfl

theorem namesAudience_of_isAudience {tree : Tree} (spells : Spells (.value tree) text behind)
    (isAudience : IsAudience tree) :
    (attemptValue payloadDepth text).1.any namesAudience = true := by
  rcases isAudience with ⟨value, isText⟩ | ⟨values, areTexts⟩
  · rw [attemptValue_of_text payloadDepth spells isText]
    rfl
  · cases spells with
    | @list items _ inner _ here items_spelled =>
        have attempt : attemptValue payloadDepth text =
            (some (.list (values.map .text)), behind) := by
          rw [payloadDepth, attemptValue, attemptWith, here]
          exact attemptItems_of_texts 125 items_spelled areTexts (Nat.lt_succ_self _)
        rw [attempt]
        simp [namesAudience]
    | _ => contradiction

/-! Nothing else is taken for an audience. -/

theorem says_of_attempt {body : List UInt8} {value : String} (quoted : Quoted body)
    (attempt : (attemptString (body ++ 0x22 :: behind)).1 = some value) : Says body value := by
  obtain ⟨bytes, taken, decoded⟩ := Option.bind_eq_some_iff.mp attempt
  obtain ⟨rest, read⟩ : ∃ rest, stringFrom [] .plain (body ++ 0x22 :: behind) = .ok (bytes, rest) :=
    ⟨_, attemptStringFrom_eq_some.mp (Prod.ext taken rfl)⟩
  have tail : stringTail (body ++ 0x22 :: behind) = .ok (value, rest) := by
    simp only [stringTail, read, decoded]
  obtain ⟨other, said, same⟩ := stringTail_eq_ok.mp tail
  -- Both bodies end at the same quote.
  have passed := passString_eq_ok.mpr ⟨other, .of_denotes said, same⟩
  obtain rfl := Except.ok.inj ((passString_of_quoted quoted behind).symm.trans passed)
  rwa [List.append_cancel_right same]

theorem attemptItems_eq_some {item : Attempt Value} {first : Bool} {done : List Value} {fuel : Nat}
    {kept : Value} (attempt : (attemptItems item first done fuel text).1 = some kept) :
    ∃ more, kept = .list (done.reverse ++ more) := by
  induction fuel generalizing first done text with
  | zero => contradiction
  | succ fuel ih =>
      simp only [attemptItems] at attempt
      split at attempt
      · contradiction
      · exact ⟨[], by rw [List.append_nil]; exact (Option.some.inj attempt).symm⟩
      · split at attempt
        next value behind read =>
          obtain ⟨more, rfl⟩ := ih attempt
          exact ⟨value :: more, by rw [List.reverse_cons, List.append_assoc]; rfl⟩
        next => contradiction

theorem attemptMembers_eq_some {inner : Attempt Value} {first : Bool}
    {done : List (String × Value)} {fuel : Nat} {kept : Value}
    (attempt : (attemptMembers inner first done fuel text).1 = some kept) :
    ∃ entries, kept = .record entries := by
  induction fuel generalizing first done text with
  | zero => contradiction
  | succ fuel ih =>
      simp only [attemptMembers] at attempt
      split at attempt
      · contradiction
      · exact ⟨_, (Option.some.inj attempt).symm⟩
      · split at attempt
        · contradiction
        · split at attempt
          · contradiction
          · split at attempt
            · exact ih attempt
            · contradiction

def HasMet (inner : Option (Attempt Value)) (tree : Tree) (behind : List UInt8) : Value → Prop
  | .text value => IsText tree value
  | .list values => ∃ items nested opened, tree = .list items ∧ inner = some nested ∧
    Spells (.items true items) opened behind ∧
    (attemptItems nested true [] (opened.length + 1) opened).1 = some (.list values)
  | _ => True

theorem hasMet_of_attemptWith {inner : Option (Attempt Value)} {tree : Tree} {kept : Value}
    (spells : Spells (.value tree) text behind) (attempt : (attemptWith inner text).1 = some kept) :
    HasMet inner tree behind kept := by
  cases spells with
  | null here =>
      rw [attemptWith_of_scalar here (attemptScalar?_null behind)] at attempt
      obtain rfl := Option.some.inj attempt
      trivial
  | @boolean given _ _ here =>
      obtain ⟨byte, more, same, scalar⟩ := attemptScalar?_boolean given behind
      rw [attemptWith_of_scalar (here.trans same) scalar] at attempt
      obtain rfl := Option.some.inj attempt
      trivial
  | @number n _ _ spelled =>
      obtain ⟨first, more, here, starts⟩ := spelled.starts
      rw [attemptWith_of_scalar here (attemptScalar?_numeral starts more), ← here, attemptNumber,
        numeral_eq_ok.mpr spelled] at attempt
      dsimp only at attempt
      split at attempt
      next value finite =>
        obtain rfl := Option.some.inj attempt
        rcases Numeral.value?_eq_some finite with ⟨_, -, rfl⟩ | ⟨_, rfl⟩
        · trivial
        · trivial
      next => contradiction
  | @text body _ _ quoted here =>
      rw [attemptWith_of_scalar here (attemptScalar?_text rfl)] at attempt
      obtain ⟨value, said, rfl⟩ := Option.map_eq_some_iff.mp attempt
      exact says_of_attempt quoted said
  | @list items _ opened _ here items_spelled =>
      rw [attemptWith, here] at attempt
      cases inner with
      | none => contradiction
      | some nested =>
          obtain ⟨values, rfl⟩ := attemptItems_eq_some attempt
          exact ⟨items, nested, opened, rfl, rfl, items_spelled, attempt⟩
  | record here members =>
      rw [attemptWith, here] at attempt
      cases inner with
      | none => contradiction
      | some nested =>
          obtain ⟨entries, rfl⟩ := attemptMembers_eq_some attempt
          trivial

theorem exists_attemptWith (depth : Nat) : ∃ inner, attemptValue depth = attemptWith inner := by
  cases depth with
  | zero => exact ⟨none, rfl⟩
  | succ depth => exact ⟨some (attemptValue depth), rfl⟩

theorem isText_of_attempt {tree : Tree} {value : String} (spells : Spells (.value tree) text behind)
    (attempt : (attemptValue depth text).1 = some (.text value)) : IsText tree value := by
  obtain ⟨inner, same⟩ := exists_attemptWith depth
  rw [same] at attempt
  exact hasMet_of_attemptWith spells attempt

theorem areTexts_of_attempt {items : List Tree} {first : Bool} {done values : List Value}
    {fuel : Nat} (spells : Spells (.items first items) text behind)
    (attempt : (attemptItems (attemptValue depth) first done fuel text).1 =
      some (.list (done.reverse ++ values)))
    (texts : ∀ value ∈ values, ∃ said, value = .text said) :
    ∃ said, List.Forall₂ IsText items said := by
  induction fuel generalizing first done values text items with
  | zero => contradiction
  | succ fuel ih =>
      cases spells with
      | noItem here => exact ⟨[], .nil⟩
      | @item _ item others _ next middle _ introduced spelled others_spelled =>
          have more := moreItems_of_introduces introduced spelled
          have spelled := spells_value_congr (afterSpace_afterSpace next).symm spelled
          simp only [attemptItems, more] at attempt
          split at attempt
          next value after read =>
            obtain ⟨later, same⟩ := attemptItems_eq_some attempt
            rw [same] at attempt
            rw [List.reverse_cons, List.append_assoc] at same
            obtain rfl : values = value :: later := List.append_cancel_left (Value.list.inj same)
            obtain ⟨said, rfl⟩ := texts value List.mem_cons_self
            have isText : IsText item said := isText_of_attempt spelled (by rw [read])
            -- The attempt at an item that is a text ends where the item does.
            rw [attemptValue_of_text depth spelled isText] at read
            obtain ⟨-, rfl⟩ := Prod.mk.inj read
            obtain ⟨saids, areTexts⟩ := ih others_spelled attempt fun value member =>
              texts value (List.mem_cons_of_mem _ member)
            exact ⟨said :: saids, .cons isText areTexts⟩
          next => contradiction

theorem isAudience_of_namesAudience {tree : Tree} (spells : Spells (.value tree) text behind)
    (named : (attemptValue payloadDepth text).1.any namesAudience = true) : IsAudience tree := by
  cases attempt : (attemptValue payloadDepth text).1 with
  | none =>
      rw [attempt] at named
      contradiction
  | some kept =>
      rw [attempt] at named
      have met := hasMet_of_attemptWith spells attempt
      cases kept with
      | text value => exact .inl ⟨value, met⟩
      | list values =>
          obtain ⟨items, nested, opened, rfl, same, items_spelled, attempt⟩ := met
          obtain rfl := Option.some.inj same
          have attempt : (attemptItems (attemptValue 125) true [] (opened.length + 1) opened).1 =
              some (.list ([].reverse ++ values)) := attempt
          right
          apply areTexts_of_attempt items_spelled attempt
          intro value member
          have isText := List.all_eq_true.mp named value member
          cases value with
          | text said => exact ⟨said, rfl⟩
          | _ => contradiction
      | _ => contradiction

theorem namesAudience_iff {tree : Tree} (spells : Spells (.value tree) text behind) :
    (attemptValue payloadDepth text).1.any namesAudience = true ↔ IsAudience tree :=
  ⟨isAudience_of_namesAudience spells, namesAudience_of_isAudience spells⟩

/-! The whole payload. -/

def audienceMet : Slots [Unit, Unit, Unit, Unit, Bool] → Option Bool
  | (_, _, _, _, met, _) => met

variable {slots next last : Slots [Unit, Unit, Unit, Unit, Bool]}

theorem audienceMet_of_turns {name : String} (other : name ≠ "aud")
    (turns : sharedMembers.Turns name slots text next rest) :
    audienceMet next = audienceMet slots := by
  obtain ⟨exp, nbf, sub, iss, aud, ⟨⟩⟩ := slots
  obtain ⟨exp', nbf', sub', iss', aud', ⟨⟩⟩ := next
  simp only [sharedMembers, Members.Turns, if_neg other] at turns
  simp only [audienceMet]
  grind

theorem audienceMet_of_turns_aud (turns : sharedMembers.Turns "aud" slots text next rest) :
    audienceMet slots = none ∧
      audienceMet next = some ((attemptValue payloadDepth text).1.any namesAudience) := by
  obtain ⟨exp, nbf, sub, iss, aud, ⟨⟩⟩ := slots
  obtain ⟨exp', nbf', sub', iss', aud', ⟨⟩⟩ := next
  simp only [sharedMembers, Members.Turns, String.reduceEq, if_false, if_true] at turns
  obtain ⟨-, -, -, -, absent, ⟨named, rfl, read⟩, -⟩ := turns
  rw [audience_eq] at read
  obtain ⟨rfl, -⟩ := Prod.mk.inj (Except.ok.inj read)
  exact ⟨absent, rfl⟩

theorem says_unique {body : List UInt8} {value other : String} (said : Says body value)
    (also : Says body other) : value = other := by
  have read : stringTail (body ++ [0x22]) = .ok (value, []) :=
    stringTail_eq_ok.mpr ⟨body, said, rfl⟩
  have read' : stringTail (body ++ [0x22]) = .ok (other, []) :=
    stringTail_eq_ok.mpr ⟨body, also, rfl⟩
  exact (Prod.mk.inj (Except.ok.inj (read.symm.trans read'))).1

theorem audienceMet_of_run {members : List (List UInt8 × Tree)}
    (run : sharedMembers.Run slots members last) : audienceMet last = some true ↔
      audienceMet slots = some true ∨
        ∃ member ∈ members, Says member.1 "aud" ∧ IsAudience member.2 := by
  induction run with
  | nil => simp
  | @member _ _ _ key name tree others _ _ said spelled turns _ ih =>
      rw [ih, List.exists_mem_cons_iff, ← or_assoc]
      apply or_congr_left
      by_cases named : name = "aud"
      · subst named
        obtain ⟨absent, met⟩ := audienceMet_of_turns_aud turns
        simp only [absent, met, said, true_and, reduceCtorEq, false_or, Option.some.injEq]
        exact namesAudience_iff spelled
      · have other : ¬ Says key "aud" := fun also => named (says_unique said also)
        simp only [audienceMet_of_turns named turns, other, false_and, or_false]

theorem named_of_finish {exp nbf sub iss : Unit} {named : Bool}
    (finished : sharedMembers.finish slots = some (exp, nbf, sub, iss, named, ())) :
    named = true ↔ audienceMet slots = some true := by
  obtain ⟨exp', nbf', sub', iss', aud, ⟨⟩⟩ := slots
  obtain ⟨-, finished⟩ := Members.finish_cons.mp finished
  obtain ⟨-, finished⟩ := Members.finish_cons.mp finished
  obtain ⟨-, finished⟩ := Members.finish_cons.mp finished
  obtain ⟨-, finished⟩ := Members.finish_cons.mp finished
  obtain ⟨found, -⟩ := Members.finish_cons.mp finished
  cases aud with
  | none =>
      obtain rfl : false = named := Option.some.inj found
      simp [audienceMet]
  | some met =>
      obtain rfl : met = named := Option.some.inj found
      simp [audienceMet]

theorem record_of_namedAudience {tree : Tree} {bytes : List UInt8} {named : Bool}
    (document : IsDocument tree bytes) (read : readAll namedAudience bytes = .ok named) :
    ∃ members, tree = .record members := by
  obtain ⟨last, spells, -⟩ := document
  have opens : ∃ inner, afterSpace bytes = 0x7B :: inner := by
    unfold readAll namedAudience at read
    split at read
    · contradiction
    next started =>
      split at started
      next inner here => exact ⟨inner, here⟩
      next => contradiction
  obtain ⟨inner, opens⟩ := opens
  exact Tree.exists_record_of_startsWith (spells.startsWith opens)

theorem run_of_namedAudience {members : List (List UInt8 × Tree)} {bytes : List UInt8}
    {named : Bool} (document : IsDocument (.record members) bytes)
    (read : readAll namedAudience bytes = .ok named) : ∃ exp nbf sub iss slots,
      sharedMembers.Run sharedMembers.empty members slots ∧
      sharedMembers.finish slots = some (exp, nbf, sub, iss, named, ()) := by
  obtain ⟨last, spells, spaces⟩ := document
  cases spells with
  | record here spelled =>
      unfold readAll at read
      split at read
      · contradiction
      next found rest started =>
        split at read
        next ended =>
          obtain rfl := Except.ok.inj read
          rw [namedAudience, here] at started
          obtain ⟨⟨exp, nbf, sub, iss, aud, ⟨⟩⟩, behind, row_read, kept⟩ := bind_eq_ok.mp started
          obtain ⟨rfl, rfl⟩ := Prod.mk.inj (Except.ok.inj kept)
          obtain ⟨slots, run, finished⟩ := Members.run_of_entriesFrom spaces sharedMembers_roam
            sharedMembers_alien spelled row_read ended
          exact ⟨exp, nbf, sub, iss, slots, run, finished⟩
        next => contradiction

/-- A payload names an audience when it has a member for it, whatever else is in it. -/
theorem named_iff_audience {members : List (List UInt8 × Tree)} {bytes : List UInt8} {named : Bool}
    (document : IsDocument (.record members) bytes)
    (read : readAll namedAudience bytes = .ok named) :
    named = true ↔ ∃ member ∈ members, Says member.1 "aud" ∧ IsAudience member.2 := by
  obtain ⟨exp, nbf, sub, iss, slots, run, finished⟩ := run_of_namedAudience document read
  have unmet : ¬ audienceMet sharedMembers.empty = some true := nofun
  rw [named_of_finish finished, audienceMet_of_run run, or_iff_right unmet]

/-! A payload without these members, the expiry apart. -/

def expiryShape : Shape [Unit, Unit, Unit, Unit, Bool] :=
  .cons "exp" (fun tree _ => ∃ value, IsInteger tree value) none <|
  .cons "nbf" (fun _ _ => False) (some ()) <| .cons "sub" (fun _ _ => False) (some ()) <|
  .cons "iss" (fun _ _ => False) (some ()) <| .cons "aud" (fun _ _ => False) (some false) .nil

theorem passNumber_complete : Complete passNumber fun tree _ => ∃ value, IsInteger tree value := by
  rintro text tree ⟨⟩ rest spells ⟨value, means⟩
  cases spells with
  | @number n _ _ spelled =>
      obtain ⟨first, more, here, starts⟩ := spelled.starts
      have whole : n.wholeNumber? = some value := (Option.filter_eq_some_iff.mp means).1
      have finite : n.value? = some (.integer value) := by
        rw [Numeral.value?, whole]
      have attempt : attemptValue 0 text = (some (.integer value), rest) := by
        have scalar := attemptScalar?_numeral starts more
        rw [← here, attemptNumber, numeral_eq_ok.mpr spelled] at scalar
        simp only [finite] at scalar
        exact attemptWith_of_scalar here scalar
      rw [passNumber_of_scalar, attempt]
      intro rest
      rw [here]
      exact ⟨fun other => ne_of_startsNumeral starts rfl (List.cons.inj other).1,
        fun other => ne_of_startsNumeral starts rfl (List.cons.inj other).1⟩
  | _ => contradiction

theorem sharedMembers_complete : sharedMembers.Follows (fun _ => Complete) expiryShape :=
  .cons passNumber_complete <| .cons (fun _ _ _ _ _ => False.elim) <|
  .cons (fun _ _ _ _ _ => False.elim) <| .cons (fun _ _ _ _ _ => False.elim) <|
  .cons (fun _ _ _ _ _ => False.elim) .nil

/-- A payload with an expiry and none of the other members that tokens of all kinds share names no
audience. -/
theorem namedAudience_of_free {members : List (List UInt8 × Tree)}
    {entries : List (String × Tree)} {bytes : List UInt8}
    (document : IsDocument (.record members) bytes)
    (keys : List.Forall₂ (IsEntry Eq) members entries) {exp : Int}
    (expires : Gives IsInteger none (treesOf "exp" entries) exp)
    (free : ∀ name ∈ ["aud", "nbf", "iss", "sub"], treesOf name entries = []) :
    readAll namedAudience bytes = .ok false := by
  obtain ⟨rest, spells, spaces⟩ := document
  have missing : ∀ {α : Type} {value : α} {name}, name ∈ ["aud", "nbf", "iss", "sub"] →
      Gives (fun _ _ => False) (some value) (treesOf name entries) value := by
    intro α value name member
    rw [free name member]
    rfl
  have expiry : Gives (fun tree (_ : Unit) => ∃ value, IsInteger tree value) none
      (treesOf "exp" entries) () := by
    obtain ⟨tree, same, means⟩ := expires.once
    rw [same]
    exact ⟨exp, means⟩
  have describes : expiryShape.Describes entries ((), (), (), (), false, ()) :=
    ⟨expiry, missing (by simp), missing (by simp), missing (by simp), missing (by simp), trivial⟩
  cases spells with
  | @record _ _ inner _ here spelled =>
      have read := sharedMembers_complete.entriesFrom_of_spells (by decide) spelled keys
        (sharedMembers_complete.ends_empty.mpr describes) (Nat.lt_succ_self _)
      have named : namedAudience bytes = .ok (false, rest) := by
        rw [namedAudience, here]
        exact bind_of_ok read
      rw [readAll, named]
      exact if_pos spaces

end Accounts.Token

import ChipEight.Proofs.Execution.Footprint

/-!
# Arithmetic words

What a word that combines two registers leaves in the registers, told from its last digit and the
bytes that were in the two.  The flag is stored last, so it takes the place of the result if both go
to the flag register.
-/

namespace ChipEight

namespace Arithmetic

/-- The result of a word with a given last digit on the bytes of its registers. -/
def resultOf (digit first second : Nat) : Nat :=
  match digit with
  | 0x0 => second
  | 0x1 => first ||| second
  | 0x2 => first &&& second
  | 0x3 => first ^^^ second
  | 0x4 => (first + second) % 256
  | 0x5 => (256 + first - second) % 256
  | 0x6 => first / 2
  | 0x7 => (256 + second - first) % 256
  | _ => 2 * first % 256

/-- The flag of a word with a given last digit, if it sets one. -/
def flagOf (normalize : Bool) (digit first second : Nat) : Option Nat :=
  match digit with
  | 0x4 => some (decide (255 < first + second)).toNat
  | 0x5 => some (decide (second < first)).toNat
  | 0x6 => some (first % 2)
  | 0x7 => some (decide (first < second)).toNat
  | 0xE => some ((if normalize then 1 else 128) * (decide (128 ≤ first)).toNat)
  | _ => none

theorem toNat_ofInt (value : Int) : (UInt8.ofInt value).toNat = (value % 256).toNat := by
  have bound : (value % 256).toNat < 256 := by omega
  simpa [UInt8.ofInt] using bound

theorem map_flagWhen (condition : Bool) :
    (flagWhen condition).map (fun flag => (UInt8.ofInt flag).toNat) = some condition.toNat := by
  cases condition <;> rfl

/-- Only a left shift heeds the setting. -/
theorem storedFlag_of_ne {operation : Arithmetic} (other : operation ≠ shiftLeft)
    (normalize : Bool) (flag : Int) : operation.storedFlag normalize flag = flag := by
  simp only [storedFlag, other, false_and, if_false]

theorem eq_of_shiftLeft {digit : Nat} (known : ofNibble? digit = some shiftLeft) : digit = 0xE := by
  revert known
  fun_cases ofNibble? digit <;> rintro ⟨⟩
  rfl

section Digit

variable {operation : Arithmetic} {digit : Nat} (known : ofNibble? digit = some operation)

include known

theorem toNat_value_apply (first second : UInt8) :
    (UInt8.ofInt (operation.apply first.toNat second.toNat).value).toNat =
      resultOf digit first.toNat second.toNat := by
  have := first.toNat_lt
  have := second.toNat_lt
  rw [toNat_ofInt]
  revert known
  fun_cases ofNibble? digit <;> rintro ⟨⟩
  case case2 =>
      have := (first ||| second).toNat_lt
      simp only [apply, resultOf, Bits.or_natCast, ← UInt8.toNat_or]
      omega
  case case3 =>
      have := (first &&& second).toNat_lt
      simp only [apply, resultOf, Bits.and_natCast, ← UInt8.toNat_and]
      omega
  case case4 =>
      have := (first ^^^ second).toNat_lt
      simp only [apply, resultOf, Bits.xor_natCast, ← UInt8.toNat_xor]
      omega
  all_goals
    simp only [apply, resultOf]
    omega

theorem map_flag_apply (normalize : Bool) (first second : UInt8) :
    ((operation.apply first.toNat second.toNat).flag.map fun flag =>
        (UInt8.ofInt (operation.storedFlag normalize flag)).toNat) =
      flagOf normalize digit first.toNat second.toNat := by
  have := first.toNat_lt
  revert known
  fun_cases ofNibble? digit <;> rintro ⟨⟩
  case case5 | case6 | case8 =>
      refine (map_flagWhen _).trans (congrArg (fun flag : Bool => some flag.toNat) ?_)
      exact decide_eq_decide.mpr (by omega)
  case case7 =>
      have bit : ((first.toNat : Int) % 2 % 256).toNat = first.toNat % 2 := by omega
      have other : shiftRight ≠ shiftLeft := by decide
      simp only [apply, flagOf, Option.map_some, storedFlag_of_ne other, toNat_ofInt, bit]
  case case9 =>
      rcases Nat.lt_or_ge first.toNat 128 with low | high
      · have bit : (first.toNat : Int) / 128 % 2 = 0 := by omega
        have unset : decide (128 ≤ first.toNat) = false := decide_eq_false (by omega)
        simp only [apply, flagOf, bit, unset]
        cases normalize <;> rfl
      · have bit : (first.toNat : Int) / 128 % 2 = 1 := by omega
        have set : decide (128 ≤ first.toNat) = true := decide_eq_true high
        simp only [apply, flagOf, bit, set]
        cases normalize <;> rfl
  all_goals rfl

end Digit

end Arithmetic

namespace Machine

/-- The result of an arithmetic word. -/
def resultOf (machine : Machine) (word : Word) : Nat :=
  Arithmetic.resultOf (word.low % 16) (machine.register word.x).toNat
    (machine.register word.y).toNat

/-- The flag of an arithmetic word, if it sets one. -/
def flagOf (machine : Machine) (word : Word) : Option Nat :=
  Arithmetic.flagOf machine.config.normalizeShiftFlag (word.low % 16)
    (machine.register word.x).toNat (machine.register word.y).toNat

/-- Whether an arithmetic word leaves its flag in a register. -/
def TakesFlag (machine : Machine) (word : Word) (number : Register) : Prop :=
  number = flagRegister ∧ machine.flagOf word ≠ none

/-- The machine after an arithmetic word. -/
structure Combines (before : Machine) (word : Word) (after : Machine) : Prop where
  /-- The flag register holds the flag, if there is one. -/
  flag_eq : ∀ flag, before.flagOf word = some flag → (after.register flagRegister).toNat = flag
  /-- The first register holds the result, unless the flag took its place. -/
  result_eq : ¬ before.TakesFlag word word.x → (after.register word.x).toNat = before.resultOf word
  /-- Every other register is as it was. -/
  register_eq : ∀ number, number ≠ word.x → ¬ before.TakesFlag word number →
    after.register number = before.register number
  /-- Nothing but registers has changed. -/
  machine_eq : after = { before with registers := after.registers }

/-- The same machine with another setting for the flag of a left shift. -/
def normalizing (normalize : Bool) (machine : Machine) : Machine :=
  { machine with config := { machine.config with normalizeShiftFlag := normalize } }

theorem setRegister_register (machine : Machine) (number : Register) :
    machine.setRegister number (machine.register number) = machine := by
  simp [setRegister, register]

theorem register_setFlag (machine : Machine) (number : Register) (value : UInt8) :
    (machine.setFlag value).register number =
      if flagRegister = number then value else machine.register number :=
  register_setRegister machine flagRegister number value

theorem setFlag_setFlag (machine : Machine) (first second : UInt8) :
    (machine.setFlag first).setFlag second = machine.setFlag second := by
  simp [setFlag, setRegister]

theorem combines_combine {word : Word} {operation : Arithmetic}
    (known : Arithmetic.ofNibble? (word.low % 16) = some operation) (machine : Machine) :
    machine.Combines word (machine.combine operation word.x word.y) := by
  have value := Arithmetic.toNat_value_apply known (machine.register word.x)
    (machine.register word.y)
  have flags := Arithmetic.map_flag_apply known machine.config.normalizeShiftFlag
    (machine.register word.x) (machine.register word.y)
  simp only [combine]
  split
  · rename_i quiet
    have unflagged : machine.flagOf word = none := by rw [flagOf, ← flags, quiet, Option.map_none]
    refine ⟨fun flag same => ?_, fun _ => ?_, fun number other _ => ?_, rfl⟩
    · rw [unflagged] at same
      cases same
    · rw [register_setRegister, if_pos rfl]
      exact value
    · rw [register_setRegister, if_neg other.symm]
  · rename_i flag sets
    have flagged := flags.symm
    rw [sets, Option.map_some] at flagged
    have taken : machine.flagOf word ≠ none := fun missing => by
      rw [flagOf, flagged] at missing
      cases missing
    refine ⟨fun flag same => ?_, fun untaken => ?_, fun number other untaken => ?_, rfl⟩
    · rw [flagOf, flagged] at same
      rw [register_setFlag, if_pos rfl]
      exact Option.some.inj same
    · have apart : flagRegister ≠ word.x := fun same => untaken ⟨same.symm, taken⟩
      rw [register_setFlag, if_neg apart, register_setRegister, if_pos rfl]
      exact value
    · have apart : flagRegister ≠ number := fun same => untaken ⟨same.symm, taken⟩
      rw [register_setFlag, if_neg apart, register_setRegister, if_neg other.symm]

/-- The setting counts for the flag of a left shift and for nothing else. -/
theorem combine_normalizing (machine : Machine) (normalize : Bool) (operation : Arithmetic)
    (target source : Register) :
    ∃ flag, (machine.normalizing normalize).combine operation target source =
        ((machine.combine operation target source).setFlag flag).normalizing normalize ∧
      (operation ≠ .shiftLeft →
        flag = (machine.combine operation target source).register flagRegister) := by
  have values : operation.apply ((machine.normalizing normalize).register target).toNat
      ((machine.normalizing normalize).register source).toNat =
        operation.apply (machine.register target).toNat (machine.register source).toNat := rfl
  simp only [combine, values]
  split
  · refine ⟨_, ?_, fun _ => rfl⟩
    rw [setFlag, setRegister_register]
    rfl
  · rename_i flag sets
    refine ⟨UInt8.ofInt (operation.storedFlag normalize flag), ?_, fun other => ?_⟩
    · rw [setFlag_setFlag]
      rfl
    · rw [register_setFlag, if_pos rfl]
      simp only [Arithmetic.storedFlag_of_ne other]

/-- A word that combines two registers leaves its result in the first one and its flag, if it sets
one, in the flag register, which wins if they are the same.  Everything else stays, and the setting
for left shifts counts for their flag only. -/
theorem combines_exactly {width height : Nat} {word : Word} (digit : word.low / 4096 = 0x8)
    (known : word.low % 16 ∈ [0, 1, 2, 3, 4, 5, 6, 7, 0xE]) (machine : Machine)
    (screen : Screen width height) (held : HeldKeys) :
    ∃ after, machine.execute screen held word = .ok (after, screen) ∧
      machine.Combines word after ∧
        ∀ normalize, ∃ flag,
          (machine.normalizing normalize).execute screen held word =
              .ok ((after.setFlag flag).normalizing normalize, screen) ∧
            (word.low % 16 ≠ 0xE → flag = after.register flagRegister) := by
  obtain ⟨operation, selected⟩ :
      ∃ operation, Arithmetic.ofNibble? (word.low % 16) = some operation :=
    Option.ne_none_iff_exists'.mp fun missing => Instruction.ofNibble?_eq_none_iff.mp missing known
  have encoded : word.Encodes (.arithmetic operation word.x word.y) := ⟨digit, selected, rfl, rfl⟩
  refine ⟨machine.combine operation word.x word.y, ?_, combines_combine selected machine,
    fun normalize => ?_⟩
  · exact execute_eq_ok_iff.mpr ⟨_, encoded, rfl⟩
  · obtain ⟨flag, same, kept⟩ := machine.combine_normalizing normalize operation word.x word.y
    refine ⟨flag, execute_eq_ok_iff.mpr ⟨_, encoded, ?_⟩, fun other => kept ?_⟩
    · rw [perform, same]
    · rintro rfl
      exact other (Arithmetic.eq_of_shiftLeft selected)

/-- A left shift of the flag register by itself: the flag takes the place of the result. -/
theorem combines_exactly_flag_register :
    let machine := (initial {}).setFlag 0x81
    let screen := Screen.blank 1 1
    let held : HeldKeys := Vector.replicate 16 false
    let word : Word := ⟨0x8FFE⟩
    word.low / 4096 = 0x8 ∧ word.low % 16 ∈ [0, 1, 2, 3, 4, 5, 6, 7, 0xE] ∧
      machine.resultOf word = 2 ∧
      ∃ after, machine.execute screen held word = .ok (after, screen) ∧
        (after.register flagRegister).toNat = 128 ∧ after.register 0 = 0 ∧
          ∃ flag, (machine.normalizing true).execute screen held word =
            .ok ((after.setFlag flag).normalizing true, screen) := by
  intro machine screen held word
  have digit : word.low / 4096 = 0x8 := by decide
  have known : word.low % 16 ∈ [0, 1, 2, 3, 4, 5, 6, 7, 0xE] := by decide
  obtain ⟨after, executed, combines, other⟩ := combines_exactly digit known machine screen held
  obtain ⟨flag, normalized, -⟩ := other true
  have outgoing : machine.flagOf word = some 128 := by decide +kernel
  have untaken : ¬ machine.TakesFlag word 0 := fun taken => absurd taken.1 (by decide)
  refine ⟨digit, known, by decide +kernel, after, executed, combines.flag_eq 128 outgoing, ?_,
    flag, normalized⟩
  exact combines.register_eq 0 (by decide) untaken

end Machine
end ChipEight

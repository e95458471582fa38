import ChipEight.Execution
import ChipEight.Proofs.Instruction.Encoding

/-!
# Footprints of instructions

What carrying out an instruction can change in the machine.  Whatever an instruction leaves alone is
read off its footprint, so no other proof opens the instructions one by one.
-/

namespace ChipEight

/-! ## What may change -/

namespace Machine

variable {width height : Nat}

/-- The parts of a machine that an instruction may change.  Those of a call and of a return are
told exactly. -/
def Footprint (before after : Machine) : Instruction → Prop
  | .clearScreen | .hostRoutine _ => after = before
  | .returnFromCall =>
      ∃ stack counter, before.stack.pop = .ok (stack, counter) ∧
        after = { before with stack, counter }
  | .call address =>
      ∃ stack, before.stack.push before.counter.toNat = .ok stack ∧
        after = { before with stack, counter := UInt16.ofNat address }
  | .jump _ | .skip _ | .jumpOffset _ => ∃ counter, after = { before with counter }
  | .setByte _ _ | .addByte _ _ | .arithmetic _ _ _ | .draw _ _ _ | .readDelay _
  | .loadRegisters _ => ∃ registers, after = { before with registers }
  | .random _ _ =>
      ∃ registers, after = { before with registers, randomKey := Threefry.next before.randomKey }
  | .setIndex _ | .addIndex _ | .pointAtGlyph _ => ∃ index, after = { before with index }
  | .awaitKey target => after = { before with waiting := some target }
  | .setDelay _ => ∃ delay, after = { before with delay }
  | .setSound _ => ∃ sound, after = { before with sound }
  | .storeDecimal _ | .storeRegisters _ => ∃ memory, after = { before with memory }

theorem returnFromCall_eq_ok_iff {before after : Machine} :
    before.returnFromCall = .ok after ↔
      ∃ stack counter, before.stack.pop = .ok (stack, counter) ∧
        after = { before with stack, counter } := by
  simp only [returnFromCall, bind_eq_ok_iff, pure_eq_ok_iff, Prod.exists, eq_comm (a := after)]

theorem call_eq_ok_iff {before after : Machine} {address : Address} :
    before.call address = .ok after ↔
      ∃ stack, before.stack.push before.counter.toNat = .ok stack ∧
        after = { before with stack, counter := UInt16.ofNat address } := by
  simp only [call, jump, bind_eq_ok_iff, pure_eq_ok_iff, eq_comm (a := after)]

theorem combine_eq (machine : Machine) (operation : Arithmetic) (target source : Register) :
    ∃ registers, machine.combine operation target source = { machine with registers } := by
  simp only [combine]
  split
  · exact ⟨_, rfl⟩
  · exact ⟨_, rfl⟩

theorem withScreen_eq_ok_iff {screen drawn : Screen width height}
    {outcome : Except Fault.Cause Machine} {after : Machine} :
    withScreen screen outcome = .ok (after, drawn) ↔ outcome = .ok after ∧ drawn = screen := by
  cases outcome <;> simp [withScreen, eq_comm]

theorem drawSprite_eq_ok_iff {before after : Machine} {screen drawn : Screen width height}
    {column row : Register} {rows : Nat} :
    before.drawSprite screen column row rows = .ok (after, drawn) ↔
      ∃ met, screen.draw (before.register column).toNat (before.register row).toNat
          (before.memory.readBlock before.index.toNat rows) = .ok (drawn, met) ∧
        after = before.setFlag (if met then 1 else 0) := by
  simp only [drawSprite, bind_eq_ok_iff, pure_eq_ok_iff, Prod.exists, Prod.mk.injEq]
  constructor
  · rintro ⟨_, met, drew, rfl, rfl⟩
    exact ⟨met, drew, rfl⟩
  · rintro ⟨met, drew, rfl⟩
    exact ⟨drawn, met, drew, rfl, rfl⟩

/-- An instruction that succeeds stays within its footprint. -/
theorem footprint_of_perform {before after : Machine} {screen drawn : Screen width height}
    {held : HeldKeys} {instruction : Instruction}
    (performed : before.perform screen held instruction = .ok (after, drawn)) :
    before.Footprint after instruction := by
  cases instruction with
  | returnFromCall =>
      exact returnFromCall_eq_ok_iff.mp (withScreen_eq_ok_iff.mp performed).1
  | call address => exact call_eq_ok_iff.mp (withScreen_eq_ok_iff.mp performed).1
  | draw column row rows =>
      obtain ⟨met, -, rfl⟩ := drawSprite_eq_ok_iff.mp performed
      exact ⟨_, rfl⟩
  | skip condition =>
      cases performed
      split
      · exact ⟨_, rfl⟩
      · exact ⟨before.counter, rfl⟩
  | arithmetic operation target source =>
      cases performed
      exact before.combine_eq operation target source
  | clearScreen | hostRoutine address | awaitKey target =>
      cases performed
      rfl
  | _ =>
      cases performed
      exact ⟨_, rfl⟩

namespace Footprint

variable {before after : Machine} {instruction : Instruction}

theorem config_eq (footprint : before.Footprint after instruction) :
    after.config = before.config := by
  cases instruction <;> grind [Footprint]

/-- Only the instruction that waits for a key changes what the machine waits for. -/
theorem waiting_eq (footprint : before.Footprint after instruction)
    (other : ∀ target, instruction ≠ .awaitKey target) : after.waiting = before.waiting := by
  cases instruction <;> grind [Footprint]

/-- Only a draw moves the random key on. -/
theorem randomKey_eq (footprint : before.Footprint after instruction)
    (noDraw : ∀ target mask, instruction ≠ .random target mask) :
    after.randomKey = before.randomKey := by
  cases instruction <;> grind [Footprint]

/-- Only calls and returns change the call stack. -/
theorem stack_eq (footprint : before.Footprint after instruction)
    (noCall : ∀ address, instruction ≠ .call address) (noReturn : instruction ≠ .returnFromCall) :
    after.stack = before.stack := by
  cases instruction <;> grind [Footprint]

end Footprint

theorem execute_eq_ok_iff {machine : Machine} {screen : Screen width height} {held : HeldKeys}
    {word : Word} {result : Machine × Screen width height} :
    machine.execute screen held word = .ok result ↔
      ∃ instruction, word.Encodes instruction ∧
        machine.perform screen held instruction = .ok result := by
  simp only [execute, ← Instruction.ofWord?_eq_some_iff]
  split
  · rename_i instruction encoded
    simp [encoded]
  · rename_i unknown
    simp [unknown]

/-- A step executes the word at the counter with the counter behind it. -/
theorem step_eq_ok_iff_execute {machine : Machine} {screen : Screen width height}
    {held : HeldKeys} {result : Machine × Screen width height} :
    machine.step screen held = .ok result ↔
      machine.advance.execute screen held machine.word = .ok result := by
  simp only [step, fetch]
  split
  · rename_i fault failed
    simp [failed]
  · rfl

/-- A step succeeds if the word at the counter encodes an instruction that succeeds. -/
theorem step_eq_ok_iff {machine : Machine} {screen : Screen width height} {held : HeldKeys}
    {result : Machine × Screen width height} :
    machine.step screen held = .ok result ↔
      ∃ instruction, machine.word.Encodes instruction ∧
        machine.advance.perform screen held instruction = .ok result := by
  rw [step_eq_ok_iff_execute, execute_eq_ok_iff]

end Machine

/-! ## Time in execution

Execution does not count time.  Three kinds of words have to do with it all the same: two set a
timer, and a third word waits for a key, which holds the timers up.
-/

/-- The digits of the words that set a timer or wait for a key. -/
def Word.SetsTime (word : Word) : Prop :=
  word.low / 4096 = 0xF ∧
    (word.low % 256 = 0x0A ∨ word.low % 256 = 0x15 ∨ word.low % 256 = 0x18)

instance (word : Word) : Decidable word.SetsTime :=
  inferInstanceAs (Decidable (_ ∧ _))

namespace Machine

/-- The delay timer and the sound timer. -/
def timers (machine : Machine) : UInt8 × UInt8 :=
  (machine.delay, machine.sound)

theorem toNat_countDown (timer : UInt8) : (countDown timer).toNat = timer.toNat - 1 := by
  simp only [countDown]
  split
  · rename_i zero
    simp [zero]
  · rename_i running
    have positive : 0 < timer.toNat :=
      Nat.pos_of_ne_zero fun zero => running (UInt8.toNat_inj.mp zero)
    rw [UInt8.toNat_sub_of_le timer 1 (UInt8.le_iff_toNat_le.mpr positive)]
    rfl

theorem timers_resume (machine : Machine) (key : Key) :
    (machine.resume key).timers = machine.timers := by
  simp only [resume]
  split <;> rfl

theorem Footprint.timers_eq {before after : Machine} {instruction : Instruction}
    (footprint : before.Footprint after instruction)
    (noDelay : ∀ source, instruction ≠ .setDelay source)
    (noSound : ∀ source, instruction ≠ .setSound source) : after.timers = before.timers := by
  cases instruction <;> grind [Footprint, timers]

variable {width height : Nat} {before after : Machine} {screen drawn : Screen width height}
  {held : HeldKeys}

theorem timers_of_execute {word : Word} (unset : ¬ word.SetsTime)
    (executed : before.execute screen held word = .ok (after, drawn)) :
    after.timers = before.timers ∧ after.waiting = before.waiting := by
  obtain ⟨instruction, encoded, performed⟩ := execute_eq_ok_iff.mp executed
  have footprint := footprint_of_perform performed
  refine ⟨footprint.timers_eq ?_ ?_, footprint.waiting_eq ?_⟩
  · rintro source rfl
    exact unset ⟨encoded.1, .inr (.inl encoded.2.1)⟩
  · rintro source rfl
    exact unset ⟨encoded.1, .inr (.inr encoded.2.1)⟩
  · rintro target rfl
    exact unset ⟨encoded.1, .inl encoded.2.1⟩

/-- A step of a word that does not set them leaves the timers running as they are. -/
theorem timers_of_step (unset : ¬ before.word.SetsTime)
    (stepped : before.step screen held = .ok (after, drawn)) :
    after.timers = before.timers ∧ after.waiting = before.waiting := by
  have executed := timers_of_execute unset (step_eq_ok_iff_execute.mp stepped)
  exact executed

end Machine

/-! ## What instructions write

Which registers and which cells an instruction may write, and whether it may change the screen.  All
other registers, cells and pixels are as they were.
-/

variable {width height : Nat}

/-- Whether an operation between registers sets the flag. -/
def Arithmetic.setsFlag : Arithmetic → Bool
  | copy | or | and | xor => false
  | add | subtract | shiftRight | subtractFrom | shiftLeft => true

namespace Instruction

/-- The registers that an instruction may write. -/
def Writes : Instruction → Register → Prop
  | .setByte target _ | .addByte target _ | .random target _ | .readDelay target =>
      fun number => number = target
  | .arithmetic operation target _ =>
      fun number => number = target ∨ operation.setsFlag = true ∧ number = Machine.flagRegister
  | .draw _ _ _ => fun number => number = Machine.flagRegister
  | .loadRegisters last => fun number => number ≤ last
  | _ => fun _ => False

/-- How many cells an instruction writes, from the index on. -/
def cellsWritten : Instruction → Nat
  | .storeDecimal _ => 3
  | .storeRegisters last => last + 1
  | _ => 0

/-- Whether an instruction may change the screen. -/
def changesScreen : Instruction → Bool
  | .clearScreen | .draw _ _ _ => true
  | _ => false

end Instruction

theorem Arithmetic.flag_of_setsFlag_eq_false {operation : Arithmetic}
    (quiet : operation.setsFlag = false) (first second : Int) :
    (operation.apply first second).flag = none := by
  cases operation with
  | copy | or | and | xor => rfl
  | _ => cases quiet

theorem Arithmetic.setsFlag_iff {operation : Arithmetic} {nibble : Nat}
    (known : ofNibble? nibble = some operation) :
    operation.setsFlag = true ↔ nibble ∈ [4, 5, 6, 7, 0xE] := by
  revert known
  fun_cases ofNibble? nibble <;> rintro ⟨⟩ <;> simp [setsFlag]

namespace Machine

variable {before after : Machine} {screen drawn : Screen width height} {held : HeldKeys}
  {instruction : Instruction}

theorem register_combine (machine : Machine) (operation : Arithmetic) {target number : Register}
    (source : Register) (other : number ≠ target)
    (unflagged : ¬ (operation.setsFlag = true ∧ number = flagRegister)) :
    (machine.combine operation target source).register number = machine.register number := by
  simp only [combine]
  split
  · rw [register_setRegister, if_neg other.symm]
  · rename_i flag sets
    have flagged : operation.setsFlag = true := by
      cases quiet : operation.setsFlag with
      | true => rfl
      | false =>
          rw [Arithmetic.flag_of_setsFlag_eq_false quiet] at sets
          cases sets
    have noFlag : flagRegister ≠ number := fun same => unflagged ⟨flagged, same.symm⟩
    rw [setFlag, register_setRegister, if_neg noFlag, register_setRegister, if_neg other.symm]

theorem register_loadRegisters (machine : Machine) {last number : Register}
    (beyond : ¬ number ≤ last) :
    (machine.loadRegisters last).register number = machine.register number := by
  have above : ¬ number.val ≤ last.val := beyond
  simp [loadRegisters, register, above]

/-- A register that an instruction does not write keeps its byte. -/
theorem register_of_perform
    (performed : before.perform screen held instruction = .ok (after, drawn))
    {number : Register} (unwritten : ¬ instruction.Writes number) :
    after.register number = before.register number := by
  have footprint := footprint_of_perform performed
  cases instruction with
  | setByte target value | addByte target value | readDelay target =>
      cases performed
      have other : target ≠ number := fun same => unwritten same.symm
      rw [register_setRegister, if_neg other]
  | random target mask =>
      cases performed
      have other : target ≠ number := fun same => unwritten same.symm
      rw [drawRandom, register_setRegister, if_neg other]
      rfl
  | arithmetic operation target source =>
      cases performed
      exact before.register_combine operation source (fun same => unwritten (.inl same))
        fun flag => unwritten (.inr flag)
  | draw column row rows =>
      obtain ⟨met, -, rfl⟩ := drawSprite_eq_ok_iff.mp performed
      have other : flagRegister ≠ number := fun same => unwritten same.symm
      rw [setFlag, register_setRegister, if_neg other]
  | loadRegisters last =>
      cases performed
      exact before.register_loadRegisters unwritten
  -- The other instructions write no register at all, as the footprint says.
  | _ =>
      have same : after.registers = before.registers := by grind [Footprint]
      rw [register, register, same]

/-- A cell that an instruction does not write keeps its byte. -/
theorem read_of_perform (performed : before.perform screen held instruction = .ok (after, drawn))
    {address : Nat} (outside : ∀ offset < instruction.cellsWritten,
      (before.index.toNat + offset) % 4096 ≠ address % 4096) :
    after.memory.read address = before.memory.read address := by
  have footprint := footprint_of_perform performed
  cases instruction with
  | storeDecimal source =>
      cases performed
      exact before.memory.read_writeBlock_of_outside _ _ _ outside
  | storeRegisters last =>
      cases performed
      apply before.memory.read_writeBlock_of_outside
      intro offset within
      have short : offset < last + 1 := by
        simp only [List.length_take] at within
        omega
      exact outside offset short
  | _ => grind [Footprint]

/-- The screen changes only if it is cleared or drawn on. -/
theorem screen_of_perform (performed : before.perform screen held instruction = .ok (after, drawn))
    (still : instruction.changesScreen = false) : drawn = screen := by
  cases instruction with
  | clearScreen | draw column row rows => cases still
  | returnFromCall | call address => exact (withScreen_eq_ok_iff.mp performed).2
  | _ =>
      cases performed
      rfl

end Machine
end ChipEight

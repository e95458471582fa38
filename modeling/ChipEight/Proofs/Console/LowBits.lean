import Mathlib.Data.Int.ModEq
import ChipEight.Proofs.Console.Likeness
import ChipEight.Proofs.Console.Range
import ChipEight.Proofs.Execution.Fault
import ChipEight.Proofs.Execution.Footprint
import ChipEight.Proofs.Execution.Likeness

/-!
# Runs and the low bits of addresses

A machine runs as its twelve low address bits tell.  Whatever the upper ones are, everything that
can be seen of the run is the same, and so are its failures but for the addresses that they name.
-/

namespace ChipEight

/-! ## Low bits of addresses

The counter, the index and the saved addresses have sixteen bits, and memory looks at twelve.  Two
machines that differ in the four upper bits only do the same, instruction by instruction.
-/

namespace Memory

theorem read_congr (memory : Memory) {left right : Nat} (same : left ≡ right [MOD 4096]) :
    memory.read left = memory.read right := by
  rw [← memory.read_mod left, ← memory.read_mod right, same]

theorem write_congr (memory : Memory) {left right : Nat} (same : left ≡ right [MOD 4096])
    (value : UInt8) : memory.write left value = memory.write right value := by
  refine ext_read fun address => ?_
  rw [read_write, read_write, same]

theorem writeBlock_congr (memory : Memory) {left right : Nat} (same : left ≡ right [MOD 4096])
    (values : List UInt8) : memory.writeBlock left values = memory.writeBlock right values := by
  induction values generalizing memory left right with
  | nil => rfl
  | cons value rest ih =>
      rw [writeBlock, writeBlock, memory.write_congr same]
      exact ih _ (same.add_right 1)

theorem readBlock_congr (memory : Memory) {left right : Nat} (same : left ≡ right [MOD 4096])
    (count : Nat) : memory.readBlock left count = memory.readBlock right count := by
  refine List.map_congr_left fun offset _ => ?_
  exact memory.read_congr (same.add_right offset)

end Memory

theorem toNat_add_modEq {left right : UInt16} (same : left.toNat ≡ right.toNat [MOD 4096])
    (offset : UInt16) : (left + offset).toNat ≡ (right + offset).toNat [MOD 4096] := by
  have sum := same.add_right offset.toNat
  simp only [Nat.ModEq, UInt16.toNat_add] at sum ⊢
  omega

/-- Two faults have one cause, and their addresses agree in their twelve low bits. -/
structure Fault.Alike (left right : Fault) : Prop where
  cause_eq : left.cause = right.cause
  address_modEq : Option.Rel (· ≡ · [ZMOD 4096]) left.address right.address

theorem Fault.Alike.refl (fault : Fault) : fault.Alike fault :=
  ⟨rfl, optionRel_refl Int.ModEq.refl fault.address⟩

namespace CallStack

/-- Two stacks hold equally many addresses, which agree in their twelve low bits. -/
structure Alike (left right : CallStack) : Prop where
  depth_eq : left.depth = right.depth
  saved_modEq : ∀ slot < left.depth,
    (left.slots.getD slot 0).toNat ≡ (right.slots.getD slot 0).toNat [MOD 4096]

variable {left right : CallStack}

theorem Alike.refl (stack : CallStack) : stack.Alike stack :=
  ⟨rfl, fun _ _ => rfl⟩

/-- Of two stacks with equally many slots both have room for an address or neither has. -/
theorem Alike.push (alike : left.Alike right) (slots : left.capacity = right.capacity)
    {leftAddress rightAddress : UInt16}
    (same : leftAddress.toNat ≡ rightAddress.toNat [MOD 4096]) :
    EndsAlike Eq Alike (left.push leftAddress.toNat) (right.push rightAddress.toNat) := by
  have depth := alike.depth_eq
  simp only [capacity] at slots
  rcases Nat.lt_or_ge left.depth left.slots.size with room | full
  · rw [push_eq_ok_iff.mpr ⟨room, rfl⟩, push_eq_ok_iff.mpr ⟨by omega, rfl⟩]
    refine .success ⟨congrArg (· + 1) depth, fun slot used => ?_⟩
    have used : slot < left.depth + 1 := used
    by_cases newest : slot = left.depth
    · simpa [newest, depth, ofInt_toNat] using same
    · have saved := alike.saved_modEq slot (by omega)
      have leftOther : left.depth ≠ slot := by omega
      have rightOther : right.depth ≠ slot := by omega
      simpa [leftOther, rightOther] using saved
  · have otherFull : right.capacity ≤ right.depth := by
      simp only [capacity]
      omega
    rw [push_eq_error_iff.mpr ⟨full, rfl⟩, push_eq_error_iff.mpr ⟨otherFull, rfl⟩]
    exact .failure (by rw [capacity, capacity, slots])

theorem Alike.pop (alike : left.Alike right) :
    EndsAlike Eq (fun left right => left.1.Alike right.1 ∧ left.2.toNat ≡ right.2.toNat [MOD 4096])
      left.pop right.pop := by
  have depth := alike.depth_eq
  cases leftDepth : left.depth with
  | zero =>
      have rightDepth : right.depth = 0 := depth ▸ leftDepth
      rw [pop_eq_error_iff.mpr ⟨leftDepth, rfl⟩, pop_eq_error_iff.mpr ⟨rightDepth, rfl⟩]
      exact .failure rfl
  | succ last =>
      have rightDepth : right.depth = last + 1 := depth ▸ leftDepth
      rw [pop_eq_ok_iff.mpr ⟨last, leftDepth, rfl, rfl⟩,
        pop_eq_ok_iff.mpr ⟨last, rightDepth, rfl, rfl⟩]
      refine .success ⟨⟨rfl, fun slot used => ?_⟩, alike.saved_modEq last (by omega)⟩
      have used : slot < last := used
      have saved := alike.saved_modEq slot (by omega)
      have below : last ≠ slot := by omega
      simpa [Array.getElem?_setIfInBounds, below] using saved

end CallStack

namespace Machine

/-- Two machines agree in everything but the upper bits of their addresses. -/
structure Alike (left right : Machine) : Prop where
  memory_eq : left.memory = right.memory
  registers_eq : left.registers = right.registers
  index_modEq : left.index.toNat ≡ right.index.toNat [MOD 4096]
  counter_modEq : left.counter.toNat ≡ right.counter.toNat [MOD 4096]
  stack : left.stack.Alike right.stack
  delay_eq : left.delay = right.delay
  sound_eq : left.sound = right.sound
  waiting_eq : left.waiting = right.waiting
  randomKey_eq : left.randomKey = right.randomKey
  config_eq : left.config = right.config

namespace Alike

variable {width height : Nat} {left right : Machine}

theorem refl (machine : Machine) : machine.Alike machine :=
  ⟨rfl, rfl, rfl, rfl, .refl _, rfl, rfl, rfl, rfl, rfl⟩

theorem exists_eq (alike : left.Alike right) :
    ∃ index counter stack, right = { left with index, counter, stack } := by
  obtain ⟨memory, registers, -, -, -, delay, sound, waiting, randomKey, config⟩ := alike
  refine ⟨right.index, right.counter, right.stack, ?_⟩
  rw [memory, registers, delay, sound, waiting, randomKey, config]

theorem register_eq (alike : left.Alike right) (number : Register) :
    left.register number = right.register number := by
  simp only [register, alike.registers_eq]

theorem setRegister (alike : left.Alike right) (number : Register) (value : UInt8) :
    (left.setRegister number value).Alike (right.setRegister number value) :=
  { alike with registers_eq := congrArg (·.set number value) alike.registers_eq }

theorem advance (alike : left.Alike right) : left.advance.Alike right.advance :=
  { alike with counter_modEq := toNat_add_modEq alike.counter_modEq 2 }

theorem word_eq (alike : left.Alike right) : left.word = right.word := by
  have first := left.memory.read_congr alike.counter_modEq
  have second := left.memory.read_congr (alike.counter_modEq.add_right 1)
  simp only [word]
  rw [first, second, alike.memory_eq]

theorem call (alike : left.Alike right) (slots : left.stack.capacity = right.stack.capacity)
    (address : Address) : EndsAlike Eq Alike (left.call address) (right.call address) := by
  refine (alike.stack.push slots alike.counter_modEq).bind fun stack => ?_
  exact .success { alike with stack, counter_modEq := rfl }

theorem returnFromCall (alike : left.Alike right) :
    EndsAlike Eq Alike left.returnFromCall right.returnFromCall := by
  refine alike.stack.pop.bind fun popped => ?_
  exact .success { alike with stack := popped.1, counter_modEq := popped.2 }

theorem combine (alike : left.Alike right) (operation : Arithmetic) (target source : Register) :
    (left.combine operation target source).Alike (right.combine operation target source) := by
  have stored := alike.setRegister target
  simp only [Machine.combine, alike.register_eq, alike.config_eq]
  split
  · exact stored _
  · exact (stored _).setRegister flagRegister _

theorem skip (alike : left.Alike right) (held : HeldKeys) (condition : Condition) :
    Alike (if condition.holds left held then left.advance else left)
      (if condition.holds right held then right.advance else right) := by
  have passed : condition.holds left held = condition.holds right held := by
    obtain ⟨index, counter, stack, rfl⟩ := alike.exists_eq
    cases condition <;> rfl
  rw [passed]
  split
  · exact alike.advance
  · exact alike

theorem loadRegisters (alike : left.Alike right) (last : Register) :
    (left.loadRegisters last).Alike (right.loadRegisters last) := by
  have loaded (number : Nat) : left.memory.read (left.index.toNat + number) =
      right.memory.read (right.index.toNat + number) := by
    rw [alike.memory_eq]
    exact right.memory.read_congr (alike.index_modEq.add_right number)
  refine { alike with registers_eq := ?_ }
  simp only [Machine.loadRegisters, loaded, alike.registers_eq]

/-- The sprite is read at addresses that select the same bytes. -/
theorem drawSprite (alike : left.Alike right) (screen : Screen width height)
    (column row : Register) (rows : Nat) :
    EndsAlike Eq (DrawnAlike Alike) (left.drawSprite screen column row rows)
      (right.drawSprite screen column row rows) := by
  obtain ⟨index, counter, stack, rfl⟩ := alike.exists_eq
  have sprite := left.memory.readBlock_congr alike.index_modEq rows
  simp only [Machine.drawSprite]
  rw [← sprite]
  refine EndsAlike.bind (.refl (fun _ => rfl) (fun _ => rfl) _) ?_
  rintro ⟨drawn, met⟩ _ rfl
  exact .success ⟨alike.setRegister flagRegister _, rfl⟩

theorem perform (alike : left.Alike right) (slots : left.stack.capacity = right.stack.capacity)
    (screen : Screen width height) (held : HeldKeys) (instruction : Instruction) :
    EndsAlike Eq (DrawnAlike Alike) (left.perform screen held instruction)
      (right.perform screen held instruction) := by
  obtain ⟨index, counter, stack, rfl⟩ := alike.exists_eq
  cases instruction with
  | clearScreen => exact .success ⟨alike, rfl⟩
  | hostRoutine address => exact .success ⟨alike, rfl⟩
  | returnFromCall => exact alike.returnFromCall.withScreen screen
  | call address => exact (alike.call slots address).withScreen screen
  | jump address | jumpOffset address =>
      exact .success ⟨{ alike with counter_modEq := rfl }, rfl⟩
  | skip condition => exact .success ⟨alike.skip held condition, rfl⟩
  | setByte target value => exact .success ⟨alike.setRegister target _, rfl⟩
  | addByte target value => exact .success ⟨alike.setRegister target _, rfl⟩
  | arithmetic operation target source =>
      exact .success ⟨alike.combine operation target source, rfl⟩
  | setIndex address | pointAtGlyph source =>
      exact .success ⟨{ alike with index_modEq := rfl }, rfl⟩
  | random target mask =>
      have drawn : Alike { left with randomKey := Threefry.next left.randomKey }
          { left with index, counter, stack, randomKey := Threefry.next left.randomKey } :=
        { alike with randomKey_eq := rfl }
      exact .success ⟨drawn.setRegister target _, rfl⟩
  | draw column row rows => exact alike.drawSprite screen column row rows
  | readDelay target => exact .success ⟨alike.setRegister target _, rfl⟩
  | awaitKey target => exact .success ⟨{ alike with waiting_eq := rfl }, rfl⟩
  | setDelay source => exact .success ⟨{ alike with delay_eq := rfl }, rfl⟩
  | setSound source => exact .success ⟨{ alike with sound_eq := rfl }, rfl⟩
  | addIndex source =>
      exact .success ⟨{ alike with index_modEq := toNat_add_modEq alike.index_modEq _ }, rfl⟩
  | storeDecimal source =>
      have stored := left.memory.writeBlock_congr alike.index_modEq
      exact .success ⟨{ alike with memory_eq := stored _ }, rfl⟩
  | storeRegisters last =>
      have stored := left.memory.writeBlock_congr alike.index_modEq
      exact .success ⟨{ alike with memory_eq := stored _ }, rfl⟩
  | loadRegisters last => exact .success ⟨alike.loadRegisters last, rfl⟩

theorem execute (alike : left.Alike right) (slots : left.stack.capacity = right.stack.capacity)
    (screen : Screen width height) (held : HeldKeys) (word : Word) :
    EndsAlike Eq (DrawnAlike Alike) (left.execute screen held word)
      (right.execute screen held word) := by
  simp only [Machine.execute]
  cases Instruction.ofWord? word with
  | some instruction => exact alike.perform slots screen held instruction
  | none => exact .failure rfl

/-- Both machines fetch the same word, and what it does to them is alike. -/
theorem step (alike : left.Alike right) (slots : left.stack.capacity = right.stack.capacity)
    (screen : Screen width height) (held : HeldKeys) :
    EndsAlike (Failure.Alike Fault.Alike) (DrawnAlike Alike) (left.step screen held)
      (right.step screen held) := by
  have executed := alike.advance.execute slots screen held right.word
  have places := Int.natCast_modEq_iff.mpr alike.counter_modEq
  simp only [Machine.step, fetch, alike.word_eq]
  generalize left.advance.execute screen held right.word = leftEnd at executed ⊢
  generalize right.advance.execute screen held right.word = rightEnd at executed ⊢
  cases executed with
  | success same => exact .success same
  | @failure problem _ same =>
      subst same
      cases problem with
      | fault fault => exact .failure (.fault ⟨rfl, .some places⟩)
      | _ => exact .failure (.same _)

theorem tick (alike : left.Alike right) : left.tick.Alike right.tick :=
  { alike with
    delay_eq := congrArg countDown alike.delay_eq
    sound_eq := congrArg countDown alike.sound_eq }

theorem load (alike : left.Alike right) (program : Program) :
    (left.load program).Alike (right.load program) :=
  { alike with memory_eq := congrArg (·.load program) alike.memory_eq }

theorem resume (alike : left.Alike right) (key : Key) :
    (left.resume key).Alike (right.resume key) := by
  simp only [Machine.resume, alike.waiting_eq]
  split
  · exact { alike.setRegister _ _ with waiting_eq := rfl }
  · exact alike

end Alike
end Machine

/-! ## Runs and what is seen of them -/

variable {width height : Nat}

namespace Machine

/-- Two machines fit the same settings and agree in everything but the upper bits of addresses. -/
structure Related (config : Config) (left right : Machine) : Prop where
  left_fits : left.Fits config
  right_fits : right.Fits config
  alike : left.Alike right

namespace Related

variable {config : Config} {left right : Machine}

theorem initial (config : Config) : Related config (.initial config) (.initial config) :=
  ⟨fits_initial config, fits_initial config, .refl _⟩

theorem restart (related : Related config left right) :
    Related config (.initial left.config) (.initial right.config) := by
  rw [related.left_fits.config_eq, related.right_fits.config_eq]
  exact initial config

theorem slots_eq (related : Related config left right) :
    left.stack.capacity = right.stack.capacity :=
  related.left_fits.capacity_eq.trans related.right_fits.capacity_eq.symm

theorem load (related : Related config left right) (program : Program) :
    Related config (left.load program) (right.load program) where
  left_fits := related.left_fits.change (.load left program)
  right_fits := related.right_fits.change (.load right program)
  alike := related.alike.load program

theorem tick (related : Related config left right) : Related config left.tick right.tick where
  left_fits := related.left_fits.change (.tick left)
  right_fits := related.right_fits.change (.tick right)
  alike := related.alike.tick

theorem resume (related : Related config left right) (key : Key) :
    Related config (left.resume key) (right.resume key) where
  left_fits := related.left_fits.resume key
  right_fits := related.right_fits.resume key
  alike := related.alike.resume key

theorem execute (related : Related config left right) (screen : Screen width height)
    (held : HeldKeys) (word : Word) :
    EndsAlike (Failure.Alike Fault.Alike) (DrawnAlike (Related config))
      (left.execute screen held word) (right.execute screen held word) := by
  have ends := related.alike.execute related.slots_eq screen held word
  refine ends.imp (fun same => same ▸ .same _) fun leftEnd rightEnd same => ?_
  have leftFits := related.left_fits.change (.execute leftEnd)
  have rightFits := related.right_fits.change (.execute rightEnd)
  exact ⟨⟨leftFits, rightFits, same.1⟩, same.2⟩

theorem step (related : Related config left right) (screen : Screen width height)
    (held : HeldKeys) :
    EndsAlike (Failure.Alike Fault.Alike) (DrawnAlike (Related config))
      (left.step screen held) (right.step screen held) := by
  have ends := related.alike.step related.slots_eq screen held
  refine ends.imp id fun leftEnd rightEnd same => ?_
  have leftFits := (changes_step leftEnd).keep Fits.change related.left_fits
  have rightFits := (changes_step rightEnd).keep Fits.change related.right_fits
  exact ⟨⟨leftFits, rightFits, same.1⟩, same.2⟩

end Related
end Machine

/-- Machines that fit the same settings and differ in the upper bits of addresses only. -/
def Likeness.lowBits (config : Config) : Likeness where
  machines := Machine.Related config
  faults := Fault.Alike
  faults_refl := Fault.Alike.refl
  config_eq related := related.alike.config_eq
  waiting_eq related := related.alike.waiting_eq
  sound_eq related := related.alike.sound_eq
  restart related := related.restart
  load related := related.load
  tick related := related.tick
  resume related := related.resume
  execute related _ _ := related.execute
  step related _ _ := related.step

namespace Machine

/-- Nothing that is done to two machines tells them apart. -/
structure Indistinguishable (config : Config) (left right : Machine) : Prop where
  /-- On a screen with columns and rows a step draws the same from both, or it fails on both with
  one cause, at places that are alike. -/
  step : ∀ {width height : Nat}, 0 < width → 0 < height →
    ∀ (screen : Screen width height) (held : HeldKeys),
      (∃ leftAfter rightAfter drawn, left.step screen held = .ok (leftAfter, drawn) ∧
        right.step screen held = .ok (rightAfter, drawn) ∧
          Related config leftAfter rightAfter) ∨
      ∃ cause, left.step screen held = .error (.fault ⟨cause, some left.counter.toNat⟩) ∧
        right.step screen held = .error (.fault ⟨cause, some right.counter.toNat⟩) ∧
          left.counter.toNat ≡ right.counter.toNat [MOD 4096]
  /-- Both count their timers down alike. -/
  tick : Related config left.tick right.tick
  /-- Both take a key alike. -/
  resume : ∀ key, Related config (left.resume key) (right.resume key)
  /-- In one console or the other, they are alike after every history, and all else is equal. -/
  run : ∀ {width height : Nat} (console : Console width height) (history : List Operation),
    ({ console with machine := left }.run history).Alike (.lowBits config)
      ({ console with machine := right }.run history)
  /-- After every history both refuse an operation for reasons that are alike, or neither does. -/
  failure : ∀ {width height : Nat} (console : Console width height) (history : List Operation)
    (operation : Operation),
      Option.Rel (Failure.Alike Fault.Alike)
        (({ console with machine := left }.run history).perform operation).failure
        (({ console with machine := right }.run history).perform operation).failure

/-- The counter, the index and the saved addresses matter in their twelve low bits only. -/
theorem indistinguishable_of_related {config : Config} {left right : Machine}
    (related : Related config left right) : Indistinguishable config left right := by
  have runs {width height : Nat} (console : Console width height) (history : List Operation) :
      ({ console with machine := left }.run history).Alike (.lowBits config)
        ({ console with machine := right }.run history) := by
    apply Console.Alike.run
    exact ⟨related, rfl, rfl, rfl, optionRel_refl Fault.Alike.refl console.fault, rfl⟩
  refine ⟨?_, related.tick, related.resume, runs, fun console history operation => ?_⟩
  · intro width height columns rows screen held
    have ends := related.step screen held
    generalize leftStep : left.step screen held = leftEnd at ends ⊢
    generalize rightStep : right.step screen held = rightEnd at ends ⊢
    cases ends with
    | @success leftResult rightResult same =>
        exact .inl ⟨leftResult.1, rightResult.1, leftResult.2, rfl, by rw [same.2], same.1⟩
    | failure same =>
        obtain ⟨cause, -, rfl⟩ := (step_eq_error_iff columns rows).mp leftStep
        obtain ⟨other, -, rfl⟩ := (step_eq_error_iff columns rows).mp rightStep
        obtain ⟨_, _, leftSame, rightSame, faults⟩ | ⟨noFault, -⟩ :=
          same.fault_or_other Fault.Alike.refl
        · cases leftSame
          cases rightSame
          obtain rfl : cause = other := faults.cause_eq
          exact .inr ⟨cause, rfl, rfl, related.alike.counter_modEq⟩
        · exact (noFault _ rfl).elim
  · exact ((runs console history).perform operation).failure

/-- Two machines that differ in the upper bits of counter, index and the one saved address. -/
theorem indistinguishable_upper_bits :
    let machine (index counter saved : UInt16) : Machine :=
      { initial {} with index, counter, stack := ⟨(Array.replicate 16 0).set 0 saved, 1⟩ }
    let left := machine 0x0000 0x0200 0x0204
    let right := machine 0x3000 0x1200 0xF204
    Related {} left right ∧ Indistinguishable {} left right := by
  intro machine left right
  have fits (index counter saved : UInt16) : (machine index counter saved).Fits {} := by
    refine ⟨rfl, ⟨by simp [machine, CallStack.capacity], fun slot bound used => ?_⟩, rfl⟩
    have used : 0 < slot := used
    have other : 0 ≠ slot := by omega
    have bound : slot < (Array.replicate 16 (0 : UInt16)).size := by simpa [machine] using bound
    have room : 0 < (Array.replicate 16 (0 : UInt16)).size := by decide
    exact (Array.getElem_set_ne room bound other).trans (Array.getElem_replicate bound)
  have saved : left.stack.Alike right.stack := by
    refine ⟨rfl, fun slot used => ?_⟩
    obtain rfl : slot = 0 := Nat.lt_one_iff.mp used
    exact (by decide : 0x0204 ≡ 0xF204 [MOD 4096])
  have related : Related {} left right :=
    { left_fits := fits _ _ _
      right_fits := fits _ _ _
      alike :=
        { Alike.refl left with
          counter_modEq := (by decide : 0x0200 ≡ 0x1200 [MOD 4096])
          index_modEq := (by decide : 0x0000 ≡ 0x3000 [MOD 4096])
          stack := saved } }
  exact ⟨related, indistinguishable_of_related related⟩

end Machine
end ChipEight

import ChipEight.Execution

/-!
# Machines with other parts

A machine may be given another call stack, another random key, other settings, other timers and
another wait.  Only calls and returns look at the first, only draws at the second, and of the
settings one counts, the flag of a left shift.  The timers are read by one instruction and set by
two, and the wait is begun by one.  All else is done to the machine as it was before.
-/

namespace ChipEight

/-- Whether an instruction reads or sets a timer. -/
def Instruction.namesTimer : Instruction → Bool
  | .readDelay _ | .setDelay _ | .setSound _ => true
  | _ => false

namespace Machine

variable {width height : Nat} {stack : CallStack → CallStack}
  {randomKey : Threefry.Pair → Threefry.Pair} {config : Config → Config} {timer : UInt8 → UInt8}
  {wait : Option Register → Option Register}

/-- The same machine with its call stack, random key, settings, timers and wait changed. -/
def alter (stack : CallStack → CallStack) (randomKey : Threefry.Pair → Threefry.Pair)
    (config : Config → Config) (timer : UInt8 → UInt8)
    (wait : Option Register → Option Register) (machine : Machine) : Machine :=
  { machine with
    stack := stack machine.stack
    randomKey := randomKey machine.randomKey
    config := config machine.config
    delay := timer machine.delay
    sound := timer machine.sound
    waiting := wait machine.waiting }

/-- The same machine with its call stack, random key and settings changed. -/
def refit (stack : CallStack → CallStack) (randomKey : Threefry.Pair → Threefry.Pair)
    (config : Config → Config) (machine : Machine) : Machine :=
  { machine with
    stack := stack machine.stack
    randomKey := randomKey machine.randomKey
    config := config machine.config }

theorem refit_eq_alter : refit stack randomKey config = alter stack randomKey config id id := rfl

theorem tick_eq_alter : tick = alter id id id countDown id := rfl

theorem resume_refit (machine : Machine) (key : Key) :
    (machine.refit stack randomKey config).resume key =
      (machine.resume key).refit stack randomKey config := by
  cases waiting : machine.waiting with
  | none => simp [resume, refit, waiting]
  | some target => simp [resume, refit, waiting, setRegister]

theorem combine_alter
    (flag : ∀ settings, (config settings).normalizeShiftFlag = settings.normalizeShiftFlag)
    (machine : Machine) (operation : Arithmetic) (target source : Register) :
    (machine.alter stack randomKey config timer wait).combine operation target source =
      (machine.combine operation target source).alter stack randomKey config timer wait := by
  have values : operation.apply
      ((machine.alter stack randomKey config timer wait).register target).toNat
      ((machine.alter stack randomKey config timer wait).register source).toNat =
        operation.apply (machine.register target).toNat (machine.register source).toNat := rfl
  have flag : (machine.alter stack randomKey config timer wait).config.normalizeShiftFlag =
      machine.config.normalizeShiftFlag := flag machine.config
  simp only [combine, values, flag]
  split
  · rfl
  · rfl

theorem drawSprite_alter (machine : Machine) (screen : Screen width height)
    (column row : Register) (rows : Nat) :
    (machine.alter stack randomKey config timer wait).drawSprite screen column row rows =
      (machine.drawSprite screen column row rows).map
        (Prod.map (alter stack randomKey config timer wait) id) := by
  let altered := machine.alter stack randomKey config timer wait
  have same : screen.draw (altered.register column).toNat (altered.register row).toNat
      (altered.memory.readBlock altered.index.toNat rows) =
        screen.draw (machine.register column).toNat (machine.register row).toNat
          (machine.memory.readBlock machine.index.toNat rows) :=
    rfl
  simp only [drawSprite, altered] at same ⊢
  rw [same]
  cases screen.draw (machine.register column).toNat (machine.register row).toNat
      (machine.memory.readBlock machine.index.toNat rows) with
  | ok result => rfl
  | error failure => rfl

theorem call_alter {machine : Machine} {address : Address}
    (pushes : (stack machine.stack).push machine.counter.toNat =
      (machine.stack.push machine.counter.toNat).map stack) :
    (machine.alter stack randomKey config timer wait).call address =
      (machine.call address).map (alter stack randomKey config timer wait) := by
  simp only [call, alter, pushes]
  cases machine.stack.push machine.counter.toNat with
  | ok pushed => rfl
  | error cause => rfl

theorem returnFromCall_alter {machine : Machine}
    (pops : (stack machine.stack).pop = machine.stack.pop.map (Prod.map stack id)) :
    (machine.alter stack randomKey config timer wait).returnFromCall =
      machine.returnFromCall.map (alter stack randomKey config timer wait) := by
  simp only [returnFromCall, alter, pops]
  cases machine.stack.pop with
  | ok popped => rfl
  | error cause => rfl

theorem withScreen_map (screen : Screen width height) (change : Machine → Machine)
    (ends : Except Fault.Cause Machine) :
    withScreen screen (ends.map change) =
      (withScreen screen ends).map (Prod.map change id) := by
  cases ends with
  | ok machine => rfl
  | error cause => rfl

/-- An instruction does to the other parts what it does to the machine's own, as long as the call
stacks take and give the same addresses, the random keys give the same bytes, the timers are not
named or are the same, and a wait that begins is left alone. -/
theorem perform_alter
    (flag : ∀ settings, (config settings).normalizeShiftFlag = settings.normalizeShiftFlag)
    {machine : Machine} {instruction : Instruction}
    (pushes : ∀ address, instruction = .call address →
      (stack machine.stack).push machine.counter.toNat =
        (machine.stack.push machine.counter.toNat).map stack)
    (pops : (stack machine.stack).pop = machine.stack.pop.map (Prod.map stack id))
    (draws : ∀ target mask, instruction = .random target mask →
      Threefry.byte (randomKey machine.randomKey) = Threefry.byte machine.randomKey ∧
        Threefry.next (randomKey machine.randomKey) = randomKey (Threefry.next machine.randomKey))
    (timed : instruction.namesTimer = true → ∀ value, timer value = value)
    (waits : ∀ target, instruction = .awaitKey target → wait (some target) = some target)
    (screen : Screen width height) (held : HeldKeys) :
    (machine.alter stack randomKey config timer wait).perform screen held instruction =
      (machine.perform screen held instruction).map
        (Prod.map (alter stack randomKey config timer wait) id) := by
  cases instruction with
  | call address => simp only [perform, call_alter (pushes address rfl), withScreen_map]
  | returnFromCall => simp only [perform, returnFromCall_alter pops, withScreen_map]
  | random target mask =>
      obtain ⟨byte, next⟩ := draws target mask rfl
      simp only [perform, drawRandom, alter, byte, next]
      rfl
  | draw column row rows => exact machine.drawSprite_alter screen column row rows
  | arithmetic operation target source =>
      simp only [perform, combine_alter flag]
      rfl
  | skip condition =>
      have same : condition.holds (machine.alter stack randomKey config timer wait) held =
          condition.holds machine held := by
        cases condition <;> rfl
      simp only [perform, same]
      split
      · rfl
      · rfl
  | readDelay target | setDelay source | setSound source =>
      obtain rfl : timer = id := funext (timed rfl)
      rfl
  | awaitKey target =>
      simp only [perform, alter, Except.map, Prod.map, waits target rfl]
      rfl
  | _ => rfl

/-- With the timers as they were, only the call stacks and the random keys have to agree. -/
theorem perform_refit
    (flag : ∀ settings, (config settings).normalizeShiftFlag = settings.normalizeShiftFlag)
    {machine : Machine} {instruction : Instruction}
    (pushes : ∀ address, instruction = .call address →
      (stack machine.stack).push machine.counter.toNat =
        (machine.stack.push machine.counter.toNat).map stack)
    (pops : (stack machine.stack).pop = machine.stack.pop.map (Prod.map stack id))
    (draws : ∀ target mask, instruction = .random target mask →
      Threefry.byte (randomKey machine.randomKey) = Threefry.byte machine.randomKey ∧
        Threefry.next (randomKey machine.randomKey) = randomKey (Threefry.next machine.randomKey))
    (screen : Screen width height) (held : HeldKeys) :
    (machine.refit stack randomKey config).perform screen held instruction =
      (machine.perform screen held instruction).map
        (Prod.map (refit stack randomKey config) id) := by
  rw [refit_eq_alter]
  exact perform_alter flag pushes pops draws (fun _ _ => rfl) (fun _ _ => rfl) screen held

end Machine
end ChipEight

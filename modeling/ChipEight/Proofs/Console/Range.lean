import Mathlib.Logic.Relation
import ChipEight.Proofs.Console.Step
import ChipEight.Proofs.Execution.Path

/-!
# Ranges of a machine

Whatever is done to a console, every part of its machine stays a number within its width, and the
call stack keeps the slots that the settings gave it, with zeros in the free ones.
-/

namespace ChipEight

/-! ## Changes of a machine

Whatever is done to a console, its machine goes through a sequence of elementary changes.  What each
of them keeps, every operation keeps, one that was refused included.
-/

namespace Machine

/-- One elementary change of a machine. -/
inductive Change : Machine → Machine → Prop
  /-- A word is executed. -/
  | execute {width height : Nat} {before after : Machine} {screen drawn : Screen width height}
      {held : HeldKeys} {word : Word}
      (executed : before.execute screen held word = .ok (after, drawn)) : Change before after
  /-- The counter moves to the next word. -/
  | advance (machine : Machine) : Change machine machine.advance
  /-- The timers go down. -/
  | tick (machine : Machine) : Change machine machine.tick
  /-- A program is loaded. -/
  | load (machine : Machine) (program : Program) : Change machine (machine.load program)
  /-- A key ends a wait. -/
  | resume (machine : Machine) (key : Key) : Change machine (machine.resume key)
  /-- The machine starts afresh. -/
  | restart (machine : Machine) : Change machine (.initial machine.config)

/-- Any number of elementary changes. -/
def Changes : Machine → Machine → Prop :=
  Relation.ReflTransGen Change

theorem Change.changes {before after : Machine} (change : Change before after) :
    Changes before after :=
  .single change

theorem Changes.refl (machine : Machine) : Changes machine machine :=
  Relation.ReflTransGen.refl

theorem Changes.trans {first middle last : Machine} (earlier : Changes first middle)
    (later : Changes middle last) : Changes first last :=
  Relation.ReflTransGen.trans earlier later

/-- A property that every elementary change keeps is kept by any number of them. -/
theorem Changes.keep {Invariant : Machine → Prop}
    (keeps : ∀ {before after}, Change before after → Invariant before → Invariant after)
    {before after : Machine} (changes : Changes before after) (holds : Invariant before) :
    Invariant after := by
  induction changes with
  | refl => exact holds
  | tail _ change ih => exact keeps change ih

theorem changes_step {before after : Machine} {width height : Nat}
    {screen drawn : Screen width height} {held : HeldKeys}
    (stepped : before.step screen held = .ok (after, drawn)) : Changes before after :=
  (Change.advance before).changes.trans
    (Change.execute (step_eq_ok_iff_execute.mp stepped)).changes

end Machine

namespace Console

open Machine

variable {width height : Nat}

theorem changes_adopt {console : Console width height}
    {outcome : Except Failure (Machine × Screen width height)}
    (reached : ∀ after drawn, outcome = .ok (after, drawn) → Changes console.machine after) :
    Changes console.machine
      (console.adopt (.ofOutcome console.screen outcome)).console.machine := by
  cases outcome with
  | error failure => exact .refl _
  | ok result => exact reached result.1 result.2 rfl

theorem changes_load (console : Console width height) (bytes : Array UInt8) (source : String) :
    Changes console.machine (console.load bytes source).console.machine := by
  cases fits : Program.ofBytes bytes with
  | error failure => simpa [load, fits] using Changes.refl console.machine
  | ok program => simpa [load, fits] using (Change.load console.machine program).changes

theorem changes_loadMachine (console : Console width height) (bytes : Array UInt8) :
    Changes console.machine (console.loadMachine bytes).console.machine := by
  cases fits : Program.ofBytes bytes with
  | error failure => simpa [loadMachine, fits, refused] using Changes.refl console.machine
  | ok program =>
      simpa [loadMachine, fits, settled] using (Change.load console.machine program).changes

theorem changes_executeNext (console : Console width height) :
    Changes console.machine console.executeNext.console.machine := by
  rcases executeNext_cases console with
    ⟨after, drawn, keypad, stepped, moved⟩ | ⟨fault, -, stopped⟩ | same
  · rw [moved]
    exact changes_step stepped
  · rw [stopped]
    exact .refl _
  · rw [same]
    exact .refl _

theorem changes_consoleStep (console : Console width height) :
    Changes console.machine console.step.console.machine := by
  fun_cases step console
  · exact .refl _
  · exact .refl _
  · exact changes_executeNext console

theorem changes_tick (console : Console width height) :
    Changes console.machine console.tick.machine := by
  simp only [tick]
  split
  · exact .refl _
  · exact (Change.tick console.machine).changes

theorem changes_runFrame (console : Console width height) :
    Changes console.machine console.runFrame.console.machine :=
  runFrame_invariant (fun after => Changes console.machine after.machine)
    (fun after reached => reached.trans (changes_consoleStep after))
    (fun after reached => reached.trans (changes_tick after)) (.refl console.machine)

theorem changes_reset (console : Console width height) :
    Changes console.machine console.reset.machine :=
  (Change.restart console.machine).changes.trans (Change.load _ console.program).changes

theorem changes_deliver (console : Console width height) (key : Key) :
    Changes console.machine (console.deliver key).console.machine := by
  simp only [deliver]
  split
  · exact (Change.resume console.machine key).changes
  · exact .refl _

theorem changes_press (console : Console width height) (key : Key) :
    Changes console.machine (console.press key).console.machine := by
  simp only [press]
  split
  · exact .refl _
  · exact changes_deliver { console with keypad := (console.keypad.press key).1 } key

theorem changes_withKey {console : Console width height} (code : Int)
    {act : Key → Outcome width height}
    (acts : ∀ key, Changes console.machine (act key).console.machine) :
    Changes console.machine (console.withKey code act).console.machine :=
  withKey_invariant (fun after => Changes console.machine after.machine) (.refl console.machine)
    code acts

/-- Every operation takes the machine through elementary changes. -/
theorem changes_perform (console : Console width height) (operation : Operation) :
    Changes console.machine (console.perform operation).console.machine := by
  cases operation with
  | step => exact changes_consoleStep console
  | frame => exact changes_runFrame console
  | tick => exact changes_tick console
  | tone | cancelWait => exact .refl _
  | load bytes source => exact changes_load console bytes source
  | loadFile path contents =>
      cases contents with
      | error problem => exact .refl _
      | ok bytes => exact changes_load console bytes path
  | reset => exact changes_reset console
  | press code => exact changes_withKey code (changes_press console)
  | release code => exact changes_withKey code fun _ => .refl _
  | deliver code => exact changes_withKey code (changes_deliver console)
  | execute word =>
      rw [perform_execute]
      exact changes_adopt fun _ _ executed => (Change.execute executed).changes
  | machineStep =>
      rw [perform_machineStep]
      exact changes_adopt fun _ _ stepped => changes_step stepped
  | machineTick => exact (Change.tick console.machine).changes
  | machineLoad bytes => exact changes_loadMachine console bytes
  | machineLoadFile path contents =>
      cases contents with
      | error problem => exact .refl _
      | ok bytes => exact changes_loadMachine console bytes
  | machineResume code =>
      exact changes_withKey code fun key => (Change.resume console.machine key).changes

/-- A property of machines that every elementary change keeps holds after every history. -/
theorem machine_run_invariant {Invariant : Machine → Prop}
    (keeps : ∀ {before after}, Change before after → Invariant before → Invariant after)
    {console : Console width height} (holds : Invariant console.machine)
    (history : List Operation) : Invariant (console.run history).machine := by
  have kept : ∀ operation ∈ history, ∀ console : Console width height,
      Invariant console.machine → Invariant (console.perform operation).console.machine :=
    fun operation _ console => (changes_perform console operation).keep keeps
  exact run_invariant kept holds

end Console

/-! ## Ranges and slots -/

namespace Machine

/-- A machine fits its settings: they are its own, and its call stack has the slots they name. -/
structure Fits (machine : Machine) (config : Config) : Prop where
  /-- The settings never change. -/
  config_eq : machine.config = config
  /-- The call stack is within its slots and its free slots hold zero. -/
  stack : machine.stack.WellFormed
  /-- The number of slots is the one that was asked for. -/
  capacity_eq : machine.stack.capacity = config.stackSize

/-- Every part of a machine is a number within its width, and so is every part of its call stack of
some number of slots. -/
structure InRange (machine : Machine) (slots : Nat) : Prop where
  /-- There are as many cells as addresses. -/
  memory_length : machine.memory.cells.toList.length = 4096
  /-- Every cell holds a byte. -/
  memory_le : ∀ cell ∈ machine.memory.cells.toList, cell.toNat ≤ 255
  /-- There are sixteen registers. -/
  registers_length : machine.registers.toList.length = 16
  /-- Every register holds a byte. -/
  registers_le : ∀ value ∈ machine.registers.toList, value.toNat ≤ 255
  /-- The counter has sixteen bits. -/
  counter_le : machine.counter.toNat ≤ 65535
  /-- The index has sixteen bits. -/
  index_le : machine.index.toNat ≤ 65535
  /-- The delay timer is a byte. -/
  delay_le : machine.delay.toNat ≤ 255
  /-- The sound timer is a byte. -/
  sound_le : machine.sound.toNat ≤ 255
  /-- The call stack has the given number of slots. -/
  slots_length : machine.stack.slots.toList.length = slots
  /-- Every slot has sixteen bits. -/
  slots_le : ∀ slot ∈ machine.stack.slots.toList, slot.toNat ≤ 65535
  /-- The depth of the call stack is within its slots. -/
  depth_le : machine.stack.depth ≤ slots
  /-- A slot at or above the depth holds zero. -/
  free_eq_zero : ∀ slot (bound : slot < machine.stack.slots.size),
    machine.stack.depth ≤ slot → machine.stack.slots[slot] = 0
  /-- The machine is paused exactly while a register waits for a key. -/
  paused_iff : machine.paused = true ↔ 0 ≤ machine.waitingNumber ∧ machine.waitingNumber ≤ 15
  /-- No register waits for a key of a machine that is not paused. -/
  waitingNumber_of_awake : machine.paused = false → machine.waitingNumber = -1

/-- The widths being those of the parts themselves, a machine that fits its settings is in range. -/
theorem Fits.inRange {machine : Machine} {config : Config} (fits : machine.Fits config) :
    machine.InRange config.stackSize where
  memory_length := machine.memory.cells.size_toArray
  memory_le cell _ := Nat.le_of_lt_succ cell.toNat_lt
  registers_length := machine.registers.size_toArray
  registers_le value _ := Nat.le_of_lt_succ value.toNat_lt
  counter_le := Nat.le_of_lt_succ machine.counter.toNat_lt
  index_le := Nat.le_of_lt_succ machine.index.toNat_lt
  delay_le := Nat.le_of_lt_succ machine.delay.toNat_lt
  sound_le := Nat.le_of_lt_succ machine.sound.toNat_lt
  slots_length := fits.capacity_eq
  slots_le slot _ := Nat.le_of_lt_succ slot.toNat_lt
  depth_le := fits.capacity_eq ▸ fits.stack.depth_le
  free_eq_zero := fits.stack.free
  paused_iff := machine.paused_iff_waitingNumber
  waitingNumber_of_awake awake := by
    simp_all [paused, waitingNumber]

theorem fits_initial (config : Config) : (initial config).Fits config where
  config_eq := rfl
  stack := CallStack.wellFormed_empty config.stackSize
  capacity_eq := by simp [initial, CallStack.empty, CallStack.capacity]

theorem Fits.perform {before after : Machine} {config : Config} {instruction : Instruction}
    (fits : before.Fits config) (footprint : before.Footprint after instruction) :
    after.Fits config := by
  cases instruction with
  | returnFromCall =>
      obtain ⟨stack, counter, popped, rfl⟩ := footprint
      exact ⟨fits.config_eq, fits.stack.pop popped,
        (CallStack.capacity_pop popped).trans fits.capacity_eq⟩
  | call address =>
      obtain ⟨stack, pushed, rfl⟩ := footprint
      exact ⟨fits.config_eq, fits.stack.push pushed,
        (CallStack.capacity_push pushed).trans fits.capacity_eq⟩
  | _ =>
      have stack_eq := footprint.stack_eq (by simp) (by simp)
      exact ⟨footprint.config_eq.trans fits.config_eq, stack_eq ▸ fits.stack,
        stack_eq ▸ fits.capacity_eq⟩

theorem Fits.resume {machine : Machine} {config : Config} (fits : machine.Fits config)
    (key : Key) : (machine.resume key).Fits config := by
  simp only [Machine.resume]
  split
  · exact ⟨fits.config_eq, fits.stack, fits.capacity_eq⟩
  · exact fits

theorem Fits.change {before after : Machine} {config : Config} (change : Change before after)
    (fits : before.Fits config) : after.Fits config := by
  cases change with
  | execute executed =>
      obtain ⟨instruction, -, performed⟩ := execute_eq_ok_iff.mp executed
      exact fits.perform (footprint_of_perform performed)
  | advance | tick | load => exact ⟨fits.config_eq, fits.stack, fits.capacity_eq⟩
  | resume => exact fits.resume _
  | restart => exact fits.config_eq ▸ fits_initial before.config

end Machine

namespace Console

/-- The machine of a console fits its settings after every history. -/
theorem fits_run (config : Config) (width height : Nat) (history : List Operation) :
    ((initial config width height).run history).machine.Fits config :=
  machine_run_invariant Machine.Fits.change (Machine.fits_initial config) history

/-- The machine of a console is in range after every history, whether or not its operations were
refused. -/
theorem inRange_run (config : Config) (width height : Nat) (history : List Operation) :
    ((initial config width height).run history).machine.InRange config.stackSize :=
  (fits_run config width height history).inRange

end Console
end ChipEight

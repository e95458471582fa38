import ChipEight.Proofs.Console.Step
import ChipEight.Proofs.Execution.Fault

/-!
# Faults of a console

When a step is refused, with which fault, and that it changes nothing but the remembered fault.
-/

namespace ChipEight
namespace Console

variable {width height : Nat}

/-- The fault that a cause makes at the counter. -/
def faultOf (console : Console width height) (cause : Fault.Cause) : Fault :=
  ⟨cause, some console.machine.counter.toNat⟩

theorem executeNext_failure_eq_some_iff {console : Console width height} {failure : Failure} :
    console.executeNext.failure = some failure ↔
      console.machine.step console.screen console.keypad.held = .error failure := by
  cases stepped : console.machine.step console.screen console.keypad.held with
  | ok result => simp [(executeNext_of_ok stepped).2.1]
  | error refusal =>
      cases refusal with
      | fault fault => simp [(executeNext_of_fault stepped).2.1]
      | _ => simp [(executeNext_of_error stepped (by simp)).2.1]

/-- A running console refuses a step if the word at the counter cannot be executed. -/
theorem step_failure_eq_some_iff (columns : 0 < width) (rows : 0 < height)
    {console : Console width height} (running : console.fault = none)
    (awake : console.paused = false) {failure : Failure} :
    console.step.failure = some failure ↔
      ∃ cause, console.machine.Faults console.machine.word cause ∧
        failure = .fault (console.faultOf cause) := by
  rw [step_of_awake running awake, executeNext_failure_eq_some_iff,
    Machine.step_eq_error_iff columns rows]
  rfl

theorem step_failure_of_faults (columns : 0 < width) (rows : 0 < height)
    {console : Console width height} (running : console.fault = none)
    (awake : console.paused = false) {cause : Fault.Cause}
    (faults : console.machine.Faults console.machine.word cause) :
    console.step.failure = some (.fault (console.faultOf cause)) :=
  (step_failure_eq_some_iff columns rows running awake).mpr ⟨cause, faults, rfl⟩

theorem faults_of_step_failure (columns : 0 < width) (rows : 0 < height)
    {console : Console width height} (running : console.fault = none)
    (awake : console.paused = false) {fault : Fault}
    (failed : console.step.failure = some (.fault fault)) :
    console.machine.Faults console.machine.word fault.cause := by
  obtain ⟨cause, faults, same⟩ :=
    (step_failure_eq_some_iff columns rows running awake).mp failed
  cases same
  exact faults

/-- A refused step remembers the fault and changes nothing else. -/
theorem step_console_of_failure {console : Console width height} (running : console.fault = none)
    (awake : console.paused = false) {fault : Fault}
    (failed : console.step.failure = some (.fault fault)) :
    console.step.console = { console with fault := some fault } := by
  rw [step_of_awake running awake] at failed ⊢
  exact (executeNext_of_fault (executeNext_failure_eq_some_iff.mp failed)).1

/-- With a screen to draw on, a step fails by a fault or not at all, and the fault is remembered. -/
theorem halted_executeNext (columns : 0 < width) (rows : 0 < height)
    {console : Console width height} (running : console.halted = false) :
    console.executeNext.console.halted = console.executeNext.failure.isSome := by
  cases stepped : console.machine.step console.screen console.keypad.held with
  | ok result =>
      obtain ⟨moved, accepted, -⟩ := executeNext_of_ok stepped
      rw [moved, accepted]
      exact running
  | error failure =>
      obtain ⟨cause, -, rfl⟩ := (Machine.step_eq_error_iff columns rows).mp stepped
      obtain ⟨stopped, failed, -⟩ := executeNext_of_fault stepped
      rw [stopped, failed]
      rfl

theorem halted_steps (columns : 0 < width) (rows : 0 < height) {console : Console width height}
    (running : console.halted = false) (count : Nat) :
    (console.steps count).console.halted = (console.steps count).failure.isSome := by
  induction count generalizing console with
  | zero => exact running
  | succ count ih =>
      rw [steps]
      cases awake : console.paused with
      | true => exact running
      | false =>
          have first := halted_executeNext columns rows running
          have noFault : console.fault = none := by simpa [halted] using running
          rw [if_neg Bool.false_ne_true, step_of_awake noFault awake, Outcome.andThen]
          cases failed : console.executeNext.failure with
          | some failure => exact first
          | none => exact ih (first.trans (congrArg Option.isSome failed))

theorem halted_tick (console : Console width height) : console.tick.halted = console.halted := by
  simp only [tick]
  split <;> rfl

/-- A console that runs is stopped by a frame if the frame is refused. -/
theorem halted_runFrame (columns : 0 < width) (rows : 0 < height) {console : Console width height}
    (running : console.halted = false) :
    console.runFrame.console.halted = console.runFrame.failure.isSome := by
  have ran := halted_steps columns rows running console.machine.config.instructionsPerFrame.toNat
  simp only [runFrame, Outcome.andThen]
  split
  · exact ran
  · rename_i succeeded
    rw [succeeded] at ran
    exact (halted_tick _).trans ran

/-- A console that a fault had stopped before, or that waits, meets no new fault. -/
theorem running_of_step_fault {console : Console width height} {fault : Fault}
    (failed : console.step.failure = some (.fault fault)) :
    console.fault = none ∧ console.paused = false := by
  cases running : console.fault with
  | some stored => simp [step, running, Failure.haltedAfter] at failed
  | none =>
      cases awake : console.paused with
      | true => simp [step, running, awake] at failed
      | false => exact ⟨rfl, rfl⟩

/-- A running console refuses a step for one of three reasons, each told from the word at the
counter and the depth of the call stack.  The fault tells the reason and the place, and the console
is as before but for the remembered fault. -/
theorem step_fault_iff (columns : 0 < width) (rows : 0 < height)
    {console : Console width height} (wellFormed : console.machine.stack.WellFormed)
    (running : console.fault = none) (awake : console.paused = false) :
    ((∃ opcode address, console.step.failure = some (.fault ⟨.unknownOpcode opcode, address⟩)) ↔
        console.machine.word.IsUnknown) ∧
      ((∃ depth address, console.step.failure = some (.fault ⟨.stackOverflow depth, address⟩)) ↔
        console.machine.word.low / 4096 = 0x2 ∧
          console.machine.stack.depth = console.machine.stack.capacity) ∧
      ((∃ address, console.step.failure = some (.fault ⟨.stackUnderflow, address⟩)) ↔
        console.machine.word.low = 0x00EE ∧ console.machine.stack.depth = 0) ∧
      ∀ failure, console.step.failure = some failure →
        ∃ cause, failure = .fault (console.faultOf cause) ∧
          cause ∈ [.unknownOpcode console.machine.word.low,
            .stackOverflow console.machine.stack.capacity, .stackUnderflow] ∧
          console.step.console = { console with fault := some (console.faultOf cause) } := by
  have raw : console.machine.word.raw = (console.machine.word.low : Nat) :=
    Word.raw_ofBytes _ _
  refine ⟨⟨?_, ?_⟩, ⟨?_, ?_⟩, ⟨?_, ?_⟩, ?_⟩
  · rintro ⟨opcode, address, failed⟩
    cases faults_of_step_failure columns rows running awake failed with
    | unknownOpcode unknown => exact unknown
  · intro unknown
    exact ⟨_, _, step_failure_of_faults columns rows running awake (.unknownOpcode unknown)⟩
  · rintro ⟨depth, address, failed⟩
    cases faults_of_step_failure columns rows running awake failed with
    | stackOverflow call full => exact ⟨call, Nat.le_antisymm wellFormed.depth_le full⟩
  · rintro ⟨call, full⟩
    exact ⟨_, _, step_failure_of_faults columns rows running awake
      (.stackOverflow call (Nat.le_of_eq full.symm))⟩
  · rintro ⟨address, failed⟩
    cases faults_of_step_failure columns rows running awake failed with
    | stackUnderflow isReturn empty => exact ⟨by omega, empty⟩
  · rintro ⟨isReturn, empty⟩
    exact ⟨_, step_failure_of_faults columns rows running awake
      (.stackUnderflow (by omega) empty)⟩
  · intro failure failed
    obtain ⟨cause, faults, rfl⟩ :=
      (step_failure_eq_some_iff columns rows running awake).mp failed
    refine ⟨cause, rfl, ?_, step_console_of_failure running awake failed⟩
    cases faults <;> simp [raw]

/-- A console whose counter points at the glyphs refuses to execute them. -/
theorem step_fault_glyphs :
    let console : Console 1 1 :=
      { initial {} 1 1 with machine := { Machine.initial {} with counter := 0 } }
    ∃ opcode address, console.step.failure = some (.fault ⟨.unknownOpcode opcode, address⟩) :=
  (step_fault_iff (by decide) (by decide) (CallStack.wellFormed_empty 16) rfl rfl).1.mpr
    (by decide +kernel)

end Console
end ChipEight

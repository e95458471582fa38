import Mathlib.Data.List.Forall2
import ChipEight.Proofs.Console.Attempt
import ChipEight.Proofs.Console.Step
import ChipEight.Proofs.Execution.Likeness

/-!
# Resemblances of consoles

Two consoles side by side whose machines some words tell apart.  As long as none of these is
executed, every operation leaves the consoles resembling each other, is refused for the same reason
and has the same to tell.
-/

namespace ChipEight

variable {width height : Nat}

/-- A word that is executed, and the machine that executes it. -/
structure Execution where
  /-- The machine beforehand, with its counter at the word if the word was fetched. -/
  machine : Machine
  /-- The word. -/
  word : Word

/-- What the journal makes of a notice: whether it is counted, and its entries. -/
def Notice.told (notice : Notice) : Bool × List Entry :=
  (notice.isTrace, notice.entries)

namespace Console

/-- The step that a console attempts. -/
def execution (console : Console width height) : Execution :=
  ⟨console.machine, console.machine.word⟩

/-- The words that an operation executes, in order. -/
def executionsOf (console : Console width height) : Operation → List Execution
  | .execute word => [⟨console.machine, word⟩]
  | .machineStep => [console.execution]
  | operation => (console.attemptsOf operation).map execution

/-- The words that are executed in a history, in order. -/
def executions (console : Console width height) : List Operation → List Execution
  | [] => []
  | operation :: rest =>
      console.executionsOf operation ++ (console.perform operation).console.executions rest

/-- Two consoles have machines that resemble each other, and they are equal but perhaps for the
keys. -/
structure Resembles (resemblance : Resemblance) (left right : Console width height) : Prop where
  machine : resemblance.machines left.machine right.machine
  screen_eq : left.screen = right.screen
  keypad_eq : resemblance.heedsKeys → left.keypad = right.keypad
  buzzer_eq : left.buzzer = right.buzzer
  fault_eq : left.fault = right.fault
  program_eq : left.program = right.program

end Console

/-- Two operations leave consoles behind that resemble each other, are refused for the same reason
and have the same to tell. -/
structure Outcome.Resembles (resemblance : Resemblance) (left right : Outcome width height) :
    Prop where
  console : left.console.Resembles resemblance right.console
  failure_eq : left.failure = right.failure
  told_eq : left.notices.map Notice.told = right.notices.map Notice.told

variable {resemblance : Resemblance}

theorem Outcome.Resembles.andThen {left right : Outcome width height}
    {next : Console width height → Outcome width height}
    (first : left.Resembles resemblance right)
    (second : left.failure = none →
      (next left.console).Resembles resemblance (next right.console)) :
    (left.andThen next).Resembles resemblance (right.andThen next) := by
  cases failed : left.failure with
  | some failure =>
      have failedToo := first.failure_eq.symm.trans failed
      simpa only [Outcome.andThen, failed, failedToo] using first
  | none =>
      have succeeded := first.failure_eq.symm.trans failed
      have later := second failed
      simp only [Outcome.andThen, failed, succeeded]
      refine ⟨later.console, later.failure_eq, ?_⟩
      simp only [List.map_append, first.told_eq, later.told_eq]

namespace Console

/-- While the machine does not wait, a press holds the key down, sends the listener away, and does
nothing else. -/
theorem press_of_awake {console : Console width height} (awake : console.paused = false)
    (key : Key) :
    console.press key = settled { console with keypad := (console.keypad.press key).1 } := by
  have still : Console.paused { console with keypad := (console.keypad.press key).1 } = false :=
    awake
  simp only [press, deliver]
  split
  · rfl
  · rw [if_neg (by simp [still])]
    rfl

namespace Resembles

variable {left right : Console width height}

theorem settled (same : left.Resembles resemblance right) :
    (Console.settled left).Resembles resemblance (Console.settled right) :=
  ⟨same, rfl, rfl⟩

theorem refused (same : left.Resembles resemblance right) (failure : Failure) :
    (left.refused failure).Resembles resemblance (right.refused failure) :=
  ⟨same, rfl, rfl⟩

theorem paused_eq (same : left.Resembles resemblance right) : left.paused = right.paused :=
  resemblance.paused_eq same.machine

theorem live_eq (same : left.Resembles resemblance right) : left.live = right.live := by
  simp only [live, halted, same.fault_eq, same.paused_eq]

theorem executeNext (same : left.Resembles resemblance right)
    (untold : ¬ resemblance.tells left.machine left.machine.word) :
    left.executeNext.Resembles resemblance right.executeNext := by
  have keys : resemblance.heedsKeys → left.keypad.held = right.keypad.held :=
    fun heeds => congrArg Keypad.held (same.keypad_eq heeds)
  have stepped := resemblance.step same.machine left.screen keys untold
  have counter := resemblance.counter_eq same.machine
  have word := resemblance.word_eq same.machine
  generalize leftStep : left.machine.step left.screen left.keypad.held = leftEnd at stepped
  generalize rightStep : right.machine.step left.screen right.keypad.held = rightEnd at stepped
  rw [same.screen_eq] at rightStep
  cases stepped with
  | @success leftEnd rightEnd drawn =>
      obtain ⟨machines, screens⟩ := drawn
      have waiting := resemblance.waiting_eq machines
      cases waits : leftEnd.1.waiting with
      | none =>
          simp only [executeNext_eq, leftStep, rightStep, ← waiting, waits, counter, word]
          exact ⟨{ same with machine := machines, screen_eq := screens }, rfl, rfl⟩
      | some register =>
          simp only [executeNext_eq, leftStep, rightStep, ← waiting, waits, counter, word]
          refine
            ⟨{ same with machine := machines, screen_eq := screens, keypad_eq := ?_ }, rfl, rfl⟩
          exact fun heeds => congrArg (·.listen ()) (same.keypad_eq heeds)
  | @failure failure _ equal =>
      subst equal
      cases failure with
      | fault fault =>
          simp only [executeNext_eq, leftStep, rightStep, counter, word]
          refine ⟨{ same with fault_eq := rfl }, rfl, ?_⟩
          simp [Notice.told, Notice.isTrace, Notice.entries,
            resemblance.registerLines_eq same.machine]
      | _ =>
          simp only [executeNext_eq, leftStep, rightStep, counter, word]
          exact ⟨same, rfl, rfl⟩

theorem step (same : left.Resembles resemblance right)
    (untold : ∀ attempt ∈ left.attempts 1,
      ¬ resemblance.tells attempt.machine attempt.machine.word) :
    left.step.Resembles resemblance right.step := by
  cases live : left.live with
  | true =>
      rw [step_of_live live, step_of_live (same.live_eq ▸ live)]
      rw [attempts_one, if_pos live] at untold
      exact same.executeNext (untold left List.mem_cons_self)
  | false =>
      cases stored : left.fault with
      | some fault =>
          simp only [Console.step, ← same.fault_eq, stored]
          exact same.refused _
      | none =>
          have waits : left.paused = true := by simpa [Console.live, halted, stored] using live
          simp only [Console.step, ← same.fault_eq, stored, ← same.paused_eq, waits, if_true]
          exact same.settled

theorem steps (same : left.Resembles resemblance right) (count : Nat)
    (untold : ∀ attempt ∈ left.attempts count,
      ¬ resemblance.tells attempt.machine attempt.machine.word) :
    (left.steps count).Resembles resemblance (right.steps count) := by
  induction count generalizing left right with
  | zero => exact same.settled
  | succ count ih =>
      cases live : left.live with
      | true =>
          rw [attempts_of_live live, List.forall_mem_cons] at untold
          rw [steps_of_live live, steps_of_live (same.live_eq ▸ live)]
          have first := same.executeNext untold.1
          refine first.andThen fun succeeded => ih first.console ?_
          simpa only [succeeded] using untold.2
      | false =>
          have first := same.step (by simp [attempts_of_not_live live])
          simp only [Console.steps, ← same.paused_eq]
          split
          · exact same.settled
          · refine first.andThen fun _ => ih first.console ?_
            rw [(step_of_not_live live).1, attempts_of_not_live live]
            simp

theorem tick (same : left.Resembles resemblance right) :
    left.tick.Resembles resemblance right.tick := by
  simp only [Console.tick, same.paused_eq]
  split
  · exact same
  · exact { same with machine := resemblance.tick same.machine }

theorem updateTone (same : left.Resembles resemblance right) :
    left.updateTone.Resembles resemblance right.updateTone :=
  { same with
    buzzer_eq := by
      simp only [Console.updateTone, Machine.shouldSound, same.buzzer_eq,
        resemblance.sound_eq same.machine] }

theorem runFrame (same : left.Resembles resemblance right)
    (untold : ∀ attempt ∈ left.attemptsOf .frame,
      ¬ resemblance.tells attempt.machine attempt.machine.word) :
    left.runFrame.Resembles resemblance right.runFrame := by
  simp only [Console.runFrame, ← resemblance.pace_eq same.machine]
  have ran := same.steps _ untold
  exact ran.andThen fun _ => ran.console.tick.updateTone.settled

theorem load (same : left.Resembles resemblance right) (bytes : Array UInt8) (source : String) :
    (left.load bytes source).Resembles resemblance (right.load bytes source) := by
  cases fits : Program.ofBytes bytes with
  | error failure =>
      simp only [Console.load, fits]
      exact same.refused failure
  | ok program =>
      simp only [Console.load, fits]
      exact ⟨{ same with
        machine := resemblance.load same.machine program, program_eq := rfl }, rfl, rfl⟩

theorem loadMachine (same : left.Resembles resemblance right) (bytes : Array UInt8) :
    (left.loadMachine bytes).Resembles resemblance (right.loadMachine bytes) := by
  cases fits : Program.ofBytes bytes with
  | error failure => simpa only [Console.loadMachine, fits] using same.refused failure
  | ok program =>
      simp only [Console.loadMachine, fits]
      exact settled { same with machine := resemblance.load same.machine program }

theorem reset (same : left.Resembles resemblance right) :
    left.reset.Resembles resemblance right.reset where
  machine := by
    have restarted := resemblance.load (resemblance.restart same.machine) left.program
    simpa only [Console.reset, same.program_eq] using restarted
  screen_eq := rfl
  keypad_eq heeds := congrArg Keypad.cancel (same.keypad_eq heeds)
  buzzer_eq := congrArg Buzzer.stop same.buzzer_eq
  fault_eq := rfl
  program_eq := same.program_eq

theorem deliver (same : left.Resembles resemblance right) (key : Key) :
    (left.deliver key).Resembles resemblance (right.deliver key) := by
  simp only [Console.deliver, same.paused_eq]
  split
  · exact ⟨{ same with machine := resemblance.resume same.machine key }, rfl, rfl⟩
  · exact same.settled

/-- A press on both sides.  Who listens matters only while the machines wait, and then the keypads
are equal. -/
theorem press (same : left.Resembles resemblance right) (key : Key) :
    (left.press key).Resembles resemblance (right.press key) := by
  have pressed : Console.Resembles resemblance
      { left with keypad := (left.keypad.press key).1 }
      { right with keypad := (right.keypad.press key).1 } :=
    { same with keypad_eq := fun heeds => congrArg (·.press key |>.1) (same.keypad_eq heeds) }
  cases waits : left.paused with
  | false =>
      rw [press_of_awake waits, press_of_awake (same.paused_eq ▸ waits)]
      exact pressed.settled
  | true =>
      have keypads := same.keypad_eq (resemblance.heedsKeys_of_paused same.machine waits)
      rw [keypads] at pressed
      simp only [Console.press, keypads]
      split
      · exact pressed.settled
      · exact pressed.deliver key

theorem withKey (same : left.Resembles resemblance right) (code : Int)
    {act other : Key → Outcome width height}
    (acts : ∀ key, (act key).Resembles resemblance (other key)) :
    (left.withKey code act).Resembles resemblance (right.withKey code other) := by
  cases found : Key.ofInt code with
  | ok key => simpa only [Console.withKey, found] using acts key
  | error failure => simpa only [Console.withKey, found] using same.refused failure

theorem adopt (same : left.Resembles resemblance right)
    {leftEnd rightEnd : Except Failure (Machine × Screen width height)}
    (ends : EndsAlike Eq (Machine.DrawnAlike resemblance.machines) leftEnd rightEnd) :
    (left.adopt (.ofOutcome left.screen leftEnd)).Resembles resemblance
      (right.adopt (.ofOutcome right.screen rightEnd)) := by
  cases ends with
  | success drawn =>
      exact settled { same with machine := drawn.1, screen_eq := drawn.2 }
  | failure equal =>
      subst equal
      exact same.refused _

/-- An operation that executes no word that tells the consoles apart leaves them as they are to each
other. -/
theorem perform (same : left.Resembles resemblance right) {operation : Operation}
    (untold : ∀ execution ∈ left.executionsOf operation,
      ¬ resemblance.tells execution.machine execution.word) :
    (left.perform operation).Resembles resemblance (right.perform operation) := by
  have keys : resemblance.heedsKeys → left.keypad.held = right.keypad.held :=
    fun heeds => congrArg Keypad.held (same.keypad_eq heeds)
  cases operation with
  | step =>
      exact same.step fun attempt member => untold attempt.execution (List.mem_map_of_mem member)
  | frame =>
      exact same.runFrame fun attempt member =>
        untold attempt.execution (List.mem_map_of_mem member)
  | tick => exact same.tick.settled
  | tone => exact same.updateTone.settled
  | load bytes source => exact same.load bytes source
  | loadFile path contents =>
      cases contents with
      | ok bytes => exact same.load bytes path
      | error problem => exact same.refused _
  | reset => exact same.reset.settled
  | press code => exact same.withKey code same.press
  | release code =>
      exact same.withKey code fun key =>
        settled { same with
          keypad_eq := fun heeds => congrArg (·.release key) (same.keypad_eq heeds) }
  | cancelWait =>
      exact settled { same with
        keypad_eq := fun heeds => congrArg (·.cancel) (same.keypad_eq heeds) }
  | deliver code => exact same.withKey code same.deliver
  | execute word =>
      have ends := resemblance.execute same.machine left.screen keys
        (untold ⟨left.machine, word⟩ List.mem_cons_self)
      rw [perform_execute, perform_execute]
      apply same.adopt
      simpa only [same.screen_eq] using ends
  | machineStep =>
      have ends := resemblance.step same.machine left.screen keys
        (untold left.execution List.mem_cons_self)
      rw [perform_machineStep, perform_machineStep]
      apply same.adopt
      simpa only [same.screen_eq] using ends
  | machineTick => exact settled { same with machine := resemblance.tick same.machine }
  | machineLoad bytes => exact same.loadMachine bytes
  | machineLoadFile path contents =>
      cases contents with
      | ok bytes => exact same.loadMachine bytes
      | error problem => exact same.refused _
  | machineResume code =>
      exact same.withKey code fun key =>
        settled { same with machine := resemblance.resume same.machine key }

theorem run (same : left.Resembles resemblance right) {history : List Operation}
    (untold : ∀ execution ∈ left.executions history,
      ¬ resemblance.tells execution.machine execution.word) :
    (left.run history).Resembles resemblance (right.run history) := by
  induction history generalizing left right with
  | nil => exact same
  | cons operation rest ih =>
      obtain ⟨first, later⟩ := List.forall_mem_append.mp untold
      exact ih (same.perform first).console later

/-- Consoles that resemble each other go through histories that do, as long as no word is executed
that tells them apart. -/
theorem conduct (same : left.Resembles resemblance right) {history : List Operation}
    (untold : ∀ execution ∈ left.executions history,
      ¬ resemblance.tells execution.machine execution.word) :
    List.Forall₂ (fun entry other => entry.1.Resembles resemblance other.1 ∧ entry.2 = other.2)
      (left.conduct history) (right.conduct history) := by
  induction history generalizing left right with
  | nil => exact .nil
  | cons operation rest ih =>
      obtain ⟨first, later⟩ := List.forall_mem_append.mp untold
      have performed := same.perform first
      exact .cons ⟨performed.console, performed.failure_eq⟩ (ih performed.console later)

end Resembles
end Console
end ChipEight

import ChipEight.Proofs.Console.Step
import ChipEight.Proofs.Execution.Likeness

/-!
# Likenesses of consoles

Two consoles side by side.  If their machines are alike and all else is equal, no operation tells
them apart.  How often the tone was started and stopped is not compared: nothing depends on it.
-/

namespace ChipEight

variable {width height : Nat}

/-- Two consoles have machines and faults that are alike, and they are equal but for the past of
the tone. -/
structure Console.Alike (likeness : Likeness) (left right : Console width height) : Prop where
  machine : likeness.machines left.machine right.machine
  screen_eq : left.screen = right.screen
  keypad_eq : left.keypad = right.keypad
  playing_eq : left.buzzer.playing = right.buzzer.playing
  fault : Option.Rel likeness.faults left.fault right.fault
  program_eq : left.program = right.program

/-- Two operations leave consoles behind that are alike, and are refused for reasons that are. -/
structure Outcome.Alike (likeness : Likeness) (left right : Outcome width height) : Prop where
  console : left.console.Alike likeness right.console
  failure : Option.Rel (Failure.Alike likeness.faults) left.failure right.failure

variable {likeness : Likeness}

theorem Outcome.Alike.andThen {left right : Outcome width height}
    {next : Console width height → Outcome width height}
    (first : left.Alike likeness right)
    (second : (next left.console).Alike likeness (next right.console)) :
    (left.andThen next).Alike likeness (right.andThen next) := by
  have failure := first.failure
  cases leftFailure : left.failure <;> cases rightFailure : right.failure <;>
    rw [leftFailure, rightFailure] at failure <;> cases failure
  · simp only [Outcome.andThen, leftFailure, rightFailure]
    exact ⟨second.console, second.failure⟩
  · simpa only [Outcome.andThen, leftFailure, rightFailure] using first

namespace Console
namespace Alike

variable {left right : Console width height}

theorem settled (alike : left.Alike likeness right) :
    (Console.settled left).Alike likeness (Console.settled right) :=
  ⟨alike, .none⟩

theorem refused (alike : left.Alike likeness right) (failure : Failure) :
    (left.refused failure).Alike likeness (right.refused failure) :=
  ⟨alike, .some (.same failure)⟩

theorem paused_eq (alike : left.Alike likeness right) : left.paused = right.paused :=
  likeness.paused_eq alike.machine

/-- Machines that take a step in step with each other leave the consoles alike. -/
theorem executeNext (alike : left.Alike likeness right) :
    left.executeNext.Alike likeness right.executeNext := by
  have stepped := likeness.step alike.machine left.screen left.keypad.held
  generalize leftStep : left.machine.step left.screen left.keypad.held = leftEnd at stepped
  generalize rightStep : right.machine.step left.screen left.keypad.held = rightEnd at stepped
  rw [alike.screen_eq, alike.keypad_eq] at rightStep
  cases stepped with
  | success same =>
      obtain ⟨leftConsole, leftFailure, -⟩ := executeNext_of_ok leftStep
      obtain ⟨rightConsole, rightFailure, -⟩ := executeNext_of_ok rightStep
      refine ⟨?_, by rw [leftFailure, rightFailure]; exact .none⟩
      rw [leftConsole, rightConsole]
      exact
        { alike with
          machine := same.1
          screen_eq := same.2
          keypad_eq := by rw [likeness.paused_eq same.1, alike.keypad_eq] }
  | failure same =>
      rcases same.fault_or_other likeness.faults_refl with
        ⟨leftFault, rightFault, rfl, rfl, faults⟩ | ⟨leftOther, rightOther⟩
      · obtain ⟨leftConsole, leftFailure, -⟩ := executeNext_of_fault leftStep
        obtain ⟨rightConsole, rightFailure, -⟩ := executeNext_of_fault rightStep
        refine ⟨?_, by rw [leftFailure, rightFailure]; exact .some (.fault faults)⟩
        rw [leftConsole, rightConsole]
        exact { alike with fault := .some faults }
      · obtain ⟨leftConsole, leftFailure, -⟩ := executeNext_of_error leftStep leftOther
        obtain ⟨rightConsole, rightFailure, -⟩ := executeNext_of_error rightStep rightOther
        refine ⟨?_, by rw [leftFailure, rightFailure]; exact .some same⟩
        rw [leftConsole, rightConsole]
        exact alike

theorem step (alike : left.Alike likeness right) : left.step.Alike likeness right.step := by
  have fault := alike.fault
  cases leftFault : left.fault <;> cases rightFault : right.fault <;>
    rw [leftFault, rightFault] at fault <;> cases fault
  · simp only [Console.step, leftFault, rightFault, alike.paused_eq]
    split
    · exact alike.settled
    · exact alike.executeNext
  · rename_i same
    simp only [Console.step, leftFault, rightFault]
    exact ⟨alike, .some (.halted same)⟩

theorem steps (alike : left.Alike likeness right) (count : Nat) :
    (left.steps count).Alike likeness (right.steps count) := by
  induction count generalizing left right with
  | zero => exact alike.settled
  | succ count ih =>
      simp only [Console.steps, alike.paused_eq]
      split
      · exact alike.settled
      · exact alike.step.andThen (ih alike.step.console)

theorem tick (alike : left.Alike likeness right) : left.tick.Alike likeness right.tick := by
  simp only [Console.tick, alike.paused_eq]
  split
  · exact alike
  · exact { alike with machine := likeness.tick alike.machine }

theorem updateTone (alike : left.Alike likeness right) :
    left.updateTone.Alike likeness right.updateTone :=
  { alike with
    playing_eq := by
      simp only [Console.updateTone, Buzzer.playing_set, Machine.shouldSound,
        likeness.sound_eq alike.machine] }

theorem runFrame (alike : left.Alike likeness right) :
    left.runFrame.Alike likeness right.runFrame := by
  simp only [Console.runFrame, likeness.config_eq alike.machine]
  have ran := alike.steps right.machine.config.instructionsPerFrame.toNat
  exact ran.andThen ran.console.tick.updateTone.settled

theorem load (alike : left.Alike likeness right) (bytes : Array UInt8) (source : String) :
    (left.load bytes source).Alike likeness (right.load bytes source) := by
  cases fits : Program.ofBytes bytes with
  | error failure =>
      simp only [Console.load, fits]
      exact alike.refused failure
  | ok program =>
      simp only [Console.load, fits]
      exact
        ⟨{ alike with machine := likeness.load alike.machine program, program_eq := rfl }, .none⟩

theorem loadFile (alike : left.Alike likeness right) (path : String)
    (contents : Except Folder.Problem (Array UInt8)) :
    (left.loadFile path contents).Alike likeness (right.loadFile path contents) := by
  cases contents with
  | error problem => exact alike.refused _
  | ok bytes => exact alike.load bytes path

theorem reset (alike : left.Alike likeness right) : left.reset.Alike likeness right.reset where
  machine := by
    have restarted := likeness.load (likeness.restart alike.machine) left.program
    simpa only [Console.reset, alike.program_eq] using restarted
  screen_eq := rfl
  keypad_eq := by simp only [Console.reset, alike.keypad_eq]
  playing_eq := (left.buzzer.playing_set false).trans (right.buzzer.playing_set false).symm
  fault := .none
  program_eq := alike.program_eq

theorem deliver (alike : left.Alike likeness right) (key : Key) :
    (left.deliver key).Alike likeness (right.deliver key) := by
  simp only [Console.deliver, alike.paused_eq]
  split
  · exact ⟨{ alike with machine := likeness.resume alike.machine key }, .none⟩
  · exact alike.settled

theorem press (alike : left.Alike likeness right) (key : Key) :
    (left.press key).Alike likeness (right.press key) := by
  simp only [Console.press, alike.keypad_eq]
  have pressed : Console.Alike likeness
      { left with keypad := (right.keypad.press key).1 }
      { right with keypad := (right.keypad.press key).1 } := { alike with keypad_eq := rfl }
  split
  · exact pressed.settled
  · exact pressed.deliver key

theorem withKey (alike : left.Alike likeness right) (code : Int)
    {act other : Key → Outcome width height}
    (acts : ∀ key, (act key).Alike likeness (other key)) :
    (left.withKey code act).Alike likeness (right.withKey code other) := by
  cases found : Key.ofInt code with
  | ok key => simpa only [Console.withKey, found] using acts key
  | error failure => simpa only [Console.withKey, found] using alike.refused failure

theorem adopt (alike : left.Alike likeness right)
    {leftEnd rightEnd : Except Failure (Machine × Screen width height)}
    (ends : EndsAlike (Failure.Alike likeness.faults) (Machine.DrawnAlike likeness.machines)
      leftEnd rightEnd) :
    (left.adopt (.ofOutcome left.screen leftEnd)).Alike likeness
      (right.adopt (.ofOutcome right.screen rightEnd)) := by
  cases ends with
  | success same => exact ⟨{ alike with machine := same.1, screen_eq := same.2 }, .none⟩
  | failure same => exact ⟨alike, .some same⟩

theorem loadMachine (alike : left.Alike likeness right) (bytes : Array UInt8) :
    (left.loadMachine bytes).Alike likeness (right.loadMachine bytes) := by
  cases fits : Program.ofBytes bytes with
  | error failure => simpa only [Console.loadMachine, fits] using alike.refused failure
  | ok program =>
      simp only [Console.loadMachine, fits]
      exact settled { alike with machine := likeness.load alike.machine program }

/-- No operation tells consoles apart that are alike. -/
theorem perform (alike : left.Alike likeness right) (operation : Operation) :
    (left.perform operation).Alike likeness (right.perform operation) := by
  cases operation with
  | step => exact alike.step
  | frame => exact alike.runFrame
  | tick => exact alike.tick.settled
  | tone => exact alike.updateTone.settled
  | load bytes source => exact alike.load bytes source
  | loadFile path contents => exact alike.loadFile path contents
  | reset => exact alike.reset.settled
  | press code => exact alike.withKey code alike.press
  | release code =>
      exact alike.withKey code fun key =>
        settled { alike with keypad_eq := congrArg (·.release key) alike.keypad_eq }
  | cancelWait => exact settled { alike with keypad_eq := congrArg (·.cancel) alike.keypad_eq }
  | deliver code => exact alike.withKey code alike.deliver
  | execute word =>
      have ends := likeness.execute alike.machine left.screen left.keypad.held word
      rw [perform_execute, perform_execute]
      apply alike.adopt
      simpa only [alike.screen_eq, alike.keypad_eq] using ends
  | machineStep =>
      have ends := likeness.step alike.machine left.screen left.keypad.held
      rw [perform_machineStep, perform_machineStep]
      apply alike.adopt
      simpa only [alike.screen_eq, alike.keypad_eq] using ends
  | machineTick => exact settled { alike with machine := likeness.tick alike.machine }
  | machineLoad bytes => exact alike.loadMachine bytes
  | machineLoadFile path contents =>
      cases contents with
      | error problem => exact alike.refused _
      | ok bytes => exact alike.loadMachine bytes
  | machineResume code =>
      exact alike.withKey code fun key =>
        settled { alike with machine := likeness.resume alike.machine key }

/-- No history tells consoles apart that are alike. -/
theorem run (alike : left.Alike likeness right) (history : List Operation) :
    (left.run history).Alike likeness (right.run history) := by
  induction history generalizing left right with
  | nil => exact alike
  | cons operation rest ih => exact ih (alike.perform operation).console

/-- If the machines are equal, so is what can be seen of any history and of what follows it. -/
theorem run_eq (alike : left.Alike .equality right) (history : List Operation)
    (operation : Operation) :
    (left.run history).machine = (right.run history).machine ∧
      (left.run history).screen = (right.run history).screen ∧
        (left.run history).fault = (right.run history).fault ∧
          ((left.run history).perform operation).failure =
            ((right.run history).perform operation).failure := by
  have ran := alike.run history
  have ended := (ran.perform operation).failure
  exact ⟨ran.machine, ran.screen_eq, eq_of_optionRel id ran.fault,
    eq_of_optionRel Failure.Alike.eq ended⟩

end Alike
end Console
end ChipEight

import ChipEight.Console
import ChipEight.Proofs.Execution.Footprint
import ChipEight.Proofs.Execution.Fault

/-!
# Steps and runs of a console

What one step leaves behind, which words an operation executed, and what histories of operations
keep because every operation does.
-/

namespace ChipEight

/-! ## Runs -/

namespace Console

variable {width height : Nat}

/-- The consoles that a history goes through, each with why its operation was refused, if it was. -/
def conduct (console : Console width height) :
    List Operation → List (Console width height × Option Failure)
  | [] => []
  | operation :: rest =>
      let outcome := console.perform operation
      (outcome.console, outcome.failure) :: outcome.console.conduct rest

theorem run_append (console : Console width height) (earlier later : List Operation) :
    console.run (earlier ++ later) = (console.run earlier).run later := by
  induction earlier generalizing console with
  | nil => rfl
  | cons operation earlier ih => exact ih _

/-- Every console that a history goes through is where some beginning of it leads. -/
theorem exists_run_of_mem_conduct {console : Console width height} {history : List Operation}
    {entry : Console width height × Option Failure} (member : entry ∈ console.conduct history) :
    ∃ earlier, earlier <+: history ∧ console.run earlier = entry.1 := by
  induction history generalizing console with
  | nil => cases member
  | cons operation rest ih =>
      rcases List.mem_cons.mp member with rfl | later
      · exact ⟨[operation], ⟨rest, rfl⟩, rfl⟩
      · obtain ⟨earlier, beginning, reached⟩ := ih later
        exact ⟨operation :: earlier, List.cons_prefix_cons.mpr ⟨rfl, beginning⟩, reached⟩

/-- A property that the operations of a history keep holds after the history. -/
theorem run_invariant {Invariant : Console width height → Prop} {history : List Operation}
    (keeps : ∀ operation ∈ history, ∀ console, Invariant console →
      Invariant (console.perform operation).console)
    {console : Console width height} (holds : Invariant console) :
    Invariant (console.run history) := by
  induction history generalizing console with
  | nil => exact holds
  | cons operation history ih =>
      apply ih
      · intro later member
        exact keeps later (List.mem_cons_of_mem operation member)
      · exact keeps operation List.mem_cons_self console holds

section Parts

variable (Invariant : Console width height → Prop) {console : Console width height}

/-- A property that single steps keep holds after any number of them. -/
theorem steps_invariant
    (keeps : ∀ console, Invariant console → Invariant console.step.console)
    (holds : Invariant console) (count : Nat) : Invariant (console.steps count).console := by
  induction count generalizing console with
  | zero => exact holds
  | succ count ih =>
      have stepped := keeps console holds
      simp only [steps, Outcome.andThen]
      split
      · exact holds
      · split
        · exact stepped
        · exact ih stepped

theorem runFrame_invariant
    (keeps : ∀ console, Invariant console → Invariant console.step.console)
    (closes : ∀ console, Invariant console → Invariant console.tick.updateTone)
    (holds : Invariant console) : Invariant console.runFrame.console := by
  have ran :=
    steps_invariant Invariant keeps holds console.machine.config.instructionsPerFrame.toNat
  simp only [runFrame, Outcome.andThen]
  split
  · exact ran
  · exact closes _ ran

theorem withKey_invariant (holds : Invariant console) (code : Int)
    {act : Key → Outcome width height} (acts : ∀ key, Invariant (act key).console) :
    Invariant (console.withKey code act).console := by
  simp only [withKey]
  split
  · exact acts _
  · exact holds

end Parts

end Console

/-! ## Steps -/

variable {width height : Nat}

/-- The word that a notice announces. -/
def Notice.word? : Notice → Option Word
  | executing _ word => some word
  | _ => none

/-- The words that an operation executed, in order. -/
def Outcome.words (outcome : Outcome width height) : List Word :=
  outcome.notices.filterMap Notice.word?

namespace Console

/-- The screen that is drawn on in place is the one that the step gives, or the one it began
with. -/
theorem executeNext_eq (console : Console width height) :
    console.executeNext =
      let trace := Notice.executing console.machine.counter.toNat console.machine.word
      match console.machine.step console.screen console.keypad.held with
      | .ok (after, drawn) =>
          match after.waiting with
          | none =>
              { console := { console with machine := after, screen := drawn }, notices := [trace] }
          | some register =>
              { console :=
                  { console with
                    machine := after, screen := drawn, keypad := console.keypad.listen () }
                notices := [trace, .awaitingKey register] }
      | .error (.fault fault) =>
          { console := { console with fault := some fault }
            notices := [trace, .stopped (.fault fault), .registers console.machine]
            failure := some (.fault fault) }
      | .error failure => { console, notices := [trace], failure := some failure } := by
  simp only [executeNext, Machine.stepInPlace_eq]
  cases console.machine.step console.screen console.keypad.held with
  | ok result => rfl
  | error failure => cases failure <;> rfl

theorem executeNext_of_ok {console : Console width height} {after : Machine}
    {drawn : Screen width height}
    (stepped : console.machine.step console.screen console.keypad.held = .ok (after, drawn)) :
    console.executeNext.console =
        { console with
          machine := after
          screen := drawn
          keypad := if after.paused then console.keypad.listen () else console.keypad } ∧
      console.executeNext.failure = none ∧ console.executeNext.words = [console.machine.word] := by
  cases waiting : after.waiting <;>
    simp [executeNext_eq, stepped, waiting, Machine.paused, Outcome.words, Notice.word?]

theorem executeNext_of_fault {console : Console width height} {fault : Fault}
    (failed : console.machine.step console.screen console.keypad.held = .error (.fault fault)) :
    console.executeNext.console = { console with fault := some fault } ∧
      console.executeNext.failure = some (.fault fault) ∧
        console.executeNext.words = [console.machine.word] := by
  simp [executeNext_eq, failed, Outcome.words, Notice.word?]

theorem executeNext_of_error {console : Console width height} {failure : Failure}
    (failed : console.machine.step console.screen console.keypad.held = .error failure)
    (other : ∀ fault, failure ≠ .fault fault) :
    console.executeNext.console = console ∧ console.executeNext.failure = some failure ∧
      console.executeNext.words = [console.machine.word] := by
  have untouched : console.executeNext =
      { console
        notices := [.executing console.machine.counter.toNat console.machine.word]
        failure := some failure } := by
    simp only [executeNext_eq, failed]
  simp [untouched, Outcome.words, Notice.word?]

/-- A step that is taken moves machine and screen, stores a fault, or leaves the console alone. -/
theorem executeNext_cases (console : Console width height) :
    (∃ after drawn keypad,
        console.machine.step console.screen console.keypad.held = .ok (after, drawn) ∧
          console.executeNext.console =
            { console with machine := after, screen := drawn, keypad }) ∨
      (∃ fault,
        console.machine.step console.screen console.keypad.held = .error (.fault fault) ∧
          console.executeNext.console = { console with fault := some fault }) ∨
      console.executeNext.console = console := by
  cases stepped : console.machine.step console.screen console.keypad.held with
  | ok result => exact .inl ⟨_, _, _, rfl, (executeNext_of_ok stepped).1⟩
  | error failure =>
      cases failure with
      | fault fault => exact .inr (.inl ⟨fault, rfl, (executeNext_of_fault stepped).1⟩)
      | _ => exact .inr (.inr (executeNext_of_error stepped (by simp)).1)

theorem machine_executeNext_of_error {console : Console width height} {failure : Failure}
    (failed : console.machine.step console.screen console.keypad.held = .error failure) :
    console.executeNext.console.machine = console.machine := by
  cases failure <;> simp [executeNext_eq, failed]

/-- A step that fails leaves the machine alone. -/
theorem machine_executeNext_of_failure {console : Console width height} {failure : Failure}
    (failed : console.executeNext.failure = some failure) :
    console.executeNext.console.machine = console.machine := by
  cases stepped : console.machine.step console.screen console.keypad.held with
  | ok result =>
      rw [(executeNext_of_ok stepped).2.1] at failed
      cases failed
  | error problem => exact machine_executeNext_of_error stepped

theorem step_of_awake {console : Console width height} (running : console.fault = none)
    (awake : console.paused = false) : console.step = console.executeNext := by
  simp [step, running, awake]

theorem perform_execute (console : Console width height) (word : Word) :
    console.perform (.execute word) =
      console.adopt (.ofOutcome console.screen
        (console.machine.execute console.screen console.keypad.held word)) := by
  rw [perform, Machine.executeInPlace_eq]

theorem perform_machineStep (console : Console width height) :
    console.perform .machineStep =
      console.adopt (.ofOutcome console.screen
        (console.machine.step console.screen console.keypad.held)) := by
  rw [perform, Machine.stepInPlace_eq]

end Console

/-! ## Tone and remembered program

What is executed, pressed or delivered reaches neither the tone nor the program that a reset loads.
-/

namespace Console

/-- Neither the tone nor the remembered program changed. -/
structure Spares (before after : Console width height) : Prop where
  buzzer_eq : after.buzzer = before.buzzer
  program_eq : after.program = before.program

theorem Spares.refl (console : Console width height) : console.Spares console :=
  ⟨rfl, rfl⟩

theorem Spares.trans {first middle last : Console width height} (earlier : first.Spares middle)
    (later : middle.Spares last) : first.Spares last :=
  ⟨later.buzzer_eq.trans earlier.buzzer_eq, later.program_eq.trans earlier.program_eq⟩

variable (console : Console width height)

theorem spares_executeNext : console.Spares console.executeNext.console := by
  rcases executeNext_cases console with
    ⟨after, drawn, keypad, -, moved⟩ | ⟨fault, -, stopped⟩ | same
  · rw [moved]
    exact ⟨rfl, rfl⟩
  · rw [stopped]
    exact ⟨rfl, rfl⟩
  · rw [same]
    exact .refl console

theorem spares_step : console.Spares console.step.console := by
  fun_cases step console
  · exact .refl console
  · exact .refl console
  · exact spares_executeNext console

theorem spares_steps (count : Nat) : console.Spares (console.steps count).console :=
  steps_invariant console.Spares (fun after spared => spared.trans (spares_step after))
    (.refl console) count

theorem spares_tick : console.Spares console.tick := by
  simp only [tick]
  split
  · exact .refl console
  · exact ⟨rfl, rfl⟩

theorem spares_deliver (key : Key) : console.Spares (console.deliver key).console := by
  simp only [deliver]
  split
  · exact ⟨rfl, rfl⟩
  · exact .refl console

theorem spares_press (key : Key) : console.Spares (console.press key).console := by
  simp only [press]
  split
  · exact ⟨rfl, rfl⟩
  · have pressed : console.Spares { console with keypad := (console.keypad.press key).1 } :=
      ⟨rfl, rfl⟩
    exact pressed.trans (spares_deliver _ key)

theorem spares_withKey (code : Int) {act : Key → Outcome width height}
    (acts : ∀ key, console.Spares (act key).console) :
    console.Spares (console.withKey code act).console :=
  withKey_invariant console.Spares (.refl console) code acts

theorem spares_adopt (executed : Executed width height) :
    console.Spares (console.adopt executed).console := by
  simp only [adopt]
  split
  · exact ⟨rfl, rfl⟩
  · exact ⟨rfl, rfl⟩

theorem spares_loadMachine (bytes : Array UInt8) :
    console.Spares (console.loadMachine bytes).console := by
  simp only [loadMachine]
  split
  · exact ⟨rfl, rfl⟩
  · exact .refl console

end Console
end ChipEight

import ChipEight.Proofs.Console.Likeness
import ChipEight.Proofs.Console.Range
import ChipEight.Proofs.Console.Step

/-!
# Resets

A reset puts a console back to where it would be had it been made anew and loaded the last program.
Only the held keys survive.
-/

namespace ChipEight

variable {width height : Nat}

/-- The bytes that an operation is to load and remember. -/
def Operation.image? : Operation → Option (Array UInt8)
  | .load bytes _ => some bytes
  | .loadFile _ (.ok bytes) => some bytes
  | _ => none

namespace Console

/-- The bytes that an operation loads and remembers, unless it is refused. -/
def accepted? (console : Console width height) (operation : Operation) : Option (Array UInt8) :=
  if (console.perform operation).failure = none then operation.image? else none

/-- The bytes that were loaded and remembered last in a history. -/
def lastImage (console : Console width height) : List Operation → Option (Array UInt8)
  | [] => none
  | operation :: rest =>
      ((console.perform operation).console.lastImage rest).or (console.accepted? operation)

/-- A console at power-on into which some bytes were loaded, if there are any. -/
def restarted (config : Config) (width height : Nat) (source : String) :
    Option (Array UInt8) → Console width height
  | none => initial config width height
  | some bytes => ((initial config width height).load bytes source).console

/-- The same console, but with some keys held. -/
def holding (console : Console width height) (held : HeldKeys) : Console width height :=
  { console with keypad := { console.keypad with held } }

/-- The remembered program consists of some bytes, or it is empty if there are none. -/
def Remembers (console : Console width height) : Option (Array UInt8) → Prop
  | none => console.program = .empty
  | some bytes => Program.ofBytes bytes = .ok console.program

theorem Remembers.of_program_eq {before after : Console width height}
    {image : Option (Array UInt8)} (remembers : before.Remembers image)
    (same : after.program = before.program) : after.Remembers image := by
  cases image with
  | none => exact same.trans remembers
  | some bytes => exact remembers.trans (congrArg Except.ok same.symm)

theorem program_runFrame (console : Console width height) :
    console.runFrame.console.program = console.program :=
  runFrame_invariant (fun after => after.program = console.program)
    (fun after same => (spares_step after).program_eq.trans same)
    (fun after same => (spares_tick after).program_eq.trans same) rfl

theorem remembers_load {console : Console width height} {image : Option (Array UInt8)}
    (remembers : console.Remembers image) (bytes : Array UInt8) (source : String) :
    (console.load bytes source).console.Remembers
      ((if (console.load bytes source).failure = none then some bytes else none).or image) := by
  cases fits : Program.ofBytes bytes with
  | ok program =>
      simp only [load, fits, if_true, Option.some_or]
      exact fits
  | error failure => simpa [load, fits] using remembers

theorem Remembers.kept {console : Console width height} {image : Option (Array UInt8)}
    (remembers : console.Remembers image) {operation : Operation}
    (noImage : operation.image? = none)
    (same : (console.perform operation).console.program = console.program) :
    (console.perform operation).console.Remembers ((console.accepted? operation).or image) := by
  have nothing : console.accepted? operation = none := by
    simp [accepted?, noImage]
  rw [nothing, Option.none_or]
  exact remembers.of_program_eq same

/-- What an operation loads takes the place of what was remembered; anything else leaves it. -/
theorem remembers_perform {console : Console width height} {image : Option (Array UInt8)}
    (remembers : console.Remembers image) (operation : Operation) :
    (console.perform operation).console.Remembers ((console.accepted? operation).or image) := by
  cases operation with
  | load bytes source => exact remembers_load remembers bytes source
  | loadFile path contents =>
      cases contents with
      | ok bytes => exact remembers_load remembers bytes path
      | error problem => exact remembers.kept rfl rfl
  | step => exact remembers.kept rfl console.spares_step.program_eq
  | frame => exact remembers.kept rfl (program_runFrame console)
  | tick => exact remembers.kept rfl console.spares_tick.program_eq
  | tone | reset | cancelWait | machineTick => exact remembers.kept rfl rfl
  | press code =>
      exact remembers.kept rfl (console.spares_withKey code console.spares_press).program_eq
  | release code | machineResume code =>
      exact remembers.kept rfl (console.spares_withKey code fun _ => ⟨rfl, rfl⟩).program_eq
  | deliver code =>
      exact remembers.kept rfl (console.spares_withKey code console.spares_deliver).program_eq
  | execute word | machineStep => exact remembers.kept rfl (console.spares_adopt _).program_eq
  | machineLoad bytes => exact remembers.kept rfl (console.spares_loadMachine bytes).program_eq
  | machineLoadFile path contents =>
      cases contents with
      | ok bytes => exact remembers.kept rfl (console.spares_loadMachine bytes).program_eq
      | error problem => exact remembers.kept rfl rfl

theorem remembers_run {console : Console width height} {image : Option (Array UInt8)}
    (remembers : console.Remembers image) (history : List Operation) :
    (console.run history).Remembers ((console.lastImage history).or image) := by
  induction history generalizing console image with
  | nil => exact remembers
  | cons operation rest ih =>
      rw [run, lastImage, Option.or_assoc]
      exact ih (remembers_perform remembers operation)

theorem restarted_eq_of_remembers {console : Console width height} {config : Config}
    {source : String} {image : Option (Array UInt8)} (remembers : console.Remembers image) :
    restarted config width height source image =
      { initial config width height with
        machine := (Machine.initial config).load console.program, program := console.program } := by
  cases image with
  | none =>
      have empty : console.program = .empty := remembers
      rw [empty]
      rfl
  | some bytes =>
      have fits : Program.ofBytes bytes = .ok console.program := remembers
      simp only [restarted, load, fits]
      rfl

/-- A reset puts everything back but the held keys, and how often the tone had sounded. -/
theorem alike_reset {console : Console width height} {image : Option (Array UInt8)}
    (remembers : console.Remembers image) (source : String) :
    console.reset.Alike .equality
      ((restarted console.machine.config width height source image).holding
        console.keypad.held) := by
  rw [restarted_eq_of_remembers remembers]
  exact
    { machine := rfl
      screen_eq := rfl
      keypad_eq := rfl
      playing_eq := console.buzzer.playing_set false
      fault := .none
      program_eq := rfl }

/-- A console is like a new one on which some keys are held. -/
structure LikeNew (held : HeldKeys) (console fresh : Console width height) : Prop where
  machine_eq : console.machine = fresh.machine
  fault_eq : console.fault = none ∧ fresh.fault = none
  screen_eq : console.screen = fresh.screen
  waiting_eq : console.keypad.waiting = false ∧ fresh.keypad.waiting = false
  playing_eq : console.buzzer.playing = false ∧ fresh.buzzer.playing = false
  held_eq : console.keypad.held = held
  /-- If the same keys are held, no history and no operation after it tells them apart. -/
  later : ∀ (history : List Operation) (operation : Operation),
    let left := console.run history
    let right := (fresh.holding held).run history
    left.machine = right.machine ∧ left.screen = right.screen ∧ left.fault = right.fault ∧
      (left.perform operation).failure = (right.perform operation).failure

/-- After any history a reset leaves a console that is like one made anew, into which the program
was loaded that the history loaded last. -/
theorem likeNew_reset (config : Config) (width height : Nat) (history : List Operation)
    (source : String) :
    let before := (initial config width height).run history
    let image := (initial config width height).lastImage history
    (before.perform .reset).failure = none ∧
      (∀ bytes, image = some bytes →
        ((initial config width height).perform (.load bytes source)).failure = none) ∧
      LikeNew before.keypad.held (before.perform .reset).console
        (restarted config width height source image) := by
  intro before image
  have remembers : before.Remembers image := by
    have atRest : (initial config width height).Remembers none := rfl
    simpa using remembers_run atRest history
  have settings : before.machine.config = config :=
    (fits_run config width height history).config_eq
  refine ⟨rfl, fun bytes loaded => ?_, ?_⟩
  · rw [loaded] at remembers
    have fits : Program.ofBytes bytes = .ok before.program := remembers
    simp only [perform, load, fits]
  · have alike := alike_reset remembers source
    rw [settings, restarted_eq_of_remembers remembers] at alike
    rw [restarted_eq_of_remembers remembers]
    exact
      { machine_eq := alike.machine
        fault_eq := ⟨rfl, rfl⟩
        screen_eq := alike.screen_eq
        waiting_eq := ⟨rfl, rfl⟩
        playing_eq := ⟨alike.playing_eq, rfl⟩
        held_eq := rfl
        later := alike.run_eq }

end Console
end ChipEight

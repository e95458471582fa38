import ChipEight.Proofs.Console.Range
import ChipEight.Proofs.Console.KeyWait
import ChipEight.Proofs.Execution.Fault
import ChipEight.Proofs.Session.Journalling

/-!
# Stopped consoles

A fault stops the machine at the word that caused it, and there it stays until the console is
reset.  Programs may be loaded meanwhile, keys pressed and timers counted down; nothing is executed.
-/

namespace ChipEight

variable {width height : Nat}

/-- Whether an operation goes through the console or its keys and not straight to the machine. -/
def Operation.throughConsole : Operation → Bool
  | .execute _ | .machineStep | .machineTick | .machineLoad _ | .machineLoadFile _ _
  | .machineResume _ => false
  | .step | .frame | .tick | .tone | .load _ _ | .loadFile _ _ | .reset | .press _ | .release _
  | .cancelWait | .deliver _ => true

namespace Console

/-- The words executed in a history, in order. -/
def executedIn (console : Console width height) : List Operation → List Word
  | [] => []
  | operation :: rest =>
      let outcome := console.perform operation
      outcome.words ++ outcome.console.executedIn rest

/-- A stored fault keeps the machine awake, with its counter at the word that failed. -/
def StopsInPlace (console : Console width height) : Prop :=
  ∀ fault, console.fault = some fault →
    console.paused = false ∧ fault.address = some (console.machine.counter.toNat : Int)

/-- Nothing changed but memory, the timers, the keys, the tone and the remembered program. -/
def Frozen (before after : Console width height) : Prop :=
  ∃ memory delay sound keypad buzzer program,
    after =
      { before with
        machine := { before.machine with memory, delay, sound }, keypad, buzzer, program }

namespace Frozen

variable {before after : Console width height}

theorem refl (console : Console width height) : console.Frozen console :=
  ⟨_, _, _, _, _, _, rfl⟩

theorem trans {last : Console width height} (earlier : before.Frozen after)
    (later : after.Frozen last) : before.Frozen last := by
  obtain ⟨_, _, _, _, _, _, rfl⟩ := earlier
  obtain ⟨memory, delay, sound, keypad, buzzer, program, rfl⟩ := later
  exact ⟨memory, delay, sound, keypad, buzzer, program, rfl⟩

theorem fault_eq (frozen : before.Frozen after) : after.fault = before.fault := by
  obtain ⟨_, _, _, _, _, _, rfl⟩ := frozen
  rfl

theorem paused_eq (frozen : before.Frozen after) : after.paused = before.paused := by
  obtain ⟨_, _, _, _, _, _, rfl⟩ := frozen
  rfl

theorem counter_eq (frozen : before.Frozen after) :
    after.machine.counter = before.machine.counter := by
  obtain ⟨_, _, _, _, _, _, rfl⟩ := frozen
  rfl

theorem stopsInPlace (frozen : before.Frozen after) (inPlace : before.StopsInPlace) :
    after.StopsInPlace := by
  intro fault stored
  rw [frozen.fault_eq] at stored
  rw [frozen.paused_eq, frozen.counter_eq]
  exact inPlace fault stored

end Frozen

/-- An operation executes nothing and leaves the console frozen. -/
structure Idles (before : Console width height) (outcome : Outcome width height) : Prop where
  frozen : before.Frozen outcome.console
  words_eq : outcome.words = []

theorem idles_refused (console : Console width height) (failure : Failure) :
    console.Idles (console.refused failure) :=
  ⟨.refl console, rfl⟩

theorem idles_tick (console : Console width height) : console.Idles (settled console.tick) := by
  simp only [tick]
  split
  · exact ⟨.refl console, rfl⟩
  · exact ⟨⟨_, _, _, _, _, _, rfl⟩, rfl⟩

theorem idles_updateTone (console : Console width height) :
    console.Idles (settled console.updateTone) :=
  ⟨⟨_, _, _, _, _, _, rfl⟩, rfl⟩

theorem idles_load (console : Console width height) (bytes : Array UInt8) (source : String) :
    console.Idles (console.load bytes source) := by
  simp only [load]
  split
  · exact ⟨⟨_, _, _, _, _, _, rfl⟩, rfl⟩
  · exact ⟨.refl console, rfl⟩

theorem idles_withKey {console : Console width height} (code : Int)
    {act : Key → Outcome width height} (acts : ∀ key, console.Idles (act key)) :
    console.Idles (console.withKey code act) := by
  simp only [withKey]
  split
  · exact acts _
  · exact idles_refused console _

theorem idles_deliver {console : Console width height} (awake : console.paused = false)
    (key : Key) : console.Idles (console.deliver key) := by
  simp only [deliver, awake]
  exact ⟨.refl console, rfl⟩

theorem idles_press {console : Console width height} (awake : console.paused = false)
    (key : Key) : console.Idles (console.press key) := by
  simp only [press, deliver]
  split
  · exact ⟨⟨_, _, _, _, _, _, rfl⟩, rfl⟩
  · rw [if_neg (by simpa [paused] using awake)]
    exact ⟨⟨_, _, _, _, _, _, rfl⟩, rfl⟩

theorem step_of_stopped {console : Console width height} {fault : Fault}
    (stopped : console.fault = some fault) :
    console.step = console.refused (.haltedAfter fault) := by
  simp only [step, stopped]
  rfl

theorem runFrame_of_stopped {console : Console width height} {fault : Fault}
    (stopped : console.fault = some fault) (awake : console.paused = false)
    (working : 1 ≤ console.machine.config.instructionsPerFrame) :
    console.runFrame = console.refused (.haltedAfter fault) := by
  have positive : console.machine.config.instructionsPerFrame.toNat ≠ 0 := by omega
  obtain ⟨count, length⟩ := Nat.exists_eq_succ_of_ne_zero positive
  rw [runFrame, length, steps, if_neg (by simp [awake]), step_of_stopped stopped]
  rfl

theorem runFrame_of_no_steps {console : Console width height}
    (idling : console.machine.config.instructionsPerFrame < 1) :
    console.runFrame = settled console.tick.updateTone := by
  have zero : console.machine.config.instructionsPerFrame.toNat = 0 := by omega
  rw [runFrame, zero]
  rfl

/-- Short of a reset nothing moves a stopped console. -/
theorem idles_of_stopped {console : Console width height} {fault : Fault}
    (stopped : console.fault = some fault) (awake : console.paused = false)
    {operation : Operation} (through : operation.throughConsole = true)
    (noReset : operation ≠ .reset) : console.Idles (console.perform operation) := by
  cases operation with
  | step =>
      rw [perform, step_of_stopped stopped]
      exact idles_refused console _
  | frame =>
      rw [perform]
      rcases Int.lt_or_le console.machine.config.instructionsPerFrame 1 with idling | working
      · rw [runFrame_of_no_steps idling]
        exact ⟨(idles_tick console).frozen.trans (idles_updateTone _).frozen, rfl⟩
      · rw [runFrame_of_stopped stopped awake working]
        exact idles_refused console _
  | tick => exact idles_tick console
  | tone => exact idles_updateTone console
  | load bytes source => exact idles_load console bytes source
  | loadFile path contents =>
      cases contents with
      | ok bytes => exact idles_load console bytes path
      | error problem => exact idles_refused console _
  | reset => exact (noReset rfl).elim
  | press code => exact idles_withKey code (idles_press awake)
  | release code => exact idles_withKey code fun _ => ⟨⟨_, _, _, _, _, _, rfl⟩, rfl⟩
  | cancelWait => exact ⟨⟨_, _, _, _, _, _, rfl⟩, rfl⟩
  | deliver code => exact idles_withKey code (idles_deliver awake)
  | _ => cases through

namespace StopsInPlace

variable {console : Console width height}

theorem of_running (running : console.fault = none) : console.StopsInPlace := by
  intro fault stored
  rw [running] at stored
  cases stored

theorem executeNext (running : console.fault = none) (awake : console.paused = false) :
    console.executeNext.console.StopsInPlace := by
  rcases executeNext_cases console with
    ⟨after, drawn, keypad, -, moved⟩ | ⟨fault, failed, stopped⟩ | same
  · rw [moved]
    exact of_running running
  · rw [stopped]
    intro stored here
    obtain rfl : fault = stored := Option.some.inj here
    exact ⟨awake, Machine.address_of_step_fault failed⟩
  · rw [same]
    exact of_running running

theorem step (inPlace : console.StopsInPlace) : console.step.console.StopsInPlace := by
  cases running : console.fault with
  | some fault =>
      rw [step_of_stopped running]
      exact inPlace
  | none =>
      cases awake : console.paused with
      | true => simpa [Console.step, running, awake] using inPlace
      | false =>
          rw [step_of_awake running awake]
          exact executeNext running awake

theorem runFrame (inPlace : console.StopsInPlace) : console.runFrame.console.StopsInPlace :=
  runFrame_invariant StopsInPlace (fun _ inPlace => inPlace.step)
    (fun console inPlace =>
      ((idles_tick console).frozen.trans (idles_updateTone _).frozen).stopsInPlace inPlace) inPlace

theorem deliver (inPlace : console.StopsInPlace) (key : Key) :
    (console.deliver key).console.StopsInPlace := by
  rw [(deliver_eq console key).1]
  intro fault stored
  obtain ⟨awake, place⟩ := inPlace fault stored
  rw [Machine.resume_of_awake awake]
  exact ⟨awake, place⟩

theorem press (inPlace : console.StopsInPlace) (key : Key) :
    (console.press key).console.StopsInPlace := by
  simp only [Console.press]
  split
  · exact inPlace
  · have pressed : StopsInPlace { console with keypad := (console.keypad.press key).1 } := inPlace
    exact pressed.deliver key

theorem perform (inPlace : console.StopsInPlace) {operation : Operation}
    (through : operation.throughConsole = true) :
    (console.perform operation).console.StopsInPlace := by
  cases operation with
  | step => exact inPlace.step
  | frame => exact inPlace.runFrame
  | tick => exact (idles_tick console).frozen.stopsInPlace inPlace
  | tone | cancelWait => exact inPlace
  | load bytes source => exact (idles_load console bytes source).frozen.stopsInPlace inPlace
  | loadFile path contents =>
      cases contents with
      | ok bytes => exact (idles_load console bytes path).frozen.stopsInPlace inPlace
      | error problem => exact inPlace
  | reset => exact of_running rfl
  | press code => exact withKey_invariant StopsInPlace inPlace code inPlace.press
  | release code => exact withKey_invariant StopsInPlace inPlace code fun _ => inPlace
  | deliver code => exact withKey_invariant StopsInPlace inPlace code inPlace.deliver
  | _ => cases through

end StopsInPlace

/-- From power-on a console stops where it fails. -/
theorem stopsInPlace_run (config : Config) (width height : Nat) {history : List Operation}
    (through : ∀ operation ∈ history, operation.throughConsole = true) :
    ((initial config width height).run history).StopsInPlace :=
  run_invariant (fun operation member _ inPlace => inPlace.perform (through operation member))
    (.of_running rfl)

/-- Short of a reset no history moves a stopped console. -/
theorem idle_run_of_stopped {console : Console width height} {fault : Fault}
    (stopped : console.fault = some fault) (awake : console.paused = false)
    {history : List Operation}
    (through : ∀ operation ∈ history, operation.throughConsole = true)
    (noReset : ∀ operation ∈ history, operation ≠ .reset) :
    console.Frozen (console.run history) ∧ console.executedIn history = [] := by
  induction history generalizing console with
  | nil => exact ⟨.refl console, rfl⟩
  | cons operation rest ih =>
      obtain ⟨firstThrough, restThrough⟩ := List.forall_mem_cons.mp through
      obtain ⟨firstNoReset, restNoReset⟩ := List.forall_mem_cons.mp noReset
      have first := idles_of_stopped stopped awake firstThrough firstNoReset
      have remaining := ih (first.frozen.fault_eq.trans stopped)
        (first.frozen.paused_eq.trans awake) restThrough restNoReset
      refine ⟨first.frozen.trans remaining.1, ?_⟩
      rw [executedIn, first.words_eq, remaining.2]
      rfl

/-- A console whose fault holds it in place until it is reset. -/
structure StaysStopped (config : Config) (console : Console width height) (fault : Fault) :
    Prop where
  /-- The machine does not wait. -/
  awake : console.paused = false
  /-- The counter is where the fault happened. -/
  address_eq : fault.address = some (console.machine.counter.toNat : Int)
  /-- A step is refused and leaves everything as it is, the journal included. -/
  step_eq : ∀ journal, Session.perform ⟨console, journal⟩ .step =
    ⟨⟨console, journal⟩, "", some (.haltedAfter fault)⟩
  /-- So is a frame that has instructions to execute. -/
  frame_eq : 1 ≤ config.instructionsPerFrame → ∀ journal,
    Session.perform ⟨console, journal⟩ .frame =
      ⟨⟨console, journal⟩, "", some (.haltedAfter fault)⟩
  /-- A frame without instructions only counts the timers down and sets the tone. -/
  idleFrame_eq : config.instructionsPerFrame < 1 → ∀ journal,
    Session.perform ⟨console, journal⟩ .frame =
      ⟨⟨{ console with
          machine := console.machine.tick
          buzzer := console.buzzer.set console.machine.tick.shouldSound }, journal⟩, "", none⟩
  /-- Until the next reset the fault stays and nothing is executed. -/
  later : ∀ history : List Operation,
    (∀ operation ∈ history, operation.throughConsole = true ∧ operation ≠ .reset) →
      (console.run history).fault = some fault ∧ console.Frozen (console.run history) ∧
        console.executedIn history = []

/-- From power-on, nobody acting on the machine behind the back of the console, a fault holds the
console in place until it is reset. -/
theorem staysStopped_run (config : Config) (width height : Nat) {history : List Operation}
    (through : ∀ operation ∈ history, operation.throughConsole = true) {fault : Fault}
    (stopped : ((initial config width height).run history).fault = some fault) :
    StaysStopped config ((initial config width height).run history) fault := by
  have inPlace := stopsInPlace_run config width height through
  have settings := (fits_run config width height history).config_eq
  generalize (initial config width height).run history = console at stopped inPlace settings ⊢
  obtain ⟨awake, place⟩ := inPlace fault stopped
  refine ⟨awake, place, fun journal => ?_, fun working journal => ?_, fun idling journal => ?_,
    fun later allowed => ?_⟩
  · rw [Session.perform_eq_report, perform, step_of_stopped stopped]
    rfl
  · rw [Session.perform_eq_report, perform,
      runFrame_of_stopped stopped awake (by rwa [settings])]
    rfl
  · rw [Session.perform_eq_report, perform, runFrame_of_no_steps (by rwa [settings]), tick,
      if_neg (by simp [awake])]
    rfl
  · have idle := idle_run_of_stopped stopped awake (fun _ member => (allowed _ member).1)
      (fun _ member => (allowed _ member).2)
    exact ⟨idle.1.fault_eq.trans stopped, idle⟩

/-- A program that returns from no call. -/
theorem staysStopped_stray_return :
    let history := [Operation.load #[0x00, 0xEE] "", .step]
    let fault : Fault := ⟨.stackUnderflow, some 0x200⟩
    ((initial {} 1 1).run history).fault = some fault ∧
      StaysStopped {} ((initial {} 1 1).run history) fault := by
  intro history fault
  have stopped : ((initial {} 1 1).run history).fault = some fault := by decide +kernel
  exact ⟨stopped, staysStopped_run {} 1 1 (by decide) stopped⟩

end Console
end ChipEight

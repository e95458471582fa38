import ChipEight.Proofs.Console.Fault
import ChipEight.Proofs.Console.Halt

/-!
# Frames

A frame does what its instructions, one tick of the timers and one look at the tone do one after
the other, the journal included.  A host may drive a console either way.
-/

namespace ChipEight

variable {width height : Nat}

namespace Session

/-- Perform operations in order, up to the first one that is refused. -/
def performAll (session : Session width height) : List Operation → Report width height
  | [] => ⟨session, "", none⟩
  | operation :: rest => (session.perform operation).andThen fun after => after.performAll rest

theorem performAll_append (session : Session width height) (earlier later : List Operation) :
    session.performAll (earlier ++ later) =
      (session.performAll earlier).andThen fun after => after.performAll later := by
  induction earlier generalizing session with
  | nil => simp [performAll, Report.andThen]
  | cons operation earlier ih =>
      rw [List.cons_append, performAll, performAll, Report.andThen_assoc]
      simp only [ih]

/-- While the machine waits, steps do nothing. -/
theorem performAll_steps_of_paused {session : Session width height}
    (running : session.console.fault = none) (paused : session.console.paused = true)
    (count : Nat) : session.performAll (List.replicate count .step) = ⟨session, "", none⟩ := by
  induction count with
  | zero => rfl
  | succ count ih =>
      have idle : session.perform .step = ⟨session, "", none⟩ := by
        simp only [perform, step, running, paused, if_true]
        rfl
      rw [List.replicate_succ, performAll, idle, Report.andThen_of_success rfl, ih]
      simp

/-- The steps of a frame are steps.  Where the frame breaks off because the machine waits, no fault
is stored, so the remaining steps are not refused either. -/
theorem steps_eq_performAll {session : Session width height}
    (inPlace : session.console.StopsInPlace) (count : Nat) :
    session.steps count = session.performAll (List.replicate count .step) := by
  induction count generalizing session with
  | zero => rfl
  | succ count ih =>
      cases paused : session.console.paused with
      | true =>
          have running : session.console.fault = none := by
            cases stored : session.console.fault with
            | none => rfl
            | some fault =>
                have awake := (inPlace fault stored).1
                rw [paused] at awake
                cases awake
          rw [performAll_steps_of_paused running paused, steps, if_pos paused]
          rfl
      | false =>
          have next : session.step.session.console.StopsInPlace := by
            rw [step_eq_report]
            exact inPlace.step
          rw [steps, if_neg (by simp [paused]), List.replicate_succ, performAll]
          exact Report.andThen_congr (ih next)

theorem performAll_tick_tone (session : Session width height) :
    session.performAll [.tick, .tone] =
      ⟨⟨session.console.tick.updateTone, session.journal⟩, "", none⟩ := by
  simp [performAll, Report.andThen, perform, unheard, Console.perform, Console.settled]

/-- A frame is as many steps as the settings say, a tick and a look at the tone. -/
theorem perform_frame {session : Session width height}
    (inPlace : session.console.StopsInPlace) :
    session.perform .frame =
      session.performAll
        (List.replicate session.console.machine.config.instructionsPerFrame.toNat .step ++
          [.tick, .tone]) := by
  rw [performAll_append, ← steps_eq_performAll inPlace, perform, runFrame]
  exact Report.andThen_congr (performAll_tick_tone _).symm

/-- A frame goes on behind any number of its steps. -/
theorem perform_frame_eq_andThen {session : Session width height}
    (inPlace : session.console.StopsInPlace) {taken : Nat}
    (within : taken ≤ session.console.machine.config.instructionsPerFrame.toNat) :
    ∃ others, session.perform .frame =
      (session.performAll (List.replicate taken .step)).andThen fun after =>
        after.performAll (List.replicate others .step ++ [.tick, .tone]) := by
  obtain ⟨others, length⟩ := Nat.exists_eq_add_of_le within
  refine ⟨others, ?_⟩
  rw [perform_frame inPlace, length, ← List.replicate_append_replicate, List.append_assoc,
    performAll_append]

/-- If a step of a frame is refused, the frame ends with it. -/
theorem perform_frame_of_failure {session : Session width height}
    (inPlace : session.console.StopsInPlace) {taken : Nat}
    (within : taken ≤ session.console.machine.config.instructionsPerFrame.toNat)
    {failure : Failure}
    (failed : (session.performAll (List.replicate taken .step)).failure = some failure) :
    session.perform .frame = session.performAll (List.replicate taken .step) := by
  obtain ⟨others, goesOn⟩ := perform_frame_eq_andThen inPlace within
  rw [goesOn, Report.andThen_of_failure failed]

/-- If the steps of a frame leave the machine waiting, the timers stand still in this frame. -/
theorem perform_frame_of_wait {session after : Session width height}
    (inPlace : session.console.StopsInPlace) {taken : Nat}
    (within : taken ≤ session.console.machine.config.instructionsPerFrame.toNat) {text : String}
    (stepped : session.performAll (List.replicate taken .step) = ⟨after, text, none⟩)
    (running : after.console.fault = none) (paused : after.console.paused = true) :
    session.perform .frame = ⟨⟨after.console.updateTone, after.journal⟩, text, none⟩ := by
  have still : after.console.tick = after.console := by
    rw [Console.tick, if_pos paused]
  obtain ⟨others, goesOn⟩ := perform_frame_eq_andThen inPlace within
  rw [goesOn, stepped, Report.andThen_of_success rfl, performAll_append,
    performAll_steps_of_paused running paused, Report.andThen_of_success rfl,
    performAll_tick_tone, still]
  simp

/-- Behind operations none of which is refused, one more operation is performed. -/
theorem performAll_concat {session before : Session width height} {operations : List Operation}
    {text : String} (performed : session.performAll operations = ⟨before, text, none⟩)
    (operation : Operation) :
    session.performAll (operations ++ [operation]) =
      { before.perform operation with text := text ++ (before.perform operation).text } := by
  rw [performAll_append, performed, Report.andThen_of_success rfl, performAll]
  cases failed : (before.perform operation).failure with
  | some failure => rw [Report.andThen_of_failure failed]
  | none => simp [Report.andThen_of_success failed, performAll, failed]

theorem performAll_step_succ {session before : Session width height} {earlier : Nat}
    {text : String}
    (stepped : session.performAll (List.replicate earlier .step) = ⟨before, text, none⟩) :
    session.performAll (List.replicate (earlier + 1) .step) =
      { before.perform .step with text := text ++ (before.perform .step).text } := by
  rw [List.replicate_succ', performAll_concat stepped]

/-- The fault of a step is that of its frame, and the effect of the earlier steps stays. -/
theorem perform_frame_of_fault {session before : Session width height}
    (inPlace : session.console.StopsInPlace) {earlier : Nat}
    (within : earlier < session.console.machine.config.instructionsPerFrame.toNat) {text : String}
    (stepped : session.performAll (List.replicate earlier .step) = ⟨before, text, none⟩)
    {fault : Fault} (failed : (before.perform .step).failure = some (.fault fault)) :
    session.perform .frame = session.performAll (List.replicate (earlier + 1) .step) ∧
      (session.perform .frame).failure = some (.fault fault) ∧
        (session.perform .frame).session.console = { before.console with fault := some fault } := by
  have next := performAll_step_succ stepped
  have ends : (session.performAll (List.replicate (earlier + 1) .step)).failure =
      some (.fault fault) := by
    rw [next]
    exact failed
  have frame := perform_frame_of_failure inPlace within ends
  have raised : before.console.step.failure = some (.fault fault) :=
    (failure_perform before .step).symm.trans failed
  obtain ⟨running, awake⟩ := Console.running_of_step_fault raised
  refine ⟨frame, frame ▸ ends, ?_⟩
  rw [frame, next]
  exact (console_perform before .step).trans
    (Console.step_console_of_failure running awake raised)

/-- The instruction that waits is executed, and the machine waits from then on. -/
theorem performAll_of_awaited {session before : Session width height} {earlier : Nat}
    {text : String}
    (stepped : session.performAll (List.replicate earlier .step) = ⟨before, text, none⟩)
    (running : before.console.fault = none) (awake : before.console.paused = false)
    {target : Register} (awaits : before.console.machine.word.awaited? = some target) :
    ∃ after text,
      session.performAll (List.replicate (earlier + 1) .step) = ⟨after, text, none⟩ ∧
        after.console =
          { before.console with
            machine := { before.console.machine.advance with waiting := some target }
            keypad := before.console.keypad.listen () } := by
  have steps := Machine.step_of_awaited awaits before.console.screen before.console.keypad.held
  obtain ⟨waits, success, -⟩ := Console.executeNext_of_ok steps
  rw [← Console.step_of_awake running awake] at waits success
  refine ⟨(before.perform .step).session, text ++ (before.perform .step).text, ?_,
    (console_perform before .step).trans waits⟩
  rw [performAll_step_succ stepped, ← success]
  exact congrArg (Report.mk _ _) (failure_perform before .step)

/-- A frame is its steps, a tick and a look at the tone. -/
structure FramesByStep (config : Config) (session : Session width height) : Prop where
  /-- Whatever the number of steps, outcome, console and journal are the same. -/
  frame_eq : session.perform .frame =
    session.performAll (List.replicate config.instructionsPerFrame.toNat .step ++ [.tick, .tone])
  /-- A fault keeps what the earlier steps did, and neither timers nor tone follow it. -/
  fault : ∀ earlier < config.instructionsPerFrame.toNat, ∀ before text,
    session.performAll (List.replicate earlier .step) = ⟨before, text, none⟩ →
      ∀ fault, (before.perform .step).failure = some (.fault fault) →
        session.perform .frame = session.performAll (List.replicate (earlier + 1) .step) ∧
          (session.perform .frame).failure = some (.fault fault) ∧
            (session.perform .frame).session.console =
              { before.console with fault := some fault }
  /-- The instruction that waits is the last one of its frame, in which the timers stand still. -/
  wait : ∀ earlier < config.instructionsPerFrame.toNat, ∀ before text,
    session.performAll (List.replicate earlier .step) = ⟨before, text, none⟩ →
      before.console.fault = none → before.console.paused = false →
        ∀ target, before.console.machine.word.awaited? = some target →
          ∃ after text,
            session.performAll (List.replicate (earlier + 1) .step) = ⟨after, text, none⟩ ∧
              after.console =
                { before.console with
                  machine := { before.console.machine.advance with waiting := some target }
                  keypad := before.console.keypad.listen () } ∧
                session.perform .frame =
                  ⟨⟨after.console.updateTone, after.journal⟩, text, none⟩

/-- From power-on, nobody acting on the machine behind the back of the console, a console may be
driven by frames or by steps. -/
theorem framesByStep_run (config : Config) (width height : Nat) {history : List Operation}
    (through : ∀ operation ∈ history, operation.throughConsole = true) (journal : Journal) :
    FramesByStep config ⟨(Console.initial config width height).run history, journal⟩ := by
  have inPlace := Console.stopsInPlace_run config width height through
  have settings := (Console.fits_run config width height history).config_eq
  generalize (Console.initial config width height).run history = console at inPlace settings ⊢
  subst settings
  refine ⟨perform_frame inPlace, ?_, ?_⟩
  · intro earlier within before text stepped fault failed
    exact perform_frame_of_fault inPlace within stepped failed
  · intro earlier within before text stepped running awake target awaits
    obtain ⟨after, later, reached, waits⟩ := performAll_of_awaited stepped running awake awaits
    have quiet : after.console.fault = none := by
      rw [waits]
      exact running
    have paused : after.console.paused = true := by
      rw [waits]
      rfl
    exact ⟨after, later, reached, waits, perform_frame_of_wait inPlace within reached quiet paused⟩

/-- A frame whose first instruction waits with the fourth register. -/
theorem framesByStep_fourth_register :
    let history := [Operation.load #[0xF3, 0x0A] ""]
    let journal : Journal :=
      { name := "", threshold := .debug, coloured := false, stamped := false, opened := 0
        clock := 0, traced := 0 }
    let session : Session 1 1 := ⟨(Console.initial {} 1 1).run history, journal⟩
    FramesByStep {} session ∧
      (session.perform .frame).session.console.machine.waiting = some 3 := by
  intro history journal session
  exact ⟨framesByStep_run {} 1 1 (by decide) journal, by decide +kernel⟩

end Session
end ChipEight

import ChipEight.Proofs.Console.Attempt
import ChipEight.Proofs.Console.Step
import ChipEight.Proofs.Execution.Footprint

/-!
# Timers and tone over frames

Every frame counts the timers down by one, unless the machine waits, and the tone sounds until the
sound timer has run out.
-/

namespace ChipEight

/-! ## The tone of a console

The tone is started and stopped in turn, whatever is done to the console.
-/

/-- The tone was started first, and stopped before it was started again. -/
def Buzzer.Alternates (buzzer : Buzzer) : Prop :=
  ∃ rounds, buzzer.history.toList =
    (List.replicate rounds [.start, .stop]).flatten ++ if buzzer.playing then [.start] else []

namespace Buzzer

variable {buzzer : Buzzer}

theorem alternates_silent (frequency : Int) : (silent frequency).Alternates :=
  ⟨0, rfl⟩

theorem Alternates.start (alternates : buzzer.Alternates) : buzzer.start.Alternates := by
  cases playing : buzzer.playing with
  | true => simpa only [Buzzer.start, playing, if_true] using alternates
  | false =>
      obtain ⟨rounds, history⟩ := alternates
      refine ⟨rounds, ?_⟩
      simp [Buzzer.start, playing, history]

theorem Alternates.stop (alternates : buzzer.Alternates) : buzzer.stop.Alternates := by
  cases playing : buzzer.playing with
  | false => simpa [Buzzer.stop, playing] using alternates
  | true =>
      obtain ⟨rounds, history⟩ := alternates
      refine ⟨rounds + 1, ?_⟩
      simp [Buzzer.stop, playing, history, List.replicate_succ']

theorem Alternates.set (alternates : buzzer.Alternates) (sounding : Bool) :
    (buzzer.set sounding).Alternates := by
  cases sounding with
  | true => exact alternates.start
  | false => exact alternates.stop

/-- The tone was started as often as it was stopped, or once more if it sounds. -/
theorem Alternates.starts_eq (alternates : buzzer.Alternates) :
    buzzer.starts = buzzer.stops + if buzzer.playing then 1 else 0 := by
  obtain ⟨rounds, history⟩ := alternates
  simp only [starts, stops, ← Array.count_toList, history, List.count_append, List.count_flatten,
    List.map_replicate, List.sum_replicate_nat]
  cases buzzer.playing with
  | true => rfl
  | false => rfl

end Buzzer

namespace Console

variable {width height : Nat}

theorem buzzer_load (console : Console width height) (bytes : Array UInt8) (source : String) :
    (console.load bytes source).console.buzzer = console.buzzer := by
  simp only [load]
  split
  · rfl
  · rfl

theorem buzzer_runFrame (console : Console width height) :
    console.runFrame.console.buzzer = console.buzzer ∨
      console.runFrame.console.buzzer =
        console.buzzer.set console.runFrame.console.machine.shouldSound := by
  have ran := console.spares_steps console.machine.config.instructionsPerFrame.toNat
  simp only [runFrame, Outcome.andThen]
  split
  · exact .inl ran.buzzer_eq
  · have ticked := ran.trans (spares_tick _)
    rw [updateTone, ticked.buzzer_eq]
    exact .inr rfl

/-- An operation leaves the tone alone, or it lets it follow the sound timer. -/
theorem buzzer_perform (console : Console width height) (operation : Operation) :
    (console.perform operation).console.buzzer = console.buzzer ∨
      (console.perform operation).console.buzzer =
        console.buzzer.set (console.perform operation).console.machine.shouldSound := by
  cases operation with
  | step => exact .inl console.spares_step.buzzer_eq
  | frame => exact console.buzzer_runFrame
  | tick => exact .inl console.spares_tick.buzzer_eq
  | tone => exact .inr rfl
  | load bytes source => exact .inl (console.buzzer_load bytes source)
  | loadFile path contents =>
      cases contents with
      | ok bytes => exact .inl (console.buzzer_load bytes path)
      | error problem => exact .inl rfl
  | reset => exact .inr rfl
  | press code => exact .inl (console.spares_withKey code console.spares_press).buzzer_eq
  | release code | machineResume code =>
      exact .inl (console.spares_withKey code fun _ => ⟨rfl, rfl⟩).buzzer_eq
  | deliver code => exact .inl (console.spares_withKey code console.spares_deliver).buzzer_eq
  | execute word | machineStep => exact .inl (console.spares_adopt _).buzzer_eq
  | machineLoad bytes => exact .inl (console.spares_loadMachine bytes).buzzer_eq
  | machineLoadFile path contents =>
      cases contents with
      | ok bytes => exact .inl (console.spares_loadMachine bytes).buzzer_eq
      | error problem => exact .inl rfl
  | cancelWait | machineTick => exact .inl rfl

theorem alternates_run {console : Console width height} (alternates : console.buzzer.Alternates)
    (history : List Operation) : (console.run history).buzzer.Alternates := by
  have keeps : ∀ operation ∈ history, ∀ before : Console width height,
      before.buzzer.Alternates → (before.perform operation).console.buzzer.Alternates := by
    intro operation _ before holds
    rcases before.buzzer_perform operation with same | changed
    · rwa [same]
    · rw [changed]
      exact holds.set _
  have kept := run_invariant keeps alternates
  exact kept

end Console

/-! ## Frames -/

namespace Operation

/-- Whether the operation is a frame. -/
def isFrame : Operation → Bool
  | .frame => true
  | _ => false

/-- Whether the operation takes no time: it neither executes nor counts, nor starts afresh. -/
def isTimeless : Operation → Bool
  | .tone | .load _ _ | .loadFile _ _ | .press _ | .release _ | .cancelWait | .deliver _
  | .machineLoad _ | .machineLoadFile _ _ | .machineResume _ => true
  | .step | .frame | .tick | .reset | .execute _ | .machineStep | .machineTick => false

theorem isFrame_of_isTimeless {operation : Operation} (timeless : operation.isTimeless = true) :
    operation.isFrame = false := by
  cases operation with
  | frame => cases timeless
  | _ => rfl

end Operation

namespace Console

variable {width height : Nat}

/-- The next frame only counts: it is not refused, does not find the machine waiting, and executes
no word that sets a timer or waits for a key. -/
structure CountsDown (console : Console width height) : Prop where
  awake : console.paused = false
  accepted : console.runFrame.failure = none
  unset : ∀ attempt ∈ console.attemptsOf .frame, ¬ attempt.machine.word.SetsTime

/-- A segment of a history consists of frames that only count and of operations that take no
time. -/
def OnlyCounts (console : Console width height) : List Operation → Prop
  | [] => True
  | operation :: rest =>
      (operation.isTimeless = true ∨ operation = .frame ∧ console.CountsDown) ∧
        (console.perform operation).console.OnlyCounts rest

/-- The tone sounds exactly while the sound timer runs. -/
def InTune (console : Console width height) : Prop :=
  console.buzzer.playing = console.machine.shouldSound

/-- The console when the last instruction of a frame had ended. -/
def afterInstructions (console : Console width height) : Console width height :=
  ((console.attemptsOf .frame).getLast?.map (·.executeNext.console)).getD console

theorem steps_eq_afterInstructions (console : Console width height) :
    (console.steps console.machine.config.instructionsPerFrame.toNat).console =
      console.afterInstructions :=
  console.steps_eq_of_getLast _

theorem runFrame_failure_eq (console : Console width height) :
    console.runFrame.failure =
      (console.steps console.machine.config.instructionsPerFrame.toNat).failure := by
  simp only [runFrame, Outcome.andThen]
  split
  · rfl
  · rename_i succeeded
    exact succeeded.symm

theorem runFrame_of_accepted {console : Console width height}
    (accepted : console.runFrame.failure = none) :
    console.runFrame.console = console.afterInstructions.tick.updateTone := by
  have succeeded := console.runFrame_failure_eq.symm.trans accepted
  simp only [runFrame, Outcome.andThen, succeeded, steps_eq_afterInstructions]

theorem inTune_runFrame {console : Console width height}
    (accepted : console.runFrame.failure = none) : console.runFrame.console.InTune := by
  rw [runFrame_of_accepted accepted]
  exact Buzzer.playing_set _ _

/-- A frame that finds the machine waiting, or in which it begins to wait, does not count. -/
theorem runFrame_of_paused {console : Console width height}
    (waits : console.paused = true ∨
      ∃ attempt ∈ console.attemptsOf .frame, attempt.executeNext.console.paused = true) :
    console.runFrame.failure = none ∧
      console.runFrame.console.machine = console.afterInstructions.machine := by
  obtain ⟨paused, succeeded⟩ :
      (console.steps console.machine.config.instructionsPerFrame.toNat).console.paused = true ∧
        (console.steps console.machine.config.instructionsPerFrame.toNat).failure = none := by
    rcases waits with waits | ⟨attempt, member, waits⟩
    · rw [steps_of_paused waits]
      exact ⟨waits, rfl⟩
    · exact steps_of_paused_attempt member waits
  have accepted := console.runFrame_failure_eq.trans succeeded
  rw [steps_eq_afterInstructions] at paused
  refine ⟨accepted, ?_⟩
  rw [runFrame_of_accepted accepted, updateTone, tick, if_pos paused]

theorem timers_attempt {attempt : Console width height} (unset : ¬ attempt.machine.word.SetsTime) :
    attempt.executeNext.console.machine.timers = attempt.machine.timers ∧
      attempt.executeNext.console.paused = attempt.paused := by
  rcases executeNext_cases attempt with
    ⟨after, drawn, keypad, stepped, moved⟩ | ⟨fault, -, stopped⟩ | same
  · obtain ⟨timers, waiting⟩ := Machine.timers_of_step unset stepped
    rw [moved]
    exact ⟨timers, congrArg Option.isSome waiting⟩
  · rw [stopped]
    exact ⟨rfl, rfl⟩
  · rw [same]
    exact ⟨rfl, rfl⟩

namespace CountsDown

variable {console : Console width height}

theorem runFrame (counts : console.CountsDown) :
    console.runFrame.console.machine.delay = Machine.countDown console.machine.delay ∧
      console.runFrame.console.machine.sound = Machine.countDown console.machine.sound := by
  obtain ⟨timers, awake⟩ : console.afterInstructions.machine.timers = console.machine.timers ∧
      console.afterInstructions.paused = false := by
    rw [← steps_eq_afterInstructions]
    refine steps_invariant_of_attempts
      (fun after => after.machine.timers = console.machine.timers ∧ after.paused = false) _ ?_
      ⟨rfl, counts.awake⟩
    rintro attempt member ⟨timers, awake⟩
    obtain ⟨timersKept, pausedKept⟩ := timers_attempt (counts.unset attempt member)
    exact ⟨timersKept.trans timers, pausedKept.trans awake⟩
  obtain ⟨delay, sound⟩ := Prod.mk.inj timers
  rw [runFrame_of_accepted counts.accepted, updateTone, tick, if_neg (by simp [awake])]
  simp only [Machine.tick, delay, sound, and_self]

end CountsDown

theorem timers_load (console : Console width height) (bytes : Array UInt8) (source : String) :
    (console.load bytes source).console.machine.timers = console.machine.timers := by
  simp only [load]
  split <;> rfl

theorem timers_loadMachine (console : Console width height) (bytes : Array UInt8) :
    (console.loadMachine bytes).console.machine.timers = console.machine.timers := by
  simp only [loadMachine]
  split <;> rfl

theorem timers_deliver (console : Console width height) (key : Key) :
    (console.deliver key).console.machine.timers = console.machine.timers := by
  simp only [deliver]
  split
  · exact console.machine.timers_resume key
  · rfl

theorem timers_press (console : Console width height) (key : Key) :
    (console.press key).console.machine.timers = console.machine.timers := by
  simp only [press]
  split
  · rfl
  · exact timers_deliver _ key

/-- An operation that takes no time leaves the timers alone. -/
theorem timers_perform (console : Console width height) {operation : Operation}
    (timeless : operation.isTimeless = true) :
    (console.perform operation).console.machine.timers = console.machine.timers := by
  have withKey (code : Int) {act : Key → Outcome width height}
      (same : ∀ key, (act key).console.machine.timers = console.machine.timers) :
      (console.withKey code act).console.machine.timers = console.machine.timers :=
    withKey_invariant (fun after => after.machine.timers = console.machine.timers) rfl code same
  cases operation with
  | step | frame | tick | reset | execute word | machineStep | machineTick => cases timeless
  | tone | cancelWait => rfl
  | load bytes source => exact timers_load console bytes source
  | loadFile path contents =>
      cases contents with
      | ok bytes => exact timers_load console bytes path
      | error problem => rfl
  | press code => exact withKey code (timers_press console)
  | release code => exact withKey code fun _ => rfl
  | deliver code => exact withKey code (timers_deliver console)
  | machineLoad bytes => exact timers_loadMachine console bytes
  | machineLoadFile path contents =>
      cases contents with
      | ok bytes => exact timers_loadMachine console bytes
      | error problem => rfl
  | machineResume code => exact withKey code console.machine.timers_resume

theorem InTune.perform {console : Console width height} (inTune : console.InTune)
    {operation : Operation} (timeless : operation.isTimeless = true) :
    (console.perform operation).console.InTune := by
  rcases console.buzzer_perform operation with same | changed
  · have sound := congrArg Prod.snd (console.timers_perform timeless)
    simp only [Machine.timers] at sound
    simpa only [InTune, Machine.shouldSound, same, sound] using inTune
  · rw [InTune, changed]
    exact Buzzer.playing_set _ _

/-- Time goes down by one for each frame, and from the first frame on the tone follows it. -/
theorem OnlyCounts.run {console : Console width height} {segment : List Operation}
    (counts : console.OnlyCounts segment) :
    let later := console.run segment
    let frames := segment.countP Operation.isFrame
    later.machine.delay.toNat = console.machine.delay.toNat - frames ∧
      later.machine.sound.toNat = console.machine.sound.toNat - frames ∧
      (console.InTune ∨ 0 < frames → later.InTune) := by
  induction segment generalizing console with
  | nil => simp [Console.run]
  | cons operation rest ih =>
      obtain ⟨first, remaining⟩ := counts
      obtain ⟨delay, sound, tuned⟩ := ih remaining
      rcases first with timeless | ⟨rfl, first⟩
      · have noFrame := Operation.isFrame_of_isTimeless timeless
        obtain ⟨delayKept, soundKept⟩ := Prod.mk.inj (console.timers_perform timeless)
        rw [List.countP_cons_of_neg (by simp [noFrame]), ← delayKept, ← soundKept]
        refine ⟨delay, sound, fun starts => tuned ?_⟩
        exact starts.imp_left (InTune.perform · timeless)
      · obtain ⟨delayDown, soundDown⟩ := first.runFrame
        simp only [Console.perform, delayDown, soundDown, Machine.toNat_countDown] at delay sound
        rw [List.countP_cons_of_pos rfl]
        refine ⟨?_, ?_, fun _ => tuned (.inl (inTune_runFrame first.accepted))⟩
        · rw [Nat.add_comm, ← Nat.sub_sub]
          exact delay
        · rw [Nat.add_comm, ← Nat.sub_sub]
          exact sound

theorem inTune_iff {console : Console width height} :
    console.InTune ↔ (console.buzzer.playing = true ↔ console.machine.sound ≠ 0) := by
  rw [InTune, Bool.eq_iff_iff, Machine.shouldSound, decide_eq_true_eq]

/-- How a console keeps time and sounds its tone. -/
structure KeepsTime (console : Console width height) : Prop where
  /-- The tone was started as often as it was stopped, or once more if it sounds. -/
  starts_eq :
    console.buzzer.starts = console.buzzer.stops + if console.buzzer.playing then 1 else 0
  /-- After a frame that is not refused the tone sounds exactly if the sound timer runs. -/
  tone_of_frame : console.runFrame.failure = none →
    (console.runFrame.console.buzzer.playing = true ↔ console.runFrame.console.machine.sound ≠ 0)
  /-- After a frame, in the course of frames that only count, the timers go down by one for each of
  these, and the tone sounds until they have been as many as the sound timer said. -/
  countdown : ∀ segment, console.runFrame.console.OnlyCounts segment →
    let ended := console.runFrame.console
    let later := ended.run segment
    let frames := segment.countP Operation.isFrame
    later.machine.delay.toNat = ended.machine.delay.toNat - frames ∧
      later.machine.sound.toNat = ended.machine.sound.toNat - frames ∧
      (console.runFrame.failure = none ∨ 0 < frames →
        (later.buzzer.playing = true ↔ frames < ended.machine.sound.toNat))
  /-- A frame that finds the machine waiting, or in which it begins to wait, is not refused and
  leaves both timers as they are when its last instruction has ended. -/
  paused_frame :
    (console.paused = true ∨
      ∃ attempt ∈ console.attemptsOf .frame, attempt.executeNext.console.paused = true) →
    console.runFrame.failure = none ∧
      console.runFrame.console.machine.delay = console.afterInstructions.machine.delay ∧
      console.runFrame.console.machine.sound = console.afterInstructions.machine.sound

/-- Whatever was done to a console since power-on, it keeps time, and its tone follows. -/
theorem keepsTime_run (config : Config) (width height : Nat) (history : List Operation) :
    ((initial config width height).run history).KeepsTime where
  starts_eq := (alternates_run (Buzzer.alternates_silent config.toneFrequency) history).starts_eq
  tone_of_frame accepted := inTune_iff.mp (inTune_runFrame accepted)
  countdown segment counts := by
    intro ended later frames
    obtain ⟨delay, sound, tuned⟩ := counts.run
    refine ⟨delay, sound, fun starts => ?_⟩
    have inTune : later.InTune := tuned (starts.imp_left inTune_runFrame)
    have runs : later.machine.sound ≠ 0 ↔ later.machine.sound.toNat ≠ 0 :=
      not_congr UInt8.toNat_inj.symm
    have remains : later.machine.sound.toNat ≠ 0 ↔ frames < ended.machine.sound.toNat :=
      sound ▸ Nat.sub_ne_zero_iff_lt
    exact (inTune_iff.mp inTune).trans (runs.trans remains)
  paused_frame waits := by
    obtain ⟨accepted, machine⟩ := runFrame_of_paused waits
    exact ⟨accepted, congrArg Machine.delay machine, congrArg Machine.sound machine⟩

/-- A tone of two ticks sounds after the frame that sets the timer and is silent after the next. -/
example :
    let console := (initial { instructionsPerFrame := 2 } 1 1).run
      [.load #[0x60, 0x02, 0xF0, 0x18, 0x12, 0x04] "", .frame]
    console.buzzer.playing = true ∧ (console.run [.press 3, .frame]).buzzer.playing = false := by
  decide +kernel

end Console
end ChipEight

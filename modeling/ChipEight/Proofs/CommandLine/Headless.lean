import ChipEight.CommandLine
import ChipEight.Proofs.Console.Fault
import ChipEight.Proofs.Console.Timers
import ChipEight.Proofs.Session.Frame

/-!
# Runs without a window

A run without a window performs frames until one of them raises a fault or their number is reached,
and prints the screen as it is then.  Once a fault stopped the machine, or while it waits for a key,
more frames would not change what is printed.
-/

namespace ChipEight

namespace Console

variable {width height : Nat}

/-- The console after a number of frames, refused ones included. -/
def afterFrames (console : Console width height) (count : Nat) : Console width height :=
  console.run (List.replicate count .frame)

theorem afterFrames_succ (console : Console width height) (count : Nat) :
    console.afterFrames (count + 1) = (console.afterFrames count).runFrame.console := by
  rw [afterFrames, List.replicate_succ', run_append]
  rfl

theorem stopsInPlace_afterFrames {console : Console width height}
    (inPlace : console.StopsInPlace) (count : Nat) : (console.afterFrames count).StopsInPlace := by
  induction count with
  | zero => exact inPlace
  | succ count ih => exact console.afterFrames_succ count ▸ ih.runFrame

/-- With a screen to draw on, a fault is all that can refuse the steps of a running console. -/
theorem steps_failure_of_running (columns : 0 < width) (rows : 0 < height)
    {console : Console width height} (running : console.halted = false) {count : Nat}
    {failure : Failure} (failed : (console.steps count).failure = some failure) :
    ∃ fault, failure = .fault fault := by
  induction count generalizing console with
  | zero => cases failed
  | succ count ih =>
      cases awake : console.paused with
      | true =>
          rw [steps_of_paused awake] at failed
          cases failed
      | false =>
          have live : console.live = true := by simp [Console.live, running, awake]
          have next := halted_executeNext columns rows running
          rw [steps_of_live live, Outcome.andThen] at failed
          cases ended : console.executeNext.failure with
          | some refusal =>
              obtain ⟨cause, -, fault⟩ := (Machine.step_eq_error_iff columns rows).mp
                (executeNext_failure_eq_some_iff.mp ended)
              simp only [ended, Option.some.injEq] at failed
              exact ⟨_, failed.symm.trans fault⟩
          | none =>
              simp only [ended] at failed
              exact ih (next.trans (congrArg Option.isSome ended)) failed

/-- A frame after which no fault is stored found none, and it was not refused. -/
theorem accepted_of_running (columns : 0 < width) (rows : 0 < height)
    {console : Console width height} (inPlace : console.StopsInPlace)
    (running : console.runFrame.console.halted = false) :
    console.halted = false ∧ console.runFrame.failure = none := by
  cases stored : console.fault with
  | some fault =>
      have idle : console.Idles (console.perform .frame) :=
        idles_of_stopped stored (inPlace fault stored).1 rfl (by simp)
      have kept : console.runFrame.console.fault = some fault := idle.frozen.fault_eq.trans stored
      simp [halted, kept] at running
  | none =>
      have before : console.halted = false := by simp [halted, stored]
      have refused := (halted_runFrame columns rows before).symm.trans running
      exact ⟨before, by simpa using refused⟩

/-- Whether the frame behind a number of others raises a fault. -/
def FaultsAt (console : Console width height) (earlier : Nat) : Prop :=
  ∃ fault, (console.afterFrames earlier).runFrame.failure = some (.fault fault)

/-- Whether one of a number of frames raises a fault. -/
def FaultsWithin (console : Console width height) (count : Nat) : Prop :=
  ∃ earlier < count, console.FaultsAt earlier

/-- A stopped console raises no new fault. -/
theorem running_of_faultsAt {console : Console width height} (inPlace : console.StopsInPlace)
    {fault : Fault} (faults : console.runFrame.failure = some (.fault fault)) :
    console.halted = false := by
  cases stored : console.fault with
  | none => simp [halted, stored]
  | some earlier =>
      rcases Int.lt_or_le console.machine.config.instructionsPerFrame 1 with idling | working
      · simp [runFrame_of_no_steps idling, settled] at faults
      · simp [runFrame_of_stopped stored (inPlace _ stored).1 working, refused,
          Failure.haltedAfter] at faults

theorem accepted_of_running_afterFrames (columns : 0 < width) (rows : 0 < height)
    {console : Console width height} (inPlace : console.StopsInPlace) {count : Nat}
    (running : (console.afterFrames count).halted = false) :
    ∀ earlier < count, (console.afterFrames earlier).runFrame.failure = none := by
  induction count with
  | zero => simp
  | succ count ih =>
      rw [afterFrames_succ] at running
      obtain ⟨before, accepted⟩ :=
        accepted_of_running columns rows (stopsInPlace_afterFrames inPlace count) running
      intro earlier bound
      rcases Nat.lt_succ_iff_lt_or_eq.mp bound with inside | rfl
      · exact ih before earlier inside
      · exact accepted

/-- The frame that raises a fault is the first one that is refused. -/
theorem FaultsAt.accepted (columns : 0 < width) (rows : 0 < height)
    {console : Console width height} (inPlace : console.StopsInPlace) {earlier : Nat}
    (faults : console.FaultsAt earlier) :
    ∀ before < earlier, (console.afterFrames before).runFrame.failure = none := by
  obtain ⟨fault, raised⟩ := faults
  exact accepted_of_running_afterFrames columns rows inPlace
    (running_of_faultsAt (stopsInPlace_afterFrames inPlace earlier) raised)

/-- A console that has stopped after some frames was stopped by one of them. -/
theorem faultsWithin_of_halted (columns : 0 < width) (rows : 0 < height)
    {console : Console width height} (running : console.halted = false) {count : Nat}
    (stopped : (console.afterFrames count).halted = true) : console.FaultsWithin count := by
  induction count with
  | zero => exact absurd stopped (Bool.eq_false_iff.mp running)
  | succ count ih =>
      cases before : (console.afterFrames count).halted with
      | true =>
          obtain ⟨earlier, bound, faults⟩ := ih before
          exact ⟨earlier, Nat.lt_succ_of_lt bound, faults⟩
      | false =>
          rw [afterFrames_succ, halted_runFrame columns rows before] at stopped
          obtain ⟨failure, failed⟩ := Option.isSome_iff_exists.mp stopped
          obtain ⟨fault, rfl⟩ := steps_failure_of_running columns rows before
            ((runFrame_failure_eq _).symm.trans failed)
          exact ⟨count, Nat.lt_succ_self count, fault, failed⟩

end Console

namespace Session

variable {width height : Nat}

theorem performAll_frames_of_accepted (session : Session width height) {count : Nat}
    (accepted : ∀ earlier < count, (session.console.afterFrames earlier).runFrame.failure = none) :
    ∃ journal text, session.performAll (List.replicate count .frame) =
      ⟨⟨session.console.afterFrames count, journal⟩, text, none⟩ := by
  induction count with
  | zero => exact ⟨session.journal, "", rfl⟩
  | succ count ih =>
      obtain ⟨journal, text, performed⟩ := ih fun earlier bound => accepted earlier (by omega)
      have last := accepted count (Nat.lt_succ_self count)
      rw [List.replicate_succ', performAll_concat performed, Console.afterFrames_succ]
      simp only [perform_eq_report, report, Console.perform, last]
      exact ⟨_, _, rfl⟩

/-- Frames end with the one that raises a fault. -/
theorem performAll_frames_of_faultsAt {session : Session width height} {earlier count : Nat}
    (accepted : ∀ before < earlier, (session.console.afterFrames before).runFrame.failure = none)
    (faults : session.console.FaultsAt earlier) (bound : earlier < count) :
    ∃ journal text failure, session.performAll (List.replicate count .frame) =
        ⟨⟨session.console.afterFrames (earlier + 1), journal⟩, text, some failure⟩ ∧
      session.performAll (List.replicate (earlier + 1) .frame) =
        ⟨⟨session.console.afterFrames (earlier + 1), journal⟩, text, some failure⟩ := by
  obtain ⟨journal, text, performed⟩ := performAll_frames_of_accepted session accepted
  obtain ⟨fault, raised⟩ := faults
  obtain ⟨others, rfl⟩ := Nat.exists_eq_add_of_lt bound
  have stopped : session.performAll (List.replicate (earlier + 1) .frame) =
      ⟨⟨session.console.afterFrames (earlier + 1),
          (Session.report journal (session.console.afterFrames earlier).runFrame).session.journal⟩,
        text ++ (Session.report journal (session.console.afterFrames earlier).runFrame).text,
        some (.fault fault)⟩ := by
    rw [List.replicate_succ', performAll_concat performed, Console.afterFrames_succ]
    simp only [perform_eq_report, report, Console.perform, raised]
  refine ⟨_, _, _, ?_, stopped⟩
  rw [Nat.add_right_comm, ← List.replicate_append_replicate, performAll_append, stopped,
    Report.andThen_of_failure rfl]

/-- Frames of a waiting machine print nothing and leave the screen as it is. -/
theorem performAll_frames_of_paused {console : Console width height}
    (running : console.fault = none) (paused : console.paused = true) (journal : Journal)
    (count : Nat) :
    ∃ buzzer, performAll ⟨console, journal⟩ (List.replicate count .frame) =
      ⟨⟨{ console with buzzer }, journal⟩, "", none⟩ := by
  induction count generalizing console with
  | zero => exact ⟨_, rfl⟩
  | succ count ih =>
      have first : perform ⟨console, journal⟩ .frame = ⟨⟨console.updateTone, journal⟩, "", none⟩ :=
        perform_frame_of_wait (.of_running running) (Nat.zero_le _) rfl running paused
      have stillRunning : console.updateTone.fault = none := running
      obtain ⟨buzzer, others⟩ := ih stillRunning paused
      rw [List.replicate_succ, performAll, first, Report.andThen_of_success rfl, others]
      exact ⟨buzzer, by simp [Console.updateTone]⟩

end Session

namespace CommandLine

theorem runFrames_eq (session : Session 64 32) (count : Nat) :
    runFrames count session = session.performAll (List.replicate count .frame) := by
  induction count generalizing session with
  | zero => rfl
  | succ count ih =>
      rw [runFrames, List.replicate_succ, Session.performAll]
      exact Report.andThen_congr (ih _)

/-- What is printed by a run that performs a number of frames: what there is to tell of them, and
the screen behind them. -/
def printedAfter (session : Session 64 32) (performed : Nat) : String :=
  (session.performAll (List.replicate performed .frame)).text ++
    ((session.console.afterFrames performed).screen.plainText ++ "\n")

/-- What becomes of a number of frames without a window. -/
structure RunsFrames (session : Session 64 32) (count : Nat) (transcript : Transcript) : Prop where
  /-- The status is one exactly if one of the frames raises a fault. -/
  fault_iff : transcript.ending = .status 1 ↔ session.console.FaultsWithin count
  /-- Otherwise it is zero. -/
  success_iff : transcript.ending = .status 0 ↔ ¬ session.console.FaultsWithin count
  /-- The frame that raises a fault is the last one, and the screen is printed as it left it. -/
  text_of_fault : ∀ earlier < count, session.console.FaultsAt earlier →
    transcript.text = printedAfter session (earlier + 1)
  /-- Without a fault the screen is printed as all frames left it. -/
  text_of_success : ¬ session.console.FaultsWithin count →
    transcript.text = printedAfter session count

variable {session : Session 64 32}

theorem runHeadless_of_faultsAt (inPlace : session.console.StopsInPlace) {earlier : Nat}
    (faults : session.console.FaultsAt earlier) {frames : Int} (bound : earlier < frames.toNat) :
    runHeadless session frames = ⟨.status 1, printedAfter session (earlier + 1), 0⟩ := by
  obtain ⟨journal, text, failure, all, stopped⟩ := Session.performAll_frames_of_faultsAt
    (faults.accepted (by decide) (by decide) inPlace) faults bound
  simp only [runHeadless, runFrames_eq, all, printedAfter, stopped, screenText]
  rfl

theorem runHeadless_of_accepted {frames : Int}
    (accepted : ∀ earlier < frames.toNat,
      (session.console.afterFrames earlier).runFrame.failure = none) :
    runHeadless session frames = ⟨.status 0, printedAfter session frames.toNat, 0⟩ := by
  obtain ⟨journal, text, performed⟩ := Session.performAll_frames_of_accepted session accepted
  simp only [runHeadless, runFrames_eq, performed, printedAfter, screenText]
  rfl

theorem runsFrames_runHeadless (inPlace : session.console.StopsInPlace)
    (running : session.console.halted = false) (frames : Int) :
    RunsFrames session frames.toNat (runHeadless session frames) := by
  cases stopped : (session.console.afterFrames frames.toNat).halted with
  | true =>
      obtain ⟨first, bound, raised⟩ :=
        Console.faultsWithin_of_halted (by decide) (by decide) running stopped
      have faults : session.console.FaultsWithin frames.toNat := ⟨first, bound, raised⟩
      have ran := runHeadless_of_faultsAt inPlace raised bound
      refine ⟨?_, ?_, ?_, ?_⟩
      · simp [ran, faults]
      · simp [ran, faults]
      · intro earlier bound raised
        rw [runHeadless_of_faultsAt inPlace raised bound]
      · exact fun noFault => (noFault faults).elim
  | false =>
      have accepted :=
        Console.accepted_of_running_afterFrames (by decide) (by decide) inPlace stopped
      have noFault : ¬ session.console.FaultsWithin frames.toNat := by
        rintro ⟨earlier, bound, fault, raised⟩
        rw [accepted earlier bound] at raised
        cases raised
      have ran := runHeadless_of_accepted accepted
      refine ⟨?_, ?_, ?_, ?_⟩
      · simp [ran, noFault]
      · simp [ran, noFault]
      · exact fun earlier bound raised => (noFault ⟨earlier, bound, raised⟩).elim
      · exact fun _ => by rw [ran]

/-- Once a frame raised a fault, more of them change nothing. -/
theorem runHeadless_eq_of_faultsWithin (inPlace : session.console.StopsInPlace) {count more : Int}
    (le : count ≤ more) (faults : session.console.FaultsWithin count.toNat) :
    runHeadless session more = runHeadless session count := by
  obtain ⟨earlier, bound, raised⟩ := faults
  have within : earlier < more.toNat := Nat.lt_of_lt_of_le bound (Int.toNat_le_toNat le)
  rw [runHeadless_of_faultsAt inPlace raised bound, runHeadless_of_faultsAt inPlace raised within]

/-- Once the machine waits for a key, more frames change nothing. -/
theorem runHeadless_eq_of_paused (inPlace : session.console.StopsInPlace) {count more : Int}
    (le : count ≤ more) (paused : (session.console.afterFrames count.toNat).paused = true) :
    runHeadless session more = runHeadless session count := by
  have running : (session.console.afterFrames count.toNat).fault = none := by
    cases stored : (session.console.afterFrames count.toNat).fault with
    | none => rfl
    | some fault =>
        have awake := (Console.stopsInPlace_afterFrames inPlace count.toNat fault stored).1
        rw [paused] at awake
        cases awake
  have accepted := Console.accepted_of_running_afterFrames (by decide) (by decide) inPlace
    (by simp [Console.halted, running] :
      (session.console.afterFrames count.toNat).halted = false)
  obtain ⟨journal, text, performed⟩ := Session.performAll_frames_of_accepted session accepted
  obtain ⟨others, length⟩ := Nat.exists_eq_add_of_le (Int.toNat_le_toNat le)
  obtain ⟨buzzer, waited⟩ := Session.performAll_frames_of_paused running paused journal others
  have all : session.performAll (List.replicate more.toNat .frame) =
      ⟨⟨{ session.console.afterFrames count.toNat with buzzer }, journal⟩, text, none⟩ := by
    rw [length, ← List.replicate_append_replicate, Session.performAll_append, performed,
      Report.andThen_of_success rfl, waited, String.append_empty]
  simp only [runHeadless, runFrames_eq, all, performed, screenText]

/-- A request that sets the number of instructions in a frame, and not too many frames, is run. -/
theorem runScreen_eq_runHeadless {request : Request}
    (set : request.instructionsPerFrame.isSome = true) {count : Int}
    (fits : count ≤ Int64.maxValue.toInt) (session : Session 64 32) :
    runScreen session request (some count) = runHeadless session count := by
  obtain ⟨number, given⟩ := Option.isSome_iff_exists.mp set
  have checked : checkFrames request (some count) = .ok count := by
    simp [checkFrames, Failure.Need.require, bind, Except.bind, Request.obstacle?, given,
      Int.not_lt.mpr fits]
  simp only [runScreen, checked]

theorem runScreen_of_too_many {request : Request} {count : Int}
    (many : Int64.maxValue.toInt < count) (session : Session 64 32) :
    runScreen session request (some count) = abort .countTooLarge (screenText session) := by
  have checked : checkFrames request (some count) = .error .countTooLarge := by
    simp [checkFrames, Failure.Need.require, bind, Except.bind, many]
  simp only [runScreen, checked]

theorem stopsInPlace_loaded (config : Config) (bytes : Array UInt8) (source : String) :
    let console := ((Console.initial config 64 32).load bytes source).console
    console.halted = false ∧ console.StopsInPlace := by
  intro console
  have kept : console.fault = none := by
    have idle := (Console.initial config 64 32).idles_load bytes source
    exact idle.frozen.fault_eq
  exact ⟨by simp [Console.halted, kept], .of_running kept⟩

/-- A program just loaded runs without a window for as many frames as can be counted with sixty-four
bits.  The status is one exactly if one of them raises a fault, which is the last one then, and else
zero; the screen is printed as the last frame left it.  If a frame raised a fault, or the machine
waits for a key in the end, more frames would have had the same status and printed the same.  If the
frames are too many, none of them runs and the screen is printed as it is. -/
theorem runScreen_loaded (config : Config) (bytes : Array UInt8) (source : String)
    (journal : Journal) {request : Request} (set : request.instructionsPerFrame.isSome = true) :
    let session : Session 64 32 :=
      ⟨((Console.initial config 64 32).load bytes source).console, journal⟩
    let result (count : Int) := runScreen session request (some count)
    (∀ count ≤ Int64.maxValue.toInt, RunsFrames session count.toNat (result count)) ∧
      (∀ count more, count ≤ more → more ≤ Int64.maxValue.toInt →
        ((result count).ending = .status 1 ∨
          (session.console.afterFrames count.toNat).paused = true) →
            result more = result count) ∧
      ∀ count, Int64.maxValue.toInt < count →
        result count = abort .countTooLarge (screenText session) := by
  intro session result
  obtain ⟨running, inPlace⟩ := stopsInPlace_loaded config bytes source
  have ran {count : Int} (fits : count ≤ Int64.maxValue.toInt) :
      result count = runHeadless session count := runScreen_eq_runHeadless set fits session
  refine ⟨fun count fits => ?_, fun count more le fits ends => ?_,
    fun count many => runScreen_of_too_many many session⟩
  · rw [ran fits]
    exact runsFrames_runHeadless inPlace running count
  · rw [ran fits, ran (Int.le_trans le fits)] at *
    rcases ends with failed | paused
    · exact runHeadless_eq_of_faultsWithin inPlace le
        ((runsFrames_runHeadless inPlace running count).fault_iff.mp failed)
    · exact runHeadless_eq_of_paused inPlace le paused

/-- A program that returns from no call faults in its first frame, and in no later one. -/
theorem runScreen_loaded_stray_return :
    let journal : Journal :=
      { name := "", threshold := .info, coloured := false, stamped := false, opened := 0
        clock := 0, traced := 0 }
    let session : Session 64 32 :=
      ⟨((Console.initial {} 64 32).load #[0x00, 0xEE] "").console, journal⟩
    let request : Request := { program := "" }
    request.instructionsPerFrame.isSome = true ∧
      (runScreen session request (some 1)).text = printedAfter session 1 ∧
      (runScreen session request (some 1)).ending = .status 1 ∧
      runScreen session request (some 9223372036854775807) =
        runScreen session request (some 1) := by
  intro journal session request
  have set : request.instructionsPerFrame.isSome = true := rfl
  obtain ⟨runs, stable, -⟩ := runScreen_loaded {} #[0x00, 0xEE] "" journal set
  have faults : session.console.FaultsAt 0 := ⟨⟨.stackUnderflow, some 0x200⟩, by decide +kernel⟩
  have ran : RunsFrames session 1 (runScreen session request (some 1)) := runs 1 (by decide)
  have failed := ran.fault_iff.mpr ⟨0, Nat.one_pos, faults⟩
  exact ⟨set, ran.text_of_fault 0 Nat.one_pos faults, failed,
    stable 1 9223372036854775807 (by decide) (by decide) (.inl failed)⟩

/-- With more frames than sixty-four bits count there is no status, although the first one would
raise a fault. -/
theorem no_status_of_too_many :
    let journal : Journal :=
      { name := "", threshold := .info, coloured := false, stamped := false, opened := 0
        clock := 0, traced := 0 }
    let session : Session 64 32 :=
      ⟨((Console.initial {} 64 32).load #[0x00, 0xEE] "").console, journal⟩
    let count : Int := 9223372036854775808
    let result := runScreen session { program := "" } (some count)
    session.console.FaultsAt 0 ∧
      ¬ (result.ending = .status 1 ↔ session.console.FaultsWithin count.toNat) ∧
      ∀ status, result.ending ≠ .status status := by
  intro journal session count result
  have faults : session.console.FaultsAt 0 := ⟨⟨.stackUnderflow, some 0x200⟩, by decide +kernel⟩
  have many : result.ending = .failure .countTooLarge := by
    simp only [result, runScreen_of_too_many (by decide : Int64.maxValue.toInt < count), abort]
  refine ⟨faults, fun same => ?_, fun status ended => ?_⟩
  · have ended := same.mpr ⟨0, by decide, faults⟩
    rw [many] at ended
    cases ended
  · rw [many] at ended
    cases ended

end CommandLine
end ChipEight

import ChipEight.Proofs.Console.Step
import ChipEight.Session

/-!
# Journalling

A journal is told of things while they happen, yet it has no part in them: what an operation does to
a session is what it does to the console, and afterwards the notices enter the journal in order.
-/

namespace ChipEight

variable {width height : Nat}

theorem Journal.observeAll_append (journal : Journal) (first second : List Notice) :
    journal.observeAll (first ++ second) =
      (((journal.observeAll first).1.observeAll second).1,
        (journal.observeAll first).2 ++ ((journal.observeAll first).1.observeAll second).2) := by
  induction first generalizing journal with
  | nil => simp [observeAll]
  | cons notice rest ih => simp [observeAll, ih, String.append_assoc]

theorem Journal.observe_of_other (journal : Journal) {notice : Notice}
    (other : notice.isTrace = false) : journal.observe notice = journal.enter notice := by
  simp only [observe, other, Bool.false_and]
  rfl

theorem Journal.observeAll_singleton (journal : Journal) (notice : Notice) :
    journal.observeAll [notice] = journal.observe notice := by
  simp [observeAll]

namespace Report

variable {first : Report width height} {next : Session width height → Report width height}

theorem andThen_of_success (success : first.failure = none) :
    first.andThen next =
      { next first.session with text := first.text ++ (next first.session).text } := by
  simp only [andThen, success]

theorem andThen_of_failure {failure : Failure} (failed : first.failure = some failure) :
    first.andThen next = first := by
  simp only [andThen, failed]

theorem andThen_congr {other : Session width height → Report width height}
    (same : next first.session = other first.session) :
    first.andThen next = first.andThen other := by
  simp only [andThen, same]

theorem andThen_assoc (first : Report width height)
    (second third : Session width height → Report width height) :
    (first.andThen second).andThen third =
      first.andThen fun session => (second session).andThen third := by
  cases firstEnd : first.failure with
  | some failure => simp only [andThen_of_failure firstEnd]
  | none =>
      rw [andThen_of_success firstEnd, andThen_of_success firstEnd]
      cases secondEnd : (second first.session).failure with
      | some failure => simp [andThen, secondEnd]
      | none => simp [andThen, secondEnd, String.append_assoc]

end Report

namespace Session

/-- Enter the notices of an outcome afterwards, all at once. -/
def report (journal : Journal) (outcome : Outcome width height) : Report width height :=
  let (journal, text) := journal.observeAll outcome.notices
  { session := { console := outcome.console, journal }, text, failure := outcome.failure }

theorem report_eq (journal : Journal) (outcome : Outcome width height) :
    report journal outcome =
      ⟨⟨outcome.console, (journal.observeAll outcome.notices).1⟩,
        (journal.observeAll outcome.notices).2, outcome.failure⟩ :=
  rfl

theorem settle_eq (session : Session width height) :
    session.settle = report session.journal (Console.settled session.console) :=
  rfl

theorem refuse_eq (session : Session width height) (failure : Failure) :
    session.refuse failure = report session.journal (session.console.refused failure) :=
  rfl

theorem unheard_eq (session : Session width height) {outcome : Outcome width height}
    (untold : outcome.notices = []) :
    session.unheard outcome = report session.journal outcome := by
  rw [report_eq, untold]
  rfl

/-- A journal told of anything but an instruction has observed it. -/
theorem tell_eq (session : Session width height) {notice : Notice}
    (other : notice.isTrace = false) :
    session.tell notice =
      report session.journal { console := session.console, notices := [notice] } := by
  simp only [report, Journal.observeAll_singleton, Journal.observe, other, Bool.false_and]
  rfl

/-- Whether the journal is asked first or an announcement is held back afterwards is all the
same. -/
theorem announce_eq (session : Session width height) :
    session.announce =
      report session.journal
        { console := session.console
          notices := [.executing session.console.machine.counter.toNat
            session.console.machine.word] } := by
  simp only [announce, report, Journal.observeAll_singleton, Journal.observe, Notice.isTrace]
  cases session.journal.accepts .debug <;> rfl

theorem report_andThen (journal : Journal) (first : Outcome width height)
    (next : Console width height → Outcome width height) :
    report journal (first.andThen next) =
      (report journal first).andThen fun after => report after.journal (next after.console) := by
  cases failed : first.failure with
  | some failure => simp [Outcome.andThen, Report.andThen, report, failed]
  | none => simp [Outcome.andThen, Report.andThen, report, failed, Journal.observeAll_append]

theorem executeNext_eq_report (session : Session width height) :
    session.executeNext = report session.journal session.console.executeNext := by
  have waits (number : Int) : (Notice.awaitingKey number).isTrace = false := rfl
  have stops (failure : Failure) : (Notice.stopped failure).isTrace = false := rfl
  have shows (machine : Machine) : (Notice.registers machine).isTrace = false := rfl
  simp only [executeNext, announce_eq, Report.andThen, report, Console.executeNext]
  generalize session.console.machine.stepInPlace session.console.screen
    session.console.keypad.held = executed
  cases executed.result with
  | ok machine =>
      cases waiting : machine.waiting with
      | none => simp [waiting, settle, Journal.observeAll]
      | some register =>
          simp [waiting, settle, tell, Journal.observeAll, Journal.observe_of_other, waits]
  | error failure =>
      cases failure with
      | fault fault =>
          simp [refuse, tell, Journal.observeAll, Journal.observe_of_other, stops, shows]
      | _ => simp [refuse, Journal.observeAll]

theorem step_eq_report (session : Session width height) :
    session.step = report session.journal session.console.step := by
  simp only [step, Console.step]
  cases session.console.fault with
  | some fault => exact session.refuse_eq _
  | none =>
      cases session.console.paused with
      | true => exact session.settle_eq
      | false => exact session.executeNext_eq_report

theorem steps_eq_report (session : Session width height) (count : Nat) :
    session.steps count = report session.journal (session.console.steps count) := by
  induction count generalizing session with
  | zero => exact session.settle_eq
  | succ count ih =>
      rw [steps, Console.steps]
      split
      · exact session.settle_eq
      · rw [report_andThen, step_eq_report]
        exact Report.andThen_congr (ih _)

theorem runFrame_eq_report (session : Session width height) :
    session.runFrame = report session.journal session.console.runFrame := by
  rw [runFrame, Console.runFrame, report_andThen, steps_eq_report]
  exact Report.andThen_congr (settle_eq _)

theorem load_eq_report (session : Session width height) (bytes : Array UInt8) (source : String) :
    session.load bytes source = report session.journal (session.console.load bytes source) := by
  simp only [load, Console.load]
  cases Program.ofBytes bytes with
  | ok program => exact tell_eq _ rfl
  | error failure => exact session.refuse_eq failure

theorem deliver_eq_report (session : Session width height) (key : Key) :
    session.deliver key = report session.journal (session.console.deliver key) := by
  simp only [deliver, Console.deliver]
  split
  · exact tell_eq _ rfl
  · exact session.settle_eq

theorem press_eq_report (session : Session width height) (key : Key) :
    session.press key = report session.journal (session.console.press key) := by
  simp only [press, Console.press]
  cases (session.console.keypad.press key).2 with
  | none => exact settle_eq _
  | some _ => exact deliver_eq_report _ key

theorem withKey_eq_report (session : Session width height) (code : Int)
    {act : Key → Report width height} {quiet : Key → Outcome width height}
    (acts : ∀ key, act key = report session.journal (quiet key)) :
    session.withKey code act = report session.journal (session.console.withKey code quiet) := by
  simp only [withKey, Console.withKey]
  cases Key.ofInt code with
  | ok key => exact acts key
  | error failure => exact session.refuse_eq failure

theorem notices_withKey_of_untold (console : Console width height) (code : Int)
    {act : Key → Outcome width height} (untold : ∀ key, (act key).notices = []) :
    (console.withKey code act).notices = [] := by
  simp only [Console.withKey]
  cases Key.ofInt code with
  | ok key => exact untold key
  | error failure => rfl

theorem notices_adopt (console : Console width height) (executed : Executed width height) :
    (console.adopt executed).notices = [] := by
  simp only [Console.adopt]
  cases executed.result with
  | ok machine => rfl
  | error failure => rfl

theorem notices_loadMachine (console : Console width height) (bytes : Array UInt8) :
    (console.loadMachine bytes).notices = [] := by
  simp only [Console.loadMachine]
  cases Program.ofBytes bytes with
  | ok program => rfl
  | error failure => rfl

/-- Whatever is done to a session is done to its console, and what there is to tell of it enters the
journal in order. -/
theorem perform_eq_report (session : Session width height) (operation : Operation) :
    session.perform operation = report session.journal (session.console.perform operation) := by
  cases operation with
  | step => exact session.step_eq_report
  | frame => exact session.runFrame_eq_report
  | load bytes source => exact session.load_eq_report bytes source
  | loadFile path contents =>
      cases contents with
      | ok bytes => exact session.load_eq_report bytes path
      | error problem => exact session.refuse_eq _
  | press code => exact session.withKey_eq_report code session.press_eq_report
  | deliver code => exact session.withKey_eq_report code session.deliver_eq_report
  | release code | machineResume code =>
      exact session.unheard_eq (notices_withKey_of_untold _ code fun _ => rfl)
  | execute word | machineStep => exact session.unheard_eq (notices_adopt _ _)
  | machineLoad bytes => exact session.unheard_eq (notices_loadMachine _ bytes)
  | machineLoadFile path contents =>
      cases contents with
      | ok bytes => exact session.unheard_eq (notices_loadMachine _ bytes)
      | error problem => exact session.unheard_eq rfl
  | tick | tone | reset | cancelWait | machineTick => exact session.unheard_eq rfl

/-- The journal has no part in what becomes of the console. -/
theorem console_perform (session : Session width height) (operation : Operation) :
    (session.perform operation).session.console = (session.console.perform operation).console := by
  rw [perform_eq_report]
  rfl

theorem failure_perform (session : Session width height) (operation : Operation) :
    (session.perform operation).failure = (session.console.perform operation).failure := by
  rw [perform_eq_report]
  rfl

theorem create_eq_report (config : Config) (width height : Nat) (journal : Journal) :
    create config width height journal = report journal (Console.create config width height) :=
  tell_eq _ rfl

end Session
end ChipEight

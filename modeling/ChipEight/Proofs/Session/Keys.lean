import ChipEight.Proofs.Console.Resemblance
import ChipEight.Proofs.Execution.Footprint
import ChipEight.Proofs.Execution.Likeness
import ChipEight.Proofs.Session.Transcript

/-!
# Keys in sessions

Keys may be held down and let go of at any time.  As long as no word reads them, a session shows no
trace of it.
-/

namespace ChipEight

/-! ## Keys in execution

Three kinds of words have to do with keys: two skips look at whether one is held, and a third word
waits for one.  All others do the same whatever keys are held.
-/

/-- The digits of the words that look at a key or wait for one. -/
def Word.ReadsKeys (word : Word) : Prop :=
  word.low / 4096 = 0xE ∧ (word.low % 256 = 0x9E ∨ word.low % 256 = 0xA1) ∨
    word.low / 4096 = 0xF ∧ word.low % 256 = 0x0A

instance (word : Word) : Decidable word.ReadsKeys :=
  inferInstanceAs (Decidable (_ ∨ _))

namespace Machine

variable {width height : Nat} {word : Word}

theorem perform_congr_held (machine : Machine) (screen : Screen width height)
    (leftHeld rightHeld : HeldKeys) {instruction : Instruction}
    (noKeyHeld : ∀ register, instruction ≠ .skip (.keyHeld register))
    (noKeyFree : ∀ register, instruction ≠ .skip (.keyFree register)) :
    machine.perform screen leftHeld instruction = machine.perform screen rightHeld instruction := by
  cases instruction with
  | skip condition =>
      cases condition with
      | keyHeld register => exact (noKeyHeld register rfl).elim
      | keyFree register => exact (noKeyFree register rfl).elim
      | _ => rfl
  | _ => rfl

/-- A word that does not read keys does the same whatever keys are held. -/
theorem execute_congr_held (unread : ¬ word.ReadsKeys) (machine : Machine)
    (screen : Screen width height) (leftHeld rightHeld : HeldKeys) :
    machine.execute screen leftHeld word = machine.execute screen rightHeld word := by
  simp only [execute]
  split
  · rename_i instruction encoded
    have digits := Instruction.encodes_of_ofWord? encoded
    apply perform_congr_held
    · rintro register rfl
      exact unread (.inl ⟨digits.1, .inl digits.2.1⟩)
    · rintro register rfl
      exact unread (.inl ⟨digits.1, .inr digits.2.1⟩)
  · rfl

theorem waiting_of_execute (unread : ¬ word.ReadsKeys) {before after : Machine}
    {screen drawn : Screen width height} {held : HeldKeys}
    (executed : before.execute screen held word = .ok (after, drawn)) :
    after.waiting = before.waiting := by
  obtain ⟨instruction, encoded, performed⟩ := execute_eq_ok_iff.mp executed
  refine (footprint_of_perform performed).waiting_eq ?_
  rintro target rfl
  exact unread (.inr ⟨encoded.1, encoded.2.1⟩)

end Machine

/-- Equal machines that do not wait stay so whatever keys are held, until a word reads them. -/
def Resemblance.keyBlind : Resemblance where
  machines left right := left = right ∧ left.waiting = none
  tells _ word := word.ReadsKeys
  heedsKeys := False
  heedsKeys_of_paused same waits := by simp [Machine.paused, same.2] at waits
  waiting_eq same := congrArg Machine.waiting same.1
  sound_eq same := congrArg Machine.sound same.1
  pace_eq same := congrArg (·.config.instructionsPerFrame) same.1
  counter_eq same := congrArg Machine.counter same.1
  word_eq same := congrArg Machine.word same.1
  registerLines_eq same := congrArg Notice.registerLines same.1
  restart same := ⟨congrArg (Machine.initial ·.config) same.1, rfl⟩
  load same program := ⟨congrArg (·.load program) same.1, same.2⟩
  tick same := ⟨congrArg Machine.tick same.1, same.2⟩
  resume same key := by
    obtain ⟨rfl, awake⟩ := same
    exact ⟨rfl, by simp [Machine.resume, awake]⟩
  advance same := ⟨congrArg Machine.advance same.1, same.2⟩
  tells_of_advance told := told
  execute := by
    rintro left _ ⟨rfl, awake⟩ width height screen leftHeld rightHeld - word unread
    rw [Machine.execute_congr_held unread left screen rightHeld leftHeld]
    cases executed : left.execute screen leftHeld word with
    | error failure => exact .failure rfl
    | ok result =>
        exact .success ⟨⟨rfl, (Machine.waiting_of_execute unread executed).trans awake⟩, rfl⟩

/-! ## Sessions that nothing reads keys in -/

variable {width height : Nat}

namespace Journal

/-- What a journal makes of notices depends on what it is told by them. -/
theorem observeAll_congr {left right : List Notice}
    (same : left.map Notice.told = right.map Notice.told) (journal : Journal) :
    journal.observeAll left = journal.observeAll right := by
  induction left generalizing journal right with
  | nil =>
      obtain rfl := List.map_eq_nil_iff.mp same.symm
      rfl
  | cons notice rest ih =>
      obtain ⟨other, others, rfl, told, later⟩ := List.map_eq_cons_iff.mp same.symm
      obtain ⟨trace, entries⟩ := Prod.mk.inj told
      have first : journal.observe notice = journal.observe other := by
        simp only [observe, enter_eq, trace, entries]
      simp only [observeAll_cons, first, ih later.symm]

end Journal

/-- The same console with no key held and nobody listening. -/
def Console.keyless (console : Console width height) : Console width height :=
  { console with keypad := .released }

namespace Session

/-- Whether an event holds one of the sixteen keys down or lets go of one. -/
def Event.isKey : Event → Bool
  | .perform (.press code) | .perform (.release code) => decide (0 ≤ code ∧ code < 16)
  | _ => false

/-- The same session with no key held and nobody listening. -/
def keyless (session : Session width height) : Session width height :=
  { session with console := session.console.keyless }

/-- The reports of all events but those of keys, without the keys. -/
def seen (session : Session width height) : List Event → List (Report width height)
  | [] => []
  | event :: rest =>
      let report := session.react event
      let later := report.session.seen rest
      if event.isKey then later else { report with session := report.session.keyless } :: later

/-- Why events were refused, in order. -/
def failures (session : Session width height) : List Event → List Failure
  | [] => []
  | event :: rest =>
      let report := session.react event
      report.failure.toList ++ report.session.failures rest

/-- Two lists of events that become equal if some events of keys are taken out. -/
inductive KeysApart : List Event → List Event → Prop
  | nil : KeysApart [] []
  | both (event : Event) {events others : List Event} (later : KeysApart events others) :
      KeysApart (event :: events) (event :: others)
  | left {event : Event} {events others : List Event} (key : event.isKey = true)
      (later : KeysApart events others) : KeysApart (event :: events) others
  | right {event : Event} {events others : List Event} (key : event.isKey = true)
      (later : KeysApart events others) : KeysApart events (event :: others)

theorem keysApart_of_filter_eq {events others : List Event}
    (same : events.filter (!·.isKey) = others.filter (!·.isKey)) : KeysApart events others := by
  induction events generalizing others with
  | nil =>
      induction others with
      | nil => exact .nil
      | cons other others ih =>
          have key : other.isKey = true := by
            cases key : other.isKey with
            | true => rfl
            | false => simp [key] at same
          exact .right key (ih (by simpa [key] using same))
  | cons event events ih =>
      cases key : event.isKey with
      | true => exact .left key (ih (by simpa [key] using same))
      | false =>
          -- The event has its equal among the others, behind some keys.
          induction others with
          | nil => simp [key] at same
          | cons other others next =>
              cases otherKey : other.isKey with
              | true => exact .right otherKey (next (by simpa [otherKey] using same))
              | false =>
                  simp only [List.filter_cons, key, otherKey, Bool.not_false, if_true,
                    List.cons.injEq] at same
                  obtain ⟨rfl, later⟩ := same
                  exact .both event (ih later)

/-- Two sessions are equal but for the keys, and the machine does not wait. -/
structure SameButKeys (left right : Session width height) : Prop where
  console : left.console.Resembles .keyBlind right.console
  journal_eq : left.journal = right.journal

namespace SameButKeys

variable {left right : Session width height}

theorem keyless_eq (same : left.SameButKeys right) : left.keyless = right.keyless := by
  obtain ⟨⟨⟨machine, -⟩, screen, -, buzzer, fault, program⟩, journal⟩ := same
  simp only [keyless, Console.keyless, machine, screen, buzzer, fault, program, journal]

theorem symm (same : left.SameButKeys right) : right.SameButKeys left where
  console :=
    { machine := ⟨same.console.machine.1.symm, same.console.machine.1 ▸ same.console.machine.2⟩
      screen_eq := same.console.screen_eq.symm
      keypad_eq := False.elim
      buzzer_eq := same.console.buzzer_eq.symm
      fault_eq := same.console.fault_eq.symm
      program_eq := same.console.program_eq.symm }
  journal_eq := same.journal_eq.symm

theorem awake (same : left.SameButKeys right) : left.console.paused = false := by
  simp [Console.paused, Machine.paused, same.console.machine.2]

theorem with_keypad (same : left.SameButKeys right) (keypad : Keypad Unit) :
    SameButKeys ⟨{ left.console with keypad }, left.journal⟩ right :=
  ⟨{ same.console with keypad_eq := False.elim }, same.journal_eq⟩

/-- An event that has nothing to do with keys leaves the same to be seen. -/
theorem react (same : left.SameButKeys right) {event : Event}
    (unread : ∀ execution ∈ left.console.executions (operations [event]),
      ¬ execution.word.ReadsKeys) :
    (left.react event).session.SameButKeys (right.react event).session ∧
      (left.react event).text = (right.react event).text ∧
        (left.react event).failure = (right.react event).failure := by
  cases event with
  | setClock clock =>
      refine ⟨⟨same.console, ?_⟩, rfl, rfl⟩
      simp only [Session.react, setClock, same.journal_eq]
  | perform operation =>
      have performed := same.console.perform
        (fun execution member => unread execution (List.mem_append_left _ member))
      have observed := left.journal.observeAll_congr performed.told_eq
      simp only [Session.react, perform_eq_report, report_eq, ← same.journal_eq, observed]
      exact ⟨⟨performed.console, rfl⟩, trivial, performed.failure_eq⟩

end SameButKeys

/-- While the machine does not wait, an event of a key changes the keypad alone and tells
nothing. -/
theorem react_eq_of_isKey {session : Session width height}
    (awake : session.console.paused = false) {event : Event} (key : event.isKey = true) :
    ∃ keypad, session.react event =
      ⟨⟨{ session.console with keypad }, session.journal⟩, "", none⟩ := by
  cases event with
  | setClock clock => cases key
  | perform operation =>
      cases operation with
      | press code | release code =>
          have bounds := of_decide_eq_true key
          simp only [react, perform_eq_report, Console.perform, Console.withKey, Key.ofInt, bounds,
            and_self, ↓reduceDIte, Console.press_of_awake awake]
          exact ⟨_, rfl⟩
      | _ => cases key

/-- What can be seen of two sessions in the course of their events is the same. -/
structure ShowsAlike (left : Session width height) (events : List Event)
    (right : Session width height) (others : List Event) : Prop where
  /-- After every event that has nothing to do with keys all is equal but for the keys. -/
  seen_eq : left.seen events = right.seen others
  /-- So it is after the last event. -/
  run_eq : (left.run events).keyless = (right.run others).keyless
  /-- The same is written. -/
  text_eq : left.text events = right.text others
  /-- The same is refused. -/
  failures_eq : left.failures events = right.failures others

namespace ShowsAlike

variable {left right : Session width height} {events others : List Event}

theorem symm (alike : ShowsAlike left events right others) :
    ShowsAlike right others left events :=
  ⟨alike.seen_eq.symm, alike.run_eq.symm, alike.text_eq.symm, alike.failures_eq.symm⟩

/-- An event of a key in front that tells nothing is not seen. -/
theorem cons_key {event : Event} (key : event.isKey = true) {after : Session width height}
    (reacted : left.react event = ⟨after, "", none⟩)
    (later : ShowsAlike after events right others) :
    ShowsAlike left (event :: events) right others where
  seen_eq := by simp only [seen, key, reacted, if_true, later.seen_eq]
  run_eq := by simp only [run, reacted, later.run_eq]
  text_eq := by simp only [text, reacted, later.text_eq, String.empty_append]
  failures_eq := by
    simp only [failures, reacted, later.failures_eq, Option.toList_none, List.nil_append]

theorem cons_both {event : Event}
    (same : (left.react event).session.SameButKeys (right.react event).session)
    (text : (left.react event).text = (right.react event).text)
    (failure : (left.react event).failure = (right.react event).failure)
    (later : ShowsAlike (left.react event).session events (right.react event).session others) :
    ShowsAlike left (event :: events) right (event :: others) where
  seen_eq := by simp only [seen, same.keyless_eq, text, failure, later.seen_eq]
  run_eq := later.run_eq
  text_eq := by simp only [Session.text, text, later.text_eq]
  failures_eq := by simp only [failures, failure, later.failures_eq]

end ShowsAlike

/-- What is executed in the course of events is executed by the first one or after it. -/
theorem forall_executions_cons {session : Session width height} {event : Event}
    {rest : List Event} {Permitted : Execution → Prop} :
    (∀ execution ∈ session.console.executions (operations (event :: rest)),
        Permitted execution) ↔
      (∀ execution ∈ session.console.executions (operations [event]), Permitted execution) ∧
        ∀ execution ∈ (session.react event).session.console.executions (operations rest),
          Permitted execution := by
  cases event with
  | setClock clock =>
      have idle (later : List Event) :
          operations (.setClock clock :: later) = operations later := rfl
      rw [idle, idle]
      simp [operations, Console.executions, react, setClock]
  | perform operation =>
      have first (later : List Event) :
          operations (.perform operation :: later) = operation :: operations later := rfl
      simp only [first, Console.executions, console_react, List.forall_mem_append]
      simp [operations, Console.executions]

/-- Sessions that are equal but for the keys stay so, whatever keys are held down and let go of,
until a word reads them. -/
theorem showsAlike_of_keysApart {events others : List Event} (apart : KeysApart events others)
    {left right : Session width height} (same : left.SameButKeys right)
    (unread : ∀ execution ∈ left.console.executions (operations events),
      ¬ execution.word.ReadsKeys) :
    ShowsAlike left events right others := by
  induction apart generalizing left right with
  | nil => exact ⟨rfl, same.keyless_eq, rfl, rfl⟩
  | both event later ih =>
      obtain ⟨first, remaining⟩ := forall_executions_cons.mp unread
      obtain ⟨after, text, failure⟩ := same.react first
      exact .cons_both after text failure (ih after remaining)
  | left key later ih =>
      obtain ⟨keypad, reacted⟩ := react_eq_of_isKey same.awake key
      have remaining := (forall_executions_cons.mp unread).2
      rw [reacted] at remaining
      exact .cons_key key reacted (ih (same.with_keypad keypad) remaining)
  | right key later ih =>
      obtain ⟨keypad, reacted⟩ := react_eq_of_isKey same.symm.awake key
      have after := ih (same.symm.with_keypad keypad).symm unread
      exact (ShowsAlike.cons_key key reacted after.symm).symm

/-- From power-on, and until a word reads the keys, events of keys that are put in or left out
anywhere make no difference to what can be seen. -/
theorem showsAlike_of_unread (config : Config) (width height : Nat) (journal : Journal)
    {events others : List Event}
    (same : events.filter (!·.isKey) = others.filter (!·.isKey))
    (unread : ∀ execution ∈ (Console.initial config width height).executions (operations events),
      ¬ execution.word.ReadsKeys) :
    let session := (create config width height journal).session
    ShowsAlike session events session others := by
  intro session
  have atRest : session.SameButKeys session :=
    ⟨⟨⟨rfl, rfl⟩, rfl, fun _ => rfl, rfl, rfl, rfl⟩, rfl⟩
  exact showsAlike_of_keysApart (keysApart_of_filter_eq same) atRest unread

/-- A program that lets the tone sound while a key is held down. -/
theorem showsAlike_of_unread_sounding :
    let journal : Journal :=
      { name := "", threshold := .debug, coloured := false, stamped := false, opened := 0
        clock := 0, traced := 0 }
    let program := Event.perform (.load #[0x60, 0x05, 0xF0, 0x18] "")
    let events := [program, .perform .step, .perform .frame]
    let others := [program, .perform (.press 3), .perform .step, .perform (.release 7),
      .perform .frame]
    let session : Session 1 1 := (create {} 1 1 journal).session
    events.filter (!·.isKey) = others.filter (!·.isKey) ∧
      (∀ execution ∈ (Console.initial {} 1 1).executions (operations events),
        ¬ execution.word.ReadsKeys) ∧
      ShowsAlike session events session others := by
  intro journal program events others session
  have same : events.filter (!·.isKey) = others.filter (!·.isKey) := rfl
  have unread : ∀ execution ∈ (Console.initial {} 1 1).executions (operations events),
      ¬ execution.word.ReadsKeys := by decide +kernel
  exact ⟨same, unread, showsAlike_of_unread {} 1 1 journal same unread⟩

end Session
end ChipEight

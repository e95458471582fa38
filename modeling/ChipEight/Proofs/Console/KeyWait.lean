import ChipEight.Proofs.Console.Step

/-!
# Waits for a key

A console that waits for a key keeps the wait in two places.  Its operations keep the two in step,
and over a history every wait has one end.
-/

namespace ChipEight

/-! ## Waits of a console

What single operations do to a wait for a key.  The wait is kept twice, as a register of the machine
and as a listener of the keypad.  The operations of the console and of its keys keep the two in step
and either carry a wait on or end it.
-/

variable {width height : Nat}

/-- The register that a word waits for a key with, if it is the instruction that waits. -/
def Word.awaited? (word : Word) : Option Register :=
  if word.low / 4096 = 0xF ∧ word.low % 256 = 0x0A then some word.x else none

/-- The registers that the words executed by an operation wait with, in order. -/
def Outcome.awaited (outcome : Outcome width height) : List Register :=
  outcome.words.filterMap Word.awaited?

theorem Word.awaited?_eq_some_iff {word : Word} {target : Register} :
    word.awaited? = some target ↔ word.Encodes (.awaitKey target) := by
  simp [awaited?, Encodes, IsMiscellaneous, and_assoc, eq_comm]

namespace Machine

theorem waiting_resume (machine : Machine) (key : Key) : (machine.resume key).waiting = none := by
  simp only [resume]
  split
  · rfl
  · rename_i awake
    exact awake

theorem resume_of_awake {machine : Machine} (awake : machine.paused = false) (key : Key) :
    machine.resume key = machine := by
  simp_all [resume, paused]

/-- A step makes the machine wait exactly if the word says so. -/
theorem waiting_of_step {before after : Machine} {screen drawn : Screen width height}
    {held : HeldKeys} (stepped : before.step screen held = .ok (after, drawn))
    (awake : before.waiting = none) : after.waiting = before.word.awaited? := by
  obtain ⟨instruction, encoded, performed⟩ := step_eq_ok_iff.mp stepped
  have footprint := footprint_of_perform performed
  cases known : before.word.awaited? with
  | some target =>
      obtain rfl := encoded.unique (Word.awaited?_eq_some_iff.mp known)
      exact congrArg waiting footprint
  | none =>
      have other : ∀ target, instruction ≠ .awaitKey target := by
        rintro target rfl
        rw [Word.awaited?_eq_some_iff.mpr encoded] at known
        cases known
      exact (footprint.waiting_eq other).trans awake

theorem step_of_awaited {machine : Machine} {target : Register}
    (awaits : machine.word.awaited? = some target) (screen : Screen width height)
    (held : HeldKeys) :
    machine.step screen held = .ok ({ machine.advance with waiting := some target }, screen) :=
  step_eq_ok_iff.mpr ⟨.awaitKey target, Word.awaited?_eq_some_iff.mp awaits, rfl⟩

theorem awaited?_of_step_error {machine : Machine} {screen : Screen width height}
    {held : HeldKeys} {failure : Failure} (failed : machine.step screen held = .error failure) :
    machine.word.awaited? = none := by
  cases known : machine.word.awaited? with
  | none => rfl
  | some target =>
      rw [step_of_awaited known] at failed
      cases failed

end Machine

namespace Console

/-- While the machine waits somebody listens. -/
def Listening (console : Console width height) : Prop :=
  console.paused = true → console.keypad.waiting = true

/-- An operation carries a wait on: the one that was pending stays so, and one that the operation
begins is pending from then on. -/
structure Carries (before : Console width height) (outcome : Outcome width height) : Prop where
  /-- What waited before comes first, what was executed comes after it, and only one can wait. -/
  waiting_eq : outcome.console.machine.waiting.toList =
    before.machine.waiting.toList ++ outcome.awaited
  /-- The listener comes along. -/
  listening : before.Listening → outcome.console.Listening

/-- An operation ends any wait. -/
structure Ends (outcome : Outcome width height) : Prop where
  /-- No register waits. -/
  waiting_eq : outcome.console.machine.waiting = none
  /-- No wait begins. -/
  awaited_eq : outcome.awaited = []

namespace Carries

variable {before : Console width height} {outcome : Outcome width height}

/-- An operation that executes nothing carries a wait on if it leaves the machine waiting as before
and the listener in place. -/
theorem of_idle (idle : outcome.words = [])
    (waiting : outcome.console.machine.waiting = before.machine.waiting)
    (listener : outcome.console.keypad.listener = before.keypad.listener) :
    before.Carries outcome where
  waiting_eq := by simp [Outcome.awaited, idle, waiting]
  listening := by simp [Listening, paused, Machine.paused, Keypad.waiting, waiting, listener]

theorem andThen {next : Console width height → Outcome width height}
    (first : before.Carries outcome) (second : outcome.console.Carries (next outcome.console)) :
    before.Carries (outcome.andThen next) := by
  simp only [Outcome.andThen]
  split
  · exact first
  · refine ⟨?_, fun listening => second.listening (first.listening listening)⟩
    rw [second.waiting_eq, first.waiting_eq, List.append_assoc]
    simp [Outcome.awaited, Outcome.words]

end Carries

theorem carries_refused (console : Console width height) (failure : Failure) :
    console.Carries (console.refused failure) :=
  .of_idle rfl rfl rfl

theorem carries_executeNext {console : Console width height} (awake : console.paused = false) :
    console.Carries console.executeNext := by
  have idle : console.machine.waiting = none := by
    simpa [paused, Machine.paused] using awake
  cases stepped : console.machine.step console.screen console.keypad.held with
  | ok result =>
      obtain ⟨after, -, words⟩ := executeNext_of_ok stepped
      refine ⟨?_, fun _ => ?_⟩
      · rw [after, Outcome.awaited, words, Machine.waiting_of_step stepped idle, idle]
        cases known : console.machine.word.awaited? <;> simp [known]
      · rw [after]
        intro waits
        have waits : result.1.paused = true := waits
        simp [waits, Keypad.listen, Keypad.waiting]
  | error failure =>
      -- The word that waits cannot fail, so a word that failed begins no wait.
      have silent := Machine.awaited?_of_step_error stepped
      cases failure with
      | fault fault =>
          obtain ⟨after, -, words⟩ := executeNext_of_fault stepped
          refine ⟨?_, fun listening => ?_⟩
          · rw [after, Outcome.awaited, words]
            simp [silent]
          · rw [after]
            exact listening
      | _ =>
          obtain ⟨after, -, words⟩ := executeNext_of_error stepped (by simp)
          refine ⟨?_, fun listening => ?_⟩
          · rw [after, Outcome.awaited, words]
            simp [silent]
          · rw [after]
            exact listening

theorem carries_step (console : Console width height) : console.Carries console.step := by
  fun_cases step console
  · exact .of_idle rfl rfl rfl
  · exact .of_idle rfl rfl rfl
  · rename_i awake
    exact carries_executeNext (by simpa using awake)

theorem carries_steps (count : Nat) (console : Console width height) :
    console.Carries (console.steps count) := by
  induction count generalizing console with
  | zero => exact .of_idle rfl rfl rfl
  | succ count ih =>
      simp only [steps]
      split
      · exact .of_idle rfl rfl rfl
      · exact (carries_step console).andThen (ih _)

theorem carries_tick (console : Console width height) :
    console.Carries (settled console.tick) := by
  simp only [tick]
  split
  · exact .of_idle rfl rfl rfl
  · exact .of_idle rfl rfl rfl

theorem carries_runFrame (console : Console width height) :
    console.Carries console.runFrame :=
  (carries_steps _ console).andThen <| by
    have ticked := carries_tick
      (console.steps console.machine.config.instructionsPerFrame.toNat).console
    exact ⟨ticked.waiting_eq, ticked.listening⟩

theorem carries_load (console : Console width height) (bytes : Array UInt8) (source : String) :
    console.Carries (console.load bytes source) := by
  simp only [load]
  split
  · exact .of_idle rfl rfl rfl
  · exact .of_idle rfl rfl rfl

theorem carries_loadFile (console : Console width height) (path : String)
    (contents : Except Folder.Problem (Array UInt8)) :
    console.Carries (console.loadFile path contents) := by
  cases contents with
  | ok bytes => exact carries_load console bytes path
  | error problem => exact carries_refused console _

/-- A delivery tells the key to the machine, which ignores it unless it waits. -/
theorem deliver_eq (console : Console width height) (key : Key) :
    (console.deliver key).console =
        { console with machine := console.machine.resume key } ∧
      (console.deliver key).failure = none ∧ (console.deliver key).awaited = [] := by
  simp only [deliver]
  split
  · exact ⟨rfl, rfl, rfl⟩
  · rename_i awake
    have unchanged := Machine.resume_of_awake (Bool.eq_false_iff.mpr awake) key
    exact ⟨by rw [unchanged], rfl, rfl⟩

/-- Where the machine does not wait in vain, a press tells the key to it just as a delivery does,
and whoever listened has gone. -/
theorem press_eq {console : Console width height} (listening : console.Listening) (key : Key) :
    (console.press key).console =
        { console with
          machine := console.machine.resume key
          keypad := (console.keypad.press key).1 } ∧
      (console.press key).failure = none ∧ (console.press key).awaited = [] := by
  simp only [press]
  split
  · rename_i nobody
    have nobody : console.keypad.listener = none := nobody
    have awake : console.machine.paused = false := by
      simpa [Listening, Keypad.waiting, nobody, paused] using listening
    rw [Machine.resume_of_awake awake]
    exact ⟨rfl, rfl, rfl⟩
  · exact deliver_eq { console with keypad := (console.keypad.press key).1 } key

theorem ends_deliver (console : Console width height) (key : Key) :
    Ends (console.deliver key) := by
  obtain ⟨after, -, awaited⟩ := deliver_eq console key
  refine ⟨?_, awaited⟩
  rw [after]
  exact console.machine.waiting_resume key

theorem ends_press {console : Console width height} (listening : console.Listening) (key : Key) :
    Ends (console.press key) := by
  obtain ⟨after, -, awaited⟩ := press_eq listening key
  refine ⟨?_, awaited⟩
  rw [after]
  exact console.machine.waiting_resume key

end Console

/-! ## Waits over histories

From power-on, and as long as nobody sends the listener away or acts on the machine behind the back
of the console, every wait for a key is ended by the first key after it or by a reset, and no key
ends two.
-/

namespace Operation

/-- Whether an operation is one of the console itself or of its keys. -/
def isRegular : Operation → Bool
  | .cancelWait | .execute _ | .machineStep | .machineTick | .machineLoad _
  | .machineLoadFile _ _ | .machineResume _ => false
  | .step | .frame | .tick | .tone | .load _ _ | .loadFile _ _ | .reset | .press _ | .release _
  | .deliver _ => true

/-- Whether an operation ends a wait: a key that exists does, and so does a reset. -/
def endsWait : Operation → Bool
  | .press code | .deliver code => decide (0 ≤ code ∧ code < 16)
  | .reset => true
  | _ => false

end Operation

/-- What a key does to a machine. -/
structure Machine.Answered (before after : Machine) (key : Key) : Prop where
  /-- The register that waits takes the key, and the wait is over. -/
  taken : ∀ target, before.waiting = some target →
    after = { before.setRegister target (UInt8.ofNat key) with waiting := none }
  /-- Without a wait nothing happens. -/
  ignored : before.waiting = none → after = before

theorem Machine.answered_resume (machine : Machine) (key : Key) :
    machine.Answered (machine.resume key) key where
  taken target waits := by simp [resume, waits]
  ignored awake := resume_of_awake (by simp [paused, awake]) key

namespace Console

/-- The registers that the instructions executed in a history wait with, in order. -/
def awaitedIn (console : Console width height) : List Operation → List Register
  | [] => []
  | operation :: rest =>
      let outcome := console.perform operation
      outcome.awaited ++ outcome.console.awaitedIn rest

/-- The registers whose waits are ended in a history, in order. -/
def endedIn (console : Console width height) : List Operation → List Register
  | [] => []
  | operation :: rest =>
      (if operation.endsWait then console.machine.waiting.toList else []) ++
        (console.perform operation).console.endedIn rest

/-- The last wait of a history goes on: some operation executed the instruction that names the
register, and none after it could end the wait. -/
def Awaits (console : Console width height) (history : List Operation) (target : Register) :
    Prop :=
  ∃ earlier operation idle, history = earlier ++ operation :: idle ∧
    target ∈ ((console.run earlier).perform operation).awaited ∧
      ∀ later ∈ idle, later.endsWait = false

theorem not_awaits_nil (console : Console width height) (target : Register) :
    ¬ console.Awaits [] target := by
  rintro ⟨earlier, operation, idle, split, -⟩
  cases earlier <;> cases split

theorem awaits_cons_iff {console : Console width height} {operation : Operation}
    {rest : List Operation} {target : Register} :
    console.Awaits (operation :: rest) target ↔
      target ∈ (console.perform operation).awaited ∧ (∀ later ∈ rest, later.endsWait = false) ∨
        (console.perform operation).console.Awaits rest target := by
  constructor
  · rintro ⟨earlier, begins, idle, split, member, silent⟩
    cases earlier with
    | nil =>
        cases split
        exact .inl ⟨member, silent⟩
    | cons first earlier =>
        cases split
        exact .inr ⟨earlier, begins, idle, rfl, member, silent⟩
  · rintro (⟨member, silent⟩ | ⟨earlier, begins, idle, rfl, member, silent⟩)
    · exact ⟨[], operation, rest, rfl, member, silent⟩
    · exact ⟨operation :: earlier, begins, idle, rfl, member, silent⟩

/-- An operation that does not end waits carries them on. -/
theorem carries_of_regular (console : Console width height) {operation : Operation}
    (regular : operation.isRegular = true) (idle : operation.endsWait = false) :
    console.Carries (console.perform operation) := by
  cases operation with
  | step => exact carries_step console
  | frame => exact carries_runFrame console
  | tick => exact carries_tick console
  | tone => exact .of_idle rfl rfl rfl
  | load bytes source => exact carries_load console bytes source
  | loadFile path contents => exact carries_loadFile console path contents
  | release code =>
      simp only [perform, withKey]
      split
      · exact .of_idle rfl rfl rfl
      · exact carries_refused console _
  | press code | deliver code =>
      have outside := of_decide_eq_false idle
      simp only [perform, withKey, Key.ofInt_of_outside outside]
      exact carries_refused console _
  | reset => cases idle
  | _ => cases regular

theorem ends_of_endsWait {console : Console width height} (listening : console.Listening)
    {operation : Operation} (closing : operation.endsWait = true) :
    Ends (console.perform operation) := by
  cases operation with
  | reset => exact ⟨rfl, rfl⟩
  | press code =>
      have bounds := of_decide_eq_true closing
      simp only [perform, withKey, Key.ofInt, bounds, and_self, ↓reduceDIte]
      exact ends_press listening _
  | deliver code =>
      have bounds := of_decide_eq_true closing
      simp only [perform, withKey, Key.ofInt, bounds, and_self, ↓reduceDIte]
      exact ends_deliver console _
  | _ => cases closing

theorem listening_perform {console : Console width height} {operation : Operation}
    (regular : operation.isRegular = true) (listening : console.Listening) :
    (console.perform operation).console.Listening := by
  cases closing : operation.endsWait with
  | false => exact (carries_of_regular console regular closing).listening listening
  | true =>
      have ended := (ends_of_endsWait listening closing).waiting_eq
      intro waits
      simp [paused, Machine.paused, ended] at waits

/-- What waits after an operation: what waited before, unless the operation ends waits, and what the
operation itself executed. -/
theorem waiting_perform {console : Console width height} {operation : Operation}
    (regular : operation.isRegular = true) (listening : console.Listening) :
    (console.perform operation).console.machine.waiting.toList =
      (if operation.endsWait then [] else console.machine.waiting.toList) ++
        (console.perform operation).awaited := by
  cases closing : operation.endsWait with
  | false => exact (carries_of_regular console regular closing).waiting_eq
  | true =>
      have ended := ends_of_endsWait listening closing
      rw [ended.waiting_eq, ended.awaited_eq]
      rfl

/-- From power-on somebody listens while the machine waits. -/
theorem listening_run {console : Console width height} (listening : console.Listening)
    {history : List Operation} (regular : ∀ operation ∈ history, operation.isRegular = true) :
    (console.run history).Listening :=
  run_invariant
    (fun operation member _ holds => listening_perform (regular operation member) holds) listening

/-- A register waits after a history if the history began its wait and did not end it, or if it
waited before and nothing in the history could end the wait. -/
theorem waiting_run_iff {console : Console width height} (listening : console.Listening)
    {history : List Operation} (regular : ∀ operation ∈ history, operation.isRegular = true)
    {target : Register} :
    (console.run history).machine.waiting = some target ↔
      console.Awaits history target ∨
        console.machine.waiting = some target ∧ ∀ later ∈ history, later.endsWait = false := by
  induction history generalizing console with
  | nil => simp [run, not_awaits_nil]
  | cons operation rest ih =>
      obtain ⟨first, remaining⟩ := List.forall_mem_cons.mp regular
      -- What the first operation leaves waiting is, for the rest, what waited before.
      have after : (console.perform operation).console.machine.waiting = some target ↔
          operation.endsWait = false ∧ console.machine.waiting = some target ∨
            target ∈ (console.perform operation).awaited := by
        rw [← Option.mem_toList, waiting_perform first listening, List.mem_append]
        cases operation.endsWait <;> simp
      rw [run, ih (listening_perform first listening) remaining, after, awaits_cons_iff,
        List.forall_mem_cons]
      grind

/-- What waited before a history and what it awaits is, in order, what it ends and what waits after
it. -/
theorem waiting_append_awaitedIn {console : Console width height}
    (listening : console.Listening) {history : List Operation}
    (regular : ∀ operation ∈ history, operation.isRegular = true) :
    console.machine.waiting.toList ++ console.awaitedIn history =
      console.endedIn history ++ (console.run history).machine.waiting.toList := by
  induction history generalizing console with
  | nil => simp [awaitedIn, endedIn, run]
  | cons operation rest ih =>
      obtain ⟨first, remaining⟩ := List.forall_mem_cons.mp regular
      have later := ih (listening_perform first listening) remaining
      rw [waiting_perform first listening] at later
      simp only [awaitedIn, endedIn, run, List.append_assoc, ← later]
      cases operation.endsWait <;> simp

/-- What keys do to a console. -/
structure AnswersKeys (console : Console width height) : Prop where
  /-- A press holds the key down, leaves nobody listening and tells the key to the machine. -/
  press : ∀ key : Key, (console.perform (.press key.val)).failure = none ∧
    ∃ machine keypad, (console.perform (.press key.val)).console =
        { console with machine, keypad } ∧
      console.machine.Answered machine key ∧ keypad.waiting = false ∧
        ∀ other, keypad.isPressed other =
          (decide (key = other) || console.keypad.isPressed other)
  /-- A delivery tells the key to the machine. -/
  deliver : ∀ key : Key, (console.perform (.deliver key.val)).failure = none ∧
    ∃ machine, (console.perform (.deliver key.val)).console = { console with machine } ∧
      console.machine.Answered machine key
  /-- A key that does not exist is refused, and nothing changes. -/
  refuse : ∀ code : Int, ¬ (0 ≤ code ∧ code < 16) →
    console.perform (.press code) = console.refused (.invalidKey code) ∧
      console.perform (.deliver code) = console.refused (.invalidKey code)

theorem answersKeys_of_listening {console : Console width height}
    (listening : console.Listening) : console.AnswersKeys where
  press key := by
    obtain ⟨after, accepted, -⟩ := press_eq listening key
    simp only [perform, withKey, Key.ofInt_val]
    exact ⟨accepted, _, _, after, console.machine.answered_resume key, rfl,
      console.keypad.isPressed_press key⟩
  deliver key := by
    obtain ⟨after, accepted, -⟩ := deliver_eq console key
    simp only [perform, withKey, Key.ofInt_val]
    exact ⟨accepted, _, after, console.machine.answered_resume key⟩
  refuse code outside := by
    simp [perform, withKey, Key.ofInt_of_outside outside]

/-- No wait for a key is lost in a history, and none is served twice. -/
structure ServesWaits (start : Console width height) (history : List Operation) : Prop where
  /-- Somebody listens while the machine waits. -/
  listening : (start.run history).paused = true → (start.run history).keypad.waiting = true
  /-- A register waits exactly if the instruction that names it was executed and neither a key nor a
  reset came after it. -/
  waiting_iff : ∀ target,
    (start.run history).machine.waiting = some target ↔ start.Awaits history target
  /-- The waits that were begun are those that were ended and then the one that is pending. -/
  awaited_eq : start.awaitedIn history =
    start.endedIn history ++ (start.run history).machine.waiting.toList
  /-- Keys are answered after the history. -/
  answersKeys : (start.run history).AnswersKeys

/-- From power-on, every operation being one of the console itself or of its keys, waits are neither
lost nor served twice. -/
theorem servesWaits_run (config : Config) (width height : Nat) {history : List Operation}
    (regular : ∀ operation ∈ history, operation.isRegular = true) :
    ServesWaits (initial config width height) history := by
  have atRest : (initial config width height).machine.waiting = none := rfl
  have listening : (initial config width height).Listening := by
    simp [Listening, paused, Machine.paused, atRest]
  have listens := listening_run listening regular
  refine ⟨listens, fun target => ?_, ?_, answersKeys_of_listening listens⟩
  · rw [waiting_run_iff listening regular, atRest]
    simp
  · have accounted := waiting_append_awaitedIn listening regular
    rw [atRest] at accounted
    simpa using accounted

/-- A program that waits with the fourth register. -/
theorem servesWaits_fourth_register :
    let history := [Operation.load #[0xF3, 0x0A] "", .step]
    ServesWaits (initial {} 1 1) history ∧
      ((initial {} 1 1).run history).machine.waiting = some 3 := by
  intro history
  have regular : ∀ operation ∈ history, operation.isRegular = true := by decide
  have serves := servesWaits_run {} 1 1 regular
  have executed : ((initial {} 1 1).run [Operation.load #[0xF3, 0x0A] ""]).step.awaited = [3] := by
    decide +kernel
  refine ⟨serves, (serves.waiting_iff 3).mpr
    ⟨[Operation.load #[0xF3, 0x0A] ""], .step, [], rfl, ?_, by simp⟩⟩
  rw [perform, executed]
  exact List.mem_singleton_self 3

end Console
end ChipEight

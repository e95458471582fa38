import ChipEight.Proofs.Console.Step
import ChipEight.Proofs.Execution.Refit
import ChipEight.Proofs.Execution.Footprint

/-!
# Words and ticks

Words that are executed one after the other while the timers go down in between.  A word that names
no timer does not see the ticks, so it does not count where they fall.
-/

namespace ChipEight

variable {width height : Nat}

/-- The digits of the words that read or set a timer. -/
def Word.NamesTimer (word : Word) : Prop :=
  word.low / 4096 = 0xF ∧
    (word.low % 256 = 0x07 ∨ word.low % 256 = 0x15 ∨ word.low % 256 = 0x18)

instance (word : Word) : Decidable word.NamesTimer :=
  inferInstanceAs (Decidable (_ ∧ _))

theorem Word.Encodes.namesTimer {word : Word} {instruction : Instruction}
    (encoded : word.Encodes instruction) (names : instruction.namesTimer = true) :
    word.NamesTimer := by
  cases instruction with
  | readDelay target => exact ⟨encoded.1, .inl encoded.2.1⟩
  | setDelay source => exact ⟨encoded.1, .inr (.inl encoded.2.1)⟩
  | setSound source => exact ⟨encoded.1, .inr (.inr encoded.2.1)⟩
  | _ => cases names

/-- One beat: a word is executed, or the timers go down. -/
inductive Beat
  /-- A word is executed. -/
  | execute (word : Word)
  /-- The timers go down. -/
  | tick

namespace Beat

/-- The word of a beat, unless it is a tick. -/
def word? : Beat → Option Word
  | execute word => some word
  | tick => none

/-- Whether a beat is a tick. -/
def isTick : Beat → Bool
  | execute _ => false
  | tick => true

end Beat

namespace Machine

/-- The same machine with its timers lower by a number of ticks, but not below zero. -/
def lower (ticks : Nat) (machine : Machine) : Machine :=
  { machine with
    delay := UInt8.ofNat (machine.delay.toNat - ticks)
    sound := UInt8.ofNat (machine.sound.toNat - ticks) }

theorem lower_zero (machine : Machine) : machine.lower 0 = machine := by
  simp [lower]

theorem lower_tick (machine : Machine) (ticks : Nat) :
    machine.tick.lower ticks = machine.lower (ticks + 1) := by
  have later (timer : UInt8) : timer.toNat - 1 - ticks = timer.toNat - (ticks + 1) := by omega
  simp only [lower, tick, toNat_countDown, later]

/-- A word that names no timer does the same before a tick as behind it. -/
theorem execute_tick {word : Word} (untimed : ¬ word.NamesTimer) (machine : Machine)
    (screen : Screen width height) (held : HeldKeys) :
    machine.tick.execute screen held word =
      (machine.execute screen held word).map (Prod.map tick id) := by
  simp only [execute]
  split
  · rename_i instruction encoded
    have digits := Instruction.encodes_of_ofWord? encoded
    rw [tick_eq_alter]
    apply perform_alter
    · intro settings
      rfl
    · intro address _
      cases pushed : machine.stack.push machine.counter.toNat <;> exact pushed
    · cases popped : machine.stack.pop <;> exact popped
    · intro target mask _
      exact ⟨rfl, rfl⟩
    · intro names
      exact (untimed (digits.namesTimer names)).elim
    · intro target _
      rfl
  · rfl

theorem timers_of_execute_of_untimed {word : Word} (untimed : ¬ word.NamesTimer)
    {before after : Machine} {screen drawn : Screen width height} {held : HeldKeys}
    (executed : before.execute screen held word = .ok (after, drawn)) :
    after.timers = before.timers := by
  obtain ⟨instruction, encoded, performed⟩ := execute_eq_ok_iff.mp executed
  refine (footprint_of_perform performed).timers_eq ?_ ?_
  · rintro source rfl
    exact untimed (encoded.namesTimer rfl)
  · rintro source rfl
    exact untimed (encoded.namesTimer rfl)

end Machine

/-- How a list of beats ends. -/
structure Ending (width height : Nat) where
  /-- The console at the end. -/
  console : Console width height
  /-- How many words were executed. -/
  executed : Nat
  /-- How many ticks there were. -/
  ticks : Nat
  /-- Why the next word was refused, if it was. -/
  failure : Option Failure

namespace Console

/-- The same console with its machine changed. -/
def withMachine (change : Machine → Machine) (console : Console width height) :
    Console width height :=
  { console with machine := change console.machine }

/-- Follow a list of beats until a word is refused. -/
def follow (console : Console width height) : List Beat → Ending width height
  | [] => { console, executed := 0, ticks := 0, failure := none }
  | .tick :: rest =>
      let later := (console.perform .machineTick).console.follow rest
      { later with ticks := later.ticks + 1 }
  | .execute word :: rest =>
      let outcome := console.perform (.execute word)
      match outcome.failure with
      | some failure =>
          { console := outcome.console, executed := 0, ticks := 0, failure := some failure }
      | none =>
          let later := outcome.console.follow rest
          { later with executed := later.executed + 1 }

theorem follow_tick (console : Console width height) (rest : List Beat) :
    console.follow (.tick :: rest) =
      { (console.withMachine Machine.tick).follow rest with
        ticks := ((console.withMachine Machine.tick).follow rest).ticks + 1 } :=
  rfl

theorem follow_of_ok {console : Console width height} {word : Word} {after : Machine}
    {drawn : Screen width height}
    (executed : console.machine.execute console.screen console.keypad.held word =
      .ok (after, drawn)) (rest : List Beat) :
    console.follow (.execute word :: rest) =
      let later := { console with machine := after, screen := drawn }.follow rest
      { later with executed := later.executed + 1 } := by
  simp only [follow, perform_execute, executed]
  rfl

theorem follow_of_error {console : Console width height} {word : Word} {failure : Failure}
    (failed : console.machine.execute console.screen console.keypad.held word = .error failure)
    (rest : List Beat) :
    console.follow (.execute word :: rest) =
      { console, executed := 0, ticks := 0, failure := some failure } := by
  simp only [follow, perform_execute, failed]
  rfl

/-- A tick before words that name no timer might as well come behind them. -/
theorem follow_withMachine_tick {words : List Word} (untimed : ∀ word ∈ words, ¬ word.NamesTimer)
    (console : Console width height) :
    (console.withMachine Machine.tick).follow (words.map .execute) =
      { console.follow (words.map .execute) with
        console := (console.follow (words.map .execute)).console.withMachine Machine.tick } := by
  induction words generalizing console with
  | nil => rfl
  | cons word words ih =>
      obtain ⟨first, others⟩ := List.forall_mem_cons.mp untimed
      have ticked := Machine.execute_tick first console.machine console.screen console.keypad.held
      rw [List.map_cons]
      cases executed : console.machine.execute console.screen console.keypad.held word with
      | error failure =>
          rw [executed] at ticked
          rw [follow_of_error executed, follow_of_error ticked]
      | ok result =>
          rw [executed] at ticked
          rw [follow_of_ok executed, follow_of_ok ticked]
          have later := ih others { console with machine := result.1, screen := result.2 }
          exact congrArg (fun ending => { ending with executed := ending.executed + 1 }) later

/-- Beats do what their words alone do, but for the ticks that have passed. -/
theorem follow_eq_lower {beats : List Beat}
    (untimed : ∀ word ∈ beats.filterMap Beat.word?, ¬ word.NamesTimer)
    (console : Console width height) :
    let plain := console.follow ((beats.filterMap Beat.word?).map .execute)
    let ended := console.follow beats
    ended = { plain with
      console := plain.console.withMachine (Machine.lower ended.ticks)
      ticks := ended.ticks } := by
  induction beats generalizing console with
  | nil => simp [follow, withMachine, Machine.lower_zero]
  | cons beat rest ih =>
      cases beat with
      | tick =>
          have later := ih untimed (console.withMachine Machine.tick)
          simp only [follow_tick, List.filterMap_cons, Beat.word?] at untimed later ⊢
          rw [follow_withMachine_tick untimed] at later
          rw [later]
          simp only [withMachine, Machine.lower_tick]
      | execute word =>
          simp only [List.filterMap_cons, Beat.word?, List.map_cons] at untimed ⊢
          have others := (List.forall_mem_cons.mp untimed).2
          cases executed : console.machine.execute console.screen console.keypad.held word with
          | error failure =>
              simp [follow_of_error executed, withMachine, Machine.lower_zero]
          | ok result =>
              have later := ih others { console with machine := result.1, screen := result.2 }
              rw [follow_of_ok executed, follow_of_ok executed]
              exact congrArg (fun ending => { ending with executed := ending.executed + 1 }) later

/-- If no word is refused, every tick passes. -/
theorem ticks_follow (beats : List Beat) (console : Console width height)
    (accepted : (console.follow beats).failure = none) :
    (console.follow beats).ticks = beats.countP Beat.isTick := by
  induction beats generalizing console with
  | nil => rfl
  | cons beat rest ih =>
      cases beat with
      | tick =>
          rw [follow_tick] at accepted ⊢
          rw [List.countP_cons_of_pos rfl, ← ih _ accepted]
      | execute word =>
          rw [List.countP_cons_of_neg (by simp [Beat.isTick])]
          cases executed : console.machine.execute console.screen console.keypad.held word with
          | error failure =>
              rw [follow_of_error executed] at accepted
              cases accepted
          | ok result =>
              rw [follow_of_ok executed] at accepted ⊢
              exact ih _ accepted

theorem timers_follow {words : List Word} (untimed : ∀ word ∈ words, ¬ word.NamesTimer)
    (console : Console width height) :
    (console.follow (words.map .execute)).console.machine.timers = console.machine.timers := by
  induction words generalizing console with
  | nil => rfl
  | cons word words ih =>
      obtain ⟨first, others⟩ := List.forall_mem_cons.mp untimed
      rw [List.map_cons]
      cases executed : console.machine.execute console.screen console.keypad.held word with
      | error failure => rw [follow_of_error executed]
      | ok result =>
          rw [follow_of_ok executed]
          have kept := Machine.timers_of_execute_of_untimed first executed
          have later := ih others { console with machine := result.1, screen := result.2 }
          exact later.trans kept

/-- Wherever ticks are inserted between words that name no timer, the same word is refused for the
same reason or none is, the devices are the same, and if none is refused the console is that of the
words alone with its timers lower by the number of ticks. -/
theorem ticks_commute (console : Console width height) {words : List Word}
    (untimed : ∀ word ∈ words, ¬ word.NamesTimer) {ticks : Nat} {beats : List Beat}
    (inOrder : beats.filterMap Beat.word? = words) (inserted : beats.countP Beat.isTick = ticks) :
    let plain := console.follow (words.map .execute)
    let ended := console.follow beats
    ended.executed = plain.executed ∧ ended.failure = plain.failure ∧
      ended.console.screen = plain.console.screen ∧
      ended.console.keypad = plain.console.keypad ∧
      plain.console.machine.timers = console.machine.timers ∧
      (plain.failure = none →
        ended.console = plain.console.withMachine (Machine.lower ticks)) := by
  intro plain ended
  subst inOrder inserted
  have same : ended = { plain with
      console := plain.console.withMachine (Machine.lower ended.ticks)
      ticks := ended.ticks } := follow_eq_lower untimed console
  have executed := congrArg Ending.executed same
  have failure := congrArg Ending.failure same
  have reached : ended.console = plain.console.withMachine (Machine.lower ended.ticks) :=
    congrArg Ending.console same
  refine ⟨executed, failure, ?_, ?_, timers_follow untimed console, ?_⟩
  · rw [reached]
    rfl
  · rw [reached]
    rfl
  · intro accepted
    rw [reached, ticks_follow beats console (failure.trans accepted)]

/-- Two ticks among words of which one waits for a key: one timer stops at zero. -/
theorem ticks_commute_around_wait :
    let started := (initial {} 1 1).withMachine fun machine =>
      { machine with delay := 1, sound := 3 }
    let beats : List Beat := [.tick, .execute ⟨0x60FF⟩, .execute ⟨0xF10A⟩, .tick, .execute ⟨0x8014⟩]
    let ended := started.follow beats
    (∀ word ∈ beats.filterMap Beat.word?, ¬ word.NamesTimer) ∧ beats.countP Beat.isTick = 2 ∧
      ended.executed = 3 ∧ ended.failure = none ∧ ended.console.machine.waiting = some 1 ∧
      ended.console.machine.timers = (0, 1) := by
  intro started beats ended
  have untimed : ∀ word ∈ beats.filterMap Beat.word?, ¬ word.NamesTimer := by decide
  obtain ⟨executed, failure, -, -, timers, reached⟩ := ticks_commute started untimed rfl rfl
  let plain := started.follow [.execute ⟨0x60FF⟩, .execute ⟨0xF10A⟩, .execute ⟨0x8014⟩]
  have plainFailure : plain.failure = none := by decide +kernel
  have plainExecuted : plain.executed = 3 := by decide +kernel
  have plainWaiting : plain.console.machine.waiting = some 1 := by decide +kernel
  have reached : ended.console = plain.console.withMachine (Machine.lower 2) := reached plainFailure
  have timers : plain.console.machine.timers = (1, 3) := timers
  refine ⟨untimed, rfl, executed.trans plainExecuted, failure.trans plainFailure, ?_, ?_⟩
  · rw [reached]
    exact plainWaiting
  · rw [reached]
    obtain ⟨delay, sound⟩ := Prod.ext_iff.mp timers
    simp only [Machine.timers] at delay sound
    simp [withMachine, Machine.lower, Machine.timers, delay, sound]

end Console

end ChipEight

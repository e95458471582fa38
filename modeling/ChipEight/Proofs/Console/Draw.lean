import Mathlib.Logic.Function.Iterate
import ChipEight.Proofs.Console.Attempt
import ChipEight.Proofs.Console.Range

/-!
# Draws of random bytes

The instruction that draws takes one byte after the other from a sequence that the seed fixes, and
nothing else moves the sequence on.  A reset begins it again.
-/

namespace ChipEight

variable {width height : Nat}

/-- The byte of a draw, told from the low half of the seed and the number of draws before it. -/
def Threefry.drawn (low : UInt32) (ordinal : Nat) : UInt8 :=
  byte (next^[ordinal] ⟨0, low⟩)

/-- The key that a seed starts with depends on its remainder alone. -/
theorem Threefry.ofSeed_eq (seed : Int64) :
    ofSeed seed = ⟨0, UInt32.ofInt (seed.toInt % 4294967296)⟩ := by
  simp [ofSeed, UInt32.ofInt]

/-- A word that drew a random byte, and the machine that it left. -/
structure Draw where
  /-- The word. -/
  word : Word
  /-- The machine afterwards. -/
  after : Machine

/-- The one draw that an execution of a word was, or none. -/
def Word.draws (word : Word) : Except Failure (Machine × Screen width height) → List Draw
  | .ok (after, _) => if word.low / 4096 = 0xC then [⟨word, after⟩] else []
  | .error _ => []

/-- Draws one after the other, from the key before them to the key after them.  Each stores the bits
that its word selects from the byte of the key that it finds. -/
inductive Draws : Threefry.Pair → List Draw → Threefry.Pair → Prop
  | nil (key : Threefry.Pair) : Draws key [] key
  | cons {key final : Threefry.Pair} {draw : Draw} {later : List Draw}
      (stored : draw.after.register draw.word.x = Threefry.byte key &&& draw.word.byte)
      (others : Draws (Threefry.next key) later final) : Draws key (draw :: later) final

namespace Draws

variable {key middle final : Threefry.Pair} {earlier later draws : List Draw}

theorem append (first : Draws key earlier middle) (second : Draws middle later final) :
    Draws key (earlier ++ later) final := by
  induction first with
  | nil => exact second
  | cons stored _ ih => exact .cons stored (ih second)

/-- Every draw moves the key on once. -/
theorem final_eq (path : Draws key draws final) :
    final = Threefry.next^[draws.length] key := by
  induction path with
  | nil => rfl
  | cons _ _ ih => rw [ih, List.length_cons, Function.iterate_succ_apply]

theorem stored (path : Draws key draws final) (ordinal : Nat) (bound : ordinal < draws.length) :
    draws[ordinal].after.register draws[ordinal].word.x =
      Threefry.byte (Threefry.next^[ordinal] key) &&& draws[ordinal].word.byte := by
  induction path generalizing ordinal with
  | nil => cases bound
  | cons first _ ih =>
      cases ordinal with
      | zero => exact first
      | succ ordinal =>
          rw [Function.iterate_succ_apply]
          exact ih ordinal (Nat.lt_of_succ_lt_succ bound)

end Draws

namespace Machine

/-- A word that draws never fails. -/
theorem execute_of_draw {word : Word} (digit : word.low / 4096 = 0xC) (machine : Machine)
    (screen : Screen width height) (held : HeldKeys) :
    machine.execute screen held word = .ok (machine.drawRandom word.x word.byte, screen) :=
  execute_eq_ok_iff.mpr ⟨.random word.x word.byte, ⟨digit, rfl, rfl⟩, rfl⟩

/-- A word that does not draw leaves the random key alone. -/
theorem randomKey_of_execute {before after : Machine} {screen drawn : Screen width height}
    {held : HeldKeys} {word : Word} (other : word.low / 4096 ≠ 0xC)
    (executed : before.execute screen held word = .ok (after, drawn)) :
    after.randomKey = before.randomKey := by
  obtain ⟨instruction, encoded, performed⟩ := execute_eq_ok_iff.mp executed
  refine (footprint_of_perform performed).randomKey_eq ?_
  rintro target mask rfl
  exact other encoded.1

theorem draws_execute {before after : Machine} {screen drawn : Screen width height}
    {held : HeldKeys} {word : Word}
    (executed : before.execute screen held word = .ok (after, drawn)) :
    Draws before.randomKey (word.draws (.ok (after, drawn))) after.randomKey := by
  simp only [Word.draws]
  split
  · rename_i digit
    rw [execute_of_draw digit] at executed
    cases executed
    refine .cons ?_ (.nil _)
    simp [drawRandom]
  · rename_i other
    rw [randomKey_of_execute other executed]
    exact .nil before.randomKey

/-- A step draws at most once, and the counter has no part in it. -/
theorem draws_step {before after : Machine} {screen drawn : Screen width height}
    {held : HeldKeys} (stepped : before.step screen held = .ok (after, drawn)) :
    Draws before.randomKey (before.word.draws (.ok (after, drawn))) after.randomKey := by
  have drew := draws_execute (step_eq_ok_iff_execute.mp stepped)
  exact drew

/-- Nothing changes the settings, which hold the seed. -/
theorem config_of_change {before after : Machine} (change : Change before after) :
    after.config = before.config := by
  cases change with
  | execute executed =>
      obtain ⟨instruction, -, performed⟩ := execute_eq_ok_iff.mp executed
      exact (footprint_of_perform performed).config_eq
  | advance | tick | load | restart => rfl
  | resume =>
      simp only [resume]
      split
      · rfl
      · rfl

theorem config_of_changes {before after : Machine} (changes : Changes before after) :
    after.config = before.config := by
  induction changes with
  | refl => rfl
  | tail _ change ih => exact (config_of_change change).trans ih

end Machine

namespace Console

/-- The one draw that the next step makes, or none. -/
def nextDraws (console : Console width height) : List Draw :=
  console.machine.word.draws (console.machine.step console.screen console.keypad.held)

/-- The draws that an operation makes, in order. -/
def drawsOf (console : Console width height) : Operation → List Draw
  | .execute word => word.draws (console.machine.execute console.screen console.keypad.held word)
  | .machineStep => console.nextDraws
  | operation => (console.attemptsOf operation).flatMap nextDraws

/-- The draws of a history, in order. -/
def draws (console : Console width height) : List Operation → List Draw
  | [] => []
  | operation :: rest =>
      console.drawsOf operation ++ (console.perform operation).console.draws rest

/-- The draws since the last reset after an operation, given those before it. -/
def drawsBehind (console : Console width height) (earlier : List Draw) : Operation → List Draw
  | .reset => []
  | operation => earlier ++ console.drawsOf operation

/-- The draws of a history since its last reset, or behind some earlier ones if it has none. -/
def drawsSinceReset (console : Console width height) (earlier : List Draw) :
    List Operation → List Draw
  | [] => earlier
  | operation :: rest =>
      (console.perform operation).console.drawsSinceReset (console.drawsBehind earlier operation)
        rest

/-- From one console to another the random key takes a way of draws. -/
def DrawsTo (before : Console width height) (draws : List Draw) (after : Console width height) :
    Prop :=
  Draws before.machine.randomKey draws after.machine.randomKey

theorem DrawsTo.of_eq {before after : Console width height}
    (same : after.machine.randomKey = before.machine.randomKey) : before.DrawsTo [] after := by
  rw [DrawsTo, same]
  exact .nil _

theorem drawsTo_executeNext (console : Console width height) :
    console.DrawsTo console.nextDraws console.executeNext.console := by
  cases stepped : console.machine.step console.screen console.keypad.held with
  | ok result =>
      have drew := Machine.draws_step stepped
      rw [DrawsTo, (executeNext_of_ok stepped).1, nextDraws, stepped]
      exact drew
  | error failure =>
      rw [nextDraws, stepped]
      exact .of_eq (by rw [machine_executeNext_of_error stepped])

/-- Steps draw what their attempts draw. -/
theorem drawsTo_steps (count : Nat) (console : Console width height) :
    console.DrawsTo ((console.attempts count).flatMap nextDraws) (console.steps count).console := by
  induction count generalizing console with
  | zero => exact .of_eq rfl
  | succ count ih =>
      cases live : console.live with
      | true =>
          have first := drawsTo_executeNext console
          rw [steps_of_live live, attempts_of_live live, List.flatMap_cons]
          cases failed : console.executeNext.failure with
          | none =>
              simp only [Outcome.andThen, failed]
              exact first.append (ih console.executeNext.console)
          | some failure =>
              simp only [Outcome.andThen, failed, List.flatMap_nil, List.append_nil]
              exact first
      | false =>
          rw [attempts_of_not_live live]
          exact .of_eq (by rw [(steps_of_not_live live _).1])

theorem drawsTo_adopt (console : Console width height) (word : Word)
    {ends : Except Failure (Machine × Screen width height)}
    (drew : ∀ after drawn, ends = .ok (after, drawn) →
      Draws console.machine.randomKey (word.draws (.ok (after, drawn))) after.randomKey) :
    console.DrawsTo (word.draws ends)
      (console.adopt (.ofOutcome console.screen ends)).console := by
  cases ends with
  | ok result => exact drew result.1 result.2 rfl
  | error failure => exact .of_eq rfl

theorem drawsTo_step (console : Console width height) :
    console.DrawsTo ((console.attempts 1).flatMap nextDraws) console.step.console := by
  rw [attempts_one]
  cases live : console.live with
  | true =>
      rw [step_of_live live]
      simpa using drawsTo_executeNext console
  | false => exact .of_eq (by rw [(step_of_not_live live).1])

theorem randomKey_tick (console : Console width height) :
    console.tick.machine.randomKey = console.machine.randomKey := by
  simp only [tick]
  split
  · rfl
  · rfl

theorem drawsTo_runFrame (console : Console width height) :
    console.DrawsTo (console.drawsOf .frame) console.runFrame.console := by
  have ran := drawsTo_steps console.machine.config.instructionsPerFrame.toNat console
  rw [runFrame]
  simp only [Outcome.andThen]
  split
  · exact ran
  · rw [DrawsTo, updateTone, randomKey_tick]
    exact ran

theorem randomKey_load (console : Console width height) (bytes : Array UInt8) (source : String) :
    (console.load bytes source).console.machine.randomKey = console.machine.randomKey := by
  simp only [load]
  split
  · rfl
  · rfl

theorem randomKey_loadMachine (console : Console width height) (bytes : Array UInt8) :
    (console.loadMachine bytes).console.machine.randomKey = console.machine.randomKey := by
  simp only [loadMachine]
  split
  · rfl
  · rfl

theorem randomKey_resume (machine : Machine) (key : Key) :
    (machine.resume key).randomKey = machine.randomKey := by
  simp only [Machine.resume]
  split
  · rfl
  · rfl

theorem randomKey_deliver (console : Console width height) (key : Key) :
    (console.deliver key).console.machine.randomKey = console.machine.randomKey := by
  simp only [deliver]
  split
  · exact randomKey_resume console.machine key
  · rfl

theorem randomKey_press (console : Console width height) (key : Key) :
    (console.press key).console.machine.randomKey = console.machine.randomKey := by
  simp only [press]
  split
  · rfl
  · exact randomKey_deliver _ key

theorem randomKey_withKey (console : Console width height) (code : Int)
    {act : Key → Outcome width height}
    (same : ∀ key, (act key).console.machine.randomKey = console.machine.randomKey) :
    (console.withKey code act).console.machine.randomKey = console.machine.randomKey :=
  withKey_invariant (fun after => after.machine.randomKey = console.machine.randomKey) rfl code same

/-- Short of a reset an operation moves the random key by its draws and by nothing else. -/
theorem drawsTo_perform (console : Console width height) {operation : Operation}
    (noReset : operation ≠ .reset) :
    console.DrawsTo (console.drawsOf operation) (console.perform operation).console := by
  cases operation with
  | step => exact drawsTo_step console
  | frame => exact drawsTo_runFrame console
  | execute word =>
      rw [perform_execute]
      exact drawsTo_adopt console word fun _ _ executed => Machine.draws_execute executed
  | machineStep =>
      rw [perform_machineStep]
      exact drawsTo_adopt console console.machine.word fun _ _ stepped => Machine.draws_step stepped
  | reset => exact (noReset rfl).elim
  | tick => exact .of_eq (randomKey_tick console)
  | load bytes source => exact .of_eq (randomKey_load console bytes source)
  | loadFile path contents =>
      cases contents with
      | ok bytes => exact .of_eq (randomKey_load console bytes path)
      | error problem => exact .of_eq rfl
  | press code => exact .of_eq (randomKey_withKey console code (randomKey_press console))
  | release code => exact .of_eq (randomKey_withKey console code fun _ => rfl)
  | deliver code => exact .of_eq (randomKey_withKey console code (randomKey_deliver console))
  | machineLoad bytes => exact .of_eq (randomKey_loadMachine console bytes)
  | machineLoadFile path contents =>
      cases contents with
      | ok bytes => exact .of_eq (randomKey_loadMachine console bytes)
      | error problem => exact .of_eq rfl
  | machineResume code =>
      exact .of_eq (randomKey_withKey console code fun key => randomKey_resume console.machine key)
  | tone | cancelWait | machineTick => exact .of_eq rfl

theorem config_perform (console : Console width height) (operation : Operation) :
    (console.perform operation).console.machine.config = console.machine.config :=
  Machine.config_of_changes (changes_perform console operation)

section Seeded

variable {console : Console width height} {seed : Int64} {earlier : List Draw}

theorem draws_perform (seeded : console.machine.config.seed = seed)
    (path : Draws (Threefry.ofSeed seed) earlier console.machine.randomKey)
    (operation : Operation) :
    Draws (Threefry.ofSeed seed) (console.drawsBehind earlier operation)
      (console.perform operation).console.machine.randomKey := by
  fun_cases drawsBehind console earlier operation
  · -- A reset reads the seed from the settings, and no operation has changed these.
    rw [← seeded]
    exact .nil _
  · rename_i noReset
    exact path.append (drawsTo_perform console noReset)

/-- Whatever happens, the random key is where the draws since the last reset have taken the key of
the seed. -/
theorem draws_run (seeded : console.machine.config.seed = seed)
    (path : Draws (Threefry.ofSeed seed) earlier console.machine.randomKey)
    (history : List Operation) :
    Draws (Threefry.ofSeed seed) (console.drawsSinceReset earlier history)
      (console.run history).machine.randomKey := by
  induction history generalizing console earlier with
  | nil => exact path
  | cons operation rest ih =>
      have settings : (console.perform operation).console.machine.config.seed = seed := by
        rw [config_perform, seeded]
      exact ih settings (draws_perform seeded path operation)

end Seeded

end Console
end ChipEight

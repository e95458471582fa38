import ChipEight.Proofs.Console.Draw
import ChipEight.Proofs.Console.Resemblance
import ChipEight.Proofs.Execution.Refit

/-!
# Seeds

What the seed of the settings has a part in: the bytes that are drawn, and nothing else.  Until its
first draw a console does what it would do with any other seed.
-/

namespace ChipEight

variable {width height : Nat}

namespace Machine

variable {seed : Int64}

/-- The same machine with another seed, from which no byte was drawn yet. -/
def reseed (seed : Int64) (machine : Machine) : Machine :=
  { machine with
    randomKey := Threefry.ofSeed seed
    config := { machine.config with seed } }

/-- One machine is the other one with another seed.  This is no likeness, for the settings differ
and a draw tells the two apart. -/
def Reseeds (seed : Int64) (left right : Machine) : Prop :=
  right = left.reseed seed

theorem reseed_eq_refit :
    reseed seed = refit id (fun _ => Threefry.ofSeed seed) fun config => { config with seed } :=
  rfl

/-- Only an instruction that draws tells seeds apart. -/
theorem perform_reseed (machine : Machine) {instruction : Instruction}
    (other : ∀ target mask, instruction ≠ .random target mask) (screen : Screen width height)
    (held : HeldKeys) :
    (machine.reseed seed).perform screen held instruction =
      (machine.perform screen held instruction).map (Prod.map (reseed seed) id) := by
  have flag (config : Config) :
      { config with seed }.normalizeShiftFlag = config.normalizeShiftFlag := rfl
  rw [reseed_eq_refit]
  refine perform_refit flag (fun address _ => ?_) ?_ (fun target mask drew => ?_) screen held
  · cases pushed : machine.stack.push machine.counter.toNat <;> exact pushed
  · cases popped : machine.stack.pop <;> exact popped
  · exact (other target mask drew).elim

theorem execute_reseed (machine : Machine) {word : Word} (other : word.low / 4096 ≠ 0xC)
    (screen : Screen width height) (held : HeldKeys) :
    (machine.reseed seed).execute screen held word =
      (machine.execute screen held word).map (Prod.map (reseed seed) id) := by
  simp only [execute]
  split
  · rename_i instruction encoded
    refine machine.perform_reseed ?_ screen held
    rintro target mask rfl
    exact other (Instruction.encodes_of_ofWord? encoded).1
  · rfl

theorem initial_reseed (config : Config) :
    initial { config with seed } = (initial config).reseed seed := by
  simp only [initial, reseed]

/-- A word with the digit of a draw cannot fail, so it is among the draws. -/
theorem other_of_noDraws {machine : Machine} {screen : Screen width height} {held : HeldKeys}
    {word : Word} (noDraws : word.draws (machine.execute screen held word) = []) :
    word.low / 4096 ≠ 0xC := by
  intro digit
  rw [execute_of_draw digit] at noDraws
  simp [Word.draws, digit] at noDraws

theorem draws_step_eq (machine : Machine) (screen : Screen width height) (held : HeldKeys) :
    machine.word.draws (machine.step screen held) =
      machine.word.draws (machine.advance.execute screen held machine.word) := by
  simp only [step, fetch]
  split
  · rename_i fault failed
    rw [failed]
    rfl
  · rfl

end Machine

/-- Machines that differ in the seed stay so until a byte is drawn. -/
def Resemblance.reseeded (seed : Int64) : Resemblance where
  machines := Machine.Reseeds seed
  tells _ word := word.low / 4096 = 0xC
  heedsKeys := True
  heedsKeys_of_paused _ _ := trivial
  waiting_eq same := same ▸ rfl
  sound_eq same := same ▸ rfl
  pace_eq same := same ▸ rfl
  counter_eq same := same ▸ rfl
  word_eq same := same ▸ rfl
  registerLines_eq same := same ▸ rfl
  restart := by
    rintro left _ rfl
    exact Machine.initial_reseed left.config
  load same _ := same ▸ rfl
  tick same := same ▸ rfl
  resume := by
    rintro left _ rfl key
    rw [Machine.Reseeds, Machine.reseed_eq_refit, Machine.resume_refit]
  advance same := same ▸ rfl
  tells_of_advance told := told
  execute := by
    rintro left _ rfl width height screen held _ keys word other
    obtain rfl := keys trivial
    rw [left.execute_reseed other screen held]
    cases left.execute screen held word with
    | error failure => exact .failure rfl
    | ok result => exact .success ⟨rfl, rfl⟩

/-- The same console with another seed, from which no byte was drawn yet. -/
def Console.reseed (seed : Int64) (console : Console width height) : Console width height :=
  { console with machine := console.machine.reseed seed }

/-- One operation does what the other one does, with another seed. -/
structure Outcome.Reseeds (seed : Int64) (left right : Outcome width height) : Prop where
  console_eq : right.console = left.console.reseed seed
  failure_eq : right.failure = left.failure

namespace Console

variable {seed : Int64}

theorem other_of_noDrawsOf {console : Console width height} {operation : Operation}
    (noDraws : console.drawsOf operation = []) :
    ∀ execution ∈ console.executionsOf operation, execution.word.low / 4096 ≠ 0xC := by
  have next {attempt : Console width height} (none : attempt.nextDraws = []) :
      attempt.machine.word.low / 4096 ≠ 0xC := by
    rw [nextDraws, Machine.draws_step_eq] at none
    exact Machine.other_of_noDraws none
  intro execution member
  cases operation with
  | execute word =>
      obtain rfl := List.mem_singleton.mp member
      exact Machine.other_of_noDraws noDraws
  | machineStep =>
      obtain rfl := List.mem_singleton.mp member
      exact next noDraws
  | _ =>
      obtain ⟨attempt, found, rfl⟩ := List.mem_map.mp member
      exact next (List.flatMap_eq_nil_iff.mp noDraws attempt found)

/-- An operation that draws nothing heeds no seed. -/
theorem reseeds_perform (console : Console width height) {operation : Operation}
    (noDraws : console.drawsOf operation = []) :
    (console.perform operation).Reseeds seed ((console.reseed seed).perform operation) := by
  have same : console.Resembles (.reseeded seed) (console.reseed seed) :=
    ⟨rfl, rfl, fun _ => rfl, rfl, rfl, rfl⟩
  have performed := same.perform (other_of_noDrawsOf noDraws)
  obtain ⟨machine, screen, keypad, buzzer, fault, program⟩ := performed.console
  refine ⟨?_, performed.failure_eq.symm⟩
  have machine : _ = Machine.reseed seed _ := machine
  simp only [reseed, ← machine, screen, keypad trivial, buzzer, fault, program]

/-- A history that draws nothing heeds no seed. -/
theorem conduct_reseed (console : Console width height) {history : List Operation}
    (noDraws : console.draws history = []) :
    (console.reseed seed).conduct history =
      (console.conduct history).map (Prod.map (reseed seed) id) := by
  induction history generalizing console with
  | nil => rfl
  | cons operation rest ih =>
      obtain ⟨first, later⟩ := List.append_eq_nil_iff.mp noDraws
      have done : (console.perform operation).Reseeds seed
          ((console.reseed seed).perform operation) := reseeds_perform console first
      simp only [conduct, done.console_eq, done.failure_eq, ih _ later, List.map_cons]
      rfl

theorem initial_reseed (config : Config) (width height : Nat) :
    initial { config with seed } width height = (initial config width height).reseed seed := by
  simp only [initial, reseed, Machine.initial_reseed]

/-- The random key is the one of the seed, moved on once for every draw since the last reset.  What
the draws store are the bits that their words select from the bytes of one sequence, which the low
half of the seed fixes.  Up to the first draw two seeds make no other difference. -/
theorem draws_depend_on_seed (config : Config) (width height : Nat) (history : List Operation) :
    let start := initial config width height
    let draws := start.drawsSinceReset [] history
    let low := UInt32.ofInt (config.seed.toInt % 4294967296)
    (start.run history).machine.randomKey = Threefry.next^[draws.length] ⟨0, low⟩ ∧
    (∀ ordinal (bound : ordinal < draws.length),
      draws[ordinal].after.register draws[ordinal].word.x =
        Threefry.drawn low ordinal &&& draws[ordinal].word.byte) ∧
    ∀ seed, start.draws history = [] →
      (initial { config with seed } width height).conduct history =
        (start.conduct history).map (Prod.map (reseed seed) id) := by
  intro start draws low
  have path : Draws ⟨0, low⟩ draws (start.run history).machine.randomKey := by
    have settings : start.machine.config.seed = config.seed := rfl
    have ofSeed : Draws (Threefry.ofSeed config.seed) draws
        (start.run history).machine.randomKey := draws_run settings (.nil _) history
    rwa [Threefry.ofSeed_eq] at ofSeed
  refine ⟨path.final_eq, path.stored, fun seed noDraws => ?_⟩
  rw [initial_reseed]
  exact conduct_reseed start noDraws

/-- A draw whose word selects no bits takes a byte all the same, and a reset begins again. -/
theorem draws_depend_on_seed_masked :
    let start := initial {} 1 1
    let history := [Operation.execute ⟨0xC1FF⟩, .tick, .reset, .execute ⟨0xC000⟩, .press 3,
      .execute ⟨0xC1FF⟩]
    let draws := start.drawsSinceReset [] history
    ∃ bound : 1 < draws.length,
      draws[1].after.register draws[1].word.x = Threefry.drawn 0 1 &&& draws[1].word.byte ∧
      start.draws [.tick, .press 3] = [] ∧
      (initial { seed := 7 } 1 1).conduct [.tick, .press 3] =
        (start.conduct [.tick, .press 3]).map (Prod.map (reseed 7) id) := by
  intro start history draws
  have bound : 1 < draws.length := by decide +kernel
  have noDraws : start.draws [.tick, .press 3] = [] := rfl
  exact ⟨bound, (draws_depend_on_seed {} 1 1 history).2.1 1 bound, noDraws,
    (draws_depend_on_seed {} 1 1 [.tick, .press 3]).2.2 7 noDraws⟩

end Console
end ChipEight

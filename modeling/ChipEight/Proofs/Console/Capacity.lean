import ChipEight.Proofs.Console.Fault
import ChipEight.Proofs.Console.Range
import ChipEight.Proofs.Console.Resemblance
import ChipEight.Proofs.Execution.Fault
import ChipEight.Proofs.Execution.Refit
import ChipEight.Proofs.Execution.Likeness

/-!
# Consoles with more room on the call stack

A program that never runs out of room on its call stack does the same with more of it, and one that
does so behaves the same until then.
-/

namespace ChipEight

/-! ## Room on the call stack

How many addresses a call stack can hold makes no difference to a machine, until a call finds no
room left.
-/

namespace CallStack

variable {slots : Nat}

/-- The same addresses on a stack with at least the given number of slots. -/
def widen (slots : Nat) (stack : CallStack) : CallStack :=
  ⟨stack.slots ++ Array.replicate (slots - stack.capacity) 0, stack.depth⟩

theorem widen_empty {few : Nat} (fewer : few ≤ slots) : (empty few).widen slots = empty slots := by
  simp [widen, empty, capacity, fewer]

theorem toList_widen {stack : CallStack} (within : stack.depth ≤ stack.capacity) :
    (stack.widen slots).toList = stack.toList := by
  simp only [capacity] at within
  simp [toList, widen, List.take_append, within]

/-- An address that fits goes to the same slot. -/
theorem push_widen {stack next : CallStack} {address : Int}
    (pushed : stack.push address = .ok next) :
    (stack.widen slots).push address = .ok (next.widen slots) := by
  obtain ⟨room, rfl⟩ := push_eq_ok_iff.mp pushed
  have wider : stack.depth < (stack.widen slots).slots.size := by
    simp only [widen, Array.size_append]
    omega
  refine push_eq_ok_iff.mpr ⟨wider, ?_⟩
  simp [widen, capacity, room]

theorem getD_widen (stack : CallStack) (slot : Nat) :
    (stack.widen slots).slots.getD slot 0 = stack.slots.getD slot 0 := by
  simp only [widen, Array.getD_eq_getD_getElem?, Array.getElem?_append, Array.getElem?_replicate]
  grind

theorem clear_widen (stack : CallStack) (slot depth : Nat) :
    (⟨(stack.widen slots).slots.setIfInBounds slot 0, depth⟩ : CallStack) =
      widen slots ⟨stack.slots.setIfInBounds slot 0, depth⟩ := by
  simp only [widen, capacity, Array.size_setIfInBounds, mk.injEq, and_true]
  refine Array.ext_getElem? fun place => ?_
  simp only [Array.getElem?_setIfInBounds, Array.getElem?_append, Array.getElem?_replicate,
    Array.size_append, Array.size_setIfInBounds, Array.size_replicate]
  grind

/-- What is taken back, or that there is nothing to take back, does not depend on free slots. -/
theorem pop_widen (stack : CallStack) :
    (stack.widen slots).pop = stack.pop.map (Prod.map (widen slots) id) := by
  have depth : (stack.widen slots).depth = stack.depth := rfl
  simp only [pop, depth]
  split
  · rfl
  · rw [clear_widen, getD_widen]
    rfl

end CallStack

namespace Machine

variable {width height slots : Nat}

/-- The same machine with at least the given number of slots on its call stack. -/
def widen (slots : Nat) (machine : Machine) : Machine :=
  { machine with
    stack := machine.stack.widen slots
    config := { machine.config with stackSize := slots } }

/-- A word is a call that finds no room left on the stack. -/
def Overflows (machine : Machine) (word : Word) : Prop :=
  word.low / 4096 = 0x2 ∧ machine.stack.capacity ≤ machine.stack.depth

theorem execute_of_overflows {machine : Machine} {word : Word} (overflows : machine.Overflows word)
    (screen : Screen width height) (held : HeldKeys) :
    machine.execute screen held word =
      .error (.fault ⟨.stackOverflow machine.stack.capacity, none⟩) := by
  have encoded := Instruction.ofWord?_of_encodes
    (show word.Encodes (.call word.address) from ⟨overflows.1, rfl⟩)
  have full : machine.call word.address = .error (.stackOverflow machine.stack.capacity) :=
    call_eq_error_iff.mpr ⟨overflows.2, rfl⟩
  simp only [execute, encoded, perform, full, withScreen]

theorem step_of_overflows {machine : Machine} (overflows : machine.Overflows machine.word)
    (screen : Screen width height) (held : HeldKeys) :
    machine.step screen held =
      .error (.fault ⟨.stackOverflow machine.stack.capacity, some machine.counter.toNat⟩) := by
  have executed := execute_of_overflows
    (show machine.advance.Overflows machine.word from overflows) screen held
  simp only [step, fetch, executed]
  rfl

theorem widen_eq_refit :
    widen slots =
      refit (CallStack.widen slots) id fun config => { config with stackSize := slots } :=
  rfl

theorem widen_initial {config : Config} (fewer : config.stackSize ≤ slots) :
    (initial config).widen slots = initial { config with stackSize := slots } := by
  simp only [widen, initial, CallStack.widen_empty fewer]

theorem resume_widen (machine : Machine) (key : Key) :
    (machine.widen slots).resume key = (machine.resume key).widen slots := by
  rw [widen_eq_refit, resume_refit]

/-- Instructions do the same with more room, but for a call that finds none. -/
theorem perform_widen {machine : Machine} {instruction : Instruction}
    (room : ∀ address, instruction = .call address →
      machine.stack.depth < machine.stack.capacity)
    (screen : Screen width height) (held : HeldKeys) :
    (machine.widen slots).perform screen held instruction =
      (machine.perform screen held instruction).map (Prod.map (widen slots) id) := by
  have flag (config : Config) :
      { config with stackSize := slots }.normalizeShiftFlag = config.normalizeShiftFlag := rfl
  rw [widen_eq_refit]
  refine perform_refit flag (fun address called => ?_) machine.stack.pop_widen (by simp) screen held
  obtain ⟨next, pushed⟩ : ∃ next, machine.stack.push machine.counter.toNat = .ok next :=
    ⟨_, CallStack.push_eq_ok_iff.mpr ⟨room address called, rfl⟩⟩
  rw [pushed, CallStack.push_widen pushed]
  rfl

theorem execute_widen (machine : Machine) (screen : Screen width height) (held : HeldKeys)
    {word : Word} (room : ¬ machine.Overflows word) :
    (machine.widen slots).execute screen held word =
      (machine.execute screen held word).map (Prod.map (widen slots) id) := by
  simp only [execute]
  split
  · rename_i instruction encoded
    refine perform_widen ?_ screen held
    rintro address rfl
    have digit := (Instruction.encodes_of_ofWord? encoded).1
    exact Nat.lt_of_not_le fun full => room ⟨digit, full⟩
  · rfl

end Machine

/-- Machines that differ in the room on their call stacks stay so, until a call finds none on the
first one. -/
def Resemblance.roomier (slots : Nat) : Resemblance where
  machines left right := left.config.stackSize ≤ slots ∧ right = left.widen slots
  tells := Machine.Overflows
  heedsKeys := True
  heedsKeys_of_paused _ _ := trivial
  waiting_eq same := same.2 ▸ rfl
  sound_eq same := same.2 ▸ rfl
  pace_eq same := same.2 ▸ rfl
  counter_eq same := same.2 ▸ rfl
  word_eq same := same.2 ▸ rfl
  registerLines_eq same := same.2 ▸ rfl
  restart := by
    rintro left _ ⟨fewer, rfl⟩
    exact ⟨fewer, (Machine.widen_initial fewer).symm⟩
  load same program := ⟨same.1, same.2 ▸ rfl⟩
  tick same := ⟨same.1, same.2 ▸ rfl⟩
  resume := by
    rintro left _ ⟨fewer, rfl⟩ key
    refine ⟨?_, left.resume_widen key⟩
    simp only [Machine.resume]
    split <;> exact fewer
  advance same := ⟨same.1, same.2 ▸ rfl⟩
  tells_of_advance told := told
  execute := by
    rintro left _ ⟨fewer, rfl⟩ width height screen held _ keys word room
    obtain rfl := keys trivial
    rw [left.execute_widen screen held room]
    cases executed : left.execute screen held word with
    | error failure => exact .failure rfl
    | ok result =>
        obtain ⟨instruction, -, performed⟩ := Machine.execute_eq_ok_iff.mp executed
        have config := (Machine.footprint_of_perform performed).config_eq
        exact .success ⟨⟨config ▸ fewer, rfl⟩, rfl⟩

/-! ## Consoles with different room -/

variable {width height slots : Nat}

/-- Whether an operation was refused for want of room on the call stack. -/
def Failure.isOverflow : Failure → Bool
  | .fault ⟨.stackOverflow _, _⟩ => true
  | _ => false

namespace Console

/-- The same console with at least the given number of slots on its call stack. -/
def widen (slots : Nat) (console : Console width height) : Console width height :=
  { console with machine := console.machine.widen slots }

theorem widen_initial {config : Config} (fewer : config.stackSize ≤ slots) (width height : Nat) :
    (initial config width height).widen slots =
      initial { config with stackSize := slots } width height := by
  simp only [widen, initial, Machine.widen_initial fewer]

theorem resembles_widen {console : Console width height}
    (fewer : console.machine.config.stackSize ≤ slots) :
    console.Resembles (.roomier slots) (console.widen slots) :=
  ⟨⟨fewer, rfl⟩, rfl, fun _ => rfl, rfl, rfl, rfl⟩

theorem Resembles.eq_widen {left right : Console width height}
    (same : left.Resembles (.roomier slots) right) : right = left.widen slots := by
  obtain ⟨⟨-, machine⟩, screen, keypad, buzzer, fault, program⟩ := same
  simp only [widen, ← machine, screen, keypad trivial, buzzer, fault, program]

/-- An operation that is not refused for want of room executes no call that finds none. -/
theorem room_of_perform {console : Console width height} {operation : Operation}
    (room : (console.perform operation).failure.any Failure.isOverflow = false) :
    ∀ execution ∈ console.executionsOf operation,
      ¬ execution.machine.Overflows execution.word := by
  have attempted {attempt : Console width height}
      (member : attempt ∈ console.attemptsOf operation) :
      ¬ attempt.machine.Overflows attempt.machine.word := by
    intro overflows
    have stepped := Machine.step_of_overflows overflows attempt.screen attempt.keypad.held
    have failed := executeNext_failure_eq_some_iff.mpr stepped
    rw [failure_of_mem_attemptsOf member failed] at room
    cases room
  intro execution member overflows
  cases operation with
  | execute word =>
      obtain rfl := List.mem_singleton.mp member
      have executed := Machine.execute_of_overflows overflows console.screen console.keypad.held
      rw [perform_execute, executed] at room
      cases room
  | machineStep =>
      obtain rfl := List.mem_singleton.mp member
      have overflows : console.machine.Overflows console.machine.word := overflows
      have stepped := Machine.step_of_overflows overflows console.screen console.keypad.held
      rw [perform_machineStep, stepped] at room
      cases room
  | _ =>
      obtain ⟨attempt, found, rfl⟩ := List.mem_map.mp member
      exact attempted found overflows

theorem room_of_conduct {console : Console width height} {history : List Operation}
    (room : ∀ entry ∈ console.conduct history, entry.2.any Failure.isOverflow = false) :
    ∀ execution ∈ console.executions history, ¬ execution.machine.Overflows execution.word := by
  induction history generalizing console with
  | nil => simp [executions]
  | cons operation rest ih =>
      obtain ⟨first, later⟩ := List.forall_mem_cons.mp room
      exact List.forall_mem_append.mpr ⟨room_of_perform first, ih later⟩

theorem conduct_widen {console : Console width height}
    (fewer : console.machine.config.stackSize ≤ slots) {history : List Operation}
    (room : ∀ entry ∈ console.conduct history, entry.2.any Failure.isOverflow = false) :
    (console.widen slots).conduct history =
      (console.conduct history).map (Prod.map (widen slots) id) := by
  have alike := (resembles_widen fewer).conduct (room_of_conduct room)
  have equal := alike.imp fun entry other same =>
    show Prod.map (widen slots) id entry = other from
      Prod.ext same.1.eq_widen.symm same.2
  exact (List.forall₂_eq_eq_eq ▸ List.forall₂_map_left_iff.mpr equal).symm

/-- Up to a call that finds no room, attempts are made on both sides alike. -/
theorem attempts_widen {console : Console width height}
    (fewer : console.machine.config.stackSize ≤ slots) (count : Nat) :
    (console.attempts count).map (widen slots) <+: (console.widen slots).attempts count := by
  induction count generalizing console with
  | zero => exact List.prefix_rfl
  | succ count ih =>
      have same := resembles_widen fewer
      cases live : console.live with
      | false => simp [attempts_of_not_live live]
      | true =>
          have liveToo : (console.widen slots).live = true := same.live_eq ▸ live
          rw [attempts_of_live live, attempts_of_live liveToo, List.map_cons,
            List.cons_prefix_cons]
          refine ⟨rfl, ?_⟩
          cases failed : console.executeNext.failure with
          | some failure => exact List.nil_prefix
          | none =>
              have room : ¬ console.machine.Overflows console.machine.word := by
                intro overflows
                have stepped :=
                  Machine.step_of_overflows overflows console.screen console.keypad.held
                rw [executeNext_failure_eq_some_iff.mpr stepped] at failed
                cases failed
              have executed := same.executeNext room
              rw [← executed.failure_eq, failed, executed.console.eq_widen]
              exact ih executed.console.machine.1

/-- A console and the one with more room on its call stack go through a history in which no call
finds the first one full. -/
structure SameWithRoom (slots : Nat) (small large : Console width height)
    (history : List Operation) : Prop where
  /-- After every operation all but the room is equal, and what is refused is refused on both
  sides. -/
  conduct_eq : large.conduct history = (small.conduct history).map (Prod.map (widen slots) id)
  /-- The same addresses are saved all the time. -/
  saved_eq : ∀ entry ∈ small.conduct history,
    (entry.1.widen slots).machine.stack.toList = entry.1.machine.stack.toList
  /-- So it is at the end of the history. -/
  run_eq : large.run history = (small.run history).widen slots
  /-- If the next operation does meet a call that finds the first console full, the two agree
  until then. -/
  attempts_prefix : ∀ operation,
    ((small.run history).attemptsOf operation).map (widen slots) <+:
      (large.run history).attemptsOf operation

/-- From power-on, and as long as no operation is refused for want of room on the call stack, more
room makes no other difference. -/
theorem sameWithRoom_of_room {config : Config} (fewer : config.stackSize ≤ slots)
    (width height : Nat) {history : List Operation}
    (room : ∀ entry ∈ (initial config width height).conduct history,
      entry.2.any Failure.isOverflow = false) :
    SameWithRoom slots (initial config width height)
      (initial { config with stackSize := slots } width height) history := by
  have atRest : (initial config width height).Resembles (.roomier slots) _ :=
    resembles_widen fewer
  have ended := atRest.run (room_of_conduct room)
  rw [← widen_initial fewer]
  refine ⟨conduct_widen fewer room, ?_, ended.eq_widen, ?_⟩
  · intro entry member
    obtain ⟨earlier, -, reached⟩ := exists_run_of_mem_conduct member
    exact CallStack.toList_widen (reached ▸ (fits_run config width height earlier).stack.depth_le)
  · intro operation
    rw [ended.eq_widen]
    cases operation with
    | step => exact attempts_widen ended.machine.1 1
    | frame => exact attempts_widen ended.machine.1 _
    | _ => exact List.nil_prefix

/-- A program that calls a subroutine, which calls another one: one slot is enough for the first
frame, and not for the second. -/
theorem sameWithRoom_of_room_one_call :
    let config : Config := { stackSize := 1, instructionsPerFrame := 1 }
    let history := [Operation.load #[0x22, 0x02, 0x22, 0x00] "", .frame]
    config.stackSize ≤ 2 ∧
      (∀ entry ∈ (initial config 1 1).conduct history,
        entry.2.any Failure.isOverflow = false) ∧
      SameWithRoom 2 (initial config 1 1) (initial { config with stackSize := 2 } 1 1) history := by
  intro config history
  have fewer : config.stackSize ≤ 2 := by decide
  have room : ∀ entry ∈ (initial config 1 1).conduct history,
      entry.2.any Failure.isOverflow = false := by decide +kernel
  exact ⟨fewer, room, sameWithRoom_of_room fewer 1 1 room⟩

end Console
end ChipEight

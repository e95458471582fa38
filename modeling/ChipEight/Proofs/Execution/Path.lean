import ChipEight.Proofs.Execution.Footprint
import ChipEight.Proofs.Execution.Refit

/-!
# Paths of a machine

A finite stretch of what happens to a machine: steps that succeed, ticks of the timers, keys that
end a wait, and programs that are loaded.  Every entry of a path keeps the machine in which its
event happens.
-/

namespace ChipEight

/-! ## Events and paths -/

namespace Machine

/-- Something that happens to a machine. -/
inductive Event
  /-- A step with some screen and some keys held. -/
  | step {width height : Nat} (screen : Screen width height) (held : HeldKeys)
  /-- The timers go down. -/
  | tick
  /-- A key ends a wait. -/
  | resume (key : Key)
  /-- A program is loaded. -/
  | load (program : Program)

/-- The machine after an event. There is none if a step fails. -/
def next? (machine : Machine) : Event → Option Machine
  | .step screen held =>
      match machine.step screen held with
      | .ok (after, _) => some after
      | .error _ => none
  | .tick => some machine.tick
  | .resume key => some (machine.resume key)
  | .load program => some (machine.load program)

/-- The events between two machines, each with the machine in which it happens. -/
inductive Path : Machine → List (Machine × Event) → Machine → Prop
  /-- Nothing happens. -/
  | nil (machine : Machine) : Path machine [] machine
  /-- An event happens, and others follow. -/
  | cons {before middle after : Machine} {event : Event} {entries : List (Machine × Event)}
      (next : before.next? event = some middle) (later : Path middle entries after) :
      Path before ((before, event) :: entries) after

theorem next?_step_eq_some_iff {before after : Machine} {width height : Nat}
    {screen : Screen width height} {held : HeldKeys} :
    before.next? (.step screen held) = some after ↔
      ∃ drawn, before.step screen held = .ok (after, drawn) := by
  cases stepped : before.step screen held with
  | error failure => simp [next?, stepped]
  | ok result => simp [next?, stepped, Prod.ext_iff]

namespace Path

variable {start final : Machine} {earlier later : List (Machine × Event)}

theorem exists_of_append (path : Path start (earlier ++ later) final) :
    ∃ middle, Path start earlier middle ∧ Path middle later final := by
  induction earlier generalizing start with
  | nil => exact ⟨start, .nil start, path⟩
  | cons entry earlier ih =>
      cases path with
      | cons next rest =>
          obtain ⟨middle, first, second⟩ := ih rest
          exact ⟨middle, .cons next first, second⟩

/-- The only event of a path of one entry. -/
theorem of_singleton {entry : Machine × Event} (path : Path start [entry] final) :
    start = entry.1 ∧ start.next? entry.2 = some final := by
  cases path with
  | cons next later =>
      cases later
      exact ⟨rfl, next⟩

/-- A property of the machines on a path holds at its start. -/
theorem start_of_forall {entries : List (Machine × Event)} {Inside : Machine → Prop}
    (path : Path start entries final) (inside : ∀ entry ∈ entries, Inside entry.1)
    (last : Inside final) : Inside start := by
  cases path with
  | nil => exact last
  | cons next later => exact inside _ List.mem_cons_self

/-- What every event keeps within some region holds at the end of a path that stays there. -/
theorem invariant_inside {entries : List (Machine × Event)} {Inside Invariant : Machine → Prop}
    (keeps : ∀ {before after : Machine} {event : Event}, before.next? event = some after →
      Inside after → Invariant before → Invariant after)
    (path : Path start entries final) (inside : ∀ entry ∈ entries, Inside entry.1)
    (last : Inside final) (holds : Invariant start) : Invariant final := by
  induction path with
  | nil => exact holds
  | cons next later ih =>
      have remaining := fun entry member => inside entry (List.mem_cons_of_mem _ member)
      exact ih remaining last (keeps next (start_of_forall later remaining last) holds)

end Path

end Machine

/-! ## The wait in two fields

The wait of a machine may be kept in two fields: a flag, and the number of the register that the key
goes to, which is minus one while there is none.  An instruction sets both, and a key clears both,
so whatever happens they tell the same as the one optional register.
-/

/-- A machine that keeps its wait in two fields. -/
structure StoredMachine where
  /-- Everything else, as a machine that never waits. -/
  rest : Machine
  /-- Whether the machine waits for a key. -/
  paused : Bool
  /-- The number of the register that waits for the key, or minus one. -/
  waitingRegister : Int

namespace StoredMachine

variable {width height : Nat}

/-- A machine at power-on. -/
def initial (config : Config) : StoredMachine :=
  ⟨.initial config, false, -1⟩

/-- Begin to wait. -/
def awaitKey (stored : StoredMachine) (target : Register) : StoredMachine :=
  { stored with paused := true, waitingRegister := target }

/-- End a wait by storing the key; without a register to store it in nothing happens. -/
def resume (stored : StoredMachine) (key : Key) : Except Failure StoredMachine :=
  if stored.waitingRegister < 0 then .ok stored
  else do
    let rest ← stored.rest.storeRegister stored.waitingRegister key
    return { rest, paused := false, waitingRegister := -1 }

/-- Carry out an instruction.  One of them begins a wait, and the others do not know of it. -/
def perform (stored : StoredMachine) (screen : Screen width height) (held : HeldKeys) :
    Instruction → Except Failure (StoredMachine × Screen width height)
  | .awaitKey target => .ok (stored.awaitKey target, screen)
  | instruction =>
      (stored.rest.perform screen held instruction).map
        (Prod.map (fun rest => { stored with rest }) id)

/-- Carry out the instruction that a word encodes, if it encodes one. -/
def execute (stored : StoredMachine) (screen : Screen width height) (held : HeldKeys)
    (word : Word) : Except Failure (StoredMachine × Screen width height) :=
  match Instruction.ofWord? word with
  | some instruction => stored.perform screen held instruction
  | none => .error (.fault ⟨.unknownOpcode word.raw, none⟩)

/-- Fetch a word and carry out its instruction. A fault carries the address of the word. -/
def step (stored : StoredMachine) (screen : Screen width height) (held : HeldKeys) :
    Except Failure (StoredMachine × Screen width height) :=
  let (advanced, word) := stored.rest.fetch
  match execute { stored with rest := advanced } screen held word with
  | .error (.fault fault) =>
      .error (.fault { fault with address := some stored.rest.counter.toNat })
  | outcome => outcome

/-- The machine after an event. There is none if the event fails. -/
def next? (stored : StoredMachine) : Machine.Event → Option StoredMachine
  | .step screen held => ((stored.step screen held).map Prod.fst).toOption
  | .tick => some { stored with rest := stored.rest.tick }
  | .resume key => (stored.resume key).toOption
  | .load program => some { stored with rest := stored.rest.load program }

/-- The machine after events, if none of them fails. -/
def run? (stored : StoredMachine) : List Machine.Event → Option StoredMachine
  | [] => some stored
  | event :: rest => (stored.next? event).bind (·.run? rest)

end StoredMachine

namespace Machine

variable {width height : Nat}

/-- The number of the register that waits for a key, or minus one if none does. -/
def waitingNumber (machine : Machine) : Int :=
  match machine.waiting with
  | some number => number.val
  | none => -1

theorem paused_iff_waitingNumber (machine : Machine) :
    machine.paused = true ↔ 0 ≤ machine.waitingNumber ∧ machine.waitingNumber ≤ 15 := by
  cases waiting : machine.waiting with
  | none => simp [paused, waitingNumber, waiting]
  | some number =>
      have := number.isLt
      simp only [paused, waitingNumber, waiting, Option.isSome_some, true_iff]
      omega

/-- The same machine without its wait. -/
def withoutWait : Machine → Machine :=
  alter id id id id fun _ => none

/-- A machine with its wait kept in two fields. -/
def stored (machine : Machine) : StoredMachine :=
  ⟨machine.withoutWait, machine.paused, machine.waitingNumber⟩

theorem waiting_eq_of_waitingNumber_eq {left right : Machine}
    (same : left.waitingNumber = right.waitingNumber) : left.waiting = right.waiting := by
  simp only [waitingNumber] at same
  cases leftWaits : left.waiting <;> cases rightWaits : right.waiting <;>
    simp only [leftWaits, rightWaits] at same
  · rfl
  · omega
  · omega
  · exact congrArg some (Fin.ext (Int.ofNat_inj.mp same))

theorem stored_injective {left right : Machine} (same : left.stored = right.stored) :
    left = right := by
  have rest : left.withoutWait = right.withoutWait := congrArg StoredMachine.rest same
  have waiting := waiting_eq_of_waitingNumber_eq (congrArg StoredMachine.waitingRegister same)
  obtain ⟨⟩ := left
  obtain ⟨⟩ := right
  simp_all [withoutWait, alter]

theorem stored_initial (config : Config) : (initial config).stored = .initial config := rfl

theorem registerAt_register (number : Register) :
    registerAt (number.val : Int) = .ok (some number) := by
  have lowest : Int64.minValue.toInt ≤ 0 := by decide
  have place : ¬ ((number.val : Int) < 0) := by omega
  have low : (number.val : Int) % 4294967296 = number.val := by omega
  have kept : Precision.bounded.keeps number.val = true := by
    simp only [Precision.keeps, Bool.and_eq_true, decide_eq_true_eq]
    omega
  have bound : (number.val : Int) < 16 := by omega
  simp [registerAt, place, low, kept, bound]

theorem storeRegister_register (machine : Machine) (number : Register) (key : Key) :
    machine.storeRegister (number.val : Int) (key.val : Int) =
      .ok (machine.setRegister number (UInt8.ofNat key)) := by
  have byte : UInt8.ofInt (key.val : Int) = UInt8.ofNat key := by
    have low : ((key.val : Int) % 2 ^ 8).toNat = key.val := by omega
    rw [UInt8.ofInt, low]
  simp only [storeRegister, registerAt_register, byte]
  rfl

theorem stored_resume (machine : Machine) (key : Key) :
    machine.stored.resume key = .ok (machine.resume key).stored := by
  cases waiting : machine.waiting with
  | none =>
      have none_waits : machine.stored.waitingRegister < 0 := by
        simp [stored, waitingNumber, waiting]
      simp only [StoredMachine.resume, if_pos none_waits, resume, waiting]
  | some target =>
      have waits : machine.stored.waitingRegister = target.val := by
        simp [stored, waitingNumber, waiting]
      have natural : ¬ ((target.val : Int) < 0) := by omega
      simp only [StoredMachine.resume, waits, if_neg natural, storeRegister_register, resume,
        waiting]
      rfl

/-- Carrying out an instruction sets both fields of the wait or neither. -/
theorem stored_perform (machine : Machine) (screen : Screen width height) (held : HeldKeys)
    (instruction : Instruction) :
    machine.stored.perform screen held instruction =
      (machine.perform screen held instruction).map (Prod.map stored id) := by
  by_cases awaits : ∃ target, instruction = .awaitKey target
  · obtain ⟨target, rfl⟩ := awaits
    rfl
  · have other : ∀ target, instruction ≠ .awaitKey target := fun target same =>
      awaits ⟨target, same⟩
    have rest : machine.withoutWait.perform screen held instruction =
        (machine.perform screen held instruction).map (Prod.map withoutWait id) := by
      apply perform_alter
      · exact fun _ => rfl
      · intro address _
        cases pushed : machine.stack.push machine.counter.toNat <;> exact pushed
      · cases popped : machine.stack.pop <;> exact popped
      · exact fun _ _ _ => ⟨rfl, rfl⟩
      · exact fun _ _ => rfl
      · exact fun target same => (other target same).elim
    have around : machine.stored.perform screen held instruction =
        (machine.withoutWait.perform screen held instruction).map
          (Prod.map (fun rest => { machine.stored with rest }) id) := by
      cases instruction with
      | awaitKey target => exact (other target rfl).elim
      | _ => rfl
    rw [around, rest]
    cases performed : machine.perform screen held instruction with
    | error failure => rfl
    | ok result =>
        have waiting := (footprint_of_perform performed).waiting_eq other
        simp only [Except.map, Prod.map, stored, paused, waitingNumber, waiting, id]

theorem stored_execute (machine : Machine) (screen : Screen width height) (held : HeldKeys)
    (word : Word) :
    machine.stored.execute screen held word =
      (machine.execute screen held word).map (Prod.map stored id) := by
  simp only [StoredMachine.execute, execute]
  cases Instruction.ofWord? word with
  | some instruction => exact machine.stored_perform screen held instruction
  | none => rfl

theorem stored_step (machine : Machine) (screen : Screen width height) (held : HeldKeys) :
    machine.stored.step screen held =
      (machine.step screen held).map (Prod.map stored id) := by
  have executed : StoredMachine.execute { machine.stored with rest := machine.stored.rest.advance }
      screen held machine.word = _ := machine.advance.stored_execute screen held machine.word
  have word : machine.stored.rest.word = machine.word := rfl
  simp only [StoredMachine.step, step, fetch, word, executed]
  cases machine.advance.execute screen held machine.word with
  | ok result => rfl
  | error failure => cases failure <;> rfl

theorem stored_next? (machine : Machine) (event : Event) :
    machine.stored.next? event = (machine.next? event).map stored := by
  cases event with
  | tick | load program => rfl
  | resume key =>
      rw [StoredMachine.next?, stored_resume]
      rfl
  | step screen held =>
      rw [StoredMachine.next?, stored_step, next?]
      cases machine.step screen held with
      | ok result => rfl
      | error failure => rfl

theorem run?_stored {start final : Machine} {entries : List (Machine × Event)}
    (path : Path start entries final) :
    start.stored.run? (entries.map Prod.snd) = some final.stored := by
  induction path with
  | nil machine => rfl
  | cons next later ih =>
      rw [List.map_cons, StoredMachine.run?, stored_next?, next]
      exact ih

/-- Nothing is lost by keeping the wait in two fields.  From power-on they go through every path,
and at its end the flag is set exactly if the number is that of a register. -/
theorem stored_path (config : Config) {entries : List (Machine × Event)} {final : Machine}
    (path : Path (initial config) entries final) :
    ∃ stored : StoredMachine,
      (StoredMachine.initial config).run? (entries.map Prod.snd) = some stored ∧
        (stored.paused = true ↔ 0 ≤ stored.waitingRegister ∧ stored.waitingRegister ≤ 15) ∧
          ∀ machine : Machine, machine.stored = stored ↔ machine = final := by
  refine ⟨final.stored, ?_, final.paused_iff_waitingNumber, fun machine => ?_⟩
  · rw [← stored_initial]
    exact run?_stored path
  · exact ⟨stored_injective, congrArg stored⟩

end Machine
end ChipEight

import ChipEight.Execution
import ChipEight.Proofs.Execution.Footprint

/-!
# Faults of execution

Why a word cannot be executed, and that a failed instruction leaves the screen as it was.
-/

namespace ChipEight

/-! ## Execution in place

A screen that is drawn on in place is, after an instruction that succeeded, the screen that the
instruction gives, and after one that failed the screen as it was.
-/

variable {width height : Nat}

namespace Executed

/-- What is there if nothing is changed in place: the new screen after a success and the old one
after a failure. -/
def ofOutcome (screen : Screen width height) :
    Except Failure (Machine × Screen width height) → Executed width height
  | .ok (machine, drawn) => ⟨drawn, .ok machine⟩
  | .error failure => ⟨screen, .error failure⟩

theorem screen_of_error {screen : Screen width height} {failure : Failure}
    {outcome : Except Failure (Machine × Screen width height)}
    (failed : (ofOutcome screen outcome).result = .error failure) :
    (ofOutcome screen outcome).screen = screen := by
  cases outcome with
  | ok result => cases failed
  | error problem => rfl

end Executed

namespace Screen

theorem toggleInPlace_of_ok {screen drawn : Screen width height} {places : List (Int × Int)}
    {met : Bool} (toggled : screen.toggleAll places = .ok (drawn, met)) :
    screen.toggleInPlace places = (drawn, .ok met) := by
  induction places generalizing screen drawn met with
  | nil =>
      cases toggled
      rfl
  | cons place rest ih =>
      rw [toggleAll, bind_eq_ok_iff] at toggled
      obtain ⟨⟨next, erased⟩, first, toggled⟩ := toggled
      obtain ⟨⟨final, later⟩, others, same⟩ := bind_eq_ok_iff.mp toggled
      cases same
      simp only [toggleInPlace, first, ih others]
      rfl

theorem positive_of_toggle {screen drawn : Screen width height} {column row : Int} {erased : Bool}
    (toggled : screen.toggle column row = .ok (drawn, erased)) : 0 < width ∧ 0 < height := by
  rw [toggle, bind_eq_ok_iff] at toggled
  obtain ⟨⟨place, level⟩, -, -⟩ := toggled
  exact ⟨Nat.zero_lt_of_lt place.isLt, Nat.zero_lt_of_lt level.isLt⟩

/-- If one of several pixels has no place, none has, so the first one fails and none is toggled. -/
theorem toggleInPlace_of_error {screen : Screen width height} {places : List (Int × Int)}
    {failure : Failure} (failed : screen.toggleAll places = .error failure) :
    screen.toggleInPlace places = (screen, .error failure) := by
  cases places with
  | nil => cases failed
  | cons place rest =>
      cases first : screen.toggle place.1 place.2 with
      | error problem =>
          simp only [toggleAll, first, bind, Except.bind] at failed
          cases failed
          simp only [toggleInPlace, first]
      | ok result =>
          obtain ⟨columns, rows⟩ := positive_of_toggle first
          obtain ⟨drawn, toggled⟩ := screen.exists_toggleAll columns rows (place :: rest)
          rw [toggled] at failed
          cases failed

end Screen

namespace Machine

theorem drawInPlace_eq (machine : Machine) (screen : Screen width height) (column row : Register)
    (rows : Nat) :
    machine.drawInPlace screen column row rows =
      .ofOutcome screen (machine.drawSprite screen column row rows) := by
  simp only [drawInPlace, drawSprite, Screen.draw]
  generalize Screen.spritePixels _ _ _ = places
  cases toggled : screen.toggleAll places with
  | ok result =>
      rw [Screen.toggleInPlace_of_ok toggled]
      rfl
  | error failure =>
      rw [Screen.toggleInPlace_of_error toggled]
      rfl

theorem performInPlace_eq (machine : Machine) (screen : Screen width height) (held : HeldKeys)
    (instruction : Instruction) :
    machine.performInPlace screen held instruction =
      .ofOutcome screen (machine.perform screen held instruction) := by
  cases instruction with
  | draw column row rows => exact machine.drawInPlace_eq screen column row rows
  | returnFromCall =>
      simp only [performInPlace, perform]
      cases machine.returnFromCall <;> rfl
  | call address =>
      simp only [performInPlace, perform]
      cases machine.call address <;> rfl
  | _ => rfl

theorem executeInPlace_eq (machine : Machine) (screen : Screen width height) (held : HeldKeys)
    (word : Word) :
    machine.executeInPlace screen held word =
      .ofOutcome screen (machine.execute screen held word) := by
  simp only [executeInPlace, execute]
  cases Instruction.ofWord? word with
  | some instruction => exact machine.performInPlace_eq screen held instruction
  | none => rfl

theorem stepInPlace_eq (machine : Machine) (screen : Screen width height) (held : HeldKeys) :
    machine.stepInPlace screen held = .ofOutcome screen (machine.step screen held) := by
  simp only [stepInPlace, step, executeInPlace_eq]
  cases machine.fetch.1.execute screen held machine.fetch.2 with
  | ok result => rfl
  | error failure => cases failure <;> rfl

/-- A step that fails leaves the screen as it was. -/
theorem screen_stepInPlace_of_error {machine : Machine} {screen : Screen width height}
    {held : HeldKeys} {failure : Failure}
    (failed : (machine.stepInPlace screen held).result = .error failure) :
    (machine.stepInPlace screen held).screen = screen := by
  rw [stepInPlace_eq] at failed ⊢
  exact Executed.screen_of_error failed

end Machine

/-! ## Reasons of faults

A word cannot be executed for three reasons only: it is outside the instruction set, it is a call
and the stack is full, or it is the return and the stack is empty.
-/

namespace Machine

/-- Why a word cannot be executed. -/
inductive Faults (machine : Machine) (word : Word) : Fault.Cause → Prop
  /-- The word is outside the instruction set. -/
  | unknownOpcode (unknown : word.IsUnknown) : Faults machine word (.unknownOpcode word.raw)
  /-- The word is a call, and every slot is in use. -/
  | stackOverflow (call : word.low / 4096 = 0x2)
      (full : machine.stack.capacity ≤ machine.stack.depth) :
      Faults machine word (.stackOverflow machine.stack.capacity)
  /-- The word is the return, and no slot is in use. -/
  | stackUnderflow (isReturn : word.raw = 0x00EE) (empty : machine.stack.depth = 0) :
      Faults machine word .stackUnderflow

theorem withScreen_eq_error_iff {screen : Screen width height}
    {outcome : Except Fault.Cause Machine} {failure : Failure} :
    withScreen screen outcome = .error failure ↔
      ∃ cause, outcome = .error cause ∧ failure = .fault ⟨cause, none⟩ := by
  cases outcome <;> simp [withScreen, eq_comm]

theorem call_eq_error_iff {machine : Machine} {address : Address} {cause : Fault.Cause} :
    machine.call address = .error cause ↔
      machine.stack.capacity ≤ machine.stack.depth ∧
        cause = .stackOverflow machine.stack.capacity := by
  rw [← @CallStack.push_eq_error_iff machine.stack machine.counter.toNat cause, call]
  cases machine.stack.push machine.counter.toNat <;> simp [bind, Except.bind, pure, Except.pure]

theorem returnFromCall_eq_error_iff {machine : Machine} {cause : Fault.Cause} :
    machine.returnFromCall = .error cause ↔
      machine.stack.depth = 0 ∧ cause = .stackUnderflow := by
  rw [← CallStack.pop_eq_error_iff, returnFromCall]
  cases machine.stack.pop <;> simp [bind, Except.bind, pure, Except.pure]

theorem exists_drawSprite (columns : 0 < width) (rows : 0 < height) (machine : Machine)
    (screen : Screen width height) (column row : Register) (count : Nat) :
    ∃ result, machine.drawSprite screen column row count = .ok result := by
  obtain ⟨⟨drawn, met⟩, toggled⟩ := Screen.exists_toggleAll columns rows screen
    (Screen.spritePixels (machine.register column).toNat (machine.register row).toNat
      (machine.memory.readBlock machine.index.toNat count))
  exact ⟨_, drawSprite_eq_ok_iff.mpr ⟨met, toggled, rfl⟩⟩

/-- On a screen with columns and rows only calls and returns can fail. -/
theorem perform_eq_error_iff (columns : 0 < width) (rows : 0 < height) {machine : Machine}
    {screen : Screen width height} {held : HeldKeys} {instruction : Instruction}
    {failure : Failure} :
    machine.perform screen held instruction = .error failure ↔
      ∃ cause, failure = .fault ⟨cause, none⟩ ∧
        ((∃ address, instruction = .call address) ∧
            machine.stack.capacity ≤ machine.stack.depth ∧
              cause = .stackOverflow machine.stack.capacity ∨
          instruction = .returnFromCall ∧ machine.stack.depth = 0 ∧ cause = .stackUnderflow) := by
  cases instruction with
  | call address =>
      simp only [perform, withScreen_eq_error_iff, call_eq_error_iff]
      grind
  | returnFromCall =>
      simp only [perform, withScreen_eq_error_iff, returnFromCall_eq_error_iff]
      grind
  | draw column row count =>
      obtain ⟨result, drawn⟩ := exists_drawSprite columns rows machine screen column row count
      simp [perform, drawn]
  | _ => simp [perform]

/-- The reasons why a word cannot be executed are the ones listed. -/
theorem execute_eq_error_iff (columns : 0 < width) (rows : 0 < height) {machine : Machine}
    {screen : Screen width height} {held : HeldKeys} {word : Word} {failure : Failure} :
    machine.execute screen held word = .error failure ↔
      ∃ cause, machine.Faults word cause ∧ failure = .fault ⟨cause, none⟩ := by
  simp only [execute]
  constructor
  · intro failed
    split at failed
    · rename_i instruction encoded
      have digits := Instruction.encodes_of_ofWord? encoded
      obtain ⟨cause, rfl, ⟨⟨address, rfl⟩, full, rfl⟩ | ⟨rfl, empty, rfl⟩⟩ :=
        (perform_eq_error_iff columns rows).mp failed
      · exact ⟨_, .stackOverflow digits.1 full, rfl⟩
      · exact ⟨_, .stackUnderflow digits empty, rfl⟩
    · rename_i unknown
      cases failed
      exact ⟨_, .unknownOpcode (Instruction.ofWord?_eq_none_iff.mp unknown), rfl⟩
  · rintro ⟨cause, faults, rfl⟩
    cases faults with
    | unknownOpcode unknown => simp [Instruction.ofWord?_eq_none_iff.mpr unknown]
    | stackOverflow call full =>
        have encoded : word.Encodes (.call word.address) := ⟨call, rfl⟩
        rw [Instruction.ofWord?_of_encodes encoded]
        exact (perform_eq_error_iff columns rows).mpr ⟨_, rfl, .inl ⟨⟨_, rfl⟩, full, rfl⟩⟩
    | stackUnderflow isReturn empty =>
        have encoded : word.Encodes .returnFromCall := isReturn
        rw [Instruction.ofWord?_of_encodes encoded]
        exact (perform_eq_error_iff columns rows).mpr ⟨_, rfl, .inr ⟨rfl, empty, rfl⟩⟩

/-- Whatever the screen, the fault of a step carries the place of the word. -/
theorem address_of_step_fault {machine : Machine} {screen : Screen width height}
    {held : HeldKeys} {fault : Fault} (failed : machine.step screen held = .error (.fault fault)) :
    fault.address = some (machine.counter.toNat : Int) := by
  simp only [step, fetch] at failed
  split at failed
  · cases failed
    rfl
  · rename_i noFault
    exact (noFault fault failed).elim

theorem faults_advance_iff {machine : Machine} {word : Word} {cause : Fault.Cause} :
    machine.advance.Faults word cause ↔ machine.Faults word cause := by
  constructor
  all_goals
    intro faults
    cases faults with
    | unknownOpcode unknown => exact .unknownOpcode unknown
    | stackOverflow call full => exact .stackOverflow call full
    | stackUnderflow isReturn empty => exact .stackUnderflow isReturn empty

/-- A step fails if the word at the counter cannot be executed, and the fault carries the place of
the word. -/
theorem step_eq_error_iff (columns : 0 < width) (rows : 0 < height) {machine : Machine}
    {screen : Screen width height} {held : HeldKeys} {failure : Failure} :
    machine.step screen held = .error failure ↔
      ∃ cause, machine.Faults machine.word cause ∧
        failure = .fault ⟨cause, some machine.counter.toNat⟩ := by
  simp only [← @faults_advance_iff machine]
  constructor
  · intro failed
    simp only [step, fetch] at failed
    split at failed
    · rename_i fault outcome
      obtain ⟨cause, faults, same⟩ := (execute_eq_error_iff columns rows).mp outcome
      cases same
      cases failed
      exact ⟨cause, faults, rfl⟩
    · rename_i noFault
      obtain ⟨cause, faults, rfl⟩ := (execute_eq_error_iff columns rows).mp failed
      exact (noFault _ failed).elim
  · rintro ⟨cause, faults, rfl⟩
    have outcome : machine.advance.execute screen held machine.word =
        .error (.fault ⟨cause, none⟩) :=
      (execute_eq_error_iff columns rows).mpr ⟨cause, faults, rfl⟩
    simp only [step, fetch, outcome]

end Machine
end ChipEight

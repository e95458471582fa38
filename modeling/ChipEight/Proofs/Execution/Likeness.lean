import ChipEight.Execution
import ChipEight.Journal

/-!
# Likenesses and resemblances

Two machines side by side that do the same, always or until a word tells them apart.
-/

namespace ChipEight

/-! ## Likenesses of machines

Two machines side by side.  A relation between machines is a likeness if whatever is done to both of
them leaves them related and their screens equal, and is refused either way or neither way.
-/

theorem optionRel_refl {Value : Type} {Same : Value → Value → Prop}
    (refl : ∀ value, Same value value) (value : Option Value) : Option.Rel Same value value := by
  cases value with
  | none => exact .none
  | some value => exact .some (refl value)

theorem eq_of_optionRel {Value : Type} {Same : Value → Value → Prop}
    (eq_of_same : ∀ {left right}, Same left right → left = right) {left right : Option Value}
    (related : Option.Rel Same left right) : left = right := by
  cases related with
  | none => rfl
  | some same => exact congrArg some (eq_of_same same)

/-- Two attempts end alike if both succeed with related results or both fail for related reasons. -/
inductive EndsAlike {Problem Result : Type} (SameProblem : Problem → Problem → Prop)
    (SameResult : Result → Result → Prop) : Except Problem Result → Except Problem Result → Prop
  | success {left right : Result} (same : SameResult left right) :
      EndsAlike SameProblem SameResult (.ok left) (.ok right)
  | failure {left right : Problem} (same : SameProblem left right) :
      EndsAlike SameProblem SameResult (.error left) (.error right)

namespace EndsAlike

variable {Problem First Second : Type} {SameProblem : Problem → Problem → Prop}
  {SameFirst : First → First → Prop} {SameSecond : Second → Second → Prop}

theorem refl (problems : ∀ problem, SameProblem problem problem)
    (results : ∀ result, SameFirst result result) (attempt : Except Problem First) :
    EndsAlike SameProblem SameFirst attempt attempt := by
  cases attempt with
  | ok result => exact .success (results result)
  | error problem => exact .failure (problems problem)

theorem bind {left right : Except Problem First} {next following : First → Except Problem Second}
    (first : EndsAlike SameProblem SameFirst left right)
    (second : ∀ {left right}, SameFirst left right →
      EndsAlike SameProblem SameSecond (next left) (following right)) :
    EndsAlike SameProblem SameSecond (left >>= next) (right >>= following) := by
  cases first with
  | success same => exact second same
  | failure same => exact .failure same

/-- More can be said of the results than that they are related, given where they come from. -/
theorem imp {left right : Except Problem First} {SameOther : Problem → Problem → Prop}
    {SameResult : First → First → Prop} (ends : EndsAlike SameProblem SameFirst left right)
    (problems : ∀ {leftProblem rightProblem}, SameProblem leftProblem rightProblem →
      SameOther leftProblem rightProblem)
    (results : ∀ {leftResult rightResult}, left = .ok leftResult → right = .ok rightResult →
      SameFirst leftResult rightResult → SameResult leftResult rightResult) :
    EndsAlike SameOther SameResult left right := by
  cases ends with
  | success same => exact .success (results rfl rfl same)
  | failure same => exact .failure (problems same)

end EndsAlike

/-- Two failures are alike if they are equal or come from related faults. -/
inductive Failure.Alike (SameFault : Fault → Fault → Prop) : Failure → Failure → Prop
  | same (failure : Failure) : Alike SameFault failure failure
  | fault {left right : Fault} (same : SameFault left right) :
      Alike SameFault (.fault left) (.fault right)
  | halted {left right : Fault} (same : SameFault left right) :
      Alike SameFault (haltedAfter left) (haltedAfter right)

theorem Failure.Alike.eq {left right : Failure} (alike : Failure.Alike Eq left right) :
    left = right := by
  cases alike with
  | same => rfl
  | fault same => exact congrArg Failure.fault same
  | halted same => exact congrArg Failure.haltedAfter same

theorem Failure.Alike.fault_or_other {SameFault : Fault → Fault → Prop}
    (faults_refl : ∀ fault, SameFault fault fault) {left right : Failure}
    (alike : Failure.Alike SameFault left right) :
    (∃ leftFault rightFault, left = .fault leftFault ∧ right = .fault rightFault ∧
        SameFault leftFault rightFault) ∨
      (∀ fault, left ≠ .fault fault) ∧ ∀ fault, right ≠ .fault fault := by
  cases alike with
  | same =>
      cases left with
      | fault fault => exact .inl ⟨fault, fault, rfl, rfl, faults_refl fault⟩
      | _ => simp
  | fault same => exact .inl ⟨_, _, rfl, rfl, same⟩
  | halted same => simp [haltedAfter]

/-- Two machines are related, and what they drew is equal. -/
def Machine.DrawnAlike {width height : Nat} (SameMachine : Machine → Machine → Prop)
    (left right : Machine × Screen width height) : Prop :=
  SameMachine left.1 right.1 ∧ left.2 = right.2

theorem EndsAlike.withScreen {width height : Nat} {SameMachine : Machine → Machine → Prop}
    {left right : Except Fault.Cause Machine} (ends : EndsAlike Eq SameMachine left right)
    (screen : Screen width height) :
    EndsAlike Eq (Machine.DrawnAlike SameMachine) (Machine.withScreen screen left)
      (Machine.withScreen screen right) := by
  cases ends with
  | success same => exact .success ⟨same, rfl⟩
  | failure same => exact .failure (congrArg (fun cause => Failure.fault ⟨cause, none⟩) same)

/-- A relation between machines, with one between faults, that nothing done to both can break. -/
structure Likeness where
  /-- Which machines are alike. -/
  machines : Machine → Machine → Prop
  /-- Which faults are alike. -/
  faults : Fault → Fault → Prop
  faults_refl (fault : Fault) : faults fault fault
  config_eq {left right : Machine} (alike : machines left right) : left.config = right.config
  waiting_eq {left right : Machine} (alike : machines left right) : left.waiting = right.waiting
  sound_eq {left right : Machine} (alike : machines left right) : left.sound = right.sound
  restart {left right : Machine} (alike : machines left right) :
    machines (.initial left.config) (.initial right.config)
  load {left right : Machine} (alike : machines left right) (program : Program) :
    machines (left.load program) (right.load program)
  tick {left right : Machine} (alike : machines left right) : machines left.tick right.tick
  resume {left right : Machine} (alike : machines left right) (key : Key) :
    machines (left.resume key) (right.resume key)
  execute {left right : Machine} (alike : machines left right) {width height : Nat}
    (screen : Screen width height) (held : HeldKeys) (word : Word) :
    EndsAlike (Failure.Alike faults) (Machine.DrawnAlike machines)
      (left.execute screen held word) (right.execute screen held word)
  step {left right : Machine} (alike : machines left right) {width height : Nat}
    (screen : Screen width height) (held : HeldKeys) :
    EndsAlike (Failure.Alike faults) (Machine.DrawnAlike machines)
      (left.step screen held) (right.step screen held)

theorem Likeness.paused_eq (likeness : Likeness) {left right : Machine}
    (alike : likeness.machines left right) : left.paused = right.paused :=
  congrArg Option.isSome (likeness.waiting_eq alike)

/-- Equal machines stay equal. -/
def Likeness.equality : Likeness where
  machines := Eq
  faults := Eq
  faults_refl _ := rfl
  config_eq alike := congrArg Machine.config alike
  waiting_eq alike := congrArg Machine.waiting alike
  sound_eq alike := congrArg Machine.sound alike
  restart alike := congrArg (Machine.initial ·.config) alike
  load alike program := congrArg (·.load program) alike
  tick alike := congrArg Machine.tick alike
  resume alike key := congrArg (·.resume key) alike
  execute alike _ _ _ _ _ := alike ▸ .refl .same (fun _ => ⟨rfl, rfl⟩) _
  step alike _ _ _ _ := alike ▸ .refl .same (fun _ => ⟨rfl, rfl⟩) _

/-! ## Resemblances of machines

Two machines side by side that some words tell apart.  A relation between machines is a resemblance
if whatever is done to both of them keeps it, and leaves their screens equal, until such a word is
executed.
-/

/-- A relation between machines that lasts until a word is executed that tells them apart. -/
structure Resemblance where
  /-- Which machines resemble each other. -/
  machines : Machine → Machine → Prop
  /-- Which words tell the first machine, about to execute them, from the second. -/
  tells : Machine → Word → Prop
  /-- Whether the same keys must be held for the machines to do the same. -/
  heedsKeys : Prop
  heedsKeys_of_paused {left right : Machine} (same : machines left right)
    (waits : left.paused = true) : heedsKeys
  waiting_eq {left right : Machine} (same : machines left right) : left.waiting = right.waiting
  sound_eq {left right : Machine} (same : machines left right) : left.sound = right.sound
  pace_eq {left right : Machine} (same : machines left right) :
    left.config.instructionsPerFrame = right.config.instructionsPerFrame
  counter_eq {left right : Machine} (same : machines left right) : left.counter = right.counter
  word_eq {left right : Machine} (same : machines left right) : left.word = right.word
  registerLines_eq {left right : Machine} (same : machines left right) :
    Notice.registerLines left = Notice.registerLines right
  restart {left right : Machine} (same : machines left right) :
    machines (.initial left.config) (.initial right.config)
  load {left right : Machine} (same : machines left right) (program : Program) :
    machines (left.load program) (right.load program)
  tick {left right : Machine} (same : machines left right) : machines left.tick right.tick
  resume {left right : Machine} (same : machines left right) (key : Key) :
    machines (left.resume key) (right.resume key)
  advance {left right : Machine} (same : machines left right) :
    machines left.advance right.advance
  tells_of_advance {machine : Machine} {word : Word} (told : tells machine.advance word) :
    tells machine word
  execute {left right : Machine} (same : machines left right) {width height : Nat}
    (screen : Screen width height) {leftHeld rightHeld : HeldKeys}
    (keys : heedsKeys → leftHeld = rightHeld) {word : Word} (untold : ¬ tells left word) :
    EndsAlike Eq (Machine.DrawnAlike machines) (left.execute screen leftHeld word)
      (right.execute screen rightHeld word)

namespace Resemblance

variable {left right : Machine} {width height : Nat}

theorem paused_eq (resemblance : Resemblance) (same : resemblance.machines left right) :
    left.paused = right.paused :=
  congrArg Option.isSome (resemblance.waiting_eq same)

/-- Both machines fetch the same word, and a fault names the same address. -/
theorem step (resemblance : Resemblance) (same : resemblance.machines left right)
    (screen : Screen width height) {leftHeld rightHeld : HeldKeys}
    (keys : resemblance.heedsKeys → leftHeld = rightHeld)
    (untold : ¬ resemblance.tells left left.word) :
    EndsAlike Eq (Machine.DrawnAlike resemblance.machines) (left.step screen leftHeld)
      (right.step screen rightHeld) := by
  have executed := resemblance.execute (resemblance.advance same) screen keys
    fun told => untold (resemblance.tells_of_advance told)
  simp only [Machine.step, Machine.fetch, ← resemblance.word_eq same,
    ← resemblance.counter_eq same]
  generalize left.advance.execute screen leftHeld left.word = leftEnd at executed ⊢
  generalize right.advance.execute screen rightHeld left.word = rightEnd at executed ⊢
  cases executed with
  | success drawn => exact .success drawn
  | @failure problem _ equal =>
      subst equal
      cases problem <;> exact .failure rfl

end Resemblance
end ChipEight

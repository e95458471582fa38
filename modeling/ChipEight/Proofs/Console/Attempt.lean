import ChipEight.Proofs.Console.Step

/-!
# Attempted steps

A step is attempted if it finds the machine neither stopped nor waiting.  Every attempt is announced
once, before it is known whether it fails, and nothing else is.
-/

namespace ChipEight

variable {width height : Nat}

namespace Console

/-- Whether the machine neither stopped nor waits. -/
def live (console : Console width height) : Bool :=
  !console.halted && !console.paused

/-- The consoles that a number of steps in a row find live, up to the first step that is refused. -/
def attempts (count : Nat) (console : Console width height) : List (Console width height) :=
  match count with
  | 0 => []
  | count + 1 =>
      if console.live then
        console ::
          match console.step.failure with
          | none => attempts count console.step.console
          | some _ => []
      else
        []

/-- The consoles that the steps of an operation find live. -/
def attemptsOf (console : Console width height) : Operation → List (Console width height)
  | .step => console.attempts 1
  | .frame => console.attempts console.machine.config.instructionsPerFrame.toNat
  | _ => []

theorem attempts_one (console : Console width height) :
    console.attempts 1 = if console.live then [console] else [] := by
  cases failed : console.step.failure with
  | none => simp [attempts, failed]
  | some failure => simp [attempts, failed]

theorem live_iff {console : Console width height} :
    console.live = true ↔ console.fault = none ∧ console.paused = false := by
  simp [live, halted]

theorem step_of_live {console : Console width height} (live : console.live = true) :
    console.step = console.executeNext := by
  obtain ⟨running, awake⟩ := live_iff.mp live
  exact step_of_awake running awake

theorem steps_of_live {console : Console width height} (live : console.live = true)
    (count : Nat) : console.steps (count + 1) = console.executeNext.andThen (steps count) := by
  have awake := (live_iff.mp live).2
  rw [steps, if_neg (by simp [awake]), step_of_live live]

theorem attempts_of_live {console : Console width height} (live : console.live = true)
    (count : Nat) :
    console.attempts (count + 1) =
      console ::
        match console.executeNext.failure with
        | none => attempts count console.executeNext.console
        | some _ => [] := by
  rw [attempts, if_pos live, step_of_live live]

/-- A step that finds the machine stopped or waiting does nothing and tells nothing. -/
theorem step_of_not_live {console : Console width height} (idle : console.live = false) :
    console.step.console = console ∧ console.step.notices = [] := by
  cases running : console.fault with
  | some fault => simp [step, running]
  | none =>
      have paused : console.paused = true := by simpa [live, halted, running] using idle
      simp [step, running, paused]

theorem steps_of_paused {console : Console width height} (waits : console.paused = true)
    (count : Nat) : console.steps count = { console } := by
  cases count with
  | zero => rfl
  | succ count => simp [steps, waits]

/-- Where the machine stopped the first of several steps is refused, and where it waits they break
off. -/
theorem steps_of_not_live {console : Console width height} (idle : console.live = false)
    (count : Nat) :
    (console.steps count).console = console ∧ (console.steps count).notices = [] := by
  cases count with
  | zero => exact ⟨rfl, rfl⟩
  | succ count =>
      cases paused : console.paused with
      | true => simp [steps_of_paused paused]
      | false =>
          obtain ⟨still, silent⟩ := step_of_not_live idle
          have refused : console.step.failure ≠ none := by
            cases running : console.fault with
            | some fault => simp [step, running]
            | none => simp [live, halted, running, paused] at idle
          obtain ⟨failure, failed⟩ := Option.ne_none_iff_exists'.mp refused
          simp [steps, paused, Outcome.andThen, failed, still, silent]

theorem attempts_of_not_live {console : Console width height} (idle : console.live = false)
    (count : Nat) : console.attempts count = [] := by
  cases count with
  | zero => rfl
  | succ count => simp [attempts, idle]

/-- An attempt that fails is the last one, and the steps fail with it. -/
theorem failure_of_mem_attempts {console attempt : Console width height} {count : Nat}
    (member : attempt ∈ console.attempts count) {failure : Failure}
    (failed : attempt.executeNext.failure = some failure) :
    (console.steps count).failure = some failure := by
  induction count generalizing console with
  | zero => cases member
  | succ count ih =>
      cases live : console.live with
      | false => simp [attempts_of_not_live live] at member
      | true =>
          rw [attempts_of_live live, List.mem_cons] at member
          rw [steps_of_live live]
          rcases member with rfl | later
          · simp [Outcome.andThen, failed]
          · cases succeeded : console.executeNext.failure with
            | some _ => simp [succeeded] at later
            | none =>
                simp only [succeeded] at later
                simp [Outcome.andThen, succeeded, ih later]

/-- What every attempt keeps, the steps keep. -/
theorem steps_invariant_of_attempts (Invariant : Console width height → Prop)
    {console : Console width height} (count : Nat)
    (keeps : ∀ attempt ∈ console.attempts count,
      Invariant attempt → Invariant attempt.executeNext.console)
    (holds : Invariant console) : Invariant (console.steps count).console := by
  induction count generalizing console with
  | zero => exact holds
  | succ count ih =>
      cases live : console.live with
      | false => rwa [(steps_of_not_live live _).1]
      | true =>
          rw [attempts_of_live live, List.forall_mem_cons] at keeps
          have first := keeps.1 holds
          rw [steps_of_live live, Outcome.andThen]
          cases failed : console.executeNext.failure with
          | some failure => exact first
          | none =>
              simp only [failed] at keeps
              exact ih keeps.2 first

/-- The steps leave the console as the last attempt does. -/
theorem steps_eq_of_getLast (console : Console width height) (count : Nat) :
    (console.steps count).console =
      ((console.attempts count).getLast?.map (·.executeNext.console)).getD console := by
  induction count generalizing console with
  | zero => rfl
  | succ count ih =>
      cases live : console.live with
      | false => rw [(steps_of_not_live live _).1, attempts_of_not_live live]; rfl
      | true =>
          rw [steps_of_live live, attempts_of_live live, Outcome.andThen, List.getLast?_cons]
          cases failed : console.executeNext.failure with
          | some failure => rfl
          | none =>
              simp only [ih]
              cases (attempts count console.executeNext.console).getLast? with
              | none => rfl
              | some last => rfl

/-- An attempt after which the machine waits is the last one, and it succeeds. -/
theorem steps_of_paused_attempt {console attempt : Console width height} {count : Nat}
    (member : attempt ∈ console.attempts count)
    (waits : attempt.executeNext.console.paused = true) :
    (console.steps count).console.paused = true ∧ (console.steps count).failure = none := by
  induction count generalizing console with
  | zero => cases member
  | succ count ih =>
      cases live : console.live with
      | false => simp [attempts_of_not_live live] at member
      | true =>
          rw [attempts_of_live live, List.mem_cons] at member
          rw [steps_of_live live, Outcome.andThen]
          cases failed : console.executeNext.failure with
          | some failure =>
              simp only [failed, List.not_mem_nil, or_false] at member
              subst member
              have awake := (live_iff.mp live).2
              rw [paused, machine_executeNext_of_failure failed] at waits
              exact absurd waits (by simpa [paused] using awake)
          | none =>
              simp only [failed] at member
              rcases member with rfl | later
              · simp only [steps_of_paused waits]
                exact ⟨waits, trivial⟩
              · exact ih later

theorem failure_of_mem_attemptsOf {console attempt : Console width height} {operation : Operation}
    (member : attempt ∈ console.attemptsOf operation) {failure : Failure}
    (failed : attempt.executeNext.failure = some failure) :
    (console.perform operation).failure = some failure := by
  cases operation with
  | step =>
      simp only [attemptsOf, attempts_one, List.mem_ite_nil_right, List.mem_singleton] at member
      obtain ⟨live, rfl⟩ := member
      rw [perform, step_of_live live, failed]
  | frame =>
      have ran := failure_of_mem_attempts member failed
      simp [perform, runFrame, Outcome.andThen, ran]
  | _ => cases member

end Console
end ChipEight

import ChipEight.Proofs.Console.KeyWait

/-!
# Listeners left over

A wait is kept as a register of the machine and as a listener of the keypad.  A press and a reset
end it on both sides; a delivery ends it on the side of the machine alone.  The listener that it
leaves behind stays until a press, a reset or the keypad sends it away, and no other operation
leaves one.
-/

namespace ChipEight

variable {width height : Nat}

namespace Operation

/-- Whether an operation is one of the console itself or of its keypad. -/
def isOutward : Operation → Bool
  | .cancelWait => true
  | operation => operation.isRegular

/-- Whether an operation sends any listener away: a press of a key that exists does, and so do a
reset and the keypad itself. -/
def dismisses : Operation → Bool
  | .press code => decide (0 ≤ code ∧ code < 16)
  | .reset | .cancelWait => true
  | _ => false

end Operation

namespace Console

/-- Somebody listens although the machine does not wait. -/
def HasLeftover (console : Console width height) : Prop :=
  console.paused = false ∧ console.keypad.waiting = true

/-- A delivery of a history ended a wait, and nothing after it sent the listener of that wait
away. -/
def LeavesListener (start : Console width height) (history : List Operation) : Prop :=
  ∃ earlier code later, history = earlier ++ .deliver code :: later ∧ (0 ≤ code ∧ code < 16) ∧
    (start.run earlier).paused = true ∧ (start.run earlier).keypad.waiting = true ∧
      ∀ operation ∈ later, operation.dismisses = false

/-- What happens to the listener on the way from one console to another when nobody sends it away:
it may be renewed together with a wait. -/
structure RetainsListener (before after : Console width height) : Prop where
  /-- Whoever listens goes on to, or somebody else does. -/
  waiting : before.keypad.waiting = true → after.keypad.waiting = true
  /-- Where no wait is pending afterwards, none was before, and nobody new listens. -/
  idle : after.paused = false → before.paused = false ∧ after.keypad.waiting = before.keypad.waiting

namespace RetainsListener

/-- Something that leaves the wait of the machine and the listener in place. -/
theorem of_idle {before after : Console width height}
    (waiting : after.machine.waiting = before.machine.waiting)
    (listener : after.keypad.listener = before.keypad.listener) :
    before.RetainsListener after := by
  have silent : after.keypad.waiting = before.keypad.waiting := by
    simp only [Keypad.waiting, listener]
  have same : after.paused = before.paused := by
    simp only [paused, Machine.paused, waiting]
  exact ⟨fun listens => silent.trans listens, fun awake => ⟨same.symm.trans awake, silent⟩⟩

theorem refl (console : Console width height) : console.RetainsListener console :=
  of_idle rfl rfl

theorem trans {first second third : Console width height} (earlier : first.RetainsListener second)
    (later : second.RetainsListener third) : first.RetainsListener third where
  waiting listens := later.waiting (earlier.waiting listens)
  idle awake := by
    obtain ⟨between, kept⟩ := later.idle awake
    obtain ⟨atFirst, alike⟩ := earlier.idle between
    exact ⟨atFirst, kept.trans alike⟩

theorem hasLeftover {before after : Console width height} (retains : before.RetainsListener after)
    (leftover : after.HasLeftover) : before.HasLeftover := by
  obtain ⟨awake, kept⟩ := retains.idle leftover.1
  exact ⟨awake, kept.symm.trans leftover.2⟩

end RetainsListener

theorem retainsListener_executeNext {console : Console width height}
    (awake : console.paused = false) : console.RetainsListener console.executeNext.console := by
  cases stepped : console.machine.step console.screen console.keypad.held with
  | ok result =>
      rw [(executeNext_of_ok stepped).1]
      cases waits : result.1.paused with
      | true => exact ⟨fun _ => rfl, fun idle => by simp [paused, waits] at idle⟩
      | false => exact ⟨id, fun _ => ⟨awake, rfl⟩⟩
  | error failure =>
      cases failure with
      | fault fault =>
          rw [(executeNext_of_fault stepped).1]
          exact .of_idle rfl rfl
      | _ =>
          rw [(executeNext_of_error stepped (by simp)).1]
          exact .refl console

theorem retainsListener_step (console : Console width height) :
    console.RetainsListener console.step.console := by
  fun_cases step console
  · exact .refl console
  · exact .refl console
  · rename_i awake
    exact retainsListener_executeNext (by simpa using awake)

theorem retainsListener_tick (console : Console width height) :
    console.RetainsListener console.tick := by
  simp only [tick]
  split
  · exact .refl console
  · exact .of_idle rfl rfl

theorem retainsListener_runFrame (console : Console width height) :
    console.RetainsListener console.runFrame.console :=
  runFrame_invariant console.RetainsListener
    (fun later retains => retains.trans (retainsListener_step later))
    (fun later retains => (retains.trans (retainsListener_tick later)).trans (.of_idle rfl rfl))
    (.refl console)

theorem retainsListener_load (console : Console width height) (bytes : Array UInt8)
    (source : String) : console.RetainsListener (console.load bytes source).console := by
  simp only [load]
  split
  · exact .of_idle rfl rfl
  · exact .refl console

theorem retainsListener_loadFile (console : Console width height) (path : String)
    (contents : Except Folder.Problem (Array UInt8)) :
    console.RetainsListener (console.loadFile path contents).console := by
  cases contents with
  | ok bytes => exact retainsListener_load console bytes path
  | error problem => exact .refl console

/-- An operation that neither ends waits nor sends the listener away. -/
theorem retainsListener_perform (console : Console width height) {operation : Operation}
    (outward : operation.isOutward = true) (stays : operation.dismisses = false)
    (idle : operation.endsWait = false) :
    console.RetainsListener (console.perform operation).console := by
  cases operation with
  | step => exact retainsListener_step console
  | frame => exact retainsListener_runFrame console
  | tick => exact retainsListener_tick console
  | tone => exact .of_idle rfl rfl
  | load bytes source => exact retainsListener_load console bytes source
  | loadFile path contents => exact retainsListener_loadFile console path contents
  | release code =>
      exact withKey_invariant console.RetainsListener (.refl console) code
        fun key => .of_idle rfl rfl
  | press code | deliver code =>
      have outside := of_decide_eq_false idle
      simp only [perform, withKey, Key.ofInt_of_outside outside]
      exact .refl console
  | reset | cancelWait => cases stays
  | _ => cases outward

theorem waiting_deliver (console : Console width height) (key : Key) :
    (console.deliver key).console.keypad.waiting = console.keypad.waiting := by
  rw [(deliver_eq console key).1]

/-- After an operation that dismisses listeners nobody listens. -/
theorem waiting_of_dismisses {console : Console width height} {operation : Operation}
    (leaves : operation.dismisses = true) :
    (console.perform operation).console.keypad.waiting = false := by
  cases operation with
  | reset | cancelWait => rfl
  | press code =>
      have bounds := of_decide_eq_true leaves
      simp only [perform, withKey, Key.ofInt, bounds, and_self, ↓reduceDIte, press]
      split
      · rfl
      · exact waiting_deliver { console with keypad := (console.keypad.press _).1 } _
  | _ => cases leaves

/-- Only a delivery ends a wait without sending the listener away. -/
theorem eq_deliver_of_endsWait {operation : Operation} (stays : operation.dismisses = false)
    (closing : operation.endsWait = true) :
    ∃ code, operation = .deliver code ∧ (0 ≤ code ∧ code < 16) := by
  cases operation with
  | deliver code => exact ⟨code, rfl, of_decide_eq_true closing⟩
  | press code => exact absurd (of_decide_eq_true closing) (of_decide_eq_false stays)
  | reset => cases stays
  | _ => cases closing

theorem waiting_perform_deliver (console : Console width height) (code : Int) :
    (console.perform (.deliver code)).console.keypad.waiting = console.keypad.waiting := by
  simp only [perform, withKey]
  split
  · exact waiting_deliver console _
  · rfl

/-- Whoever listens goes on to unless an operation dismisses listeners. -/
theorem waiting_of_not_dismisses {console : Console width height} {operation : Operation}
    (outward : operation.isOutward = true) (stays : operation.dismisses = false)
    (listens : console.keypad.waiting = true) :
    (console.perform operation).console.keypad.waiting = true := by
  cases closing : operation.endsWait with
  | false => exact (retainsListener_perform console outward stays closing).waiting listens
  | true =>
      obtain ⟨code, rfl, -⟩ := eq_deliver_of_endsWait stays closing
      exact (waiting_perform_deliver console code).trans listens

/-- A listener that is left over after an operation was so before it, or the operation is a delivery
that ended its wait. -/
theorem hasLeftover_of_perform {console : Console width height} {operation : Operation}
    (outward : operation.isOutward = true)
    (leftover : (console.perform operation).console.HasLeftover) :
    operation.dismisses = false ∧ (console.HasLeftover ∨
      ∃ code, operation = .deliver code ∧ (0 ≤ code ∧ code < 16) ∧
        console.paused = true ∧ console.keypad.waiting = true) := by
  cases stays : operation.dismisses with
  | true =>
      have nobody : (console.perform operation).console.keypad.waiting = false :=
        waiting_of_dismisses stays
      rw [leftover.2] at nobody
      cases nobody
  | false =>
      refine ⟨rfl, ?_⟩
      cases closing : operation.endsWait with
      | false =>
          exact .inl ((retainsListener_perform console outward stays closing).hasLeftover leftover)
      | true =>
          obtain ⟨code, rfl, bounds⟩ := eq_deliver_of_endsWait stays closing
          have listens := (waiting_perform_deliver console code).symm.trans leftover.2
          cases waits : console.paused with
          | false => exact .inl ⟨waits, listens⟩
          | true => exact .inr ⟨code, rfl, bounds, rfl, listens⟩

theorem LeavesListener.cons {start : Console width height} {operation : Operation}
    {rest : List Operation} (leaves : (start.perform operation).console.LeavesListener rest) :
    start.LeavesListener (operation :: rest) := by
  obtain ⟨earlier, code, later, rfl, bounds, waits, listens, silent⟩ := leaves
  exact ⟨operation :: earlier, code, later, rfl, bounds, waits, listens, silent⟩

/-- A listener that is left over after a history was so from the beginning and nobody sent it away,
or a delivery left it. -/
theorem leavesListener_of_run {start : Console width height} {history : List Operation}
    (outward : ∀ operation ∈ history, operation.isOutward = true)
    (leftover : (start.run history).HasLeftover) :
    start.HasLeftover ∧ (∀ operation ∈ history, operation.dismisses = false) ∨
      start.LeavesListener history := by
  induction history generalizing start with
  | nil => exact .inl ⟨leftover, by simp⟩
  | cons operation rest ih =>
      obtain ⟨first, remaining⟩ := List.forall_mem_cons.mp outward
      rcases ih remaining leftover with ⟨after, silent⟩ | leaves
      · obtain ⟨stays, before | ⟨code, rfl, bounds, waits, listens⟩⟩ :=
          hasLeftover_of_perform first after
        · exact .inl ⟨before, List.forall_mem_cons.mpr ⟨stays, silent⟩⟩
        · exact .inr ⟨[], code, rest, rfl, bounds, waits, listens, silent⟩
      · exact .inr leaves.cons

/-- Where a delivery left a listener, somebody listens in the end. -/
theorem waiting_of_leavesListener {start : Console width height} {history : List Operation}
    (outward : ∀ operation ∈ history, operation.isOutward = true)
    (leaves : start.LeavesListener history) : (start.run history).keypad.waiting = true := by
  obtain ⟨earlier, code, later, rfl, -, -, listens, silent⟩ := leaves
  rw [run_append]
  refine @run_invariant _ _ (fun console => console.keypad.waiting = true) _ ?_ _ listens
  intro operation member console holds
  have stays : operation.dismisses = false := by
    rcases List.mem_cons.mp member with rfl | afterwards
    · rfl
    · exact silent operation afterwards
  exact waiting_of_not_dismisses (outward operation (by simp [member])) stays holds

/-- From power-on somebody listens to a machine that does not wait exactly if a delivery ended a
wait and nothing after it sent the listener away. -/
theorem hasLeftover_run_iff (config : Config) (width height : Nat) {history : List Operation}
    (outward : ∀ operation ∈ history, operation.isOutward = true) :
    let start := initial config width height
    (start.run history).HasLeftover ↔
      (start.run history).paused = false ∧ start.LeavesListener history := by
  intro start
  constructor
  · intro leftover
    refine ⟨leftover.1, ?_⟩
    rcases leavesListener_of_run outward leftover with ⟨atFirst, -⟩ | leaves
    · cases atFirst.2
    · exact leaves
  · rintro ⟨awake, leaves⟩
    exact ⟨awake, waiting_of_leavesListener outward leaves⟩

/-- A wait that a delivery ends leaves its listener, and a tick does not send it away. -/
theorem hasLeftover_run_delivered :
    let history := [Operation.load #[0xF3, 0x0A] "", .step, .deliver 7, .tick]
    (∀ operation ∈ history, operation.isOutward = true) ∧
      ((initial {} 64 32).run history).HasLeftover := by
  intro history
  have outward : ∀ operation ∈ history, operation.isOutward = true := by decide
  refine ⟨outward, (hasLeftover_run_iff {} 64 32 outward).mpr ⟨by decide +kernel, ?_⟩⟩
  exact ⟨[.load #[0xF3, 0x0A] "", .step], 7, [.tick], rfl, by decide, by decide +kernel,
    by decide +kernel, by decide⟩

/-- It is not so that nobody listens whenever the machine does not wait. -/
theorem listener_outlasts_delivery :
    ¬ ∀ history : List Operation, (∀ operation ∈ history, operation.isOutward = true) →
      ((initial {} 64 32).run history).paused = false →
        ((initial {} 64 32).run history).keypad.waiting = false := by
  intro silent
  have nobody := silent [.load #[0xF0, 0x0A] "", .step, .deliver 7] (by decide) (by decide +kernel)
  exact absurd nobody (by decide +kernel)

end Console
end ChipEight

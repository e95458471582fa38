import Mathlib.Data.List.Nodup
import ChipEight.Keypad

/-!
# Calls of listeners

What a history of a keypad leaves held, and whom a press calls.  A listener may register others when
it is called; these wait for the next press.
-/

namespace ChipEight

/-! ## Registrations of listeners

A keypad on which listeners come and go, some of them while another one is being called.  Each
registration has a number, so that one listener registered twice is told apart, and what happens to
it is recorded.
-/

/-- A listener as it was registered. -/
structure Registration (Listener : Type) where
  /-- How many registrations came before. -/
  number : Nat
  /-- Who listens. -/
  listener : Listener

namespace Registration

variable {Listener : Type}

/-- Something that happens to registrations. -/
inductive Event (Listener : Type)
  /-- A listener is registered. -/
  | registered (registration : Registration Listener)
  /-- Whoever listens is sent away. -/
  | cancelled
  /-- A listener is told of a key. -/
  | called (registration : Registration Listener) (key : Key)

/-- The registration that an event makes. -/
def Event.made? : Event Listener → Option (Registration Listener)
  | registered registration => some registration
  | _ => none

/-- The registration that an event calls. -/
def Event.called? : Event Listener → Option (Registration Listener)
  | called registration _ => some registration
  | _ => none

/-- Whether a registration does not outlast an event: another one takes its place, it is cancelled
or it is called. -/
def Event.Ends (registration : Registration Listener) : Event Listener → Prop
  | registered _ | cancelled => True
  | called other _ => other = registration

/-- The registrations that were made in the course of events. -/
def made (events : List (Event Listener)) : List (Registration Listener) :=
  events.filterMap Event.made?

/-- The registrations that were called in the course of events. -/
def calls (events : List (Event Listener)) : List (Registration Listener) :=
  events.filterMap Event.called?

theorem made_concat (events : List (Event Listener)) (event : Event Listener) :
    made (events ++ [event]) = made events ++ event.made?.toList := by
  cases event <;> simp [made, Event.made?]

theorem calls_concat (events : List (Event Listener)) (event : Event Listener) :
    calls (events ++ [event]) = calls events ++ event.called?.toList := by
  cases event <;> simp [calls, Event.called?]

/-- A registration was made, and nothing has ended it since. -/
def Pending (events : List (Event Listener)) (registration : Registration Listener) : Prop :=
  ∃ earlier later, events = earlier ++ .registered registration :: later ∧
    ∀ event ∈ later, ¬ event.Ends registration

/-- Listeners in the order in which they are registered, numbered from a first number on. -/
def numbered (first : Nat) : List Listener → List (Registration Listener)
  | [] => []
  | listener :: rest => ⟨first, listener⟩ :: numbered (first + 1) rest

theorem map_listener_numbered (first : Nat) (listeners : List Listener) :
    (numbered first listeners).map (·.listener) = listeners := by
  induction listeners generalizing first with
  | nil => rfl
  | cons listener rest ih => rw [numbered, List.map_cons, ih]

theorem not_pending_nil (registration : Registration Listener) : ¬ Pending [] registration := by
  rintro ⟨earlier, later, split, -⟩
  cases earlier <;> cases split

/-- After one more event a registration is pending if the event made it, or if it was pending before
and outlasts the event. -/
theorem pending_concat_iff {events : List (Event Listener)} {event : Event Listener}
    {registration : Registration Listener} :
    Pending (events ++ [event]) registration ↔
      event = .registered registration ∨
        Pending events registration ∧ ¬ event.Ends registration := by
  constructor
  · rintro ⟨earlier, later, split, outlasts⟩
    rcases List.eq_nil_or_concat later with rfl | ⟨middle, last, rfl⟩
    · exact .inl (List.append_inj_right' split rfl |> List.cons.inj |>.1)
    · have split : events ++ [event] =
          (earlier ++ .registered registration :: middle) ++ [last] := by
        simpa using split
      obtain ⟨rfl, same⟩ := List.append_inj' split rfl
      obtain rfl := List.cons.inj same |>.1
      exact .inr ⟨⟨earlier, middle, rfl, fun event member => outlasts event (by simp [member])⟩,
        outlasts event (by simp)⟩
  · rintro (rfl | ⟨⟨earlier, later, rfl, outlasts⟩, lasting⟩)
    · exact ⟨events, [], rfl, by simp⟩
    · refine ⟨earlier, later ++ [event], by simp, ?_⟩
      intro other member
      rcases List.mem_append.mp member with old | new
      · exact outlasts other old
      · obtain rfl := List.mem_singleton.mp new
        exact lasting

end Registration

/-! ## Held keys and called listeners -/

/-- Something that is done to a keypad. -/
inductive Keypad.Action (Listener : Type)
  /-- Hold a key down. -/
  | press (code : Int)
  /-- Let go of a key. -/
  | release (code : Int)
  /-- Ask whether a key is held. -/
  | ask (code : Int)
  /-- Let a listener wait for the next press. -/
  | listen (listener : Listener)
  /-- Send the pending listener away. -/
  | cancel

/-- Whether an action holds a key down or lets go of it, if it does either. -/
def Keypad.Action.holds? {Listener : Type} (key : Key) : Action Listener → Option Bool
  | press code => if code = key.val then some true else none
  | release code => if code = key.val then some false else none
  | _ => none

/-- A keypad whose listeners are numbered, with everything that happened to them, oldest first. -/
structure RecordedKeypad (Listener : Type) where
  /-- The keys and the pending listener. -/
  keypad : Keypad (Registration Listener) := .released
  /-- What happened to listeners. -/
  events : List (Registration.Event Listener) := []

namespace RecordedKeypad

open Registration

variable {Listener : Type}

/-- What an action leaves behind. -/
structure Reply (Listener : Type) where
  /-- The keypad afterwards. -/
  after : RecordedKeypad Listener
  /-- Whether the key is held, if that was asked. -/
  value : Option Bool := none
  /-- Why the action was refused, if it was. -/
  failure : Option Failure := none

/-- Let a listener wait for the next press, in place of any other. -/
def listen (recorded : RecordedKeypad Listener) (listener : Listener) :
    RecordedKeypad Listener :=
  let registration : Registration Listener := ⟨(made recorded.events).length, listener⟩
  ⟨recorded.keypad.listen registration, recorded.events ++ [.registered registration]⟩

/-- Send the pending listener away. -/
def cancel (recorded : RecordedKeypad Listener) : RecordedKeypad Listener :=
  ⟨recorded.keypad.cancel, recorded.events ++ [.cancelled]⟩

/-- Let go of a key. -/
def release (recorded : RecordedKeypad Listener) (key : Key) : RecordedKeypad Listener :=
  { recorded with keypad := recorded.keypad.release key }

/-- Act with the key that a code stands for. -/
def withKey (recorded : RecordedKeypad Listener) (code : Int) (act : Key → Reply Listener) :
    Reply Listener :=
  match Key.ofInt code with
  | .ok key => act key
  | .error failure => { after := recorded, failure := some failure }

/-- The keypad without the numbers of its listener. -/
def unnumbered (recorded : RecordedKeypad Listener) : Keypad Listener :=
  ⟨recorded.keypad.held, recorded.keypad.listener.map (·.listener)⟩

section Answer

-- The listeners that a listener registers when it is told of a key, in order.
variable (answer : Listener → Key → List Listener)

/-- Hold a key down and call the pending listener, which may register others. -/
def press (recorded : RecordedKeypad Listener) (key : Key) : RecordedKeypad Listener :=
  let (keypad, due) := recorded.keypad.press key
  match due with
  | none => { recorded with keypad }
  | some registration =>
      (answer registration.listener key).foldl listen
        ⟨keypad, recorded.events ++ [.called registration key]⟩

/-- What an action leaves behind. -/
def perform (recorded : RecordedKeypad Listener) : Keypad.Action Listener → Reply Listener
  | .press code => recorded.withKey code fun key => { after := recorded.press answer key }
  | .release code => recorded.withKey code fun key => { after := recorded.release key }
  | .ask code =>
      recorded.withKey code fun key =>
        { after := recorded, value := some (recorded.keypad.isPressed key) }
  | .listen listener => { after := recorded.listen listener }
  | .cancel => { after := recorded.cancel }

/-- The keypad after a history of actions, refused ones included. -/
def run (recorded : RecordedKeypad Listener) :
    List (Keypad.Action Listener) → RecordedKeypad Listener
  | [] => recorded
  | action :: rest => (recorded.perform answer action).after.run rest

end Answer

/-- Several listeners take the place of each other, and the last one of them stays. -/
theorem foldl_listen (recorded : RecordedKeypad Listener) (listeners : List Listener) :
    let added := numbered (made recorded.events).length listeners
    listeners.foldl listen recorded =
      ⟨⟨recorded.keypad.held, added.getLast?.or recorded.keypad.listener⟩,
        recorded.events ++ added.map .registered⟩ := by
  induction listeners generalizing recorded with
  | nil => simp [numbered]
  | cons listener rest ih =>
      have count : (made (recorded.listen listener).events).length =
          (made recorded.events).length + 1 := by
        simp [listen, made_concat, Event.made?]
      rw [List.foldl_cons, ih, count]
      simp [numbered, listen, Keypad.listen, List.getLast?_cons]

/-- What the record of a keypad keeps true. -/
structure Sound (recorded : RecordedKeypad Listener) : Prop where
  /-- The pending listener is the one whose registration nothing has ended. -/
  listener_iff : ∀ registration,
    recorded.keypad.listener = some registration ↔ Pending recorded.events registration
  /-- The registrations are numbered in order. -/
  numbers_eq : (made recorded.events).map (·.number) = List.range (made recorded.events).length
  /-- No two calls have the same number. -/
  calls_nodup : ((calls recorded.events).map (·.number)).Nodup
  /-- Who was called had been registered. -/
  calls_lt : ∀ registration ∈ calls recorded.events,
    registration.number < (made recorded.events).length
  /-- Who is pending has been registered and was not called. -/
  pending_uncalled : ∀ registration, recorded.keypad.listener = some registration →
    registration.number < (made recorded.events).length ∧
      registration.number ∉ (calls recorded.events).map (·.number)

theorem sound_released : Sound ({} : RecordedKeypad Listener) where
  listener_iff registration := by
    simp [Keypad.released, not_pending_nil]
  numbers_eq := rfl
  calls_nodup := .nil
  calls_lt registration member := by cases member
  pending_uncalled registration pending := by cases pending

variable {recorded : RecordedKeypad Listener}

theorem Sound.with_held (sound : recorded.Sound) (held : HeldKeys) :
    Sound { recorded with keypad := { recorded.keypad with held } } :=
  ⟨sound.listener_iff, sound.numbers_eq, sound.calls_nodup, sound.calls_lt,
    sound.pending_uncalled⟩

theorem Sound.listen (sound : recorded.Sound) (listener : Listener) :
    (recorded.listen listener).Sound where
  listener_iff registration := by
    simp [RecordedKeypad.listen, Keypad.listen, pending_concat_iff, Event.Ends]
  numbers_eq := by
    simp [RecordedKeypad.listen, made_concat, Event.made?, List.range_succ, sound.numbers_eq]
  calls_nodup := by
    simpa [RecordedKeypad.listen, calls_concat, Event.called?] using sound.calls_nodup
  calls_lt registration member := by
    have called : registration ∈ calls recorded.events := by
      simpa [RecordedKeypad.listen, calls_concat, Event.called?] using member
    have earlier := sound.calls_lt registration called
    simp only [RecordedKeypad.listen, made_concat, Event.made?, Option.toList_some,
      List.length_append, List.length_singleton]
    omega
  pending_uncalled registration pending := by
    cases pending
    have uncalled : (made recorded.events).length ∉ (calls recorded.events).map (·.number) := by
      intro member
      obtain ⟨called, among, same⟩ := List.mem_map.mp member
      exact absurd same (Nat.ne_of_lt (sound.calls_lt called among))
    simpa [RecordedKeypad.listen, made_concat, calls_concat, Event.made?, Event.called?] using
      uncalled

theorem Sound.cancel (sound : recorded.Sound) : recorded.cancel.Sound where
  listener_iff registration := by
    simp [RecordedKeypad.cancel, Keypad.cancel, pending_concat_iff, Event.Ends]
  numbers_eq := by
    simpa [RecordedKeypad.cancel, made_concat, Event.made?] using sound.numbers_eq
  calls_nodup := by
    simpa [RecordedKeypad.cancel, calls_concat, Event.called?] using sound.calls_nodup
  calls_lt := by
    simpa [RecordedKeypad.cancel, calls_concat, made_concat, Event.called?, Event.made?] using
      sound.calls_lt
  pending_uncalled registration pending := by cases pending

/-- A listener that is called is taken off first. -/
theorem Sound.call (sound : recorded.Sound) {registration : Registration Listener}
    (pending : recorded.keypad.listener = some registration) (key : Key) :
    Sound ⟨(recorded.keypad.press key).1, recorded.events ++ [.called registration key]⟩ where
  listener_iff other := by
    simp only [Keypad.press, pending_concat_iff, ← sound.listener_iff, pending, Event.Ends]
    simp
  numbers_eq := by
    simpa [made_concat, Event.made?] using sound.numbers_eq
  calls_nodup := by
    have uncalled := (sound.pending_uncalled registration pending).2
    simp only [calls_concat, Event.called?, Option.toList_some, List.map_append, List.map_singleton]
    refine List.nodup_append.mpr ⟨sound.calls_nodup, List.nodup_singleton _, ?_⟩
    rintro number member _ last rfl
    exact uncalled (List.mem_singleton.mp last ▸ member)
  calls_lt other member := by
    simp only [calls_concat, Event.called?, Option.toList_some, List.mem_append,
      List.mem_singleton] at member
    simp only [made_concat, Event.made?, Option.toList_none, List.append_nil]
    rcases member with earlier | rfl
    · exact sound.calls_lt other earlier
    · exact (sound.pending_uncalled other pending).1
  pending_uncalled other waits := by cases waits

theorem Sound.foldl_listen (sound : recorded.Sound) (listeners : List Listener) :
    (listeners.foldl RecordedKeypad.listen recorded).Sound := by
  induction listeners generalizing recorded with
  | nil => exact sound
  | cons listener rest ih => exact ih (sound.listen listener)

variable {answer : Listener → Key → List Listener}

/-- A press that nobody waits for calls nobody. -/
theorem press_of_none (silent : recorded.keypad.listener = none) (key : Key) :
    recorded.press answer key = { recorded with keypad := (recorded.keypad.press key).1 } := by
  simp only [press, Keypad.press, silent]

/-- A press calls whoever waits for it, and whom that one registers last waits for the next one. -/
theorem press_of_some {registration : Registration Listener}
    (pending : recorded.keypad.listener = some registration) (key : Key) :
    let added := numbered (made recorded.events).length (answer registration.listener key)
    recorded.press answer key =
      ⟨⟨(recorded.keypad.press key).1.held, added.getLast?⟩,
        recorded.events ++ .called registration key :: added.map .registered⟩ := by
  simp only [press, Keypad.press, pending, RecordedKeypad.foldl_listen, made_concat, Event.made?]
  simp

theorem held_press (recorded : RecordedKeypad Listener) (key : Key) :
    (recorded.press answer key).keypad.held = (recorded.keypad.press key).1.held := by
  cases pending : recorded.keypad.listener with
  | none => rw [press_of_none pending]
  | some registration => rw [press_of_some pending]

/-- The numbers have no part in what a press does. -/
theorem unnumbered_press (recorded : RecordedKeypad Listener) (key : Key) :
    recorded.unnumbered.pressAnswered (fun listener key => (answer listener key).getLast?) key =
      ((recorded.press answer key).unnumbered, recorded.unnumbered.listener) := by
  cases pending : recorded.keypad.listener with
  | none => simp [press_of_none pending, unnumbered, Keypad.pressAnswered, Keypad.press, pending]
  | some registration =>
      simp [press_of_some pending, unnumbered, Keypad.pressAnswered, Keypad.press, pending,
        ← List.getLast?_map, map_listener_numbered]

theorem Sound.press (sound : recorded.Sound) (key : Key) : (recorded.press answer key).Sound := by
  cases pending : recorded.keypad.listener with
  | none =>
      rw [press_of_none pending]
      have same : (recorded.keypad.press key).1 =
          { recorded.keypad with held := recorded.keypad.held.set key true } := by
        simp only [Keypad.press, pending]
      rw [same]
      exact sound.with_held _
  | some registration =>
      simp only [RecordedKeypad.press, Keypad.press, pending]
      exact (sound.call pending key).foldl_listen _

/-- A code stands for a key or is refused. -/
theorem withKey_cases (recorded : RecordedKeypad Listener) (code : Int)
    (act : Key → Reply Listener) :
    (∃ key : Key, code = key.val ∧ recorded.withKey code act = act key) ∨
      ¬ (0 ≤ code ∧ code < 16) ∧
        recorded.withKey code act = { after := recorded, failure := some (.invalidKey code) } := by
  by_cases bounds : 0 ≤ code ∧ code < 16
  · have whole : code = ((⟨code.toNat, by omega⟩ : Key).val : Int) := by
      simp only
      omega
    refine .inl ⟨⟨code.toNat, by omega⟩, whole, ?_⟩
    simp only [withKey, Key.ofInt, bounds, and_self, ↓reduceDIte]
  · exact .inr ⟨bounds, by simp only [withKey, Key.ofInt_of_outside bounds]⟩

theorem withKey_invariant (Invariant : RecordedKeypad Listener → Prop) (holds : Invariant recorded)
    (code : Int) {act : Key → Reply Listener} (acts : ∀ key, Invariant (act key).after) :
    Invariant (recorded.withKey code act).after := by
  rcases recorded.withKey_cases code act with ⟨key, -, same⟩ | ⟨-, same⟩
  · rw [same]
    exact acts key
  · rw [same]
    exact holds

theorem Sound.perform (sound : recorded.Sound) (action : Keypad.Action Listener) :
    (recorded.perform answer action).after.Sound := by
  cases action with
  | press code => exact withKey_invariant Sound sound code fun key => sound.press key
  | release code => exact withKey_invariant Sound sound code fun key => sound.with_held _
  | ask code => exact withKey_invariant Sound sound code fun key => sound
  | listen listener => exact sound.listen listener
  | cancel => exact sound.cancel

theorem sound_run (sound : recorded.Sound) (history : List (Keypad.Action Listener)) :
    (recorded.run answer history).Sound := by
  induction history generalizing recorded with
  | nil => exact sound
  | cons action rest ih => exact ih (sound.perform action)

theorem isPressed_press (recorded : RecordedKeypad Listener) (pressed key : Key) :
    (recorded.press answer pressed).keypad.isPressed key =
      (decide (pressed = key) || recorded.keypad.isPressed key) := by
  rw [Keypad.isPressed, held_press]
  exact recorded.keypad.isPressed_press pressed key

/-- After an action a key is held as the action says, or else as before. -/
theorem isPressed_perform (recorded : RecordedKeypad Listener) (action : Keypad.Action Listener)
    (key : Key) :
    (recorded.perform answer action).after.keypad.isPressed key =
      (action.holds? key).getD (recorded.keypad.isPressed key) := by
  have bounds := key.isLt
  cases action with
  | press code =>
      rcases recorded.withKey_cases code fun key => { after := recorded.press answer key } with
        ⟨pressed, rfl, same⟩ | ⟨outside, same⟩
      · rw [perform, same]
        simp only [isPressed_press, Keypad.Action.holds?, Int.natCast_inj, Fin.val_inj]
        by_cases equal : pressed = key <;> simp [equal]
      · have apart : code ≠ key.val := by omega
        simp [perform, same, Keypad.Action.holds?, apart]
  | release code =>
      rcases recorded.withKey_cases code fun key => { after := recorded.release key } with
        ⟨released, rfl, same⟩ | ⟨outside, same⟩
      · rw [perform, same]
        simp only [release, Keypad.isPressed_release, Keypad.Action.holds?, Int.natCast_inj,
          Fin.val_inj]
        by_cases equal : released = key <;> simp [equal]
      · have apart : code ≠ key.val := by omega
        simp [perform, same, Keypad.Action.holds?, apart]
  | ask code =>
      exact withKey_invariant (fun after => after.keypad.isPressed key = _) rfl code fun _ => rfl
  | listen listener => rfl
  | cancel => rfl

/-- After a history a key is held as the last action says that has to do with it. -/
theorem isPressed_run (recorded : RecordedKeypad Listener)
    (history : List (Keypad.Action Listener)) (key : Key) :
    (recorded.run answer history).keypad.isPressed key =
      ((history.filterMap (Keypad.Action.holds? key)).getLast?).getD
        (recorded.keypad.isPressed key) := by
  induction history generalizing recorded with
  | nil => rfl
  | cons action rest ih =>
      rw [run, ih, isPressed_perform, List.filterMap_cons]
      cases action.holds? key with
      | none => rfl
      | some held => simp [List.getLast?_cons]

/-- What a press does: whoever is pending is called, once and with the key, and of those whom that
one registers the last is pending afterwards.  If nobody is pending nobody is called. -/
structure PressCalls (before after : RecordedKeypad Listener)
    (answer : Listener → Key → List Listener) (key : Key) : Prop where
  nobody : (∀ registration, ¬ Pending before.events registration) → after.events = before.events
  somebody : ∀ registration, Pending before.events registration →
    ∃ added : List (Registration Listener),
      added.map (·.listener) = answer registration.listener key ∧
        after.events = before.events ++ .called registration key :: added.map .registered ∧
          ∀ other, Pending after.events other ↔ added.getLast? = some other

theorem Sound.pressCalls (sound : recorded.Sound) (key : Key) :
    recorded.PressCalls (recorded.press answer key) answer key where
  nobody silent := by
    have silent : recorded.keypad.listener = none :=
      Option.eq_none_iff_forall_ne_some.mpr fun registration waits =>
        silent registration ((sound.listener_iff registration).mp waits)
    rw [press_of_none silent]
  somebody registration pending := by
    have waits := (sound.listener_iff registration).mpr pending
    refine ⟨_, map_listener_numbered _ _, by rw [press_of_some waits], fun other => ?_⟩
    rw [← (sound.press key).listener_iff, press_of_some waits]

/-- What a keypad answers and whom it calls after a history. -/
structure AnswersPresses (answer : Listener → Key → List Listener)
    (history : List (Keypad.Action Listener)) (recorded : RecordedKeypad Listener) : Prop where
  /-- A key is held if the last press or release of it was a press. -/
  ask_eq : ∀ key : Key,
    recorded.perform answer (.ask key.val) =
      { after := recorded
        value := some (decide
          ((history.filterMap (Keypad.Action.holds? key)).getLast? = some true)) }
  /-- The held keys come in ascending order. -/
  pressedKeys_ascend : recorded.keypad.pressedKeys.Pairwise (· < ·)
  mem_pressedKeys : ∀ key, key ∈ recorded.keypad.pressedKeys ↔
    (history.filterMap (Keypad.Action.holds? key)).getLast? = some true
  /-- Somebody waits exactly if a registration is pending, and then it is the only one. -/
  listener_iff : ∀ registration,
    recorded.keypad.listener = some registration ↔ Pending recorded.events registration
  /-- Every press is accepted. -/
  press_eq : ∀ key : Key,
    recorded.perform answer (.press key.val) = { after := recorded.press answer key }
  /-- A press is what it would be without the numbers. -/
  unnumbered_press : ∀ key,
    recorded.unnumbered.pressAnswered (fun listener key => (answer listener key).getLast?) key =
      ((recorded.press answer key).unnumbered, recorded.unnumbered.listener)
  press_calls : ∀ key, recorded.PressCalls (recorded.press answer key) answer key
  /-- The numbers tell registrations apart. -/
  numbers_eq : (made recorded.events).map (·.number) = List.range (made recorded.events).length
  /-- No registration is called twice. -/
  calls_nodup : ((calls recorded.events).map (·.number)).Nodup
  /-- A code that is no key is refused, and nothing changes. -/
  refuse : ∀ code : Int, ¬ (0 ≤ code ∧ code < 16) →
    ∀ action ∈ [.press code, .release code, .ask code],
      recorded.perform answer action = { after := recorded, failure := some (.invalidKey code) }

/-- After any history a keypad knows which keys are held, and each press calls the listener that was
registered last, unless it was called, replaced or sent away before. -/
theorem answersPresses_run (answer : Listener → Key → List Listener)
    (history : List (Keypad.Action Listener)) :
    AnswersPresses answer history (run answer {} history) := by
  have sound : (run answer {} history).Sound := sound_run sound_released history
  have held (key : Key) : (run answer {} history).keypad.isPressed key =
      decide ((history.filterMap (Keypad.Action.holds? key)).getLast? = some true) := by
    have start : ({} : RecordedKeypad Listener).keypad.isPressed key = false := by
      simp [Keypad.isPressed, Keypad.released]
    rw [isPressed_run, start]
    cases (history.filterMap (Keypad.Action.holds? key)).getLast? with
    | none => rfl
    | some value => simp
  exact
    { ask_eq := fun key => by rw [← held]; simp only [perform, withKey, Key.ofInt_val]
      pressedKeys_ascend := (List.pairwise_lt_finRange 16).filter _
      mem_pressedKeys := fun key => by rw [Keypad.mem_pressedKeys, held, decide_eq_true_iff]
      listener_iff := sound.listener_iff
      press_eq := fun key => by simp only [perform, withKey, Key.ofInt_val]
      unnumbered_press := unnumbered_press _
      press_calls := sound.pressCalls
      numbers_eq := sound.numbers_eq
      calls_nodup := sound.calls_nodup
      refuse := fun code outside action member => by
        simp only [List.mem_cons, List.not_mem_nil, or_false] at member
        rcases member with rfl | rfl | rfl <;>
          simp only [perform, withKey, Key.ofInt_of_outside outside] }

/-- A listener that registers two more when it is called: the first of them is never called. -/
example :
    (calls (run (fun listener _ => [2 * listener, 2 * listener + 1]) {}
      [.listen 1, .press 4, .press 16, .press 4]).events).map (·.listener) = [1, 3] := by
  decide

end RecordedKeypad
end ChipEight

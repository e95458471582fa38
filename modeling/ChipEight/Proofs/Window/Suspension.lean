import ChipEight.Proofs.Screen.Picture
import ChipEight.Proofs.Window.Frame
import Mathlib.Algebra.Ring.Parity

/-!
# Suspended windows

A window is suspended while it was switched an odd number of times since the program was last
started afresh.  The console notices nothing of it: frames of a suspended window can be put into a
showing, and every other frame shows what it showed before.
-/

namespace ChipEight

namespace WindowEvent

/-- Whether a window is suspended after an event. -/
def switch (suspended : Bool) : WindowEvent → Bool
  | .keyDown .suspend => !suspended
  | .keyDown .reset => false
  | _ => suspended

/-- How often the program was suspended or let go on since it was last started afresh. -/
def switches (events : List WindowEvent) : Nat :=
  (events.reverse.takeWhile (· ≠ .keyDown .reset)).count (.keyDown .suspend)

theorem switch_of_other {event : WindowEvent} (noReset : event ≠ .keyDown .reset)
    (noSuspend : event ≠ .keyDown .suspend) (suspended : Bool) :
    event.switch suspended = suspended := by
  fun_cases switch suspended event
  · exact (noSuspend rfl).elim
  · exact (noReset rfl).elim
  · rfl

theorem foldl_switch_iff (events : List WindowEvent) :
    events.foldl (fun suspended event => event.switch suspended) false = true ↔
      Odd (switches events) := by
  rw [List.foldl_eq_foldr_reverse, switches]
  induction events.reverse with
  | nil => simp
  | cons latest earlier ih =>
      by_cases afresh : latest = .keyDown .reset
      · simp [afresh, switch]
      · by_cases switched : latest = .keyDown .suspend
        · have flips (suspended : Bool) : latest.switch suspended = !suspended := by
            rw [switched, switch]
          rw [List.foldr_cons, flips, Bool.not_eq_true', ← Bool.not_eq_true, ih]
          simp [switched, Nat.odd_add_one]
        · simp [afresh, switched, switch_of_other, ih]

end WindowEvent

namespace Window

theorem suspended_handle (window : Window) (event : WindowEvent) :
    (window.handle event).1.suspended = event.switch window.suspended := by
  cases event with
  | close | other => rfl
  | keyDown key => cases key <;> rfl
  | keyUp key => cases key <;> rfl

theorem suspended_handleAll (window : Window) (events : List WindowEvent) :
    (window.handleAll events).1.suspended =
      events.foldl (fun suspended event => event.switch suspended) window.suspended := by
  induction events generalizing window with
  | nil => rfl
  | cons event rest ih => rw [handleAll, ih, suspended_handle, List.foldl_cons]

theorem suspended_frame (window : Window) (events : List WindowEvent) :
    (window.frame events).1.suspended = (window.handleAll events).1.suspended := by
  simp only [frame, runConsole]
  split
  · rfl
  · split <;> rfl

theorem suspended_after (window : Window) (batches : List (List WindowEvent)) :
    (window.after batches).suspended =
      batches.flatten.foldl (fun suspended event => event.switch suspended) window.suspended := by
  induction batches generalizing window with
  | nil => rfl
  | cons events rest ih =>
      rw [after, ih, suspended_frame, suspended_handleAll, List.flatten_cons, List.foldl_append]

/-- At every point a window that was not suspended at first is suspended exactly if it was switched
an odd number of times. -/
theorem suspended_iff {window : Window} (unsuspended : window.suspended = false)
    (earlier : List (List WindowEvent)) (events : List WindowEvent) :
    ((window.after earlier).handleAll events).1.suspended = true ↔
      Odd (WindowEvent.switches (earlier.flatten ++ events)) := by
  rw [suspended_handleAll, suspended_after, ← List.foldl_append, unsuspended,
    WindowEvent.foldl_switch_iff]

theorem handle_of_isIdle {event : WindowEvent} (idle : event.isIdle = true) (window : Window) :
    window.handle event = (window, []) := by
  cases event with
  | close => cases idle
  | keyDown key =>
      cases key with
      | unused => rfl
      | _ => cases idle
  | keyUp key =>
      cases key with
      | pad number => cases idle
      | _ => rfl
  | other => rfl

theorem handleAll_of_isIdle {events : List WindowEvent}
    (idle : ∀ event ∈ events, event.isIdle = true) (window : Window) :
    window.handleAll events = (window, []) := by
  induction events with
  | nil => rfl
  | cons event rest ih =>
      obtain ⟨first, others⟩ := List.forall_mem_cons.mp idle
      simp only [handleAll, handle_of_isIdle first, ih others, List.append_nil]

theorem isRunning_of_suspended {window : Window} (suspended : window.suspended = true) :
    window.isRunning = false := by
  simp [isRunning, suspended]

theorem runConsole_of_suspended {window : Window} (suspended : window.suspended = true) :
    window.runConsole = (window, []) := by
  simp [runConsole, isRunning_of_suspended suspended]

/-- Each frame shows the console of the window after its events. -/
theorem console_of_getElem? {settings : WindowSettings} {window : Window} {pending : List Notice}
    {script : List (List WindowEvent)} {flip : Nat} {frame : WindowFrame}
    (shown : (showFrames settings window pending script).frames[flip]? = some frame) :
    frame.console = (window.after (script.take (flip + 1))).console := by
  induction script generalizing window pending flip with
  | nil => simp [showFrames, close] at shown
  | cons events rest ih =>
      simp only [showFrames] at shown
      split at shown
      · simp [close] at shown
      · split at shown
        · simp [close] at shown
        · cases flip with
          | zero =>
              obtain rfl := Option.some.inj shown
              simp [after]
          | succ flip =>
              rw [List.getElem?_cons_succ] at shown
              split at shown
              · simp [close] at shown
              · exact ih shown

end Window

/-- What a showing showed frame by frame, apart from what there was to tell. -/
def Showing.views (showing : Showing) : List (WindowConsole × Image) :=
  showing.frames.map fun frame => (frame.console, frame.image)

namespace Window

variable {settings : WindowSettings}

/-- Whether a screen can be painted does not depend on the screen. -/
theorem paint_cases (settings : WindowSettings) :
    (∀ screen, ∃ image, paint settings screen = .ok image) ∨
      ∃ failure, ∀ screen, paint settings screen = .error failure := by
  simp only [paint, paintOn]
  cases Palette.chosen settings.scheme with
  | error failure => exact .inr ⟨failure, fun _ => rfl⟩
  | ok palette =>
      rcases Screen.boundedImage_cases 64 32 settings.scale palette
        with paints | ⟨failure, unpainted⟩
      · refine .inl fun screen => ?_
        obtain ⟨image, painted⟩ := paints screen
        simp only [painted, bind, Except.bind, pure, Except.pure]
        exact ⟨_, rfl⟩
      · exact .inr ⟨failure, fun screen => by simp only [unpainted, bind, Except.bind]⟩

theorem views_showFrames_of_unpainted {failure : Failure}
    (unpainted : ∀ screen, paint settings screen = .error failure) (window : Window)
    (pending : List Notice) (script : List (List WindowEvent)) :
    (showFrames settings window pending script).views = [] := by
  cases script with
  | nil => rfl
  | cons events rest =>
      simp only [showFrames, unpainted]
      split <;> rfl

/-- What is shown from a batch of events on depends on the window that they leave behind. -/
theorem views_showFrames_congr {window other : Window} {events instead : List WindowEvent}
    (same : (window.handleAll events).1 = (other.handleAll instead).1)
    (pending before : List Notice) (rest : List (List WindowEvent)) :
    (showFrames settings window pending (events :: rest)).views =
      (showFrames settings other before (instead :: rest)).views := by
  have framed : (window.frame events).1 = (other.frame instead).1 := by
    simp only [frame, same]
  have free : obstruction? settings window events = obstruction? settings other instead := by
    simp only [obstruction?, same]
  simp only [showFrames, free, framed]
  split
  · rfl
  · split <;> rfl

/-- A frame that leaves the window suspended shows its console once more. -/
theorem views_showFrames_of_suspended {window next : Window} {events : List WindowEvent}
    {told : List Notice} (handled : window.handleAll events = (next, told))
    (suspended : next.suspended = true) (opened : next.closing = false)
    (paints : ∀ screen, ∃ image, paint settings screen = .ok image) (pending : List Notice)
    (rest : List (List WindowEvent)) :
    (showFrames settings window pending (events :: rest)).views.drop 1 =
      (showFrames settings next [] rest).views := by
  have free : obstruction? settings window events = none := by
    simp [obstruction?, handled, isRunning_of_suspended suspended]
  have framed : (window.frame events).1 = next := by
    simp [frame, handled, runConsole_of_suspended suspended]
  obtain ⟨image, painted⟩ := paints next.console.screen
  simp only [showFrames, free, framed, painted, opened, Showing.views]
  simp

/-- Frames without an event are lost on a suspended window. -/
theorem views_showFrames_of_isIdle {window : Window} (suspended : window.suspended = true)
    (opened : window.closing = false)
    (paints : ∀ screen, ∃ image, paint settings screen = .ok image)
    {idle : List (List WindowEvent)}
    (quiet : ∀ events ∈ idle, ∀ event ∈ events, event.isIdle = true)
    (script : List (List WindowEvent)) :
    (showFrames settings window [] (idle ++ script)).views.drop idle.length =
      (showFrames settings window [] script).views := by
  induction idle with
  | nil => rfl
  | cons events rest ih =>
      obtain ⟨first, others⟩ := List.forall_mem_cons.mp quiet
      rw [List.length_cons, Nat.add_comm, ← List.drop_drop, List.cons_append,
        views_showFrames_of_suspended (handleAll_of_isIdle first window) suspended opened paints,
        ih others]

theorem handleAll_suspend (window : Window) (events : List WindowEvent) :
    (window.handleAll (.keyDown .suspend :: events)).1 =
      (Window.handleAll { window with suspended := !window.suspended } events).1 :=
  rfl

/-- A suspended window that goes on with a batch of events shows what it would have shown without
having been suspended. -/
theorem views_showFrames_inserted {window : Window} (unsuspended : window.suspended = false)
    (opened : window.closing = false)
    (paints : ∀ screen, ∃ image, paint settings screen = .ok image)
    {idle : List (List WindowEvent)} (quiet : ∀ batch ∈ idle, ∀ event ∈ batch, event.isIdle = true)
    (pending : List Notice) (events : List WindowEvent) (later : List (List WindowEvent)) :
    (showFrames settings window pending
        ([.keyDown .suspend] :: idle ++ (.keyDown .suspend :: events) :: later)).views.drop
          (1 + idle.length) =
      (showFrames settings window pending (events :: later)).views := by
  let halfway : Window := { window with suspended := true }
  have suspends : window.handleAll [.keyDown .suspend] =
      (halfway, [.remark .info "Paused"]) := by
    simp [handleAll, handle, keyDown, unsuspended, halfway]
  have goesOn : (halfway.handleAll (.keyDown .suspend :: events)).1 =
      (window.handleAll events).1 := by
    rw [handleAll_suspend]
    simp only [halfway, Bool.not_true, ← unsuspended]
  have suspended : halfway.suspended = true := rfl
  have lost := views_showFrames_of_isIdle suspended opened paints quiet
    ((.keyDown .suspend :: events) :: later)
  rw [← List.drop_drop, List.cons_append,
    views_showFrames_of_suspended suspends suspended opened paints, lost]
  exact views_showFrames_congr goesOn [] pending later

/-- Suspending the window before a batch of events and letting it go on with that batch changes no
later frame. -/
theorem views_showFrames_suspended {window : Window} (opened : window.closing = false)
    {before idle : List (List WindowEvent)} (unsuspended : (window.after before).suspended = false)
    (quiet : ∀ batch ∈ idle, ∀ event ∈ batch, event.isIdle = true) (pending : List Notice)
    (events : List WindowEvent) (later : List (List WindowEvent)) :
    (showFrames settings window pending
        (before ++ [.keyDown .suspend] :: idle ++
          (.keyDown .suspend :: events) :: later)).views.drop
            (before.length + (1 + idle.length)) =
      (showFrames settings window pending (before ++ events :: later)).views.drop
        before.length := by
  rcases paint_cases settings with paints | ⟨failure, unpainted⟩
  · induction before generalizing window pending with
    | nil =>
        rw [List.length_nil, Nat.zero_add]
        exact views_showFrames_inserted unsuspended opened paints quiet pending events later
    | cons first before ih =>
        rw [List.length_cons, Nat.add_right_comm]
        simp only [List.cons_append, showFrames]
        split
        · simp [close, Showing.views]
        · obtain ⟨image, painted⟩ := paints (window.frame first).1.console.screen
          simp only [painted]
          split
          · simp [close, Showing.views]
          · rename_i opened
            have remaining := ih (Bool.eq_false_iff.mpr opened) unsuspended []
            simpa [Showing.views] using remaining
  · simp only [views_showFrames_of_unpainted unpainted, List.drop_nil]

/-- Nothing follows a batch of events that closes the window. -/
theorem showFrames_append_of_closes {batches : List (List WindowEvent)}
    (closes : batches.any (·.any WindowEvent.closes) = true) (window : Window)
    (pending : List Notice) (rest : List (List WindowEvent)) :
    showFrames settings window pending (batches ++ rest) =
      showFrames settings window pending batches := by
  induction batches generalizing window pending with
  | nil => cases closes
  | cons events later ih =>
      have closing := window.closing_frame events
      simp only [List.cons_append, showFrames]
      split
      · rfl
      · split
        · rfl
        · split
          · rfl
          · rename_i opened
            have noClose : events.any WindowEvent.closes = false :=
              (Bool.or_eq_false_iff.mp (closing.symm.trans (Bool.eq_false_iff.mpr opened))).2
            rw [List.any_cons, noClose, Bool.false_or] at closes
            rw [ih closes]

/-- Either no window opens, whatever the events, or the frames are shown. -/
theorem run_cases (settings : WindowSettings) (console : WindowConsole) :
    (∀ batches, (run settings console batches).frames = []) ∨
      ∀ batches, run settings console batches =
        showFrames settings ⟨withSound settings console, false, false⟩ (greeting settings)
          (batches ++ [[.close]]) := by
  simp only [run]
  cases checkSize settings with
  | error failure => exact .inl fun _ => rfl
  | ok _ =>
      cases sound settings console.machine.config.toneFrequency with
      | error failure => exact .inl fun _ => rfl
      | ok _ => exact .inr fun _ => rfl

/-- Suspending a window goes unseen.  At every point the window is suspended exactly if it was
switched an odd number of times since it was opened or the program was last started afresh, each
frame showing the console of that point.  If it is not suspended before some batch of events, then
suspending it there for any number of idle frames and letting it go on with that batch changes
neither what that frame shows nor what any later one does. -/
theorem suspension_unseen (settings : WindowSettings) (console : WindowConsole) :
    let opened : Window := ⟨withSound settings console, false, false⟩
    (∀ earlier events, ((opened.after earlier).handleAll events).1.suspended = true ↔
        Odd (WindowEvent.switches (earlier.flatten ++ events))) ∧
      (∀ (batches : List (List WindowEvent)) (flip : Nat) (frame : WindowFrame),
        (run settings console batches).frames[flip]? = some frame →
          frame.console =
            (opened.after ((batches ++ [[WindowEvent.close]]).take (flip + 1))).console) ∧
      ∀ (batches before : List (List WindowEvent)) (events : List WindowEvent)
        (later idle : List (List WindowEvent)), batches ++ [[.close]] = before ++ events :: later →
        (opened.after before).suspended = false →
        (∀ batch ∈ idle, ∀ event ∈ batch, event.isIdle = true) →
          let suspending :=
            before ++ [.keyDown .suspend] :: idle ++ (.keyDown .suspend :: events) :: later
          (run settings console suspending).views.drop (before.length + (1 + idle.length)) =
            (run settings console batches).views.drop before.length := by
  intro opened
  refine ⟨suspended_iff rfl, fun batches flip frame shown => ?_,
    fun batches before events later idle split unsuspended quiet => ?_⟩
  · rcases run_cases settings console with nothing | shows
    · simp [nothing] at shown
    · rw [shows] at shown
      exact console_of_getElem? shown
  · rcases run_cases settings console with nothing | shows
    · simp [Showing.views, nothing]
    · have closes : (before ++ [.keyDown .suspend] :: idle ++
          (.keyDown .suspend :: events) :: later).any (·.any WindowEvent.closes) = true := by
        have ends : (before ++ events :: later).any (·.any WindowEvent.closes) = true := by
          simp [← split, WindowEvent.closes]
        simp only [List.any_append, List.any_cons, Bool.or_eq_true] at ends ⊢
        grind
      simp only [shows, split, showFrames_append_of_closes closes]
      exact views_showFrames_suspended rfl unsuspended quiet _ events later

/-- A window that is suspended for three frames while its program waits for a key. -/
theorem suspension_unseen_waiting :
    let settings : WindowSettings := { scale := 1, scheme := some "classic", channels := 0 }
    let console := ((Console.initial {} 64 32).load #[0xF3, 0x0A, 0x12, 0x00] "").console
    let batches : List (List WindowEvent) := [[], [.keyDown (.pad 5)]]
    let opened : Window := ⟨withSound settings console, false, false⟩
    let suspending : List (List WindowEvent) :=
      [[], [.keyDown .suspend], [.other], [.keyUp .suspend],
        [.keyDown .suspend, .keyDown (.pad 5)], [.close]]
    (opened.after [[]]).suspended = false ∧
      (∃ frame, (run settings console batches).frames[1]? = some frame ∧
        frame.console = (opened.after [[], [.keyDown (.pad 5)]]).console) ∧
      (run settings console suspending).views.drop 4 =
        (run settings console batches).views.drop 1 := by
  intro settings console batches opened suspending
  obtain ⟨-, shows, unseen⟩ := suspension_unseen settings console
  have unsuspended : (opened.after [[]]).suspended = false := by decide +kernel
  have second : (run settings console batches).frames[1]?.isSome = true := by decide +kernel
  obtain ⟨frame, shown⟩ := Option.isSome_iff_exists.mp second
  refine ⟨unsuspended, ⟨frame, shown, shows batches 1 frame shown⟩, ?_⟩
  exact unseen batches [[]] [.keyDown (.pad 5)] [[.close]] [[.other], [.keyUp .suspend]] rfl
    unsuspended (by decide)

end Window
end ChipEight

import ChipEight.Window

/-!
# Frames of a window

A window shows one frame for each batch of events, up to the batch that closes it, all of which is
still taken in.  What the events and the frames keep, the window keeps.
-/

namespace ChipEight

/-- Whether an event closes the window. -/
def WindowEvent.closes : WindowEvent → Bool
  | .close | .keyDown .quit => true
  | _ => false

/-- Whether an event is neither a key of the keypad nor one that acts on the window. -/
def WindowEvent.isIdle : WindowEvent → Bool
  | .other | .keyDown .unused => true
  | .keyUp (.pad _) => false
  | .keyUp _ => true
  | .close | .keyDown _ => false

namespace Window

/-! ## What events and frames make of a window -/

/-- What one event makes of a window. -/
inductive Takes : Window → WindowEvent → Window → Prop
  | close (window : Window) : Takes window .close { window with closing := true }
  | quit (window : Window) : Takes window (.keyDown .quit) { window with closing := true }
  | suspend (window : Window) :
      Takes window (.keyDown .suspend) { window with suspended := !window.suspended }
  | reset (window : Window) :
      Takes window (.keyDown .reset)
        { window with console := window.console.reset, suspended := false }
  | press (window : Window) (key : Key) :
      Takes window (.keyDown (.pad key))
        { window with console := (window.console.press key).console }
  | release (window : Window) (key : Key) :
      Takes window (.keyUp (.pad key)) { window with console := window.console.release key }
  | idle (window : Window) {event : WindowEvent} (quiet : event.isIdle = true) :
      Takes window event window

/-- What events make of a window, one after the other. -/
inductive TakesAll : Window → List WindowEvent → Window → Prop
  | nil (window : Window) : TakesAll window [] window
  | cons {window next after : Window} {event : WindowEvent} {rest : List WindowEvent}
      (first : Takes window event next) (others : TakesAll next rest after) :
      TakesAll window (event :: rest) after

/-- What one frame makes of a window.  Unless the window is suspended or the machine has stopped,
the console runs a frame, and if that is refused the tone stops. -/
inductive Runs (window : Window) : Window → Prop
  | suspended (halts : window.suspended = true) : Runs window window
  | stopped (halts : window.console.halted = true) : Runs window window
  | ran (live : window.suspended = false) (running : window.console.halted = false)
      (accepted : window.console.runFrame.failure = none) :
      Runs window { window with console := window.console.runFrame.console }
  | failed {failure : Failure} (live : window.suspended = false)
      (running : window.console.halted = false)
      (refused : window.console.runFrame.failure = some failure) :
      Runs window
        { window with
          console :=
            { window.console.runFrame.console with
              buzzer := window.console.runFrame.console.buzzer.stop } }

/-- The consoles that a window shows: for each batch of events the one after all of them and after a
frame. -/
inductive Path : Window → List (List WindowEvent) → List WindowConsole → Prop
  | nil (window : Window) : Path window [] []
  | cons {window ready after : Window} {events : List WindowEvent}
      {rest : List (List WindowEvent)} {consoles : List WindowConsole}
      (taken : TakesAll window events ready) (ran : Runs ready after)
      (later : Path after rest consoles) :
      Path window (events :: rest) (after.console :: consoles)

theorem Path.length_eq {window : Window} {script : List (List WindowEvent)}
    {consoles : List WindowConsole} (path : Path window script consoles) :
    consoles.length = script.length := by
  induction path with
  | nil window => rfl
  | cons taken ran later ih => rw [List.length_cons, List.length_cons, ih]

theorem takes_handle (window : Window) (event : WindowEvent) :
    Takes window event (window.handle event).1 := by
  cases event with
  | close => exact .close window
  | other => exact .idle window rfl
  | keyDown key =>
      cases key with
      | quit => exact .quit window
      | suspend => exact .suspend window
      | reset => exact .reset window
      | pad key => exact .press window key
      | unused => exact .idle window rfl
  | keyUp key =>
      cases key with
      | pad key => exact .release window key
      | _ => exact .idle window rfl

theorem takesAll_handleAll (window : Window) (events : List WindowEvent) :
    TakesAll window events (window.handleAll events).1 := by
  induction events generalizing window with
  | nil => exact .nil window
  | cons event rest ih => exact .cons (window.takes_handle event) (ih _)

theorem runs_runConsole (window : Window) : Runs window window.runConsole.1 := by
  simp only [runConsole]
  split
  · rename_i idle
    simp only [isRunning, Bool.not_and, Bool.not_not, Bool.or_eq_true] at idle
    rcases idle with suspended | stopped
    · exact .suspended suspended
    · exact .stopped stopped
  · rename_i runs
    simp only [isRunning, Bool.not_and, Bool.not_not, Bool.or_eq_true, not_or,
      Bool.not_eq_true] at runs
    split
    · rename_i accepted
      exact .ran runs.1 runs.2 accepted
    · rename_i failure refused
      exact .failed runs.1 runs.2 refused

/-! ## Runs of a window -/

/-- The window after a frame for each batch of events, whether or not it was to close. -/
def after (window : Window) : List (List WindowEvent) → Window
  | [] => window
  | events :: rest => (window.frame events).1.after rest

theorem closing_handle (window : Window) (event : WindowEvent) :
    (window.handle event).1.closing = (window.closing || event.closes) := by
  cases event with
  | close => simp [handle, WindowEvent.closes]
  | keyDown key => cases key <;> simp [handle, keyDown, WindowEvent.closes]
  | keyUp key => cases key <;> simp [handle, WindowEvent.closes]
  | other => simp [handle, WindowEvent.closes]

theorem closing_handleAll (window : Window) (events : List WindowEvent) :
    (window.handleAll events).1.closing = (window.closing || events.any WindowEvent.closes) := by
  induction events generalizing window with
  | nil => simp [handleAll]
  | cons event rest ih => simp only [handleAll, ih, closing_handle, List.any_cons, Bool.or_assoc]

theorem closing_runConsole (window : Window) : window.runConsole.1.closing = window.closing := by
  simp only [runConsole]
  split
  · rfl
  · split <;> rfl

theorem closing_frame (window : Window) (events : List WindowEvent) :
    (window.frame events).1.closing = (window.closing || events.any WindowEvent.closes) := by
  rw [frame, closing_runConsole, closing_handleAll]

/-- A frame that can run and be painted is shown, and the window goes on unless it is to close. -/
theorem showFrames_cons {settings : WindowSettings} {window : Window} {pending : List Notice}
    {events : List WindowEvent} {rest : List (List WindowEvent)} {image : Image}
    (unobstructed : settings.obstacle = none)
    (painted : paint settings (window.frame events).1.console.screen = .ok image) :
    let after := (window.frame events).1
    let showing :=
      if after.closing then close after.console [] none else showFrames settings after [] rest
    showFrames settings window pending (events :: rest) =
      { showing with
        frames :=
          ⟨after.console, image, pending ++ (window.frame events).2⟩ :: showing.frames } := by
  have free : obstruction? settings window events = none := by simp [obstruction?, unobstructed]
  simp only [showFrames, free, painted]

/-- If every screen can be painted, there is a frame for each batch of events up to the first one
that closes the window, all of whose events are taken in, and nothing goes wrong. -/
theorem frames_showFrames {settings : WindowSettings} (unobstructed : settings.obstacle = none)
    (paints : ∀ screen, ∃ image, paint settings screen = .ok image)
    {script : List (List WindowEvent)} (closes : script.any (·.any WindowEvent.closes) = true)
    (window : Window) (opened : window.closing = false) (pending : List Notice) :
    let showing := showFrames settings window pending script
    showing.failure = none ∧
      Path window (script.take (script.findIdx (·.any WindowEvent.closes) + 1))
        (showing.frames.map WindowFrame.console) := by
  induction script generalizing window pending with
  | nil => cases closes
  | cons events rest ih =>
      obtain ⟨image, painted⟩ := paints (window.frame events).1.console.screen
      have taken := window.takesAll_handleAll events
      have ran : Runs (window.handleAll events).1 (window.frame events).1 := runs_runConsole _
      have closing := window.closing_frame events
      rw [opened, Bool.false_or] at closing
      simp only [showFrames_cons unobstructed painted, closing]
      cases ends : events.any WindowEvent.closes with
      | true =>
          simp only [List.findIdx_cons, ends, cond_true, List.take_succ_cons, List.take_zero]
          exact ⟨rfl, .cons taken ran (.nil _)⟩
      | false =>
          rw [List.any_cons, ends, Bool.false_or] at closes
          obtain ⟨smooth, shown⟩ := ih closes _ (closing.trans ends) []
          simp only [List.findIdx_cons, ends, cond_false, List.take_succ_cons]
          exact ⟨smooth, .cons taken ran shown⟩

/-- What the events and the frames of a console keep, holds whenever a frame is shown, and in the
end but for the tone, which is stopped. -/
theorem showFrames_invariant (Invariant : WindowConsole → Prop)
    (handles : ∀ window event, Invariant window.console →
      Invariant (handle window event).1.console)
    (runs : ∀ window, Invariant window.console → Invariant (runConsole window).1.console)
    (settings : WindowSettings) (window : Window) (holds : Invariant window.console)
    (pending : List Notice) (script : List (List WindowEvent)) :
    let showing := showFrames settings window pending script
    (∀ frame ∈ showing.frames, Invariant frame.console) ∧
      (∃ last, Invariant last ∧ showing.console = { last with buzzer := last.buzzer.stop }) ∧
      showing.progress = .shown := by
  have handlesAll (events : List WindowEvent) {window : Window} (holds : Invariant window.console) :
      Invariant (window.handleAll events).1.console := by
    induction events generalizing window with
    | nil => exact holds
    | cons event rest ih => exact ih (handles window event holds)
  induction script generalizing window pending with
  | nil => exact ⟨by simp [showFrames, close], ⟨_, holds, rfl⟩, rfl⟩
  | cons events rest ih =>
      have ready := handlesAll events holds
      have shown : Invariant (window.frame events).1.console := runs _ ready
      simp only [showFrames]
      split
      · exact ⟨by simp [close], ⟨_, ready, rfl⟩, rfl⟩
      · split
        · exact ⟨by simp [close], ⟨_, shown, rfl⟩, rfl⟩
        · split
          · exact ⟨by simpa [close] using shown, ⟨_, shown, rfl⟩, rfl⟩
          · obtain ⟨frames, last, progress⟩ := ih _ shown []
            exact ⟨List.forall_mem_cons.mpr ⟨shown, frames⟩, last, progress⟩

end Window
end ChipEight

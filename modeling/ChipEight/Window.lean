import ChipEight.Buzzer
import ChipEight.Console
import ChipEight.Image
import ChipEight.Keypad
import ChipEight.Screen

/-!
# The window

A window shows a console frame by frame.  Before each frame it takes in the events that have
arrived; while it is suspended, or once the machine has stopped, the frame only shows the screen.
The frame in which the window is told to close is still shown.

The sixteen keys of the keypad lie on the left side of a QWERTY keyboard, four in a row, and three
more keys control the window.  Keys are known by the name of what is printed on them.
-/

namespace ChipEight

/-- What a key of the keyboard is for. -/
inductive KeyboardKey
  /-- Closes the window. -/
  | quit
  /-- Suspends the program, or lets it go on. -/
  | suspend
  /-- Starts the program afresh. -/
  | reset
  /-- Acts as a key of the keypad. -/
  | pad (key : Key)
  /-- Has no use. -/
  | unused
  deriving DecidableEq, Repr

namespace KeyboardKey

/-- The keyboard keys that act as keys of the keypad. -/
def padKeys : List (String × Key) :=
  [("1", 0x1), ("2", 0x2), ("3", 0x3), ("4", 0xC),
    ("q", 0x4), ("w", 0x5), ("e", 0x6), ("r", 0xD),
    ("a", 0x7), ("s", 0x8), ("d", 0x9), ("f", 0xE),
    ("z", 0xA), ("x", 0x0), ("c", 0xB), ("v", 0xF)]

/-- The key of the keypad that a keyboard key acts as. -/
def padKey? (name : String) : Option Key :=
  padKeys.lookup name

/-- What the key with a given name is for. -/
def ofName (name : String) : KeyboardKey :=
  if name = "ESCAPE" then quit
  else if name = "F1" then suspend
  else if name = "F5" then reset
  else match padKey? name with
    | some key => pad key
    | none => unused

end KeyboardKey

/-- How a window shows a console. -/
structure WindowSettings where
  /-- Side of the square that shows one pixel. -/
  scale : Int
  /-- Name of the palette, if one was chosen. -/
  scheme : Option String
  /-- Channels of the sound output; none if there is no output. -/
  channels : Nat
  /-- How far the integers reach that the sound is computed with. Those that measure the window are
  bounded. -/
  precision : Precision := .bounded
  /-- What the window system paints on. -/
  surfaces : Surfaces := .memory
  /-- Why no frame of the console can run, if none can. -/
  obstacle : Option Failure := none

/-- What the window system reports. -/
inductive WindowEvent
  /-- The window is to close. -/
  | close
  /-- A key went down. -/
  | keyDown (key : KeyboardKey)
  /-- A key went up. -/
  | keyUp (key : KeyboardKey)
  /-- Anything else. -/
  | other
  deriving DecidableEq, Repr

/-- What the window asks of the window system. -/
inductive WindowRequest
  /-- Prepare sound output with some sample rate, signed sample width and number of channels. -/
  | prepareSound (rate width channels : Int)
  /-- Start the window system. -/
  | start
  /-- Give the window a title. -/
  | title (text : String)
  /-- Shut the window system down. -/
  | shutDown
  deriving DecidableEq, Repr

/-- The console of a window has a screen of the usual size. -/
abbrev WindowConsole := Console 64 32

/-- An open window. -/
structure Window where
  /-- The console that is shown. -/
  console : WindowConsole
  /-- Whether the program is suspended. -/
  suspended : Bool
  /-- Whether the window is to close after this frame. -/
  closing : Bool

/-- One frame as it was shown. -/
structure WindowFrame where
  /-- The console at that time. -/
  console : WindowConsole
  /-- What was shown. -/
  image : Image
  /-- What there was to tell since the frame before. -/
  notices : List Notice

/-- A looped sound. -/
structure Sound where
  /-- How many channels carry each sample. -/
  channels : Nat
  /-- The samples. -/
  samples : List Int16

/-- How far a window came. -/
inductive Showing.Progress
  /-- It was refused. -/
  | refused
  /-- It was opened and had no sound. -/
  | opened
  /-- It showed frames. -/
  | shown
  deriving DecidableEq, Repr

/-- Everything that happened while a window was open. -/
structure Showing where
  /-- The frames in order. -/
  frames : List WindowFrame
  /-- The console when the window had closed. -/
  console : WindowConsole
  /-- What there was to tell since the last frame. -/
  notices : List Notice
  /-- Why the window closed too early, if it did. -/
  failure : Option Failure
  /-- How far the window came. -/
  progress : Showing.Progress

namespace Window

/-- Frames in a second. -/
def frameRate : Nat := 60

/-- What a window tells its user at first. -/
def controls : Notice :=
  .remark .info "Controls: ESC=Quit, F1=Pause, F5=Reset"

/-- What a window without sound output tells its user. -/
def soundMissing : Notice :=
  .remark .warning "Audio unavailable, running without sound"

/-- What a window tells its user when the machine has stopped. -/
def advice : Notice :=
  .remark .error "Press F5 to reset or ESC to quit"

/-- Take in a key that went down. -/
def keyDown (window : Window) : KeyboardKey → Window × List Notice
  | .quit => ({ window with closing := true }, [])
  | .suspend =>
      ({ window with suspended := !window.suspended },
        [.remark .info (if window.suspended then "Resumed" else "Paused")])
  | .reset =>
      ({ window with console := window.console.reset, suspended := false },
        [.remark .info "Reset"])
  | .pad key =>
      let outcome := window.console.press key
      ({ window with console := outcome.console }, outcome.notices)
  | .unused => (window, [])

/-- Take in one event. -/
def handle (window : Window) : WindowEvent → Window × List Notice
  | .close => ({ window with closing := true }, [])
  | .keyDown key => window.keyDown key
  | .keyUp (.pad key) => ({ window with console := window.console.release key }, [])
  | .keyUp _ => (window, [])
  | .other => (window, [])

/-- Take in events in order. -/
def handleAll (window : Window) : List WindowEvent → Window × List Notice
  | [] => (window, [])
  | event :: rest =>
      let (next, first) := window.handle event
      let (final, others) := next.handleAll rest
      (final, first ++ others)

/-- Whether the next frame of the console is to run: it is not suspended and has not stopped. -/
def isRunning (window : Window) : Bool :=
  !window.suspended && !window.console.halted

/-- Run one frame of the console if it is to run. -/
def runConsole (window : Window) : Window × List Notice :=
  if !window.isRunning then (window, [])
  else
    let outcome := window.console.runFrame
    match outcome.failure with
    | none => ({ window with console := outcome.console }, outcome.notices)
    | some _ =>
        let silenced := { outcome.console with buzzer := outcome.console.buzzer.stop }
        ({ window with console := silenced }, outcome.notices ++ [advice])

/-- Take in the events of a frame and run it. -/
def frame (window : Window) (events : List WindowEvent) : Window × List Notice :=
  let (ready, told) := window.handleAll events
  let (after, toldLater) := ready.runConsole
  (after, told ++ toldLater)

/-- Why the frame after some events cannot run although it is to, if so. -/
def obstruction? (settings : WindowSettings) (window : Window) (events : List WindowEvent) :
    Option Failure :=
  if (window.handleAll events).1.isRunning then settings.obstacle else none

/-- Paint a screen on a surface: the columns of its picture are copied there. -/
def paintOn (settings : WindowSettings) (target : settings.surfaces.Surface)
    (screen : Screen 64 32) : Except Failure settings.surfaces.Surface := do
  let image ← screen.boundedImage settings.scale (← Palette.chosen settings.scheme)
  return settings.surfaces.blit target (settings.surfaces.ofColumns image.columns)

/-- What a window shows in which a screen was painted. The window is a new one, since whatever it
showed before is painted over. -/
def paint (settings : WindowSettings) (screen : Screen 64 32) : Except Failure Image := do
  let width := (64 * settings.scale).toNat
  let height := (32 * settings.scale).toNat
  let painted ← paintOn settings (settings.surfaces.ofWindow width height) screen
  return settings.surfaces.image painted width height

/-- The end of a showing: the tone stops. -/
def close (console : WindowConsole) (notices : List Notice) (failure : Option Failure) :
    Showing where
  frames := []
  console := { console with buzzer := console.buzzer.stop }
  notices := notices
  failure := failure
  progress := .shown

/-- Show one frame for each batch of events until the window is to close. -/
def showFrames (settings : WindowSettings) (window : Window) (pending : List Notice) :
    List (List WindowEvent) → Showing
  | [] => close window.console pending none
  | events :: rest =>
      match obstruction? settings window events with
      | some failure =>
          let (ready, told) := window.handleAll events
          close ready.console (pending ++ told) (some failure)
      | none =>
          let (after, told) := window.frame events
          let notices := pending ++ told
          match paint settings after.console.screen with
          | .error failure => close after.console notices (some failure)
          | .ok image =>
              let showing :=
                if after.closing then close after.console [] none
                else showFrames settings after [] rest
              { showing with frames := ⟨after.console, image, notices⟩ :: showing.frames }

/-- The console with the tone that a window gives it: a new one if there is sound output. -/
def withSound (settings : WindowSettings) (console : WindowConsole) : WindowConsole :=
  if settings.channels = 0 then console
  else { console with buzzer := .silent console.machine.config.toneFrequency }

/-- What a window tells its user when it opens. -/
def greeting (settings : WindowSettings) : List Notice :=
  if settings.channels = 0 then [soundMissing, controls] else [controls]

/-- Whether a window can have its size, with three bytes for each place. -/
def checkSize (settings : WindowSettings) : Except Failure Unit :=
  Extent.check .bounded [64 * settings.scale, 32 * settings.scale, 3]

/-- The sound of a tone in a window, if there is sound output. -/
def sound (settings : WindowSettings) (frequency : Int) : Except Failure (Option Sound) :=
  if settings.channels = 0 then .ok none
  else do
    let samples ← Wave.square settings.precision frequency Wave.usualRate Wave.usualAmplitude
    return some ⟨settings.channels, samples⟩

/-- A showing that ended before its first frame. -/
def abandon (console : WindowConsole) (failure : Failure) (progress : Showing.Progress) :
    Showing where
  frames := []
  console := console
  notices := []
  failure := some failure
  progress := progress

/-- Open a window and show a console until it closes. It closes by itself when there are no more
events. -/
def run (settings : WindowSettings) (console : WindowConsole) (batches : List (List WindowEvent)) :
    Showing :=
  match checkSize settings with
  | .error failure => abandon console failure .refused
  | .ok () =>
      match sound settings console.machine.config.toneFrequency with
      | .error failure => abandon console failure .opened
      | .ok _ =>
          showFrames settings ⟨withSound settings console, false, false⟩ (greeting settings)
            (batches ++ [[.close]])

end Window

namespace Showing

/-- What the window asked of the window system. -/
def requests (showing : Showing) : List WindowRequest :=
  let opening := [.prepareSound Wave.usualRate (-16) 1, .start]
  match showing.progress with
  | .refused => opening
  | .opened => opening ++ [.title "CHIP-8"]
  | .shown => opening ++ [.title "CHIP-8", .shutDown]

/-- Whether frames were shown. -/
def wasShown (showing : Showing) : Bool :=
  showing.progress = .shown

/-- The rate at which frames were shown. -/
def frameRate? (showing : Showing) : Option Nat :=
  if showing.wasShown then some Window.frameRate else none

/-- The sound that plays in a loop while the tone sounds, if there is sound output. -/
def sound? (settings : WindowSettings) (showing : Showing) : Option Sound :=
  if showing.wasShown then
    ((Window.sound settings showing.console.buzzer.frequency).toOption).join
  else
    none

end Showing

end ChipEight

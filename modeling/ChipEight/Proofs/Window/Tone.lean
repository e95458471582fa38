import ChipEight.Proofs.Console.Fault
import ChipEight.Proofs.Console.Timers
import ChipEight.Proofs.Window.Frame
import ChipEight.Proofs.Window.Picture

/-!
# The tone of a window

While a window is open the tone sounds exactly while the machine runs and its sound timer does, and
when the window has closed it is silent.
-/

namespace ChipEight

namespace Console

variable {width height : Nat}

/-- The tone sounds exactly while the sound timer runs, unless a fault stopped the machine. -/
def InTuneUnlessHalted (console : Console width height) : Prop :=
  console.buzzer.playing = (!console.halted && console.machine.shouldSound)

theorem inTuneUnlessHalted_iff {console : Console width height} :
    console.InTuneUnlessHalted ↔
      (console.buzzer.playing = true ↔ console.halted = false ∧ console.machine.sound ≠ 0) := by
  rw [InTuneUnlessHalted, Bool.eq_iff_iff, Bool.and_eq_true, Bool.not_eq_true',
    Machine.shouldSound, decide_eq_true_eq]

/-- The tone follows timer and faults, and it was started and stopped in turn. -/
structure SoundsInTurn (console : Console width height) : Prop where
  inTune : console.InTuneUnlessHalted
  alternates : console.buzzer.Alternates

theorem SoundsInTurn.of_eq {before after : Console width height} (sounds : before.SoundsInTurn)
    (buzzer : after.buzzer = before.buzzer) (fault : after.fault = before.fault)
    (timers : after.machine.timers = before.machine.timers) : after.SoundsInTurn where
  inTune := by
    have sound : after.machine.sound = before.machine.sound := congrArg Prod.snd timers
    simpa only [InTuneUnlessHalted, halted, Machine.shouldSound, buzzer, fault, sound]
      using sounds.inTune
  alternates := buzzer ▸ sounds.alternates

theorem fault_press (console : Console width height) (key : Key) :
    (console.press key).console.fault = console.fault := by
  simp only [press, deliver]
  split
  · rfl
  · split <;> rfl

theorem soundsInTurn_reset {console : Console width height} (sounds : console.SoundsInTurn) :
    console.reset.SoundsInTurn where
  inTune := console.buzzer.playing_set false
  alternates := sounds.alternates.stop

end Console

namespace Window

theorem soundsInTurn_handle (window : Window) (event : WindowEvent)
    (sounds : window.console.SoundsInTurn) : (window.handle event).1.console.SoundsInTurn := by
  cases event with
  | close | other => exact sounds
  | keyDown key =>
      cases key with
      | quit | suspend | unused => exact sounds
      | reset => exact Console.soundsInTurn_reset sounds
      | pad key =>
          exact sounds.of_eq (Console.spares_press _ key).buzzer_eq (Console.fault_press _ key)
            (Console.timers_press _ key)
  | keyUp key =>
      cases key with
      | pad key => exact sounds.of_eq rfl rfl rfl
      | _ => exact sounds

/-- A frame lets the tone follow the timer, or a fault stops both the machine and the tone. -/
theorem soundsInTurn_runConsole (window : Window) (sounds : window.console.SoundsInTurn) :
    window.runConsole.1.console.SoundsInTurn := by
  simp only [runConsole]
  split
  · exact sounds
  · rename_i runs
    have running : window.console.halted = false := by
      simp only [isRunning, Bool.not_and, Bool.not_not, Bool.or_eq_true, not_or] at runs
      exact Bool.eq_false_iff.mpr runs.2
    have stopped := Console.halted_runFrame (by decide) (by decide) running
    have alternates : window.console.runFrame.console.buzzer.Alternates := by
      rcases window.console.buzzer_runFrame with same | changed
      · exact same ▸ sounds.alternates
      · exact changed ▸ sounds.alternates.set _
    split
    · rename_i accepted
      refine ⟨?_, alternates⟩
      have inTune := Console.inTune_runFrame accepted
      rw [accepted] at stopped
      simpa [Console.InTuneUnlessHalted, Console.InTune, stopped] using inTune
    · rename_i failure refused
      refine ⟨?_, alternates.stop⟩
      have halts : window.console.runFrame.console.halted = true := by rw [stopped, refused]; rfl
      have silent := window.console.runFrame.console.buzzer.playing_set false
      refine silent.trans ?_
      simp only [Console.halted] at halts ⊢
      rw [halts]
      rfl

/-- A new console has the tone that a window would give it. -/
theorem withSound_loaded (settings : WindowSettings) (config : Config) (bytes : Array UInt8)
    (source : String) :
    withSound settings ((Console.initial config 64 32).load bytes source).console =
      ((Console.initial config 64 32).load bytes source).console := by
  simp only [Console.load, withSound]
  split
  · rfl
  · split <;> rfl

theorem soundsInTurn_loaded (config : Config) (bytes : Array UInt8) (source : String) :
    ((Console.initial config 64 32).load bytes source).console.SoundsInTurn := by
  have silent := Buzzer.alternates_silent config.toneFrequency
  simp only [Console.load]
  split
  · exact ⟨rfl, silent⟩
  · exact ⟨rfl, silent⟩

theorem exists_paint {settings : WindowSettings} {name : String}
    (chosen : settings.scheme = some name) (sized : 1 ≤ settings.scale)
    (opened : checkSize settings = .ok ()) (known : name ∈ Palette.names) (screen : Screen 64 32) :
    ∃ image, paint settings screen = .ok image := by
  obtain ⟨palette, named⟩ := Palette.exists_named known
  have found : Palette.chosen settings.scheme = .ok palette := by
    simp only [chosen, Palette.chosen, Failure.Need.require, bind, Except.bind, named]
  exact ⟨_, paint_of_numbered found sized (numbered_of_checkSize sized opened) screen⟩

theorem paint_of_unknown {settings : WindowSettings} {name : String}
    (chosen : settings.scheme = some name) (unknown : name ∉ Palette.names)
    (screen : Screen 64 32) :
    paint settings screen = .error (.unknownScheme name Palette.names) := by
  simp only [paint, paintOn, chosen, Palette.chosen, Failure.Need.require, bind, Except.bind,
    Palette.named_of_unknown unknown]

/-- With exact integers a window has its sound, so it opens if it can have its size. -/
theorem run_eq_showFrames {settings : WindowSettings} (exact : settings.precision = .exact)
    (opened : checkSize settings = .ok ()) (console : WindowConsole)
    (batches : List (List WindowEvent)) :
    run settings console batches =
      showFrames settings ⟨withSound settings console, false, false⟩ (greeting settings)
        (batches ++ [[.close]]) := by
  obtain ⟨noise, sounds⟩ : ∃ noise,
      sound settings console.machine.config.toneFrequency = .ok noise := by
    simp only [sound, exact, Wave.square_exact]
    split
    · exact ⟨_, rfl⟩
    · exact ⟨_, rfl⟩
  simp only [run, opened, sounds]

theorem showFrames_of_unpainted {settings : WindowSettings}
    (unobstructed : settings.obstacle = none) {failure : Failure}
    (unpainted : ∀ screen, paint settings screen = .error failure) (window : Window)
    (pending : List Notice) {script : List (List WindowEvent)} (nonempty : script ≠ []) :
    (showFrames settings window pending script).failure = some failure ∧
      (showFrames settings window pending script).frames = [] := by
  obtain ⟨events, rest, rfl⟩ := List.exists_cons_of_ne_nil nonempty
  have free : obstruction? settings window events = none := by simp [obstruction?, unobstructed]
  simp only [showFrames, free, unpainted]
  exact ⟨rfl, rfl⟩

end Window

/-- A showing is over: its tone is silent, and the window system was shut down last. -/
structure Showing.IsOver (showing : Showing) : Prop where
  silent : showing.console.buzzer.playing = false
  shutDown : showing.requests.getLast? = some .shutDown
  /-- The tone was started and stopped in turn, from a start to a stop. -/
  alternates : ∃ rounds,
    showing.console.buzzer.history.toList = (List.replicate rounds [.start, .stop]).flatten

namespace Window

theorem isOver_of_soundsInTurn {showing : Showing} {last : WindowConsole}
    (sounds : last.SoundsInTurn)
    (silenced : showing.console = { last with buzzer := last.buzzer.stop })
    (shown : showing.progress = .shown) : showing.IsOver := by
  have silent : showing.console.buzzer.playing = false := by
    rw [silenced]
    exact last.buzzer.playing_set false
  obtain ⟨rounds, history⟩ : showing.console.buzzer.Alternates := by
    rw [silenced]
    exact sounds.alternates.stop
  refine ⟨silent, ?_, rounds, ?_⟩
  · simp [Showing.requests, shown]
  · simpa [silent] using history

/-- What becomes of a console in a window that can have its size. -/
structure ShowsLoaded (settings : WindowSettings) (console : WindowConsole) (name : String)
    (script : List (List WindowEvent)) (showing : Showing) : Prop where
  /-- In known colours there is a frame for each batch of events up to the first one that closes the
  window, all of which is taken in and followed by its frame, and nothing is refused. -/
  shows : name ∈ Palette.names →
    let shown := script.findIdx (·.any WindowEvent.closes) + 1
    showing.failure = none ∧ showing.frames.length = shown ∧
      Path ⟨console, false, false⟩ (script.take shown) (showing.frames.map WindowFrame.console)
  /-- In unknown ones the first frame is refused. -/
  refuses : name ∉ Palette.names →
    showing.failure = some (.unknownScheme name Palette.names) ∧ showing.frames = []
  /-- Whenever a frame is shown, the tone sounds exactly if the machine has not stopped and the
  sound timer runs. -/
  sounds_iff : ∀ frame ∈ showing.frames, (frame.console.buzzer.playing = true ↔
    frame.console.halted = false ∧ frame.console.machine.sound ≠ 0)
  /-- In the end the tone is silent, and the window system is shut down. -/
  isOver : showing.IsOver

theorem showsLoaded {settings : WindowSettings} (exact : settings.precision = .exact)
    (sized : 1 ≤ settings.scale) (opened : checkSize settings = .ok ())
    (unobstructed : settings.obstacle = none) {name : String} (chosen : settings.scheme = some name)
    (config : Config) (bytes : Array UInt8) (source : String) (batches : List (List WindowEvent)) :
    let console := ((Console.initial config 64 32).load bytes source).console
    ShowsLoaded settings console name (batches ++ [[.close]]) (run settings console batches) := by
  intro console
  have started := run_eq_showFrames exact opened console batches
  rw [withSound_loaded] at started
  obtain ⟨frames, ⟨last, sounds, silenced⟩, progress⟩ :=
    showFrames_invariant Console.SoundsInTurn soundsInTurn_handle soundsInTurn_runConsole settings
      ⟨console, false, false⟩ (soundsInTurn_loaded config bytes source) (greeting settings)
      (batches ++ [[.close]])
  rw [started]
  refine ⟨fun known => ?_, fun unknown => ?_, fun frame member => ?_,
    isOver_of_soundsInTurn sounds silenced progress⟩
  · have closes : (batches ++ [[WindowEvent.close]]).any (·.any WindowEvent.closes) = true := by
      simp [WindowEvent.closes]
    obtain ⟨smooth, path⟩ :=
      frames_showFrames unobstructed (exists_paint chosen sized opened known) closes
        ⟨console, false, false⟩ rfl (greeting settings)
    refine ⟨smooth, ?_, path⟩
    have length := path.length_eq
    rw [List.length_map, List.length_take] at length
    exact length.trans (Nat.min_eq_left (List.findIdx_lt_length_of_exists (by simpa using closes)))
  · exact showFrames_of_unpainted unobstructed (paint_of_unknown chosen unknown) _ _ (by simp)
  · exact Console.inTuneUnlessHalted_iff.mp (frames frame member).inTune

/-- A console with a program just loaded is shown in a window whose sound is computed with exact
integers.  If sixty-four bits with a sign can count the bytes of the window, it shows frames as long
as it is to; if not, the window is refused, nothing is shown, and the console is left alone. -/
theorem run_loaded (config : Config) (bytes : Array UInt8) (source : String) {scale : Int}
    (sized : 1 ≤ scale) (name : String) (channels : Nat) (surfaces : Surfaces)
    (batches : List (List WindowEvent)) :
    let settings : WindowSettings :=
      { scale, scheme := some name, channels, precision := .exact, surfaces }
    let console := ((Console.initial config 64 32).load bytes source).console
    let showing := run settings console batches
    (64 * scale * (32 * scale) * 3 ≤ 9223372036854775807 →
      ShowsLoaded settings console name (batches ++ [[.close]]) showing) ∧
    (9223372036854775807 < 64 * scale * (32 * scale) * 3 →
      (showing.failure = some .dimensionTooLarge ∨ showing.failure = some .gridTooLarge) ∧
        showing.frames = [] ∧ showing.console = console) := by
  intro settings console showing
  refine ⟨fun counted => ?_, fun large => ?_⟩
  · exact showsLoaded rfl sized (checkSize_of_le sized counted) rfl rfl config bytes source batches
  · have tooLarge : checkSize settings = .error .dimensionTooLarge ∨
        checkSize settings = .error .gridTooLarge := checkSize_of_lt sized large
    rcases tooLarge with refused | refused
    · simp only [showing, run, refused]
      exact ⟨.inl rfl, rfl, rfl⟩
    · simp only [showing, run, refused]
      exact ⟨.inr rfl, rfl, rfl⟩

/-- A tone that a key press does not stop and that ends with the window. -/
theorem run_loaded_sounding :
    let settings : WindowSettings :=
      { scale := 1, scheme := some "classic", channels := 1, precision := .exact }
    let console :=
      ((Console.initial {} 64 32).load #[0x60, 0x09, 0xF0, 0x18, 0x12, 0x04] "").console
    let showing := run settings console [[.keyDown (.pad 5)], [.keyDown .quit, .other], []]
    1 ≤ settings.scale ∧ showing.failure = none ∧ showing.frames.length = 2 ∧ showing.IsOver := by
  intro settings console showing
  have sized : (1 : Int) ≤ 1 := by decide
  have counted : 64 * (1 : Int) * (32 * 1) * 3 ≤ 9223372036854775807 := by decide
  have ran := (run_loaded {} #[0x60, 0x09, 0xF0, 0x18, 0x12, 0x04] "" sized "classic" 1 .memory
    [[.keyDown (.pad 5)], [.keyDown .quit, .other], []]).1 counted
  obtain ⟨smooth, second, -⟩ := ran.shows (by decide)
  exact ⟨sized, smooth, second, ran.isOver⟩

/-- A window that has more bytes than can be counted shows no frame, although it is to show one. -/
theorem no_window_beyond_numbers :
    let settings : WindowSettings :=
      { scale := 144115188075855872, scheme := some "classic", channels := 1, precision := .exact }
    let console := ((Console.initial {} 64 32).load #[0x12, 0x00] "").console
    let showing := run settings console []
    1 ≤ settings.scale ∧ "classic" ∈ Palette.names ∧
      showing.failure = some .dimensionTooLarge ∧ showing.frames.length ≠ 1 := by
  decide +kernel

end Window
end ChipEight

import ChipEight.Failure
import ChipEight.Precision

/-!
# The buzzer

A tone of fixed pitch that is started and stopped.  Starting a tone that sounds, or stopping one
that does not, has no effect, so its history alternates.

What sounds is one second of a square wave: the samples of each half period have one sign, and the
halves alternate, the positive one first.  With bounded integers this holds as long as twice the
pitch times the number of samples fits.
-/

namespace ChipEight

/-- A change of the tone. -/
inductive ToneChange
  | start
  | stop
  deriving DecidableEq, Repr

/-- A tone of fixed pitch. -/
structure Buzzer where
  /-- The pitch in hertz. -/
  frequency : Int
  /-- Whether the tone sounds. -/
  playing : Bool
  /-- The changes so far, oldest first. -/
  history : Array ToneChange
  deriving DecidableEq, Repr

namespace Buzzer

/-- The usual pitch. -/
def usualFrequency : Int := 440

/-- A tone that has never sounded. -/
def silent (frequency : Int) : Buzzer :=
  ⟨frequency, false, #[]⟩

/-- Let the tone sound. -/
def start (buzzer : Buzzer) : Buzzer :=
  if buzzer.playing then buzzer
  else { buzzer with playing := true, history := buzzer.history.push .start }

/-- Let the tone stop. -/
def stop (buzzer : Buzzer) : Buzzer :=
  if buzzer.playing then { buzzer with playing := false, history := buzzer.history.push .stop }
  else buzzer

/-- Start or stop the tone. -/
def set (buzzer : Buzzer) (sounding : Bool) : Buzzer :=
  if sounding then buzzer.start else buzzer.stop

/-- How often the tone was started. -/
def starts (buzzer : Buzzer) : Nat :=
  buzzer.history.count .start

/-- How often the tone was stopped. -/
def stops (buzzer : Buzzer) : Nat :=
  buzzer.history.count .stop

/-- A tone with nothing to play it can stay as it is, but cannot change. -/
def setWithoutOutput (buzzer : Buzzer) (sounding : Bool) : Except Failure Buzzer :=
  if buzzer.playing = sounding then .ok buzzer else .error .toneWithoutOutput

@[simp]
theorem playing_set (buzzer : Buzzer) (sounding : Bool) :
    (buzzer.set sounding).playing = sounding := by
  cases sounding <;> cases sounds : buzzer.playing <;> simp [set, start, stop, sounds]

end Buzzer

namespace Wave

/-- Samples in a second. -/
def usualRate : Int := 44100

/-- The height of the wave. -/
def usualAmplitude : Int := 4096

/-- The number of the half period that a sample falls in. -/
def halfPeriod (precision : Precision) (frequency rate : Int) (time : Nat) : Int :=
  precision.reduce (2 * frequency * time) / rate

/-- The sample at a time: positive in the half periods with an even number. -/
def sample (precision : Precision) (frequency rate amplitude : Int) (time : Nat) : Int16 :=
  Int16.ofInt (if halfPeriod precision frequency rate time % 2 = 0 then amplitude else -amplitude)

/-- How many samples there are: none if the rate is not positive or cannot be taken. -/
def count (precision : Precision) (rate : Int) : Nat :=
  if precision.admits rate then rate.toNat else 0

/-- One second of samples. -/
def samples (precision : Precision) (frequency rate amplitude : Int) : List Int16 :=
  (List.range (count precision rate)).map (sample precision frequency rate amplitude)

/-- One second of samples, if the rate can be measured, both heights can be kept, and twice the
pitch can be taken. The pitch does not matter if the rate cannot be taken. -/
def square (precision : Precision) (frequency rate amplitude : Int) :
    Except Failure (List Int16) :=
  if !precision.measures rate then .error .soundTooLong
  else if precision.admits rate && !precision.admits (2 * frequency) then .error .numberTooLarge
  else if [amplitude, -amplitude].all precision.keeps then
    .ok (samples precision frequency rate amplitude)
  else
    .error .numberTooLarge

theorem square_exact (frequency rate amplitude : Int) :
    square .exact frequency rate amplitude = .ok (samples .exact frequency rate amplitude) := rfl

end Wave

end ChipEight

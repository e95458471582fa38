import ChipEight.Word
import ChipEight.Failure

/-!
# The keypad

Sixteen keys that are held or not, and at most one listener that waits for the next press.  A press
takes the listener off before it is answered, so no press is answered twice.
-/

namespace ChipEight

/-- Number of one of the sixteen keys. -/
abbrev Key := Nibble

/-- The key with a given code. -/
def Key.ofInt (code : Int) : Except Failure Key :=
  if bounds : 0 ≤ code ∧ code < 16 then
    .ok ⟨code.toNat, by omega⟩
  else
    .error (.invalidKey code)

theorem Key.ofInt_val (key : Key) : Key.ofInt key.val = .ok key := by
  have bounds : 0 ≤ (key.val : Int) ∧ (key.val : Int) < 16 := by
    have := key.isLt
    omega
  simp [Key.ofInt, bounds]

theorem Key.ofInt_of_outside {code : Int} (outside : ¬ (0 ≤ code ∧ code < 16)) :
    Key.ofInt code = .error (.invalidKey code) := by
  simp only [Key.ofInt, outside, ↓reduceDIte]

/-- Which keys are held. -/
abbrev HeldKeys := Vector Bool 16

/-- The keys and the pending listener. -/
structure Keypad (Listener : Type) where
  /-- Which keys are held. -/
  held : HeldKeys
  /-- Who is told of the next press. -/
  listener : Option Listener

namespace Keypad

variable {Listener : Type}

/-- No key is held and nobody listens. -/
def released : Keypad Listener :=
  ⟨Vector.replicate 16 false, none⟩

/-- Whether a key is held. -/
def isPressed (keypad : Keypad Listener) (key : Key) : Bool :=
  keypad.held[key]

/-- The held keys in ascending order. -/
def pressedKeys (keypad : Keypad Listener) : List Key :=
  (List.finRange 16).filter keypad.isPressed

/-- Whether somebody listens. -/
def waiting (keypad : Keypad Listener) : Bool :=
  keypad.listener.isSome

/-- Let a listener wait for the next press, in place of any other. -/
def listen (keypad : Keypad Listener) (listener : Listener) : Keypad Listener :=
  { keypad with listener := some listener }

/-- Send the pending listener away. -/
def cancel (keypad : Keypad Listener) : Keypad Listener :=
  { keypad with listener := none }

/-- Hold a key down. The second part is the listener to be told of it. -/
def press (keypad : Keypad Listener) (key : Key) : Keypad Listener × Option Listener :=
  ({ held := keypad.held.set key true, listener := none }, keypad.listener)

/-- Let go of a key. -/
def release (keypad : Keypad Listener) (key : Key) : Keypad Listener :=
  { keypad with held := keypad.held.set key false }

/-- Hold a key down and let the listener answer, possibly by naming one for the next press. The
second part is the listener that answered. -/
def pressAnswered (keypad : Keypad Listener) (answer : Listener → Key → Option Listener)
    (key : Key) : Keypad Listener × Option Listener :=
  let (pressed, due) := keypad.press key
  match due with
  | none => (pressed, none)
  | some listener => ({ pressed with listener := answer listener key }, some listener)

theorem isPressed_press (keypad : Keypad Listener) (pressed key : Key) :
    (keypad.press pressed).1.isPressed key = (decide (pressed = key) || keypad.isPressed key) := by
  simp only [press, isPressed, Fin.getElem_fin, Vector.getElem_set, Fin.ext_iff]
  by_cases same : pressed.val = key.val <;> simp [same]

theorem isPressed_release (keypad : Keypad Listener) (released key : Key) :
    (keypad.release released).isPressed key =
      (!decide (released = key) && keypad.isPressed key) := by
  simp only [release, isPressed, Fin.getElem_fin, Vector.getElem_set, Fin.ext_iff]
  by_cases same : released.val = key.val <;> simp [same]

theorem mem_pressedKeys {keypad : Keypad Listener} {key : Key} :
    key ∈ keypad.pressedKeys ↔ keypad.isPressed key = true := by
  simp [pressedKeys]

end Keypad
end ChipEight

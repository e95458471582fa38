import ChipEight.Keypad

/-!
# Listeners that renew themselves

A named listener notes the key it was told of, and may leave a successor for the next press.
-/

namespace ChipEight

/-- A listener with a name and a number of successors. -/
structure Listener where
  /-- What its notes are signed with. -/
  name : String
  /-- How many more presses its line will answer. -/
  renewals : Nat
  deriving DecidableEq, Repr

namespace Listener

/-- The listener left for the next press, marked with one more plus sign. -/
def successor? (listener : Listener) : Option Listener :=
  match listener.renewals with
  | 0 => none
  | renewals + 1 => some ⟨listener.name ++ "+", renewals⟩

end Listener

/-- A keypad together with the notes that its listeners took. -/
structure NotedKeypad where
  /-- The keys and the pending listener. -/
  keypad : Keypad Listener := .released
  /-- Names of listeners and the keys they were told of, oldest first. -/
  notes : Array (String × Key) := #[]

namespace NotedKeypad

/-- Hold a key down; a listener that answers takes a note. -/
def press (noted : NotedKeypad) (key : Key) : NotedKeypad :=
  let (keypad, answered) := noted.keypad.pressAnswered (fun listener _ => listener.successor?) key
  match answered with
  | none => { noted with keypad }
  | some listener => ⟨keypad, noted.notes.push (listener.name, key)⟩

end NotedKeypad
end ChipEight

import ChipEight.Proofs.Console.Attempt
import ChipEight.Proofs.Session.Transcript

/-!
# The trace of a session

A journal that writes everything announces each attempted step once, in order and with the word that
stood in memory at that moment.  Its count is the number of attempts; that of any other journal
stays where it is.
-/

namespace ChipEight

variable {width height : Nat}

/-- How a machine announces its next instruction: the counter, the word that the two bytes there
make, the first one being the high half, and what that word says. -/
def Machine.announced (machine : Machine) : String :=
  let place := machine.counter.toNat
  let high := (machine.memory.read (place % 4096)).toNat
  let low := (machine.memory.read ((place + 1) % 4096)).toNat
  let word := 256 * high + low
  "0x" ++ Hex.ofNat 3 place ++ ": " ++ Hex.ofNat 4 word ++ "  " ++ Word.disassemble ⟨word⟩

namespace Session

/-- The attempted steps of an event, each as the session in which the step happens.  The journal is
that before the event. -/
def attemptsOf (session : Session width height) : Event → List (Session width height)
  | .perform operation =>
      (session.console.attemptsOf operation).map fun console => { session with console }
  | .setClock _ => []

/-- The attempted steps in the course of events. -/
def attempts (session : Session width height) : List Event → List (Session width height)
  | [] => []
  | event :: rest => session.attemptsOf event ++ (session.react event).session.attempts rest

end Session
end ChipEight

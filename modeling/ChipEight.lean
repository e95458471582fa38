import ChipEight.Folder
import ChipEight.Keypad.Listener
import ChipEight.Main
import ChipEight.Proofs.Console.Attempt
import ChipEight.Proofs.Console.Beat
import ChipEight.Proofs.Console.Capacity
import ChipEight.Proofs.Console.Confinement
import ChipEight.Proofs.Console.Draw
import ChipEight.Proofs.Console.Fault
import ChipEight.Proofs.Console.Halt
import ChipEight.Proofs.Console.KeyWait
import ChipEight.Proofs.Console.Likeness
import ChipEight.Proofs.Console.LowBits
import ChipEight.Proofs.Console.Range
import ChipEight.Proofs.Console.Resemblance
import ChipEight.Proofs.Console.Reset
import ChipEight.Proofs.Console.Seed
import ChipEight.Proofs.Console.Timers
import ChipEight.Proofs.Execution.Arithmetic
import ChipEight.Proofs.Execution.Block
import ChipEight.Proofs.Execution.Refit
import ChipEight.Proofs.Execution.Subroutine
import ChipEight.Proofs.Execution.Successor
import ChipEight.Proofs.Journal.Line
import ChipEight.Proofs.Keypad.Call
import ChipEight.Proofs.Session.Frame
import ChipEight.Proofs.Session.Keys
import ChipEight.Proofs.Session.Load
import ChipEight.Proofs.Session.Trace
import ChipEight.Proofs.Session.Transcript
import ChipEight.Proofs.Window.Tone
import ChipEight.Proofs.CommandLine.Headless
import ChipEight.Proofs.Window.Suspension
import ChipEight.Proofs.Execution.Mnemonic
import ChipEight.Proofs.Screen.Parity
import ChipEight.Proofs.Execution.Sprite
import ChipEight.Proofs.Console.Leftover
import ChipEight.Proofs.Screen.Picture
import ChipEight.Proofs.Window.Picture
import ChipEight.Proofs.Wave.Pitch
import ChipEight.Proofs.Instruction.Fields
import ChipEight.Proofs.CallStack.Refinement
import ChipEight.Proofs.Assembly.Assembler

import ChipEight.Proofs.Console.Reset
import ChipEight.Proofs.Session.Journalling

/-!
# Loads

A program is copied to its place as a whole, or it is refused and nothing changes.  After any number
of loads each cell holds the byte of the last program that reached it.
-/

namespace ChipEight

variable {width height : Nat}

namespace Operation

/-- Whether an operation is to load a program, remembered or not. -/
def isLoad : Operation → Bool
  | .load _ _ | .loadFile _ _ | .machineLoad _ | .machineLoadFile _ _ => true
  | _ => false

/-- The bytes that an operation is to copy into memory. -/
def copied? : Operation → Option (Array UInt8)
  | .load bytes _ | .loadFile _ (.ok bytes) => some bytes
  | .machineLoad bytes | .machineLoadFile _ (.ok bytes) => some bytes
  | _ => none

end Operation

namespace Program

theorem ofBytes_of_le {bytes : Array UInt8} (fits : bytes.size ≤ Memory.programCapacity) :
    ofBytes bytes = .ok ⟨bytes, fits⟩ :=
  dif_pos fits

theorem ofBytes_of_lt {bytes : Array UInt8} (large : Memory.programCapacity < bytes.size) :
    ofBytes bytes = .error (.programTooLarge bytes.size Memory.programCapacity) :=
  dif_neg (Nat.not_le.mpr large)

end Program

namespace Memory

/-- The byte for a cell among some that begin where programs do. -/
def byteFor? (address : Nat) (bytes : Array UInt8) : Option UInt8 :=
  if programStart ≤ address then bytes[address - programStart]? else none

theorem byteFor?_of_inside {address : Nat} {bytes : Array UInt8}
    (inside : 0x200 ≤ address ∧ address < 0x200 + bytes.size) :
    byteFor? address bytes = some bytes[address - 0x200] := by
  have bound : address - 0x200 < bytes.size := by omega
  rw [byteFor?, programStart, if_pos inside.1, Array.getElem?_eq_getElem bound]

theorem byteFor?_of_outside {address : Nat} {bytes : Array UInt8}
    (outside : ¬ (0x200 ≤ address ∧ address < 0x200 + bytes.size)) :
    byteFor? address bytes = none := by
  rw [byteFor?, programStart]
  split
  · exact Array.getElem?_eq_none (by omega)
  · rfl

/-- A cell that a program reaches holds its byte, and any other one is as it was. -/
theorem read_load (memory : Memory) (program : Program) {address : Nat}
    (bound : address < 4096) :
    (memory.load program).read address =
      (byteFor? address program.bytes).getD (memory.read address) := by
  have fits : program.bytes.size ≤ 3584 := program.fits
  by_cases inside : 0x200 ≤ address ∧ address < 0x200 + program.bytes.size
  · obtain ⟨offset, rfl⟩ := Nat.exists_eq_add_of_le inside.1
    have reached : offset < program.bytes.toList.length := by
      rw [Array.length_toList]
      omega
    have found := memory.read_writeBlock_of_inside programStart program.bytes.toList
      (by rw [Array.length_toList]; omega) offset reached
    rw [byteFor?_of_inside inside, Option.getD_some]
    exact found.trans (by simp)
  · rw [byteFor?_of_outside inside, Option.getD_none]
    apply read_writeBlock_of_outside
    intro offset reached
    rw [Array.length_toList] at reached
    simp only [programStart]
    omega

end Memory

namespace Console

/-- A console before and after some bytes were copied into memory: they lie where programs begin,
and nothing else has changed, besides possibly the program that a reset loads. -/
structure Copies (before after : Console width height) (bytes : Array UInt8) : Prop where
  console_eq : after =
    { before with
      machine := { before.machine with memory := after.machine.memory }
      program := after.program }
  read_inside : ∀ address < 4096, ∀ inside : 0x200 ≤ address ∧ address < 0x200 + bytes.size,
    after.machine.memory.read address = bytes[address - 0x200]
  read_outside : ∀ address < 4096, ¬ (0x200 ≤ address ∧ address < 0x200 + bytes.size) →
    after.machine.memory.read address = before.machine.memory.read address

theorem copies_load (console : Console width height) (program remembered : Program) :
    console.Copies
      { console with machine := console.machine.load program, program := remembered }
      program.bytes where
  console_eq := rfl
  read_inside address bound inside :=
    (console.machine.memory.read_load program bound).trans
      (by rw [Memory.byteFor?_of_inside inside, Option.getD_some])
  read_outside address bound outside :=
    (console.machine.memory.read_load program bound).trans
      (by rw [Memory.byteFor?_of_outside outside, Option.getD_none])

theorem Copies.read_eq {before after : Console width height} {bytes : Array UInt8}
    (copies : before.Copies after bytes) {address : Nat} (bound : address < 4096) :
    after.machine.memory.read address =
      (Memory.byteFor? address bytes).getD (before.machine.memory.read address) := by
  by_cases inside : 0x200 ≤ address ∧ address < 0x200 + bytes.size
  · rw [copies.read_inside address bound inside, Memory.byteFor?_of_inside inside, Option.getD_some]
  · rw [copies.read_outside address bound inside, Memory.byteFor?_of_outside inside,
      Option.getD_none]

section Perform

variable (console : Console width height) {operation : Operation} {bytes : Array UInt8}

/-- The bytes that an operation copies are remembered or not. -/
theorem perform_of_copied? (loads : operation.copied? = some bytes) :
    (operation.image? = some bytes ∧
        ∃ source, console.perform operation = console.load bytes source) ∨
      operation.image? = none ∧ console.perform operation = console.loadMachine bytes := by
  cases operation with
  | load bytes source =>
      cases loads
      exact .inl ⟨rfl, source, rfl⟩
  | loadFile path contents =>
      cases contents with
      | ok bytes =>
          cases loads
          exact .inl ⟨rfl, path, rfl⟩
      | error problem => cases loads
  | machineLoad bytes =>
      cases loads
      exact .inr ⟨rfl, rfl⟩
  | machineLoadFile path contents =>
      cases contents with
      | ok bytes =>
          cases loads
          exact .inr ⟨rfl, rfl⟩
      | error problem => cases loads
  | _ => cases loads

theorem perform_of_large (loads : operation.copied? = some bytes) (large : 3584 < bytes.size) :
    console.perform operation = console.refused (.programTooLarge bytes.size 3584) := by
  have failed := Program.ofBytes_of_lt large
  rcases console.perform_of_copied? loads with ⟨-, source, performed⟩ | ⟨-, performed⟩
  · rw [performed, load, failed]
    rfl
  · rw [performed, loadMachine, failed]
    rfl

theorem perform_of_fits (loads : operation.copied? = some bytes) (fits : bytes.size ≤ 3584) :
    (console.perform operation).failure = none ∧
      console.Copies (console.perform operation).console bytes ∧
        (console.perform operation).console.program.bytes =
          operation.image?.getD console.program.bytes := by
  have accepted := Program.ofBytes_of_le fits
  rcases console.perform_of_copied? loads with
    ⟨remembered, source, performed⟩ | ⟨unremembered, performed⟩
  · rw [performed, load, accepted, remembered]
    exact ⟨rfl, console.copies_load _ _, rfl⟩
  · rw [performed, loadMachine, accepted, unremembered]
    exact ⟨rfl, console.copies_load ⟨bytes, fits⟩ console.program, rfl⟩

/-- A load of no bytes at all is one of a file that cannot be read. -/
theorem perform_of_unreadable (loads : operation.isLoad = true)
    (nothing : operation.copied? = none) : (console.perform operation).console = console := by
  cases operation with
  | loadFile path contents | machineLoadFile path contents =>
      cases contents with
      | ok bytes => cases nothing
      | error problem => rfl
  | load bytes source | machineLoad bytes => cases nothing
  | _ => cases loads

end Perform

/-- The bytes that an operation copies into memory, unless it is refused. -/
def taken? (console : Console width height) (operation : Operation) : Option (Array UInt8) :=
  if (console.perform operation).failure = none then operation.copied? else none

/-- The programs that a history copies into memory, the last one first. -/
def images (console : Console width height) : List Operation → List (Array UInt8)
  | [] => []
  | operation :: rest =>
      (console.perform operation).console.images rest ++ (console.taken? operation).toList

/-- A load leaves in each cell the byte that it copies there, if there is one. -/
theorem read_perform_of_isLoad {operation : Operation} (loads : operation.isLoad = true)
    (console : Console width height) {address : Nat} (bound : address < 4096) :
    (console.perform operation).console.machine.memory.read address =
      ((console.taken? operation).bind (Memory.byteFor? address)).getD
        (console.machine.memory.read address) := by
  cases copied : operation.copied? with
  | none =>
      rw [console.perform_of_unreadable loads copied, taken?, copied, ite_self]
      rfl
  | some bytes =>
      rcases Nat.lt_or_ge 3584 bytes.size with large | fits
      · have refused := console.perform_of_large copied large
        simp only [taken?, refused, Console.refused]
        rfl
      · obtain ⟨accepted, copies, -⟩ := console.perform_of_fits copied fits
        rw [taken?, if_pos accepted, copied, Option.bind_some]
        exact copies.read_eq bound

/-- After a number of loads each cell holds the byte of the last program that reached it. -/
theorem read_run_of_isLoad {history : List Operation}
    (loads : ∀ operation ∈ history, operation.isLoad = true) (console : Console width height)
    {address : Nat} (bound : address < 4096) :
    (console.run history).machine.memory.read address =
      ((console.images history).findSome? (Memory.byteFor? address)).getD
        (console.machine.memory.read address) := by
  induction history generalizing console with
  | nil => rfl
  | cons operation rest ih =>
      obtain ⟨first, remaining⟩ := List.forall_mem_cons.mp loads
      rw [run, ih remaining, read_perform_of_isLoad first console bound, images,
        List.findSome?_append, Option.getD_or]
      cases console.taken? operation with
      | none => rfl
      | some bytes => simp

end Console

namespace Session

/-- A load copies all of some bytes, or it is refused and nothing changes. -/
structure LoadsWhole (session : Session width height) (operation : Operation)
    (bytes : Array UInt8) : Prop where
  /-- It is refused for their number exactly if there are more than memory has room for. -/
  refused_iff :
    (∃ size capacity,
      (session.perform operation).failure = some (.programTooLarge size capacity)) ↔
        3584 < bytes.size
  /-- A refused load leaves console and journal as they were, and nothing is written. -/
  refused : 3584 < bytes.size →
    session.perform operation = ⟨session, "", some (.programTooLarge bytes.size 3584)⟩
  /-- Any other load copies the bytes. -/
  accepted : bytes.size ≤ 3584 →
    (session.perform operation).failure = none ∧
      session.console.Copies (session.perform operation).session.console bytes
  /-- The bytes are what a reset loads, if they are to be remembered. -/
  remembered : bytes.size ≤ 3584 →
    (session.perform operation).session.console.program.bytes =
      operation.image?.getD session.console.program.bytes

theorem loadsWhole (session : Session width height) {operation : Operation} {bytes : Array UInt8}
    (loads : operation.copied? = some bytes) : session.LoadsWhole operation bytes := by
  have refused (large : 3584 < bytes.size) :
      session.perform operation = ⟨session, "", some (.programTooLarge bytes.size 3584)⟩ := by
    rw [perform_eq_report, session.console.perform_of_large loads large]
    rfl
  have accepted (fits : bytes.size ≤ 3584) := by
    have performed := session.console.perform_of_fits loads fits
    rwa [← console_perform, ← failure_perform] at performed
  refine ⟨⟨fun ⟨size, capacity, failed⟩ => ?_, fun large => ?_⟩, refused,
    fun fits => ⟨(accepted fits).1, (accepted fits).2.1⟩, fun fits => (accepted fits).2.2⟩
  · rcases Nat.lt_or_ge 3584 bytes.size with large | fits
    · exact large
    · have succeeded : (session.perform operation).failure = none := (accepted fits).1
      rw [succeeded] at failed
      cases failed
  · exact ⟨bytes.size, 3584, by rw [refused large]⟩

/-- A load copies a program as a whole or not at all.  After any number of loads, refused ones among
them, a cell where programs lie holds the byte of the last program that reached it, and the cells
before are as they were. -/
theorem loads_exactly (session : Session width height) :
    (∀ operation bytes, operation.copied? = some bytes → session.LoadsWhole operation bytes) ∧
      ∀ history : List Operation, (∀ operation ∈ history, operation.isLoad = true) →
        let before := session.console.machine.memory
        let after := (session.console.run history).machine.memory
        (∀ address < 0x200, after.read address = before.read address) ∧
          ∀ address < 4096, 0x200 ≤ address →
            after.read address =
              ((session.console.images history).findSome? fun bytes =>
                bytes[address - 0x200]?).getD (before.read address) := by
  refine ⟨fun operation bytes loads => session.loadsWhole loads, fun history loads => ?_⟩
  have read (address : Nat) (bound : address < 4096) :=
    Console.read_run_of_isLoad loads session.console bound
  refine ⟨fun address low => ?_, fun address bound high => ?_⟩
  · have apart : Memory.byteFor? address = fun _ => none :=
      funext fun bytes => if_neg (Nat.not_le.mpr low)
    rw [read address (by omega), apart, List.findSome?_eq_none_iff.mpr fun _ _ => rfl,
      Option.getD_none]
  · have within : Memory.byteFor? address = fun bytes => bytes[address - 0x200]? :=
      funext fun bytes => if_pos high
    rw [read address bound, within]

/-- A program of two bytes, one of a single byte over it, and one that has no room. -/
theorem loads_exactly_overlapping :
    let session : Session 1 1 := ⟨.initial {} 1 1, ⟨"", .debug, false, false, 0, 0, 0⟩⟩
    let large : Array UInt8 := Array.replicate 3585 3
    let history := [Operation.load #[1, 2] "", .machineLoad #[7], .load large ""]
    let after := (session.console.run history).machine.memory
    session.perform (.load large "") = ⟨session, "", some (.programTooLarge 3585 3584)⟩ ∧
      (∀ operation ∈ history, operation.isLoad = true) ∧
        after.read 0x1FF = session.console.machine.memory.read 0x1FF ∧
          after.read 0x200 = 7 ∧ after.read 0x201 = 2 := by
  intro session large history after
  obtain ⟨whole, cells⟩ := loads_exactly session
  have size : large.size = 3585 := Array.size_replicate
  have refused := (whole (.load large "") large rfl).refused (by omega)
  have loads : ∀ operation ∈ history, operation.isLoad = true := by simp [history, Operation.isLoad]
  obtain ⟨low, high⟩ := cells history loads
  have images : session.console.images history = [#[7], #[1, 2]] := by decide +kernel
  refine ⟨by rw [refused, size]; rfl, loads, low 0x1FF (by decide), ?_, ?_⟩
  · rw [high 0x200 (by decide) (by decide), images]
    rfl
  · rw [high 0x201 (by decide) (by decide), images]
    rfl

end Session
end ChipEight

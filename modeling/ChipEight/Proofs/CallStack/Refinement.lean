import ChipEight.CallStack

/-!
# The call stack as a bounded list

The slots of a stack and their number in use stand for the list of the addresses that are saved.  A
push appends to this list and a pop takes its last entry, within the capacity, whatever is asked in
whatever order.  The free slots being zero, a push and a pop undo each other exactly.
-/

namespace ChipEight

/-- What a stack can be asked for. -/
inductive StackRequest
  | push (address : Int)
  | pop
  deriving DecidableEq, Repr

/-- Something that serves as a stack of numbers. -/
structure StackForm (stack : Type) where
  /-- Save a number, if there is room. -/
  push : stack → Int → Except Fault.Cause stack
  /-- Take back the number saved last, if there is one. -/
  pop : stack → Except Fault.Cause (stack × Nat)

namespace StackForm

variable {stack : Type}

/-- What one request leaves behind, and the number that it answers with. A refused request changes
nothing. -/
def serve (form : StackForm stack) (state : stack) :
    StackRequest → stack × Except Fault.Cause (Option Nat)
  | .push address =>
      match form.push state address with
      | .ok next => (next, .ok none)
      | .error cause => (state, .error cause)
  | .pop =>
      match form.pop state with
      | .ok (next, number) => (next, .ok (some number))
      | .error cause => (state, .error cause)

/-- What requests leave behind one after another, and all their answers. -/
def serveAll (form : StackForm stack) (state : stack) :
    List StackRequest → stack × List (Except Fault.Cause (Option Nat))
  | [] => (state, [])
  | request :: later =>
      let first := form.serve state request
      let rest := form.serveAll first.1 later
      (rest.1, first.2 :: rest.2)

/-- A list of sixteen-bit numbers, oldest first, that does not grow beyond a capacity. -/
def boundedList (capacity : Nat) : StackForm (List Nat) where
  push saved address :=
    if saved.length = capacity then .error (.stackOverflow capacity)
    else .ok (saved ++ [(address % 65536).toNat])
  pop saved :=
    match saved.getLast? with
    | none => .error .stackUnderflow
    | some number => .ok (saved.dropLast, number)

/-- The slots of the call stack. -/
def slots : StackForm CallStack where
  push := CallStack.push
  pop stack := stack.pop.map fun (next, address) => (next, address.toNat)

end StackForm

namespace CallStack

/-- The saved addresses as numbers, oldest first. -/
def saved (stack : CallStack) : List Nat :=
  stack.toList.map UInt16.toNat

/-- A stack in which a push and a pop do what they do to the list of the saved addresses, and undo
each other. -/
structure ActsAsList (stack : CallStack) : Prop where
  /-- Only a full list is not pushed onto. -/
  push_error_iff : ∀ address cause, stack.push address = .error cause ↔
    stack.saved.length = stack.capacity ∧ cause = .stackOverflow stack.capacity
  /-- A push appends the sixteen low bits of the address. -/
  saved_push : ∀ address next, stack.push address = .ok next →
    next.saved = stack.saved ++ [(address % 65536).toNat]
  /-- Only an empty list is not popped from. -/
  pop_error_iff : ∀ cause, stack.pop = .error cause ↔ stack.saved = [] ∧ cause = .stackUnderflow
  /-- A pop takes the last address away. -/
  saved_pop : ∀ next address, stack.pop = .ok (next, address) →
    stack.saved = next.saved ++ [address.toNat]
  /-- A push leaves a sound stack of the same capacity. -/
  push_keeps : ∀ address next, stack.push address = .ok next →
    next.WellFormed ∧ next.capacity = stack.capacity
  /-- A pop leaves a sound stack of the same capacity. -/
  pop_keeps : ∀ next address, stack.pop = .ok (next, address) →
    next.WellFormed ∧ next.capacity = stack.capacity
  /-- A pop undoes a push. -/
  pop_push : ∀ address next, stack.push address = .ok next →
    ∃ popped, next.pop = .ok (stack, popped) ∧ popped.toNat = address % 65536
  /-- A push undoes a pop. -/
  push_pop : ∀ next address, stack.pop = .ok (next, address) →
    next.push address.toNat = .ok stack

theorem toNat_ofInt (address : Int) : (UInt16.ofInt address).toNat = (address % 65536).toNat := by
  simp only [UInt16.ofInt, UInt16.toNat_ofNat']
  omega

theorem saved_push {stack next : CallStack} {address : Int}
    (pushed : stack.push address = .ok next) :
    next.saved = stack.saved ++ [(address % 65536).toNat] := by
  rw [saved, toList_push pushed, List.map_append, List.map_singleton, toNat_ofInt]
  rfl

theorem exists_pop {stack : CallStack} (used : stack.depth ≠ 0) :
    ∃ next address, stack.pop = .ok (next, address) := by
  cases popped : stack.pop with
  | ok result => exact ⟨result.1, result.2, rfl⟩
  | error cause => exact absurd (pop_eq_error_iff.mp popped).1 used

theorem exists_push {stack : CallStack} (address : Int) (room : stack.depth < stack.capacity) :
    ∃ next, stack.push address = .ok next := by
  cases pushed : stack.push address with
  | ok next => exact ⟨next, rfl⟩
  | error cause => exact absurd (push_eq_error_iff.mp pushed).1 (Nat.not_le.mpr room)

namespace WellFormed

variable {stack next : CallStack}

theorem length_saved (well : stack.WellFormed) : stack.saved.length = stack.depth := by
  rw [saved, List.length_map, well.length_toList]

theorem saved_pop {address : UInt16} (well : stack.WellFormed)
    (popped : stack.pop = .ok (next, address)) : stack.saved = next.saved ++ [address.toNat] := by
  rw [saved, toList_pop well popped, List.map_append]
  rfl

/-- The stack before a push is the only one that a pop can lead back to. -/
theorem pop_push {address : Int} (well : stack.WellFormed)
    (pushed : stack.push address = .ok next) :
    next.pop = .ok (stack, UInt16.ofInt address) := by
  have deeper := depth_push pushed
  obtain ⟨before, taken, popped⟩ := @exists_pop next (by omega)
  have lists : before.toList ++ [taken] = stack.toList ++ [UInt16.ofInt address] := by
    rw [← toList_pop (well.push pushed) popped, toList_push pushed]
  obtain ⟨sameList, sameLast⟩ := List.append_inj' lists rfl
  obtain rfl : taken = UInt16.ofInt address := List.singleton_inj.mp sameLast
  have same : before = stack := by
    refine ((well.push pushed).pop popped).ext_toList well ?_ sameList
    rw [capacity_pop popped, capacity_push pushed]
  rw [popped, same]

/-- The stack before a pop is the only one that a push of the same address can lead back to. -/
theorem push_pop {address : UInt16} (well : stack.WellFormed)
    (popped : stack.pop = .ok (next, address)) : next.push address.toNat = .ok stack := by
  have deeper := depth_pop popped
  have slots := capacity_pop popped
  have within := well.depth_le
  obtain ⟨after, pushed⟩ := @exists_push next address.toNat (by omega)
  have same : after = stack := by
    refine ((well.pop popped).push pushed).ext_toList well ?_ ?_
    · rw [capacity_push pushed, slots]
    · rw [toList_push_toNat pushed, toList_pop well popped]
  rw [pushed, same]

theorem actsAsList (well : stack.WellFormed) : stack.ActsAsList where
  push_error_iff address cause := by
    have within := well.depth_le
    rw [push_eq_error_iff, well.length_saved]
    constructor <;> rintro ⟨full, rfl⟩ <;> exact ⟨by omega, rfl⟩
  saved_push _ _ := CallStack.saved_push
  pop_error_iff cause := by
    rw [pop_eq_error_iff, ← well.length_saved, List.length_eq_zero_iff]
  saved_pop _ _ := well.saved_pop
  push_keeps _ _ pushed := ⟨well.push pushed, capacity_push pushed⟩
  pop_keeps _ _ popped := ⟨well.pop popped, capacity_pop popped⟩
  pop_push address _ pushed := by
    refine ⟨_, well.pop_push pushed, ?_⟩
    rw [toNat_ofInt]
    omega
  push_pop _ _ := well.push_pop

end WellFormed

/-- What requests leave of a stack and answer is what they leave of the list of the saved addresses
and answer there. -/
structure ServesAsList (stack : CallStack) (requests : List StackRequest) : Prop where
  /-- The stack stays sound. -/
  wellFormed : (StackForm.slots.serveAll stack requests).1.WellFormed
  /-- The number of slots never changes. -/
  capacity_eq : (StackForm.slots.serveAll stack requests).1.capacity = stack.capacity
  /-- The list keeps up with the slots, and the answers are the same. -/
  list_eq : (StackForm.boundedList stack.capacity).serveAll stack.saved requests =
    ((StackForm.slots.serveAll stack requests).1.saved,
      (StackForm.slots.serveAll stack requests).2)

/-- The list answers a push as the slots do. -/
theorem WellFormed.boundedList_push {stack : CallStack} (well : stack.WellFormed) (address : Int) :
    (StackForm.boundedList stack.capacity).push stack.saved address =
      (stack.push address).map saved := by
  have acts := well.actsAsList
  simp only [StackForm.boundedList]
  cases pushed : stack.push address with
  | error cause =>
      obtain ⟨full, rfl⟩ := (acts.push_error_iff address cause).mp pushed
      simp [full, Except.map]
  | ok next =>
      have room : stack.saved.length ≠ stack.capacity := by
        intro full
        have refused := (acts.push_error_iff address _).mpr ⟨full, rfl⟩
        rw [pushed] at refused
        cases refused
      simp [room, acts.saved_push address next pushed, Except.map]

/-- The list answers a pop as the slots do. -/
theorem WellFormed.boundedList_pop {stack : CallStack} (well : stack.WellFormed) :
    (StackForm.boundedList stack.capacity).pop stack.saved =
      (StackForm.slots.pop stack).map (Prod.map saved id) := by
  have acts := well.actsAsList
  simp only [StackForm.boundedList, StackForm.slots]
  cases popped : stack.pop with
  | error cause =>
      obtain ⟨none, rfl⟩ := (acts.pop_error_iff cause).mp popped
      simp [none, Except.map]
  | ok result =>
      simp [acts.saved_pop result.1 result.2 popped, Except.map]

/-- One request is served alike by the slots and by the list, and leaves a sound stack. -/
theorem WellFormed.serve {stack : CallStack} (well : stack.WellFormed) (request : StackRequest) :
    (StackForm.slots.serve stack request).1.WellFormed ∧
      (StackForm.slots.serve stack request).1.capacity = stack.capacity ∧
      (StackForm.boundedList stack.capacity).serve stack.saved request =
        ((StackForm.slots.serve stack request).1.saved,
          (StackForm.slots.serve stack request).2) := by
  cases request with
  | push address =>
      simp only [StackForm.serve, well.boundedList_push address]
      simp only [StackForm.slots]
      cases pushed : stack.push address with
      | error cause => exact ⟨well, rfl, rfl⟩
      | ok next => exact ⟨well.push pushed, capacity_push pushed, rfl⟩
  | pop =>
      simp only [StackForm.serve, well.boundedList_pop]
      simp only [StackForm.slots]
      cases popped : stack.pop with
      | error cause => exact ⟨well, rfl, rfl⟩
      | ok result => exact ⟨well.pop popped, capacity_pop popped, rfl⟩

theorem WellFormed.servesAsList {stack : CallStack} (well : stack.WellFormed)
    (requests : List StackRequest) : stack.ServesAsList requests := by
  induction requests generalizing stack with
  | nil => exact ⟨well, rfl, rfl⟩
  | cons request later ih =>
      obtain ⟨sound, slots, list⟩ := well.serve request
      have rest := ih sound
      -- The later requests find as many slots as the first one, so one bound serves for all.
      have restList := rest.list_eq
      rw [slots] at restList
      refine ⟨rest.wellFormed, rest.capacity_eq.trans slots, ?_⟩
      simp only [StackForm.serveAll, list, restList]

/-- The call stack refines a list of at most as many addresses as there are slots: in each push and
each pop, which undo each other, and in all that is asked of it one after another. -/
theorem refines_bounded_list {stack : CallStack} (well : stack.WellFormed) :
    stack.ActsAsList ∧ ∀ requests, stack.ServesAsList requests :=
  ⟨well.actsAsList, well.servesAsList⟩

/-- A stack of two slots saves the low bits of a negative address, refuses the next one, and gives
back what it saved until nothing is left. -/
theorem refines_bounded_list_two :
    let stack : CallStack := ⟨#[0x200, 0], 1⟩
    let requests : List StackRequest := [.push (-2), .push 0x300, .pop, .pop, .pop]
    stack.WellFormed ∧ stack.ActsAsList ∧
      (StackForm.boundedList 2).serveAll [0x200] requests =
        ([], [.ok none, .error (.stackOverflow 2), .ok (some 0xFFFE), .ok (some 0x200),
          .error .stackUnderflow]) ∧
      (StackForm.slots.serveAll stack requests).2 =
        [.ok none, .error (.stackOverflow 2), .ok (some 0xFFFE), .ok (some 0x200),
          .error .stackUnderflow] := by
  intro stack requests
  have well : stack.WellFormed := ⟨by decide, by decide⟩
  obtain ⟨acts, serves⟩ := refines_bounded_list well
  have list : (StackForm.boundedList 2).serveAll [0x200] requests =
      ([], [.ok none, .error (.stackOverflow 2), .ok (some 0xFFFE), .ok (some 0x200),
        .error .stackUnderflow]) := by
    rfl
  exact ⟨well, acts, list, congrArg Prod.snd ((serves requests).list_eq.symm.trans list)⟩

end CallStack
end ChipEight

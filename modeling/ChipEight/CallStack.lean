import ChipEight.Failure

/-!
# The call stack

Return addresses are kept in a fixed number of slots, the free ones holding zero.  Seen as a list,
oldest address first, a push appends and a pop takes the last one away.
-/

namespace ChipEight

/-- Slots for return addresses, those below the depth in use. -/
structure CallStack where
  /-- Every slot, oldest address first. -/
  slots : Array UInt16
  /-- How many slots are in use. -/
  depth : Nat
  deriving DecidableEq, Repr

namespace CallStack

/-- How many slots a stack can be made with. -/
def capacityOfInt (capacity : Int) : Except Failure Nat :=
  if capacity < 0 then .error (.negativeCapacity capacity) else .ok capacity.toNat

/-- A stack with nothing on it. -/
def empty (capacity : Nat) : CallStack :=
  ⟨Array.replicate capacity 0, 0⟩

/-- Most addresses that the stack can hold. -/
def capacity (stack : CallStack) : Nat :=
  stack.slots.size

/-- The saved addresses, oldest first. -/
def toList (stack : CallStack) : List UInt16 :=
  stack.slots.toList.take stack.depth

/-- Save the sixteen low bits of an address. -/
def push (stack : CallStack) (address : Int) : Except Fault.Cause CallStack :=
  if room : stack.depth < stack.slots.size then
    .ok ⟨stack.slots.set stack.depth (UInt16.ofInt address) room, stack.depth + 1⟩
  else
    .error (.stackOverflow stack.capacity)

/-- Take back the address saved last, and clear its slot. -/
def pop (stack : CallStack) : Except Fault.Cause (CallStack × UInt16) :=
  match stack.depth with
  | 0 => .error .stackUnderflow
  | depth + 1 => .ok (⟨stack.slots.setIfInBounds depth 0, depth⟩, stack.slots.getD depth 0)

/-- No more slots are in use than there are, and the free ones hold zero. -/
structure WellFormed (stack : CallStack) : Prop where
  /-- The depth is within the capacity. -/
  depth_le : stack.depth ≤ stack.capacity
  /-- A slot at or above the depth holds zero. -/
  free : ∀ slot (bound : slot < stack.slots.size), stack.depth ≤ slot → stack.slots[slot] = 0

theorem wellFormed_empty (capacity : Nat) : (empty capacity).WellFormed where
  depth_le := Nat.zero_le _
  free := by simp [empty]

theorem push_eq_ok_iff {stack next : CallStack} {address : Int} :
    stack.push address = .ok next ↔
      ∃ room : stack.depth < stack.slots.size,
        next = ⟨stack.slots.set stack.depth (UInt16.ofInt address) room, stack.depth + 1⟩ := by
  simp only [push]
  split
  · rename_i room
    simp [room, eq_comm]
  · rename_i full
    simp [full]

theorem push_eq_error_iff {stack : CallStack} {address : Int} {cause : Fault.Cause} :
    stack.push address = .error cause ↔
      stack.capacity ≤ stack.depth ∧ cause = .stackOverflow stack.capacity := by
  simp only [push, capacity]
  split
  · simp
    omega
  · rename_i full
    simp [Nat.le_of_not_lt full, eq_comm]

theorem capacity_push {stack next : CallStack} {address : Int}
    (pushed : stack.push address = .ok next) : next.capacity = stack.capacity := by
  obtain ⟨room, rfl⟩ := push_eq_ok_iff.mp pushed
  simp [capacity]

theorem depth_push {stack next : CallStack} {address : Int}
    (pushed : stack.push address = .ok next) : next.depth = stack.depth + 1 := by
  obtain ⟨room, rfl⟩ := push_eq_ok_iff.mp pushed
  rfl

theorem toList_push {stack next : CallStack} {address : Int}
    (pushed : stack.push address = .ok next) :
    next.toList = stack.toList ++ [UInt16.ofInt address] := by
  obtain ⟨room, rfl⟩ := push_eq_ok_iff.mp pushed
  simp only [toList, Array.toList_set]
  rw [List.take_add_one, List.take_set_of_le (Nat.le_refl _)]
  simp [room]

/-- An address has no more than sixteen bits to lose. -/
theorem ofInt_toNat (address : UInt16) : UInt16.ofInt address.toNat = address := by
  have := address.toNat_lt
  apply UInt16.toNat_inj.mp
  simp only [UInt16.ofInt, UInt16.toNat_ofNat']
  omega

theorem toList_push_toNat {stack next : CallStack} {address : UInt16}
    (pushed : stack.push address.toNat = .ok next) : next.toList = stack.toList ++ [address] := by
  rw [toList_push pushed, ofInt_toNat]

theorem WellFormed.push {stack next : CallStack} {address : Int} (well : stack.WellFormed)
    (pushed : stack.push address = .ok next) : next.WellFormed := by
  obtain ⟨room, rfl⟩ := push_eq_ok_iff.mp pushed
  refine ⟨?_, ?_⟩
  · simp only [capacity, Array.size_set]
    omega
  · intro slot bound above
    simp only [Array.size_set] at bound above
    rw [Array.getElem_set_ne]
    · exact well.free slot bound (by omega)
    · omega

theorem pop_eq_ok_iff {stack next : CallStack} {address : UInt16} :
    stack.pop = .ok (next, address) ↔
      ∃ depth, stack.depth = depth + 1 ∧
        next = ⟨stack.slots.setIfInBounds depth 0, depth⟩ ∧
        address = stack.slots.getD depth 0 := by
  simp only [pop]
  split
  · rename_i empty
    simp [empty]
  · rename_i depth full
    simp [full, eq_comm]

theorem pop_eq_error_iff {stack : CallStack} {cause : Fault.Cause} :
    stack.pop = .error cause ↔ stack.depth = 0 ∧ cause = .stackUnderflow := by
  simp only [pop]
  split
  · rename_i empty
    simp [empty, eq_comm]
  · rename_i depth full
    simp [full]

theorem capacity_pop {stack next : CallStack} {address : UInt16}
    (popped : stack.pop = .ok (next, address)) : next.capacity = stack.capacity := by
  obtain ⟨depth, full, rfl, rfl⟩ := pop_eq_ok_iff.mp popped
  simp [capacity]

theorem depth_pop {stack next : CallStack} {address : UInt16}
    (popped : stack.pop = .ok (next, address)) : stack.depth = next.depth + 1 := by
  obtain ⟨depth, full, rfl, rfl⟩ := pop_eq_ok_iff.mp popped
  exact full

theorem toList_pop {stack next : CallStack} {address : UInt16} (well : stack.WellFormed)
    (popped : stack.pop = .ok (next, address)) : stack.toList = next.toList ++ [address] := by
  obtain ⟨depth, full, rfl, rfl⟩ := pop_eq_ok_iff.mp popped
  have bound : depth < stack.slots.size := by
    have := well.depth_le
    simp only [capacity] at this
    omega
  simp only [toList, full, Array.toList_setIfInBounds]
  rw [List.take_add_one, List.take_set_of_le (Nat.le_refl _)]
  simp [bound]

theorem WellFormed.pop {stack next : CallStack} {address : UInt16} (well : stack.WellFormed)
    (popped : stack.pop = .ok (next, address)) : next.WellFormed := by
  obtain ⟨depth, full, rfl, rfl⟩ := pop_eq_ok_iff.mp popped
  have bound := well.depth_le
  refine ⟨?_, ?_⟩
  · simp only [capacity, Array.size_setIfInBounds] at bound ⊢
    omega
  · intro slot inside above
    simp only [Array.size_setIfInBounds] at inside above
    rw [Array.getElem_setIfInBounds]
    split
    · rfl
    · exact well.free slot inside (by omega)

theorem WellFormed.length_toList {stack : CallStack} (well : stack.WellFormed) :
    stack.toList.length = stack.depth := by
  have within := well.depth_le
  simp only [capacity] at within
  simp [toList, Nat.min_eq_left within]

/-- The free slots being zero, a stack is given by its capacity and the addresses saved on it. -/
theorem WellFormed.ext_toList {left right : CallStack} (leftWell : left.WellFormed)
    (rightWell : right.WellFormed) (capacity : left.capacity = right.capacity)
    (saved : left.toList = right.toList) : left = right := by
  have depth : left.depth = right.depth := by
    rw [← leftWell.length_toList, ← rightWell.length_toList, saved]
  obtain ⟨leftSlots, leftDepth⟩ := left
  obtain ⟨rightSlots, rightDepth⟩ := right
  obtain rfl : leftDepth = rightDepth := depth
  congr 1
  refine Array.ext capacity fun slot leftBound rightBound => ?_
  by_cases used : slot < leftDepth
  · have same := congrArg (·[slot]?) saved
    simpa [toList, used, leftBound, rightBound] using same
  · have free : leftDepth ≤ slot := Nat.le_of_not_lt used
    rw [leftWell.free slot leftBound free, rightWell.free slot rightBound free]

end CallStack
end ChipEight

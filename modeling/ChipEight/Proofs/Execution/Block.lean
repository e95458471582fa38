import ChipEight.Proofs.Execution.Footprint

/-!
# Blocks and digits

What is stored from the index on is read back from there, also where it runs over the end of memory.
-/

namespace ChipEight

/-! ## Blocks of registers

Registers are stored from the index on and loaded from there.  A block is shorter than memory, so no
two of its cells are the same, also where it runs over the end of memory.
-/

/-- Bytes that are written back where they were read change nothing. -/
theorem Memory.writeBlock_readBlock (memory : Memory) (start : Nat) {count : Nat}
    (short : count ≤ 4096) : memory.writeBlock start (memory.readBlock start count) = memory := by
  have length : (memory.readBlock start count).length = count := by simp [readBlock]
  refine ext_read fun address => ?_
  by_cases inside : ∃ offset < count, (start + offset) % 4096 = address % 4096
  · obtain ⟨offset, bound, same⟩ := inside
    have found : offset < (memory.readBlock start count).length := by omega
    calc
      (memory.writeBlock start (memory.readBlock start count)).read address =
          (memory.writeBlock start (memory.readBlock start count)).read (start + offset) := by
        rw [← read_mod, ← same, read_mod]
      _ = (memory.readBlock start count)[offset] :=
        memory.read_writeBlock_of_inside start _ (by omega) offset found
      _ = memory.read (start + offset) := by simp [readBlock]
      _ = memory.read address := by rw [← read_mod, same, read_mod]
  · apply read_writeBlock_of_outside
    intro offset bound same
    exact inside ⟨offset, length ▸ bound, same⟩

namespace Machine

variable {width height : Nat}

/-- A register that is stored is found at its own place in the block. -/
theorem read_storeRegisters (machine : Machine) {number last : Register} (within : number ≤ last) :
    (machine.storeRegisters last).memory.read (machine.index.toNat + number) =
      machine.register number := by
  have numbered := number.isLt
  have within : number.val ≤ last.val := within
  have length : (machine.registers.toList.take (last + 1)).length = last + 1 := by
    rw [List.length_take, Vector.length_toList]
    omega
  have bound : number.val < (machine.registers.toList.take (last + 1)).length := by omega
  rw [storeRegisters, Memory.read_writeBlock_of_inside _ _ _ (by omega) _ bound]
  simp [register]

/-- A register that is loaded takes the byte at its own place in the block. -/
theorem register_loadRegisters_of_le (machine : Machine) {number last : Register}
    (within : number ≤ last) :
    (machine.loadRegisters last).register number =
      machine.memory.read (machine.index.toNat + number) := by
  have within : number.val ≤ last.val := within
  simp [loadRegisters, register, within]

/-- A cell outside the block keeps its byte when the registers are stored. -/
theorem read_storeRegisters_of_outside (machine : Machine) {last : Register} {address : Nat}
    (outside : ∀ number ≤ last, (machine.index.toNat + number) % 4096 ≠ address % 4096) :
    (machine.storeRegisters last).memory.read address = machine.memory.read address := by
  have bounded := last.isLt
  apply Memory.read_writeBlock_of_outside
  intro offset found
  have within : offset < last + 1 := by
    simp only [List.length_take] at found
    omega
  exact outside ⟨offset, by omega⟩ (Nat.le_of_lt_succ within)

/-- The registers that were loaded are the bytes of the block, as far as one looks. -/
theorem take_registers_loadRegisters (machine : Machine) {first last : Register}
    (within : first ≤ last) :
    (machine.loadRegisters last).registers.toList.take (first + 1) =
      machine.memory.readBlock machine.index.toNat (first + 1) := by
  have bounded := first.isLt
  refine List.ext_getElem ?_ fun place bound found => ?_
  · simp only [Memory.readBlock, List.length_take, Vector.length_toList, List.length_map,
      List.length_range]
    omega
  · have early : place < first + 1 := by
      simpa only [Memory.readBlock, List.length_map, List.length_range] using found
    let number : Register := ⟨place, by omega⟩
    have loaded : number ≤ last := Nat.le_trans (Nat.le_of_lt_succ early) within
    calc
      _ = (machine.loadRegisters last).register number := by simp [register, number]
      _ = machine.memory.read (machine.index.toNat + place) :=
        machine.register_loadRegisters_of_le loaded
      _ = _ := by simp [Memory.readBlock]

/-- Registers that were loaded are stored back where they came from. -/
theorem memory_storeRegisters_loadRegisters (machine : Machine) {stored loaded : Register}
    (within : stored ≤ loaded) :
    ((machine.loadRegisters loaded).storeRegisters stored).memory = machine.memory := by
  have bounded := stored.isLt
  calc
    _ = machine.memory.writeBlock machine.index.toNat
        ((machine.loadRegisters loaded).registers.toList.take (stored + 1)) := rfl
    _ = machine.memory := by
      rw [take_registers_loadRegisters _ within, Memory.writeBlock_readBlock _ _ (by omega)]

/-- The outcome of storing the registers up to one and then loading those up to another, from the
same index. -/
structure StoresThenLoads (stored loaded : Register) (before after : Machine) : Prop where
  /-- Everything besides memory and registers is as it was, the index among it. -/
  machine_eq : after = { before with memory := after.memory, registers := after.registers }
  /-- Each register that was stored is found in its cell. -/
  read_stored : ∀ number ≤ stored,
    after.memory.read ((before.index.toNat + number) % 4096) = before.register number
  /-- Every other cell is as it was. -/
  read_other : ∀ address,
    (∀ number ≤ stored, (before.index.toNat + number) % 4096 ≠ address % 4096) →
      after.memory.read address = before.memory.read address
  /-- A register that was stored and loaded again is as it was. -/
  register_both : ∀ number ≤ stored, number ≤ loaded →
    after.register number = before.register number
  /-- A register that was only loaded takes the byte that was in its cell before. -/
  register_loaded : ∀ number > stored, number ≤ loaded →
    after.register number = before.memory.read ((before.index.toNat + number) % 4096)
  /-- A register that was not loaded is as it was. -/
  register_other : ∀ number > loaded, after.register number = before.register number

theorem storesThenLoads (machine : Machine) (stored loaded : Register) :
    StoresThenLoads stored loaded machine
      ((machine.storeRegisters stored).loadRegisters loaded) where
  machine_eq := rfl
  read_stored number within := by
    rw [Memory.read_mod]
    exact machine.read_storeRegisters within
  read_other address outside := machine.read_storeRegisters_of_outside outside
  register_both number within again := by
    rw [register_loadRegisters_of_le _ again]
    exact machine.read_storeRegisters within
  register_loaded number beyond within := by
    rw [register_loadRegisters_of_le _ within, Memory.read_mod]
    apply read_storeRegisters_of_outside
    -- The cells of two registers differ by less than the size of memory.
    intro other below same
    have apart : other.val < number.val := Nat.lt_of_le_of_lt below beyond
    have bounded := number.isLt
    have unmoved : (machine.storeRegisters stored).index = machine.index := rfl
    rw [unmoved] at same
    omega
  register_other number beyond := by
    rw [register_loadRegisters _ (Fin.not_le.mpr beyond)]
    rfl

/-- What the words that store and load registers do one after the other, at any index.  Each
register has the same cell both ways, so what was stored is loaded again, and storing no more than
was loaded writes back what is there. -/
theorem blocks_compose (machine : Machine) (screen : Screen width height) (held : HeldKeys)
    {store load : Word} {stored loaded : Register}
    (stores : store.IsMiscellaneous 0x55 stored) (loads : load.IsMiscellaneous 0x65 loaded) :
    (∃ middle after,
      machine.execute screen held store = .ok (middle, screen) ∧
        middle.execute screen held load = .ok (after, screen) ∧
          StoresThenLoads stored loaded machine after) ∧
    (stored ≤ loaded → ∃ middle after,
      machine.execute screen held load = .ok (middle, screen) ∧
        middle.execute screen held store = .ok (after, screen) ∧
          after.memory = machine.memory) := by
  have execute_store (start : Machine) :
      start.execute screen held store = .ok (start.storeRegisters stored, screen) :=
    execute_eq_ok_iff.mpr ⟨.storeRegisters stored, stores, rfl⟩
  have execute_load (start : Machine) :
      start.execute screen held load = .ok (start.loadRegisters loaded, screen) :=
    execute_eq_ok_iff.mpr ⟨.loadRegisters loaded, loads, rfl⟩
  constructor
  · exact ⟨_, _, execute_store _, execute_load _, machine.storesThenLoads stored loaded⟩
  · intro within
    exact ⟨_, _, execute_load _, execute_store _,
      machine.memory_storeRegisters_loadRegisters within⟩

/-- Three registers are stored over the end of memory and four are loaded, the last of them from the
font. -/
theorem blocks_compose_over_end :
    let machine : Machine := { (initial {}).setRegister 2 7 with index := 0xFFFE }
    let screen := Screen.blank 1 1
    let held : HeldKeys := Vector.replicate 16 false
    Word.IsMiscellaneous ⟨0xF255⟩ 0x55 2 ∧ Word.IsMiscellaneous ⟨0xF365⟩ 0x65 3 ∧
      (2 : Register) ≤ 3 ∧
      (∃ middle after,
        machine.execute screen held ⟨0xF255⟩ = .ok (middle, screen) ∧
          middle.execute screen held ⟨0xF365⟩ = .ok (after, screen) ∧
            after.index = 0xFFFE ∧ after.memory.read 0 = 7 ∧ after.memory.read 1 = 0x90 ∧
              after.register 2 = 7 ∧ after.register 3 = 0x90) ∧
      ∃ middle after,
        machine.execute screen held ⟨0xF365⟩ = .ok (middle, screen) ∧
          middle.execute screen held ⟨0xF255⟩ = .ok (after, screen) ∧
            after.memory = machine.memory := by
  intro machine screen held
  have stores : Word.IsMiscellaneous ⟨0xF255⟩ 0x55 2 := ⟨by decide, by decide, by decide⟩
  have loads : Word.IsMiscellaneous ⟨0xF365⟩ 0x65 3 := ⟨by decide, by decide, by decide⟩
  have within : (2 : Register) ≤ 3 := by decide
  obtain ⟨⟨middle, after, first, second, composed⟩, back⟩ :=
    blocks_compose machine screen held stores loads
  have stored : machine.register 2 = 7 := by simp [machine, initial, setRegister, register]
  have glyph : machine.memory.read 1 = 0x90 :=
    Memory.blank.read_writeBlock_of_inside 0 Font.glyphs (by decide) 1 (by decide)
  have third : (machine.index.toNat + (2 : Register)) % 4096 = 0 := by decide
  have fourth : (machine.index.toNat + (3 : Register)) % 4096 = 1 := by decide
  refine ⟨stores, loads, within, ⟨middle, after, first, second, ?_, ?_, ?_, ?_, ?_⟩, back within⟩
  · rw [composed.machine_eq]
  · rw [← third, composed.read_stored 2 (by decide), stored]
  · rw [composed.read_other 1 (by decide), glyph]
  · rw [composed.register_both 2 (by decide) (by decide), stored]
  · rw [composed.register_loaded 3 (by decide) (by decide), fourth, glyph]

end Machine

/-! ## Decimal digits

The digits of a register are stored from the index on and read back into the first three registers.
They make the number that the register held, even if it is one of the three.
-/

/-- A number of three decimal digits, the hundreds first. -/
structure Decimal where
  /-- The digit at each place. -/
  digit : Fin 3 → Fin 10

namespace Decimal

/-- The number that the digits make. -/
def value (decimal : Decimal) : Nat :=
  100 * decimal.digit 0 + 10 * decimal.digit 1 + decimal.digit 2

/-- The digits of a byte. -/
def ofByte (byte : UInt8) : Decimal where
  digit
    | 0 => ⟨byte.toNat / 100 % 10, Nat.mod_lt _ (by decide)⟩
    | 1 => ⟨byte.toNat / 10 % 10, Nat.mod_lt _ (by decide)⟩
    | 2 => ⟨byte.toNat % 10, Nat.mod_lt _ (by decide)⟩

theorem value_ofByte (byte : UInt8) : (ofByte byte).value = byte.toNat := by
  have := byte.toNat_lt
  simp only [value, ofByte]
  omega

theorem digit_ofByte (byte : UInt8) (place : Fin 3) :
    ((ofByte byte).digit place).val =
      ([byte / 100, byte / 10 % 10, byte % 10].get place).toNat := by
  have small : byte.toNat / 100 < 10 := by
    have := byte.toNat_lt
    omega
  match place with
  | 0 => simp [ofByte, Nat.mod_eq_of_lt small]
  | 1 => simp [ofByte]
  | 2 => simp [ofByte]

end Decimal

namespace Machine

variable {width height : Nat}

/-- A machine before and after it stores digits: they are found in three cells from the index on,
and nothing else has changed. -/
structure StoresDigits (before after : Machine) (decimal : Decimal) : Prop where
  machine_eq : after = { before with memory := after.memory }
  read_digit : ∀ place : Fin 3,
    (after.memory.read ((before.index.toNat + place) % 4096)).toNat = decimal.digit place
  read_other : ∀ address,
    (∀ place : Fin 3, (before.index.toNat + place) % 4096 ≠ address % 4096) →
      after.memory.read address = before.memory.read address

/-- A machine before and after it loads digits: they are found in the first three registers, and
nothing else has changed. -/
structure LoadsDigits (before after : Machine) (decimal : Decimal) : Prop where
  machine_eq : after = { before with registers := after.registers }
  register_digit : ∀ place : Fin 3,
    (after.register (place.castLE (by decide))).toNat = decimal.digit place
  register_other : ∀ number > 2, after.register number = before.register number

theorem toNat_read_storeDecimal (machine : Machine) (source : Register) (place : Fin 3) :
    ((machine.storeDecimal source).memory.read (machine.index.toNat + place)).toNat =
      (Decimal.ofByte (machine.register source)).digit place := by
  let byte := machine.register source
  let digits := [byte / 100, byte / 10 % 10, byte % 10]
  rw [Decimal.digit_ofByte]
  exact congrArg UInt8.toNat
    (machine.memory.read_writeBlock_of_inside machine.index.toNat digits (by simp [digits])
      place place.isLt)

theorem storesDigits (machine : Machine) (source : Register) :
    machine.StoresDigits (machine.storeDecimal source)
      (Decimal.ofByte (machine.register source)) where
  machine_eq := rfl
  read_digit place := by
    rw [Memory.read_mod]
    exact machine.toNat_read_storeDecimal source place
  read_other address outside := by
    apply Memory.read_writeBlock_of_outside
    intro offset bound
    exact outside ⟨offset, bound⟩

/-- What was stored from the index on is loaded again. -/
theorem StoresDigits.loads {before middle : Machine} {decimal : Decimal}
    (stores : before.StoresDigits middle decimal) :
    middle.LoadsDigits (middle.loadRegisters 2) decimal where
  machine_eq := rfl
  register_digit place := by
    have within : (place.castLE (by decide) : Register) ≤ 2 := Nat.le_of_lt_succ place.isLt
    have sameIndex : middle.index = before.index := by rw [stores.machine_eq]
    rw [register_loadRegisters_of_le _ within, sameIndex, ← Memory.read_mod]
    exact stores.read_digit place
  register_other number beyond := middle.register_loadRegisters (Fin.not_le.mpr beyond)

/-- The word that stores the digits of a register, and then the word that loads the first three
registers, at any index. -/
theorem digits_read_back (machine : Machine) (screen : Screen width height)
    (held later : HeldKeys) {store load : Word} {source : Register}
    (stores : store.IsMiscellaneous 0x33 source) (loads : load.IsMiscellaneous 0x65 2) :
    ∃ decimal middle after,
      decimal.value = (machine.register source).toNat ∧
        machine.execute screen held store = .ok (middle, screen) ∧
          machine.StoresDigits middle decimal ∧
            middle.execute screen later load = .ok (after, screen) ∧
              middle.LoadsDigits after decimal ∧
                100 * (after.register 0).toNat + 10 * (after.register 1).toNat +
                  (after.register 2).toNat = (machine.register source).toNat := by
  have stored := machine.storesDigits source
  have loaded := stored.loads
  have value := Decimal.value_ofByte (machine.register source)
  refine ⟨_, machine.storeDecimal source, (machine.storeDecimal source).loadRegisters 2, value,
    execute_eq_ok_iff.mpr ⟨.storeDecimal source, stores, rfl⟩, stored,
    execute_eq_ok_iff.mpr ⟨.loadRegisters 2, loads, rfl⟩, loaded, ?_⟩
  calc
    _ = (Decimal.ofByte (machine.register source)).value := by
      rw [Decimal.value, ← loaded.register_digit 0, ← loaded.register_digit 1,
        ← loaded.register_digit 2]
      rfl
    _ = (machine.register source).toNat := value

/-- The digits of 254 over the end of memory, from the register that the second of them is loaded
into. -/
theorem digits_read_back_over_end :
    let machine : Machine := { (initial {}).setRegister 1 254 with index := 0xFFFE }
    let screen := Screen.blank 1 1
    let held : HeldKeys := Vector.replicate 16 false
    Word.IsMiscellaneous ⟨0xF133⟩ 0x33 1 ∧ Word.IsMiscellaneous ⟨0xF265⟩ 0x65 2 ∧
      ∃ middle after,
        machine.execute screen held ⟨0xF133⟩ = .ok (middle, screen) ∧
          middle.execute screen held ⟨0xF265⟩ = .ok (after, screen) ∧
            middle.memory.read 0 = 4 ∧
              100 * (after.register 0).toNat + 10 * (after.register 1).toNat +
                (after.register 2).toNat = 254 := by
  intro machine screen held
  have stores : Word.IsMiscellaneous ⟨0xF133⟩ 0x33 1 := ⟨by decide, by decide, by decide⟩
  have loads : Word.IsMiscellaneous ⟨0xF265⟩ 0x65 2 := ⟨by decide, by decide, by decide⟩
  obtain ⟨decimal, middle, after, value, first, stored, second, loaded, total⟩ :=
    digits_read_back machine screen held held stores loads
  have number : machine.register 1 = 254 := by simp [machine, initial, setRegister, register]
  rw [number] at value total
  have wrapped : (machine.index.toNat + (2 : Fin 3)) % 4096 = 0 := by decide
  have units : (decimal.digit 2).val = 4 := by
    have value : 100 * _ + 10 * _ + (decimal.digit 2).val = 254 := value
    omega
  refine ⟨stores, loads, middle, after, first, second, ?_, total⟩
  exact UInt8.toNat_inj.mp ((wrapped ▸ stored.read_digit 2).trans units)

end Machine
end ChipEight

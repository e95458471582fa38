import ChipEight.Proofs.Execution.Fault
import ChipEight.Proofs.Screen.Parity
import Mathlib.Data.Finset.Prod

/-!
# Sprites

What drawing a sprite does to the screen and to the flag, told from the set bits of the sprite and
the pixels on which they fall.
-/

namespace ChipEight

variable {width height : Nat}

namespace Machine

/-- The set bits of a sprite at the index, each by its row and its column. -/
def spriteBits (machine : Machine) (rows : Nat) : Finset (Nat × Nat) :=
  {bit ∈ Finset.range rows ×ˢ Finset.range 8 |
    (machine.memory.read ((machine.index.toNat + bit.1) % 4096)).toNat.testBit (7 - bit.2)}

/-- The column and the row on a screen where a bit of a sprite falls. -/
def spriteCell (machine : Machine) (word : Word) (width height : Nat) (bit : Nat × Nat) :
    Nat × Nat :=
  (((machine.register word.x).toNat + bit.2) % width,
    ((machine.register word.y).toNat + bit.1) % height)

/-- The set bits of a sprite that fall on a pixel. -/
def bitsOn (machine : Machine) (word : Word) (column : Fin width) (row : Fin height) :
    Finset (Nat × Nat) :=
  {bit ∈ machine.spriteBits word.nibble |
    machine.spriteCell word width height bit = (column.val, row.val)}

/-- Whether a set bit of a sprite falls on a pixel that is on, or two of them on one pixel. -/
def Meets (machine : Machine) (word : Word) (screen : Screen width height) : Prop :=
  (∃ bit ∈ machine.spriteBits word.nibble, ∃ column row,
      machine.spriteCell word width height bit = (column.val, row.val) ∧
        screen.pixel column row = true) ∨
    ∃ bit ∈ machine.spriteBits word.nibble, ∃ other ∈ machine.spriteBits word.nibble,
      bit ≠ other ∧
        machine.spriteCell word width height bit = machine.spriteCell word width height other

instance (machine : Machine) (word : Word) (screen : Screen width height) :
    Decidable (machine.Meets word screen) :=
  inferInstanceAs (Decidable (_ ∨ _))

/-- The screen and the machine after a sprite has been drawn: each pixel has changed once for each
bit that falls on it, and only the flag register has another value. -/
structure Draws (before : Machine) (word : Word) (screen : Screen width height)
    (after : Machine) (drawn : Screen width height) : Prop where
  pixel_eq : ∀ column row,
    drawn.pixel column row =
      (screen.pixel column row ^^ decide (Odd (before.bitsOn word column row).card))
  machine_eq : after = before.setFlag (if before.Meets word screen then 1 else 0)

end Machine

/-- An execution of a word that draws. -/
structure Drawing where
  /-- The machine that draws. -/
  machine : Machine
  /-- The keys that are held. -/
  held : HeldKeys
  /-- The word. -/
  word : Word
  /-- The word draws. -/
  draws : word.low / 4096 = 0xD

/-- What a drawing puts on the screen. -/
structure Stamp where
  /-- The column of the upper left corner, before it wraps. -/
  column : UInt8
  /-- The row of the upper left corner, before it wraps. -/
  row : UInt8
  /-- The bytes of the sprite. -/
  sprite : List UInt8

/-- Coordinates of the pixels that a stamp changes. -/
def Stamp.places (stamp : Stamp) : List (Int × Int) :=
  Screen.spritePixels stamp.column.toNat stamp.row.toNat stamp.sprite

/-- The coordinates and the bytes that a drawing reads. -/
def Drawing.stamp (drawing : Drawing) : Stamp where
  column := drawing.machine.register drawing.word.x
  row := drawing.machine.register drawing.word.y
  sprite := drawing.machine.memory.readBlock drawing.machine.index.toNat drawing.word.nibble

/-- The screen after drawings one after the other. -/
def Screen.drawAll (screen : Screen width height) :
    List Drawing → Except Failure (Screen width height)
  | [] => .ok screen
  | drawing :: rest => do
      let (_, drawn) ← drawing.machine.execute screen drawing.held drawing.word
      drawn.drawAll rest

namespace Screen

/-- A sprite in memory, bit by bit in the order in which it is drawn. -/
theorem spritePixels_readBlock (memory : Memory) (column row start count : Nat) :
    spritePixels column row (memory.readBlock start count) =
      ((List.range count ×ˢ List.range 8).filter fun bit =>
        (memory.read (start + bit.1)).toNat.testBit (7 - bit.2)).map fun bit =>
          (((column + bit.2 : Nat) : Int), ((row + bit.1 : Nat) : Int)) := by
  have numbered : (memory.readBlock start count).zipIdx =
      (List.range count).map fun offset => (memory.read (start + offset), offset) := by
    refine List.ext_getElem ?_ fun place _ _ => ?_
    · simp [Memory.readBlock]
    · simp [Memory.readBlock]
  rw [spritePixels, numbered, List.flatMap_map]
  simp only [setBits, SProd.sprod, List.product, List.filter_flatMap, List.map_flatMap,
    List.filter_map, List.map_map, Function.comp_def]

theorem fallsOn_natCast_iff {column : Fin width} {row : Fin height} {across down : Nat} :
    FallsOn column row ((across : Int), (down : Int)) ↔
      (across % width, down % height) = (column.val, row.val) := by
  simp only [FallsOn, Prod.mk.injEq]
  norm_cast

end Screen

namespace Machine

theorem mem_bitsOn {machine : Machine} {word : Word} {column : Fin width} {row : Fin height}
    {bit : Nat × Nat} :
    bit ∈ machine.bitsOn word column row ↔
      bit ∈ machine.spriteBits word.nibble ∧
        machine.spriteCell word width height bit = (column.val, row.val) :=
  Finset.mem_filter

/-- As many coordinates fall on a pixel as bits of the sprite. -/
theorem hits_sprite (machine : Machine) (word : Word) (column : Fin width) (row : Fin height) :
    Screen.hits column row (Screen.spritePixels (machine.register word.x).toNat
      (machine.register word.y).toNat
        (machine.memory.readBlock machine.index.toNat word.nibble)) =
      (machine.bitsOn word column row).card := by
  -- No bit is drawn twice, so the list of those that fall on the pixel is as long as their set.
  rw [Screen.spritePixels_readBlock, Screen.hits, List.countP_map, List.countP_eq_length_filter,
    ← List.toFinset_card_of_nodup]
  · congr 1
    ext ⟨down, across⟩
    simp only [List.mem_toFinset, List.mem_filter, List.mem_product, List.mem_range,
      Function.comp_apply, Screen.fallsOn_natCast_iff, decide_eq_true_eq, mem_bitsOn, spriteBits,
      spriteCell, Finset.mem_filter, Finset.mem_product, Finset.mem_range, Memory.read_mod]
  · exact ((List.nodup_range.product List.nodup_range).filter _).filter _

/-- A bit falls on a pixel that is on, or two on one pixel, exactly if some pixel is turned on
twice, being on at first counted as once. -/
theorem meets_iff (columns : 0 < width) (rows : 0 < height) {machine : Machine} {word : Word}
    {screen : Screen width height} :
    machine.Meets word screen ↔
      ∃ column row,
        2 ≤ (screen.pixel column row).toNat + (machine.bitsOn word column row).card := by
  constructor
  · rintro (⟨bit, set, column, row, cell, lit⟩ | ⟨bit, set, other, also, apart, shared⟩)
    · have falls : 0 < (machine.bitsOn word column row).card :=
        Finset.card_pos.mpr ⟨bit, mem_bitsOn.mpr ⟨set, cell⟩⟩
      refine ⟨column, row, ?_⟩
      rw [lit, Bool.toNat_true]
      omega
    · let column : Fin width := ⟨_, Nat.mod_lt ((machine.register word.x).toNat + bit.2) columns⟩
      let row : Fin height := ⟨_, Nat.mod_lt ((machine.register word.y).toNat + bit.1) rows⟩
      have several : 1 < (machine.bitsOn word column row).card :=
        Finset.one_lt_card.mpr
          ⟨bit, mem_bitsOn.mpr ⟨set, rfl⟩, other, mem_bitsOn.mpr ⟨also, shared.symm⟩, apart⟩
      exact ⟨column, row, Nat.le_add_left_of_le several⟩
  · rintro ⟨column, row, twice⟩
    cases lit : screen.pixel column row with
    | true =>
        have falls : 0 < (machine.bitsOn word column row).card := by
          rw [lit, Bool.toNat_true] at twice
          omega
        obtain ⟨bit, on⟩ := Finset.card_pos.mp falls
        obtain ⟨set, cell⟩ := mem_bitsOn.mp on
        exact .inl ⟨bit, set, column, row, cell, lit⟩
    | false =>
        have several : 1 < (machine.bitsOn word column row).card := by
          rw [lit, Bool.toNat_false] at twice
          omega
        obtain ⟨bit, on, other, also, apart⟩ := Finset.one_lt_card.mp several
        obtain ⟨set, cell⟩ := mem_bitsOn.mp on
        obtain ⟨otherSet, otherCell⟩ := mem_bitsOn.mp also
        exact .inr ⟨bit, set, other, otherSet, apart, cell.trans otherCell.symm⟩

theorem execute_of_sprite {word : Word} (digit : word.low / 4096 = 0xD) (machine : Machine)
    (screen : Screen width height) (held : HeldKeys) :
    machine.execute screen held word = machine.drawSprite screen word.x word.y word.nibble := by
  have encoded : word.Encodes (.draw word.x word.y word.nibble) := ⟨digit, rfl, rfl, rfl⟩
  simp only [execute, Instruction.ofWord?_of_encodes encoded, perform]

theorem exists_draws (columns : 0 < width) (rows : 0 < height) (machine : Machine)
    (screen : Screen width height) (held : HeldKeys) {word : Word}
    (digit : word.low / 4096 = 0xD) :
    ∃ after drawn, machine.execute screen held word = .ok (after, drawn) ∧
      machine.Draws word screen after drawn := by
  obtain ⟨⟨after, drawn⟩, performed⟩ :=
    exists_drawSprite columns rows machine screen word.x word.y word.nibble
  obtain ⟨met, drew, rfl⟩ := drawSprite_eq_ok_iff.mp performed
  have flag : met = decide (machine.Meets word screen) := by
    rw [Bool.eq_iff_iff, decide_eq_true_iff, Screen.erased_toggleAll_iff drew,
      meets_iff columns rows]
    simp only [hits_sprite]
  refine ⟨_, drawn, (execute_of_sprite digit machine screen held).trans performed, ?_, ?_⟩
  · intro column row
    rw [Screen.pixel_toggleAll drew, hits_sprite]
  · simp only [flag, decide_eq_true_iff]

end Machine

namespace Screen

/-- Drawings one after the other toggle the places of their stamps. -/
theorem drawAll_of_toggleAll {screen final : Screen width height} {drawings : List Drawing}
    {erased : Bool}
    (toggled : screen.toggleAll (drawings.flatMap fun drawing => drawing.stamp.places) =
      .ok (final, erased)) :
    screen.drawAll drawings = .ok final := by
  induction drawings generalizing screen erased with
  | nil =>
      cases toggled
      rfl
  | cons drawing rest ih =>
      rw [List.flatMap_cons] at toggled
      obtain ⟨middle, met, later, drew, others, -⟩ := toggleAll_append_eq_ok_iff.mp toggled
      have performed := Machine.drawSprite_eq_ok_iff.mpr ⟨met, drew, rfl⟩
      rw [drawAll, Machine.execute_of_sprite drawing.draws, bind_eq_ok_iff]
      exact ⟨_, performed, ih others⟩

/-- Drawings with the same stamps in another order leave the same screen. -/
theorem drawAll_perm (columns : 0 < width) (rows : 0 < height) (screen : Screen width height)
    {drawings others : List Drawing}
    (same : (drawings.map Drawing.stamp).Perm (others.map Drawing.stamp)) :
    ∃ final, screen.drawAll drawings = .ok final ∧ screen.drawAll others = .ok final := by
  have places := same.flatMap_right Stamp.places
  rw [List.flatMap_map, List.flatMap_map] at places
  obtain ⟨⟨final, erased⟩, toggled⟩ := exists_toggleAll columns rows screen
    (drawings.flatMap fun drawing => drawing.stamp.places)
  obtain ⟨⟨other, met⟩, again⟩ := exists_toggleAll columns rows screen
    (others.flatMap fun drawing => drawing.stamp.places)
  obtain rfl := toggleAll_perm places toggled again
  exact ⟨final, drawAll_of_toggleAll toggled, drawAll_of_toggleAll again⟩

/-- A drawing that repeats another one takes it back. -/
theorem drawAll_repeated (columns : 0 < width) (rows : 0 < height) (screen : Screen width height)
    {first again : Drawing} (same : first.stamp = again.stamp) :
    screen.drawAll [first, again] = .ok screen := by
  obtain ⟨⟨middle, erased⟩, drew⟩ := exists_toggleAll columns rows screen first.stamp.places
  obtain ⟨⟨final, met⟩, drewAgain⟩ := exists_toggleAll columns rows middle first.stamp.places
  have toggled : screen.toggleAll ([first, again].flatMap fun drawing => drawing.stamp.places) =
      .ok (final, erased || met) := by
    simp only [List.flatMap_cons, List.flatMap_nil, List.append_nil, ← same]
    exact toggleAll_append_eq_ok_iff.mpr ⟨middle, erased, met, drew, drewAgain, rfl⟩
  rw [drawAll_of_toggleAll toggled, toggleAll_twice drew drewAgain]

end Screen

/-- Drawing changes each pixel once for each set bit of the sprite that falls on it, and the flag
tells whether a bit met a pixel that was on or another bit; everything else stays.  Repeating a
drawing takes it back, and the order of drawings does not count. -/
theorem draws_exactly (columns : 0 < width) (rows : 0 < height) (screen : Screen width height) :
    (∀ (machine : Machine) (held : HeldKeys) (word : Word), word.low / 4096 = 0xD →
      ∃ after drawn, machine.execute screen held word = .ok (after, drawn) ∧
        machine.Draws word screen after drawn) ∧
      (∀ first again : Drawing, first.stamp = again.stamp →
        screen.drawAll [first, again] = .ok screen) ∧
      ∀ drawings others : List Drawing,
        (drawings.map Drawing.stamp).Perm (others.map Drawing.stamp) →
          ∃ final, screen.drawAll drawings = .ok final ∧ screen.drawAll others = .ok final :=
  ⟨fun machine held _ digit => machine.exists_draws columns rows screen held digit,
    fun _ _ same => screen.drawAll_repeated columns rows same,
    fun _ _ same => screen.drawAll_perm columns rows same⟩

/-- Four bits in a row on a screen of three columns: the first and the last one share a pixel. -/
theorem draws_exactly_narrow :
    let machine := Machine.initial {}
    let held : HeldKeys := Vector.replicate 16 false
    let screen := Screen.blank 3 1
    let drawing : Drawing := ⟨machine, held, ⟨0xD001⟩, by decide⟩
    let other : Drawing := ⟨machine, held, ⟨0xD012⟩, by decide⟩
    (∃ drawn : Screen 3 1,
      machine.execute screen held ⟨0xD001⟩ = .ok (machine.setFlag 1, drawn) ∧
        drawn.pixel 0 0 = false ∧ drawn.pixel 1 0 = true ∧ drawn.pixel 2 0 = true) ∧
      screen.drawAll [drawing, drawing] = .ok screen ∧
      ∃ final, screen.drawAll [drawing, other] = .ok final ∧
        screen.drawAll [other, drawing] = .ok final := by
  intro machine held screen drawing other
  obtain ⟨exact, repeated, permuted⟩ :=
    draws_exactly (by decide : 0 < 3) (by decide : 0 < 1) screen
  obtain ⟨after, drawn, performed, drew⟩ := exact machine held ⟨0xD001⟩ (by decide)
  have met : machine.Meets ⟨0xD001⟩ screen := by decide +kernel
  have pixels : ∀ column, drawn.pixel column 0 = decide (column ≠ 0) := by
    intro column
    rw [drew.pixel_eq]
    revert column
    decide +kernel
  refine ⟨⟨drawn, ?_, pixels 0, pixels 1, pixels 2⟩, repeated _ _ rfl, ?_⟩
  · rw [performed, drew.machine_eq, if_pos met]
  · exact permuted _ _ (.swap _ _ _)

end ChipEight

import ChipEight.Precision

/-!
# The screen

A grid of pixels that are on or off.  Coordinates are integers of any size and wrap at the edges,
each pixel of a sprite by itself.  On a screen without columns or rows no coordinate has a place.

As text a screen has one line for each row, from the top down, with one text for a pixel that is on
and one for a pixel that is off.
-/

namespace ChipEight

/-- A grid of pixels with a fixed number of columns and rows. -/
structure Screen (width height : Nat) where
  /-- The pixels row by row from the top down, each row from left to right. -/
  pixels : Vector Bool (height * width)

namespace Screen

/-- The place along an edge where a coordinate falls. -/
def wrap? (size : Nat) (coordinate : Int) : Option (Fin size) :=
  if positive : 0 < size then
    have nonneg := Int.emod_nonneg coordinate (b := size) (by omega)
    have bound := Int.emod_lt_of_pos coordinate (b := size) (by omega)
    some ⟨(coordinate % size).toNat, by omega⟩
  else
    none

/-- The numbers of columns and rows of a screen, which may be zero. -/
def dimensions (precision : Precision) (width height : Int) : Except Failure (Nat × Nat) := do
  Extent.check precision [width, height]
  return (width.toNat, height.toNat)

variable {width height : Nat}

/-- Every pixel is off. -/
def blank (width height : Nat) : Screen width height :=
  ⟨Vector.replicate (height * width) false⟩

theorem place_lt (column : Fin width) (row : Fin height) :
    column.val + width * row.val < height * width :=
  calc column.val + width * row.val
    _ < width + width * row.val := Nat.add_lt_add_right column.isLt _
    _ = width * (row.val + 1) := by rw [Nat.mul_add, Nat.mul_one, Nat.add_comm]
    _ ≤ width * height := Nat.mul_le_mul_left width row.isLt
    _ = height * width := Nat.mul_comm width height

/-- The place of a pixel among all of them. -/
def place (column : Fin width) (row : Fin height) : Fin (height * width) :=
  ⟨column.val + width * row.val, place_lt column row⟩

/-- Whether a pixel is on. -/
def pixel (screen : Screen width height) (column : Fin width) (row : Fin height) : Bool :=
  screen.pixels[place column row]

/-- Change one pixel to its opposite. -/
def flip (screen : Screen width height) (column : Fin width) (row : Fin height) :
    Screen width height :=
  ⟨screen.pixels.set (place column row) (!screen.pixel column row)⟩

/-- The pixel where two coordinates fall, if there is one. -/
def locate (column row : Int) : Except Failure (Fin width × Fin height) :=
  match wrap? width column, wrap? height row with
  | some column, some row => .ok (column, row)
  | _, _ => .error .emptyScreen

/-- Change the pixel at two coordinates to its opposite. The second part tells whether that turned
it off. -/
def toggle (screen : Screen width height) (column row : Int) :
    Except Failure (Screen width height × Bool) := do
  let (column, row) ← locate column row
  return (screen.flip column row, screen.pixel column row)

/-- Whether the pixel at two coordinates is on. -/
def isOn (screen : Screen width height) (column row : Int) : Except Failure Bool := do
  let (column, row) ← locate column row
  return screen.pixel column row

/-- Turn every pixel off. -/
def clear (_ : Screen width height) : Screen width height :=
  blank width height

/-- How many pixels are on. -/
def litCount (screen : Screen width height) : Nat :=
  screen.pixels.count true

/-- Toggle the pixels at a list of coordinates, in order. The second part tells whether any of them
was turned off. -/
def toggleAll (screen : Screen width height) :
    List (Int × Int) → Except Failure (Screen width height × Bool)
  | [] => .ok (screen, false)
  | (column, row) :: rest => do
      let (toggled, erased) ← screen.toggle column row
      let (final, erasedLater) ← toggled.toggleAll rest
      return (final, erased || erasedLater)

/-- Toggle the pixels at a list of coordinates in place, one after the other. If there is no place
for one of them, the ones before it stay toggled. The second part tells whether any of them was
turned off. -/
def toggleInPlace (screen : Screen width height) :
    List (Int × Int) → Screen width height × Except Failure Bool
  | [] => (screen, .ok false)
  | (column, row) :: rest =>
      match screen.toggle column row with
      | .error failure => (screen, .error failure)
      | .ok (toggled, erased) =>
          let (final, erasedLater) := toggled.toggleInPlace rest
          (final, erasedLater.map (erased || ·))

/-- Offsets of the set bits of a byte, the highest bit lying leftmost. -/
def setBits (byte : UInt8) : List Nat :=
  (List.range 8).filter fun offset => byte.toNat.testBit (7 - offset)

/-- Coordinates of the set pixels of a sprite, row by row from its upper left corner. -/
def spritePixels (column row : Nat) (sprite : List UInt8) : List (Int × Int) :=
  sprite.zipIdx.flatMap fun (byte, rowOffset) =>
    (setBits byte).map fun columnOffset =>
      (((column + columnOffset : Nat) : Int), ((row + rowOffset : Nat) : Int))

/-- Toggle the pixels of a sprite. The second part tells whether it met a pixel that was on. -/
def draw (screen : Screen width height) (column row : Nat) (sprite : List UInt8) :
    Except Failure (Screen width height × Bool) :=
  screen.toggleAll (spritePixels column row sprite)

/-- The text of one row. -/
def rowText (screen : Screen width height) (lit unlit : String) (row : Fin height) : String :=
  String.join ((List.finRange width).map fun column =>
    if screen.pixel column row then lit else unlit)

/-- The texts of all rows. -/
def rowTexts (screen : Screen width height) (lit unlit : String) : List String :=
  (List.finRange height).map (screen.rowText lit unlit)

/-- The rows with a line break between them. -/
def text (screen : Screen width height) (lit unlit : String) : String :=
  "\n".intercalate (screen.rowTexts lit unlit)

/-- The text with a number sign for a pixel that is on and a point for one that is off. -/
def plainText (screen : Screen width height) : String :=
  screen.text "#" "."

/-- The dimensions of a screen and how many pixels are on. -/
def summary (screen : Screen width height) : String :=
  s!"Display({width}x{height}, lit={screen.litCount})"

/-- Two pixels at one place have the same column and the same row. -/
theorem place_inj {column other : Fin width} {row level : Fin height} :
    place column row = place other level ↔ column = other ∧ row = level := by
  refine ⟨fun same => ?_, fun ⟨sameColumn, sameRow⟩ => by rw [sameColumn, sameRow]⟩
  have equal : column.val + width * row.val = other.val + width * level.val :=
    congrArg Fin.val same
  have positive : 0 < width := Nat.zero_lt_of_lt column.isLt
  have columns := congrArg (· % width) equal
  have rows := congrArg (· / width) equal
  simp only [Nat.add_mul_mod_self_left, Nat.mod_eq_of_lt column.isLt,
    Nat.mod_eq_of_lt other.isLt] at columns
  simp only [Nat.add_mul_div_left _ _ positive, Nat.div_eq_of_lt column.isLt,
    Nat.div_eq_of_lt other.isLt, Nat.zero_add] at rows
  exact ⟨Fin.ext columns, Fin.ext rows⟩

/-- Every place is that of a pixel. -/
theorem exists_place (index : Fin (height * width)) :
    ∃ (column : Fin width) (row : Fin height), place column row = index := by
  have positive : 0 < width := by
    rcases Nat.eq_zero_or_pos width with zero | positive
    · exact absurd index.isLt (by simp [zero])
    · exact positive
  refine ⟨⟨index % width, Nat.mod_lt _ positive⟩, ⟨index / width, ?_⟩, ?_⟩
  · exact Nat.div_lt_of_lt_mul (Nat.mul_comm height width ▸ index.isLt)
  · exact Fin.ext (Nat.mod_add_div index.val width)

theorem ext_pixel {left right : Screen width height}
    (same : ∀ column row, left.pixel column row = right.pixel column row) : left = right := by
  obtain ⟨left⟩ := left
  obtain ⟨right⟩ := right
  congr 1
  ext index bound
  obtain ⟨column, row, found⟩ := exists_place ⟨index, bound⟩
  have equal := same column row
  simp only [pixel, found] at equal
  exact equal

@[simp]
theorem pixel_blank (column : Fin width) (row : Fin height) :
    (blank width height).pixel column row = false := by
  simp [pixel, blank]

theorem pixel_flip (screen : Screen width height) (column place : Fin width)
    (row level : Fin height) :
    (screen.flip column row).pixel place level =
      (screen.pixel place level ^^ decide (column = place ∧ row = level)) := by
  by_cases same : column = place ∧ row = level
  · obtain ⟨rfl, rfl⟩ := same
    simp [pixel, flip]
  · have apart : (Screen.place column row).val ≠ (Screen.place place level).val := fun equal =>
      same (place_inj.mp (Fin.ext equal))
    simp [pixel, flip, apart, same]

theorem wrap?_eq_some_iff {size : Nat} {coordinate : Int} {place : Fin size} :
    wrap? size coordinate = some place ↔ coordinate % size = place.val := by
  have positive : 0 < size := Nat.zero_lt_of_lt place.isLt
  have nonneg := Int.emod_nonneg coordinate (b := size) (by omega)
  simp only [wrap?, dif_pos positive, Option.some.injEq, Fin.ext_iff]
  omega

theorem exists_locate (columns : 0 < width) (rows : 0 < height) (column row : Int) :
    ∃ place : Fin width × Fin height, locate column row = .ok place := by
  simp [locate, wrap?, columns, rows]

/-- On a screen with columns and rows every pixel can be toggled. -/
theorem exists_toggleAll (columns : 0 < width) (rows : 0 < height)
    (screen : Screen width height) (places : List (Int × Int)) :
    ∃ result, screen.toggleAll places = .ok result := by
  induction places generalizing screen with
  | nil => exact ⟨_, rfl⟩
  | cons place rest ih =>
      obtain ⟨located, found⟩ := exists_locate columns rows place.1 place.2
      obtain ⟨result, toggled⟩ := ih (screen.flip located.1 located.2)
      simp [toggleAll, toggle, found, toggled, bind, Except.bind, pure, Except.pure]

end Screen

end ChipEight

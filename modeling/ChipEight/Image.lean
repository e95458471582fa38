import ChipEight.Failure
import ChipEight.Screen

/-!
# Pictures of the screen

A picture shows each pixel of the screen as a square of equal side.  The pixel at a place of the
picture is the one that the place falls on when both coordinates are divided by the side.

A picture is a list of rows, whereas surfaces, which the window system paints on, are filled from a
list of columns.  The window system lies outside, so surfaces are a parameter with what may be
relied upon.
-/

namespace ChipEight

/-! ## Palettes

A palette gives the two colours of a picture.  Six of them have a name.
-/

/-- A colour by its red, green and blue parts. -/
structure Colour where
  /-- The red part. -/
  red : UInt8
  /-- The green part. -/
  green : UInt8
  /-- The blue part. -/
  blue : UInt8
  deriving DecidableEq, Repr

/-- No colour at all. -/
def Colour.black : Colour := ⟨0, 0, 0⟩

/-- The colours of a picture. -/
structure Palette where
  /-- The colour of a pixel that is off. -/
  unlit : Colour
  /-- The colour of a pixel that is on. -/
  lit : Colour
  deriving DecidableEq, Repr

namespace Palette

/-- The colour of a pixel. -/
def colour (palette : Palette) (isLit : Bool) : Colour :=
  if isLit then palette.lit else palette.unlit

/-- The palette that is used unless another one is named: green on black. -/
def classic : Palette := ⟨⟨0, 0, 0⟩, ⟨0, 255, 0⟩⟩

/-- The palettes by name, in alphabetical order. -/
def schemes : List (String × Palette) :=
  [("amber", ⟨⟨0, 0, 0⟩, ⟨255, 176, 0⟩⟩),
    ("blue", ⟨⟨0, 0, 64⟩, ⟨0, 255, 255⟩⟩),
    ("classic", classic),
    ("paper", ⟨⟨255, 255, 255⟩, ⟨0, 0, 0⟩⟩),
    ("retro", ⟨⟨64, 0, 64⟩, ⟨255, 255, 0⟩⟩),
    ("white", ⟨⟨0, 0, 0⟩, ⟨255, 255, 255⟩⟩)]

/-- The names of the palettes, in alphabetical order. -/
def names : List String :=
  schemes.map Prod.fst

/-- The palette with a given name. -/
def named (name : String) : Except Failure Palette :=
  match schemes.lookup name with
  | some palette => .ok palette
  | none => .error (.unknownScheme name names)

theorem exists_named {name : String} (known : name ∈ names) :
    ∃ palette, named name = .ok palette := by
  obtain ⟨scheme, member, same⟩ := List.mem_map.mp known
  have found := List.lookup_isSome_iff.mpr ⟨scheme, member, beq_iff_eq.mpr same.symm⟩
  obtain ⟨palette, found⟩ := Option.isSome_iff_exists.mp found
  exact ⟨palette, by simp only [named, found]⟩

theorem named_of_unknown {name : String} (unknown : name ∉ names) :
    named name = .error (.unknownScheme name names) := by
  have missing : schemes.lookup name = none :=
    List.lookup_eq_none_iff.mpr fun scheme member =>
      bne_iff_ne.mpr fun same => unknown (List.mem_map.mpr ⟨scheme, member, same.symm⟩)
  simp only [named, missing]

/-- The palette with the chosen name, if one was chosen. -/
def chosen (name : Option String) : Except Failure Palette := do
  named (← Failure.Need.scheme.require name)

end Palette

/-! ## Rows and columns -/

/-- A rectangle of colours. -/
structure Image where
  /-- Number of columns. -/
  width : Nat
  /-- Number of rows. -/
  height : Nat
  /-- The rows from the top down, each from left to right. -/
  rows : Array (Array Colour)

namespace Image

/-- The colour at a place, given by its column and its row. -/
def colourAt? (image : Image) (column row : Nat) : Option Colour :=
  image.rows[row]?.bind (·[column]?)

/-- The columns from left to right, each from the top down. -/
def columns (image : Image) : Array (Array Colour) :=
  (Array.range image.width).map fun column => image.rows.map fun row => row.getD column .black

/-- Each element as many times as asked for, in place. -/
def stretch {Element : Type} (scale : Nat) (elements : List Element) : List Element :=
  elements.flatMap (List.replicate scale)

/-- How many places have a given colour. -/
def count (image : Image) (colour : Colour) : Nat :=
  image.rows.foldl (fun total row => total + row.count colour) 0

end Image

/-- What a window system offers to paint on.  A place is given by its column and its row. -/
structure Surfaces where
  /-- Something to paint on. -/
  Surface : Type
  /-- The colour that a surface shows at a place, if it has that place. -/
  colourAt? : Surface → Nat → Nat → Option Colour
  /-- The surface of a new window with some numbers of columns and rows. -/
  ofWindow : Nat → Nat → Surface
  /-- A surface filled from a list of columns. -/
  ofColumns : Array (Array Colour) → Surface
  /-- A surface with another one copied onto its upper left corner. -/
  blit : Surface → Surface → Surface
  isSome_ofWindow : ∀ width height column row,
    (colourAt? (ofWindow width height) column row).isSome = decide (column < width ∧ row < height)
  colourAt?_ofColumns : ∀ columns column row,
    colourAt? (ofColumns columns) column row = columns[column]?.bind (·[row]?)
  colourAt?_blit : ∀ target source column row,
    colourAt? (blit target source) column row =
      (colourAt? target column row).map fun old => (colourAt? source column row).getD old

namespace Surfaces

/-- Surfaces in memory, as lists of columns. -/
def memory : Surfaces where
  Surface := Array (Array Colour)
  colourAt? surface column row := surface[column]?.bind (·[row]?)
  ofWindow width height := Array.replicate width (Array.replicate height .black)
  ofColumns columns := columns
  blit target source :=
    target.mapIdx fun column places =>
      places.mapIdx fun row old => (source[column]?.bind (·[row]?)).getD old
  isSome_ofWindow width height column row := by
    by_cases across : column < width <;> by_cases down : row < height <;> simp [across, down]
  colourAt?_ofColumns _ _ _ := rfl
  colourAt?_blit target source column row := by
    cases within : target[column]? <;> simp [Array.getElem?_mapIdx, within]

/-- The picture that a part of a surface shows, with some numbers of columns and rows. -/
def image (surfaces : Surfaces) (surface : surfaces.Surface) (width height : Nat) : Image where
  width := width
  height := height
  rows := (Array.range height).map fun row =>
    (Array.range width).map fun column =>
      (surfaces.colourAt? surface column row).getD .black

end Surfaces

namespace Screen

variable {width height : Nat}

/-- The colours of one row, one for each pixel. -/
def rowColours (screen : Screen width height) (palette : Palette) (row : Fin height) :
    List Colour :=
  (List.finRange width).map fun column => palette.colour (screen.pixel column row)

/-- The picture in which a pixel is a square with a given side. -/
def image (screen : Screen width height) (scale : Int) (palette : Palette) :
    Except Failure Image :=
  if 1 ≤ scale then
    let side := scale.toNat
    let row (index : Fin height) : Array Colour :=
      (Image.stretch side (screen.rowColours palette index)).toArray
    .ok
      { width := width * side
        height := height * side
        rows := (Image.stretch side ((List.finRange height).map row)).toArray }
  else
    .error (.scaleTooSmall scale)

/-- The picture in which a pixel is a square with a given side. Bounded integers count its columns
and rows, and it is stretched first downwards and then sideways. -/
def boundedImage (screen : Screen width height) (scale : Int) (palette : Palette) :
    Except Failure Image := do
  let rows := Precision.bounded.reduce (height * scale)
  let columns := Precision.bounded.reduce (width * scale)
  if scale < 1 then throw (.scaleTooSmall scale)
  if !Precision.bounded.admits scale then throw .numberTooLarge
  Extent.check .bounded [rows, width, 3]
  Extent.check .bounded [rows, columns, 3]
  return { (← screen.image scale palette) with width := columns.toNat }

/-- The picture in the colours of a named palette. -/
def paint (screen : Screen width height) (scale : Int) (scheme : String) :
    Except Failure Image := do
  screen.boundedImage scale (← Palette.named scheme)

end Screen
end ChipEight

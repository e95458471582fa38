import ChipEight.Proofs.Screen.Picture
import ChipEight.Window

/-!
# What is seen of a screen

A picture of a screen, and each frame that a window shows, enlarges the pixels of the screen in the
colours of a palette.
-/

namespace ChipEight

namespace Image

/-- Whether there are as many rows, and in each row as many places, as a picture is said to have. -/
structure Rectangular (image : Image) : Prop where
  rows_size_eq : image.rows.size = image.height
  row_size_eq : ∀ row ∈ image.rows, row.size = image.width

theorem colourAt?_of_lt {image : Image} (even : image.Rectangular) {column row : Nat}
    (across : column < image.width) (down : row < image.height) :
    ∃ (level : row < image.rows.size) (place : column < image.rows[row].size),
      image.colourAt? column row = some image.rows[row][column] := by
  have level : row < image.rows.size := even.rows_size_eq ▸ down
  have place : column < image.rows[row].size := by
    rwa [even.row_size_eq _ (Array.getElem_mem level)]
  exact ⟨level, place, by simp [colourAt?, level, place]⟩

/-- Pictures that have the same colours have the same rows. -/
theorem ext_colourAt? {left right : Image} (leftEven : left.Rectangular)
    (rightEven : right.Rectangular) (width : left.width = right.width)
    (height : left.height = right.height)
    (same : ∀ column < left.width, ∀ row < left.height,
      left.colourAt? column row = right.colourAt? column row) : left = right := by
  have rows : left.rows = right.rows := by
    refine Array.ext (by rw [leftEven.rows_size_eq, height, rightEven.rows_size_eq]) ?_
    intro row leftLevel rightLevel
    have down : row < left.height := leftEven.rows_size_eq ▸ leftLevel
    refine Array.ext ?_ fun column leftPlace rightPlace => ?_
    · rw [leftEven.row_size_eq _ (Array.getElem_mem leftLevel), width,
        rightEven.row_size_eq _ (Array.getElem_mem rightLevel)]
    · have across : column < left.width :=
        leftEven.row_size_eq _ (Array.getElem_mem leftLevel) ▸ leftPlace
      have seen := same column across row down
      simpa [colourAt?, leftLevel, rightLevel, leftPlace, rightPlace] using seen
  obtain ⟨leftWidth, leftHeight, leftRows⟩ := left
  subst width height rows
  rfl

/-- A place of a column is a place of a row. -/
theorem getElem?_columns {image : Image} (even : image.Rectangular) {column row : Nat}
    (across : column < image.width) (down : row < image.height) :
    image.columns[column]?.bind (·[row]?) = image.colourAt? column row := by
  obtain ⟨level, place, seen⟩ := image.colourAt?_of_lt even across down
  rw [seen]
  simp [columns, across, level, Array.getD, place]

end Image

namespace Surfaces

variable {surfaces : Surfaces} {target : surfaces.Surface} {width height : Nat}

/-- Whether a surface has some numbers of columns and rows. -/
def HasSize (surfaces : Surfaces) (surface : surfaces.Surface) (width height : Nat) : Prop :=
  ∀ column row,
    (surfaces.colourAt? surface column row).isSome = decide (column < width ∧ row < height)

/-- A picture that is copied column by column to a surface of its size is what the surface shows. -/
theorem colourAt?_blit_columns {image : Image} (even : image.Rectangular)
    (sized : surfaces.HasSize target image.width image.height) {column row : Nat}
    (across : column < image.width) (down : row < image.height) :
    surfaces.colourAt? (surfaces.blit target (surfaces.ofColumns image.columns)) column row =
      image.colourAt? column row := by
  have covered := sized column row
  rw [decide_eq_true ⟨across, down⟩, Option.isSome_iff_exists] at covered
  obtain ⟨old, shown⟩ := covered
  obtain ⟨_, _, seen⟩ := image.colourAt?_of_lt even across down
  rw [surfaces.colourAt?_blit, surfaces.colourAt?_ofColumns, shown,
    image.getElem?_columns even across down, seen]
  rfl

theorem rectangular_image (surface : surfaces.Surface) (width height : Nat) :
    (surfaces.image surface width height).Rectangular where
  rows_size_eq := by simp [image]
  row_size_eq row member := by
    obtain ⟨level, -, rfl⟩ := Array.mem_map.mp member
    simp [image]

theorem colourAt?_image (surface : surfaces.Surface) {column row : Nat} (across : column < width)
    (down : row < height) :
    (surfaces.image surface width height).colourAt? column row =
      some ((surfaces.colourAt? surface column row).getD .black) := by
  simp [image, Image.colourAt?, across, down]

/-- A surface of the size of a picture shows the picture that was copied to it. -/
theorem image_blit_columns {image : Image} (even : image.Rectangular)
    (sized : surfaces.HasSize target image.width image.height) :
    surfaces.image (surfaces.blit target (surfaces.ofColumns image.columns)) image.width
      image.height = image := by
  refine Image.ext_colourAt? (rectangular_image _ _ _) even rfl rfl fun column across row down => ?_
  replace across : column < image.width := across
  replace down : row < image.height := down
  obtain ⟨_, _, seen⟩ := image.colourAt?_of_lt even across down
  rw [colourAt?_image _ across down, colourAt?_blit_columns even sized across down, seen]
  rfl

end Surfaces

theorem Screen.Enlarges.rectangular {width height side : Nat} {screen : Screen width height}
    {palette : Palette} {image : Image} (enlarges : screen.Enlarges side palette image) :
    image.Rectangular where
  rows_size_eq := enlarges.rows_size_eq.trans enlarges.height_eq.symm
  row_size_eq row member := (enlarges.row_size_eq row member).trans enlarges.width_eq.symm

namespace Window

variable {settings : WindowSettings}

/-- The size of a window in places, if it has any. -/
theorem toNat_mul_scale (sized : 1 ≤ settings.scale) (count : Nat) :
    (count * settings.scale).toNat = count * settings.scale.toNat := by
  rw [Int.toNat_mul (by omega) (by omega), Int.toNat_natCast]

theorem chosen_of_paint {screen : Screen 64 32} {image : Image}
    (painted : paint settings screen = .ok image) :
    ∃ palette, Palette.chosen settings.scheme = .ok palette ∧ 1 ≤ settings.scale := by
  obtain ⟨surface, painted, -⟩ := bind_eq_ok_iff.mp painted
  obtain ⟨palette, chosen, painted⟩ := bind_eq_ok_iff.mp painted
  refine ⟨palette, chosen, ?_⟩
  by_contra small
  rw [Screen.boundedImage_of_lt_one (not_le.mp small)] at painted
  cases painted

/-- On a surface whose places can be numbered a screen can be painted. -/
theorem paintOn_of_numbered {palette : Palette}
    (chosen : Palette.chosen settings.scheme = .ok palette) (sized : 1 ≤ settings.scale)
    (numbered : Screen.Numbered 64 32 settings.scale) (target : settings.surfaces.Surface)
    (screen : Screen 64 32) :
    paintOn settings target screen =
      .ok (settings.surfaces.blit target
        (settings.surfaces.ofColumns (screen.picture settings.scale.toNat palette).columns)) := by
  simp only [paintOn, chosen, bind, Except.bind, pure, Except.pure,
    Screen.boundedImage_of_numbered sized numbered]

/-- A window shows the picture of the screen that was painted in it. -/
theorem paint_of_numbered {palette : Palette}
    (chosen : Palette.chosen settings.scheme = .ok palette) (sized : 1 ≤ settings.scale)
    (numbered : Screen.Numbered 64 32 settings.scale) (screen : Screen 64 32) :
    paint settings screen = .ok (screen.picture settings.scale.toNat palette) := by
  have enlarges : screen.Enlarges settings.scale.toNat palette _ :=
    screen.enlarges_picture (by omega) palette
  have width : (64 * settings.scale).toNat = (screen.picture settings.scale.toNat palette).width :=
    toNat_mul_scale sized 64
  have height : (32 * settings.scale).toNat =
      (screen.picture settings.scale.toNat palette).height := toNat_mul_scale sized 32
  have shown := settings.surfaces.image_blit_columns enlarges.rectangular
    (settings.surfaces.isSome_ofWindow _ _)
  simp only [paint, paintOn_of_numbered chosen sized numbered, bind, Except.bind, pure, Except.pure,
    width, height, shown]

/-- What a frame shows was painted from the screen of that time. -/
theorem paint_of_mem_showFrames {window : Window} {pending : List Notice}
    {script : List (List WindowEvent)} {frame : WindowFrame}
    (shown : frame ∈ (showFrames settings window pending script).frames) :
    paint settings frame.console.screen = .ok frame.image := by
  induction script generalizing window pending with
  | nil => cases shown
  | cons events rest ih =>
      simp only [showFrames] at shown
      split at shown
      · cases shown
      · split at shown
        · cases shown
        · rename_i painted
          rcases List.mem_cons.mp shown with rfl | later
          · exact painted
          · split at later
            · cases later
            · exact ih later

/-- The three bytes of every place of a window span as much as its bounded integers must count. -/
theorem span_sides (sized : 1 ≤ settings.scale) :
    Extent.span [64 * settings.scale, 32 * settings.scale, 3] =
      64 * settings.scale * (32 * settings.scale) * 3 := by
  have across : 64 * settings.scale ≠ 0 := by omega
  have down : 32 * settings.scale ≠ 0 := by omega
  have parts : (3 : Int) ≠ 0 := by decide
  rw [Extent.span_cons, Extent.span_cons, Extent.span_cons, if_neg across, if_neg down,
    if_neg parts]
  exact (mul_assoc _ _ _).symm

theorem sides_natural (sized : 1 ≤ settings.scale) :
    ∀ side ∈ [64 * settings.scale, 32 * settings.scale, 3], 0 ≤ side := by
  simp only [List.forall_mem_cons, List.not_mem_nil, false_implies, implies_true, and_true]
  omega

/-- A window whose bytes can be counted can have its size. -/
theorem checkSize_of_le (sized : 1 ≤ settings.scale)
    (counted : 64 * settings.scale * (32 * settings.scale) * 3 ≤ Int64.maxValue.toInt) :
    checkSize settings = .ok () :=
  Extent.check_bounded (sides_natural sized) ((span_sides sized).trans_le counted)

/-- Any other window is refused. -/
theorem checkSize_of_lt (sized : 1 ≤ settings.scale)
    (large : Int64.maxValue.toInt < 64 * settings.scale * (32 * settings.scale) * 3) :
    checkSize settings = .error .dimensionTooLarge ∨ checkSize settings = .error .gridTooLarge := by
  have natural : ¬ [64 * settings.scale, 32 * settings.scale, 3].any (· < 0) = true := by
    simpa using sides_natural sized
  have refused : checkSize settings ≠ .ok () := fun opened =>
    absurd (Extent.span_le_of_check opened) (not_le.mpr (span_sides sized ▸ large))
  simp only [checkSize, Extent.check, if_neg natural] at refused ⊢
  split_ifs at refused ⊢
  · exact .inl rfl
  · exact .inr rfl
  · exact (refused rfl).elim

/-- A window that can have its size can be painted. -/
theorem numbered_of_checkSize (sized : 1 ≤ settings.scale) (opened : checkSize settings = .ok ()) :
    Screen.Numbered 64 32 settings.scale := by
  have spanned := Extent.span_le_of_check opened
  have side := Extent.le_span (sides_natural sized)
    (List.mem_cons_self (a := 64 * settings.scale))
  refine ⟨by omega, ?_⟩
  calc Extent.span [32 * settings.scale, 64 * settings.scale, 3]
    _ = Extent.span [64 * settings.scale, 32 * settings.scale, 3] := by
      simp only [Extent.span_cons, mul_left_comm]
    _ ≤ Int64.maxValue.toInt := spanned

/-- A window shows a screen in the colours of a palette: be it new or painted on before, each of its
places has the colour of the pixel that it falls on. -/
structure Shows (settings : WindowSettings) (palette : Palette) (screen : Screen 64 32)
    (image : Image) : Prop where
  /-- What is seen enlarges the screen. -/
  enlarges : screen.Enlarges settings.scale.toNat palette image
  /-- It is what the display itself paints. -/
  painted : screen.boundedImage settings.scale palette = .ok image
  /-- It does not matter what was on the surface before. -/
  covers : ∀ target : settings.surfaces.Surface,
    settings.surfaces.HasSize target (64 * settings.scale.toNat) (32 * settings.scale.toNat) →
      ∃ surface, paintOn settings target screen = .ok surface ∧
        ∀ (column : Fin (64 * settings.scale.toNat)) (row : Fin (32 * settings.scale.toNat)),
          settings.surfaces.colourAt? surface column row =
            some (palette.colour (screen.pixel column.divNat row.divNat))

theorem shows_picture {palette : Palette} (chosen : Palette.chosen settings.scheme = .ok palette)
    (sized : 1 ≤ settings.scale) (numbered : Screen.Numbered 64 32 settings.scale)
    (screen : Screen 64 32) :
    Shows settings palette screen (screen.picture settings.scale.toNat palette) := by
  have enlarges : screen.Enlarges settings.scale.toNat palette _ :=
    screen.enlarges_picture (by omega) palette
  refine ⟨enlarges, Screen.boundedImage_of_numbered sized numbered _ _, fun target covered => ?_⟩
  refine ⟨_, paintOn_of_numbered chosen sized numbered target screen, fun column row => ?_⟩
  exact (settings.surfaces.colourAt?_blit_columns enlarges.rectangular covered column.isLt
    row.isLt).trans (enlarges.colour_eq column row)

/-- Each frame of a window shows the screen of its time in the chosen colours. -/
theorem shows_of_mem_run {console : WindowConsole} {batches : List (List WindowEvent)}
    {frame : WindowFrame} (shown : frame ∈ (run settings console batches).frames) :
    ∃ palette, Palette.chosen settings.scheme = .ok palette ∧ 1 ≤ settings.scale ∧
      Shows settings palette frame.console.screen frame.image := by
  simp only [run] at shown
  split at shown
  · cases shown
  · rename_i opened
    split at shown
    · cases shown
    · have painted := paint_of_mem_showFrames shown
      obtain ⟨palette, chosen, sized⟩ := chosen_of_paint painted
      have numbered := numbered_of_checkSize sized opened
      rw [paint_of_numbered chosen sized numbered] at painted
      have seen := Except.ok.inj painted
      exact ⟨palette, chosen, sized, seen ▸ shows_picture chosen sized numbered _⟩

end Window

namespace Screen

variable {width height : Nat}

/-- What pictures of a screen show in the colours of a palette. -/
structure Scales (screen : Screen width height) (palette : Palette) : Prop where
  /-- A scale of less than one is refused. -/
  refuses : ∀ scale < 1, screen.image scale palette = .error (.scaleTooSmall scale) ∧
    screen.boundedImage scale palette = .error (.scaleTooSmall scale)
  /-- For every other scale there is a picture, which bounded integers paint if they can number
  it. -/
  paints : ∀ scale, 1 ≤ scale → ∃ image, screen.image scale palette = .ok image ∧
    (Numbered width height scale → screen.boundedImage scale palette = .ok image) ∧
      screen.Enlarges scale.toNat palette image
  /-- A scale that bounded integers cannot hold is refused by them. -/
  refusesBeyond : ∀ scale, Int64.maxValue.toInt < scale →
    screen.boundedImage scale palette = .error .numberTooLarge

theorem scales (screen : Screen width height) (palette : Palette) : screen.Scales palette where
  refuses scale small :=
    ⟨by simp only [image, if_neg (not_le.mpr small)], boundedImage_of_lt_one small screen palette⟩
  paints scale sized :=
    ⟨screen.picture scale.toNat palette, image_eq_picture sized screen palette,
      fun numbered => boundedImage_of_numbered sized numbered screen palette,
      screen.enlarges_picture (by omega) palette⟩
  refusesBeyond scale beyond := boundedImage_of_beyond beyond screen palette

end Screen

/-- Every screen is enlarged exactly, be it in a picture or in the frames of a window. -/
theorem enlarged_exactly :
    (∀ {width height : Nat} (screen : Screen width height) (palette : Palette),
      screen.Scales palette) ∧
    ∀ (settings : WindowSettings) (console : WindowConsole) (batches : List (List WindowEvent)),
      ∀ frame ∈ (Window.run settings console batches).frames,
        ∃ palette, Palette.chosen settings.scheme = .ok palette ∧ 1 ≤ settings.scale ∧
          Window.Shows settings palette frame.console.screen frame.image :=
  ⟨Screen.scales, fun _ _ _ _ => Window.shows_of_mem_run⟩

/-- A screen of three columns and two rows, with the last pixel of its first row on, and a window
that shows a new console. -/
theorem enlarged_exactly_corner :
    let screen := (Screen.blank 3 2).flip 2 0
    let settings : WindowSettings := { scale := 2, scheme := some "amber", channels := 0 }
    (∃ image, screen.boundedImage 2 .classic = .ok image ∧
      image.colourAt? 5 1 = some ⟨0, 255, 0⟩ ∧ image.colourAt? 1 3 = some ⟨0, 0, 0⟩ ∧
        image.count ⟨0, 255, 0⟩ = 4) ∧
      ∃ frame ∈ (Window.run settings (.initial {} 64 32) []).frames, frame.image.width = 128 := by
  intro screen settings
  obtain ⟨pictures, frames⟩ := enlarged_exactly
  constructor
  · obtain ⟨image, -, painted, enlarges⟩ := (pictures screen .classic).paints 2 (by decide)
    refine ⟨image, painted ⟨by decide, by decide⟩, ?_, ?_, ?_⟩
    · exact (enlarges.colour_eq ⟨5, by decide⟩ ⟨1, by decide⟩).trans (by decide)
    · exact (enlarges.colour_eq ⟨1, by decide⟩ ⟨3, by decide⟩).trans (by decide)
    · exact (enlarges.count_eq (by decide)).trans (by decide)
  · have shown : (Window.run settings (.initial {} 64 32) []).frames.length = 1 := by
      decide +kernel
    obtain ⟨frame, member⟩ := List.exists_mem_of_length_pos (shown ▸ Nat.one_pos)
    obtain ⟨palette, -, -, shows⟩ := frames settings _ _ frame member
    exact ⟨frame, member, shows.enlarges.width_eq⟩

/-- Bounded integers paint no picture of a scale that they cannot hold, be the screen empty or
not. -/
theorem no_picture_beyond_numbers :
    (1 : Int) ≤ 9223372036854775808 ∧
      (∀ image, (Screen.blank 1 0).boundedImage 9223372036854775808 .classic ≠ .ok image) ∧
        ∀ image, (Screen.blank 1 1).boundedImage 9223372036854775808 .classic ≠ .ok image := by
  have beyond : Int64.maxValue.toInt < 9223372036854775808 := by decide
  refine ⟨by decide, fun image painted => ?_, fun image painted => ?_⟩
  · rw [Screen.boundedImage_of_beyond beyond] at painted
    cases painted
  · rw [Screen.boundedImage_of_beyond beyond] at painted
    cases painted

end ChipEight

import Mathlib.Algebra.BigOperators.Fin
import Mathlib.Algebra.BigOperators.Group.List.Basic
import Mathlib.Algebra.BigOperators.Ring.List
import Mathlib.Algebra.Order.Ring.Int
import Mathlib.Tactic.Positivity
import Mathlib.Tactic.Ring
import Mathlib.Tactic.SplitIfs
import ChipEight.Image
import ChipEight.Proofs.Screen.Parity
import ChipEight.Screen

/-!
# Pictures and text of a screen

A screen is shown as a picture of enlarged pixels or as lines of text.
-/

namespace ChipEight

/-! ## Enlarged pixels

A picture shows each pixel of a screen as a square: the colour at a place is that of the pixel on
which the place falls when both of its coordinates are divided by the side of the squares.
-/

namespace Image

section Stretch

variable {Element : Type}

theorem stretch_cons (scale : Nat) (element : Element) (rest : List Element) :
    stretch scale (element :: rest) = List.replicate scale element ++ stretch scale rest := rfl

theorem length_stretch (scale : Nat) (elements : List Element) :
    (stretch scale elements).length = elements.length * scale := by
  induction elements with
  | nil => simp [stretch]
  | cons element rest ih =>
      rw [stretch_cons, List.length_append, List.length_replicate, ih, List.length_cons,
        Nat.succ_mul, Nat.add_comm]

/-- What stands at a place of a stretched list stood where the quotient of the place points. -/
theorem getElem?_stretch {scale : Nat} (positive : 0 < scale) (elements : List Element)
    (place : Nat) : (stretch scale elements)[place]? = elements[place / scale]? := by
  induction elements generalizing place with
  | nil => simp [stretch]
  | cons element rest ih =>
      rw [stretch_cons]
      rcases Nat.lt_or_ge place scale with within | beyond
      · rw [List.getElem?_append_left (by simpa using within), Nat.div_eq_of_lt within]
        simp [within]
      · rw [List.getElem?_append_right (by simpa using beyond), List.length_replicate, ih,
          Nat.div_eq_sub_div positive beyond, List.getElem?_cons_succ]

theorem count_stretch [DecidableEq Element] (scale : Nat) (elements : List Element)
    (element : Element) :
    (stretch scale elements).count element = scale * elements.count element := by
  induction elements with
  | nil => simp [stretch]
  | cons first rest ih =>
      rw [stretch_cons, List.count_append, ih, List.count_replicate, List.count_cons]
      split <;> ring

theorem sum_map_stretch (scale : Nat) (elements : List Element) (weight : Element → Nat) :
    ((stretch scale elements).map weight).sum = scale * (elements.map weight).sum := by
  induction elements with
  | nil => simp [stretch]
  | cons element rest ih =>
      rw [stretch_cons, List.map_append, List.sum_append, ih, List.map_replicate,
        List.sum_replicate, List.map_cons, List.sum_cons, smul_eq_mul, Nat.mul_add]

end Stretch

theorem count_eq_sum (image : Image) (colour : Colour) :
    image.count colour = (image.rows.toList.map fun row => row.count colour).sum := by
  rw [count, ← Array.foldl_toList, List.sum_eq_foldl, List.foldl_map]

end Image

namespace Screen

variable {width height : Nat}

/-- The picture in which a pixel is a square with a given side. -/
def picture (screen : Screen width height) (side : Nat) (palette : Palette) : Image where
  width := width * side
  height := height * side
  rows := (Image.stretch side ((List.finRange height).map fun row =>
    (Image.stretch side (screen.rowColours palette row)).toArray)).toArray

theorem image_eq_picture {scale : Int} (sized : 1 ≤ scale) (screen : Screen width height)
    (palette : Palette) :
    screen.image scale palette = .ok (screen.picture scale.toNat palette) := by
  simp only [image, if_pos sized, picture]

theorem colourAt?_picture {side : Nat} (positive : 0 < side) (screen : Screen width height)
    (palette : Palette) (column : Fin (width * side)) (row : Fin (height * side)) :
    (screen.picture side palette).colourAt? column row =
      some (palette.colour (screen.pixel column.divNat row.divNat)) := by
  have across : column.val / side < width := column.divNat.isLt
  have down : row.val / side < height := row.divNat.isLt
  simp [picture, Image.colourAt?, Image.getElem?_stretch positive, rowColours, across, down,
    Fin.divNat]

/-- As many colours of a row are the one of pixels that are on as there are such pixels. -/
theorem count_rowColours (screen : Screen width height) {palette : Palette}
    (apart : palette.lit ≠ palette.unlit) (row : Fin height) :
    (screen.rowColours palette row).count palette.lit =
      (Finset.univ.filter fun column => screen.pixel column row = true).card := by
  let colours : List.Vector Colour width := ⟨screen.rowColours palette row, by simp [rowColours]⟩
  have isLit_iff (column : Fin width) :
      colours.get column = palette.lit ↔ screen.pixel column row = true := by
    have get : colours.get column = palette.colour (screen.pixel column row) := by
      simp only [colours, List.Vector.get, rowColours, List.get_eq_getElem, List.getElem_map,
        List.getElem_finRange]
      rfl
    rw [get]
    cases screen.pixel column row <;> simp [Palette.colour, apart.symm]
  calc
    (screen.rowColours palette row).count palette.lit = colours.toList.count palette.lit := rfl
    _ = (Finset.univ.filter fun column => colours.get column = palette.lit).card :=
      (Fin.card_filter_univ_eq_vector_get_eq_count palette.lit colours).symm
    _ = _ := by simp only [isLit_iff]

theorem sum_card_lit (screen : Screen width height) :
    ∑ row, (Finset.univ.filter fun column => screen.pixel column row = true).card =
      screen.litCount := by
  simp only [litCount_eq_card, Finset.card_filter, Fintype.sum_prod_type_right]

theorem count_picture (screen : Screen width height) (side : Nat) {palette : Palette}
    (apart : palette.lit ≠ palette.unlit) :
    (screen.picture side palette).count palette.lit = side ^ 2 * screen.litCount := by
  have rowCount (row : Fin height) :
      (Image.stretch side (screen.rowColours palette row)).toArray.count palette.lit =
        side * (Finset.univ.filter fun column => screen.pixel column row = true).card := by
    rw [List.count_toArray, Image.count_stretch, screen.count_rowColours apart]
  calc
    (screen.picture side palette).count palette.lit =
        side * ((List.finRange height).map fun row =>
          (Image.stretch side (screen.rowColours palette row)).toArray.count palette.lit).sum := by
      rw [Image.count_eq_sum, picture, Image.sum_map_stretch, List.map_map]
      rfl
    _ = side * ∑ row, side *
          (Finset.univ.filter fun column => screen.pixel column row = true).card := by
      simp only [rowCount, Fin.sum_univ_def]
    _ = side ^ 2 * screen.litCount := by
      rw [← Finset.mul_sum, sum_card_lit]
      ring

/-- A picture shows each pixel of a screen as a square with a given side. -/
structure Enlarges (screen : Screen width height) (side : Nat) (palette : Palette)
    (image : Image) : Prop where
  /-- The number of columns. -/
  width_eq : image.width = width * side
  /-- The number of rows. -/
  height_eq : image.height = height * side
  /-- There are as many rows as that. -/
  rows_size_eq : image.rows.size = height * side
  /-- Each row has as many places as there are columns. -/
  row_size_eq : ∀ row ∈ image.rows, row.size = width * side
  /-- A place has the colour of the pixel that it falls on. -/
  colour_eq : ∀ (column : Fin (width * side)) (row : Fin (height * side)),
    image.colourAt? column row = some (palette.colour (screen.pixel column.divNat row.divNat))
  /-- Each pixel that is on gives its colour to a square of places. -/
  count_eq : palette.lit ≠ palette.unlit → image.count palette.lit = side ^ 2 * screen.litCount

theorem enlarges_picture {side : Nat} (positive : 0 < side) (screen : Screen width height)
    (palette : Palette) : screen.Enlarges side palette (screen.picture side palette) where
  width_eq := rfl
  height_eq := rfl
  rows_size_eq := by simp [picture, Image.length_stretch]
  row_size_eq row member := by
    have member : row ∈ Image.stretch side ((List.finRange height).map fun row =>
        (Image.stretch side (screen.rowColours palette row)).toArray) := by
      simpa only [picture, List.mem_toArray] using member
    obtain ⟨whole, mapped, copied⟩ := List.mem_flatMap.mp member
    obtain rfl := List.eq_of_mem_replicate copied
    obtain ⟨level, -, rfl⟩ := List.mem_map.mp mapped
    simp [Image.length_stretch, rowColours]
  colour_eq := screen.colourAt?_picture positive palette
  count_eq := screen.count_picture side

end Screen

/-! ## Pictures whose places can be numbered

Bounded integers paint the same picture as exact ones if they can number its places, three for each
colour.  A scale that is less than one or beyond their reach is refused.
-/

namespace Extent

theorem span_cons (side : Int) (rest : List Int) :
    span (side :: rest) = (if side = 0 then 1 else side) * span rest := by
  have foldl_eq (sides : List Int) : sides.foldl (· * ·) 1 = sides.prod :=
    List.prod_eq_foldl.symm
  simp only [span, foldl_eq, List.filter_cons]
  split <;> simp_all

theorem one_le_span {sides : List Int} (natural : ∀ side ∈ sides, 0 ≤ side) : 1 ≤ span sides := by
  induction sides with
  | nil => decide
  | cons side rest ih =>
      obtain ⟨first, remaining⟩ := List.forall_mem_cons.mp natural
      rw [span_cons]
      refine one_le_mul_of_one_le_of_one_le ?_ (ih remaining)
      split <;> omega

/-- No side is longer than what all of them span. -/
theorem le_span {sides : List Int} (natural : ∀ side ∈ sides, 0 ≤ side) {side : Int}
    (member : side ∈ sides) : side ≤ span sides := by
  induction sides with
  | nil => cases member
  | cons first rest ih =>
      obtain ⟨here, remaining⟩ := List.forall_mem_cons.mp natural
      have others := one_le_span remaining
      rw [span_cons]
      rcases List.mem_cons.mp member with rfl | later
      · split
        · omega
        · exact le_mul_of_one_le_right here others
      · refine (ih remaining later).trans (le_mul_of_one_le_left (by omega) ?_)
        split <;> omega

theorem span_cons_le_of_le {side longer : Int} (grows : side ≤ longer) {rest : List Int}
    (others : ∀ side ∈ rest, 0 ≤ side) : span (side :: rest) ≤ span (longer :: rest) := by
  rw [span_cons, span_cons]
  refine mul_le_mul_of_nonneg_right ?_ (zero_le_one.trans (one_le_span others))
  split <;> split <;> omega

theorem span_cons_le_of_span_le {side : Int} (natural : 0 ≤ side) {rest more : List Int}
    (grows : span rest ≤ span more) : span (side :: rest) ≤ span (side :: more) := by
  rw [span_cons, span_cons]
  refine mul_le_mul_of_nonneg_left grows ?_
  split <;> omega

/-- A grid whose places can be numbered is accepted. -/
theorem check_bounded {sides : List Int} (natural : ∀ side ∈ sides, 0 ≤ side)
    (numbered : span sides ≤ Int64.maxValue.toInt) : check .bounded sides = .ok () := by
  have sidesFit : sides.all Precision.bounded.admits = true :=
    List.all_eq_true.mpr fun side member =>
      Precision.admits_bounded (natural side member) ((le_span natural member).trans numbered)
  have noneNegative : sides.any (· < 0) = false := by
    simpa [List.any_eq_false] using natural
  have spanFits := Precision.admits_bounded (zero_le_one.trans (one_le_span natural)) numbered
  simp [check, sidesFit, noneNegative, spanFits]

theorem span_le_of_check {sides : List Int} (accepted : check .bounded sides = .ok ()) :
    span sides ≤ Int64.maxValue.toInt := by
  simp only [check] at accepted
  split_ifs at accepted with _ _ refused
  exact Precision.le_of_admits_bounded (by simpa using refused)

end Extent

namespace Screen

variable {width height : Nat}

/-- Whether sixty-four bits with a sign can hold a scale and number the places of the picture, three
for each colour. A side of length zero does not count. -/
def Numbered (width height : Nat) (scale : Int) : Prop :=
  scale ≤ Int64.maxValue.toInt ∧
    Extent.span [height * scale, width * scale, 3] ≤ Int64.maxValue.toInt

theorem boundedImage_of_lt_one {scale : Int} (small : scale < 1) (screen : Screen width height)
    (palette : Palette) :
    screen.boundedImage scale palette = .error (.scaleTooSmall scale) := by
  simp only [boundedImage, if_pos small]
  rfl

theorem boundedImage_of_beyond {scale : Int} (beyond : Int64.maxValue.toInt < scale)
    (screen : Screen width height) (palette : Palette) :
    screen.boundedImage scale palette = .error .numberTooLarge := by
  have sized : ¬ scale < 1 := not_lt.mpr (le_trans (by decide) beyond.le)
  have refused : Precision.bounded.admits scale = false := by
    simp [Precision.admits, beyond]
  simp only [boundedImage, if_neg sized, refused]
  rfl

/-- Whether bounded integers paint a picture does not depend on which pixels are on. -/
theorem boundedImage_cases (width height : Nat) (scale : Int) (palette : Palette) :
    (∀ screen : Screen width height, ∃ image, screen.boundedImage scale palette = .ok image) ∨
      ∃ failure, ∀ screen : Screen width height,
        screen.boundedImage scale palette = .error failure := by
  by_cases small : scale < 1
  · exact .inr ⟨_, fun screen => boundedImage_of_lt_one small screen palette⟩
  have drawn (screen : Screen width height) := image_eq_picture (not_lt.mp small) screen palette
  simp only [boundedImage, if_neg small, drawn]
  cases Precision.bounded.admits scale with
  | false => exact .inr ⟨_, fun _ => rfl⟩
  | true =>
      cases Extent.check .bounded [Precision.bounded.reduce (height * scale), width, 3] with
      | error failure => exact .inr ⟨failure, fun _ => rfl⟩
      | ok _ =>
          cases Extent.check .bounded [Precision.bounded.reduce (height * scale),
              Precision.bounded.reduce (width * scale), 3] with
          | error failure => exact .inr ⟨failure, fun _ => rfl⟩
          | ok _ => exact .inl fun _ => ⟨_, rfl⟩

/-- Bounded integers paint what exact ones paint if they can number it. -/
theorem boundedImage_of_numbered {scale : Int} (sized : 1 ≤ scale)
    (numbered : Numbered width height scale) (screen : Screen width height) (palette : Palette) :
    screen.boundedImage scale palette = .ok (screen.picture scale.toNat palette) := by
  obtain ⟨held, spanned⟩ := numbered
  have rows : 0 ≤ height * scale := by positivity
  have columns : 0 ≤ width * scale := by positivity
  have natural : ∀ side ∈ [height * scale, width * scale, 3], (0 : Int) ≤ side := by
    simp [rows, columns]
  have fits {side : Int} (member : side ∈ [height * scale, width * scale, 3]) :
      Precision.bounded.reduce side = side :=
    Precision.reduce_of_admits _ _ (Precision.admits_bounded (natural side member)
      ((Extent.le_span natural member).trans spanned))
  -- Stretched only downwards, the picture has no more places than in the end.
  have narrow : Extent.span [height * scale, width, 3] ≤
      Extent.span [height * scale, width * scale, 3] :=
    Extent.span_cons_le_of_span_le rows <|
      Extent.span_cons_le_of_le (le_mul_of_one_le_right (by omega) sized) (by simp)
  have first : Extent.check .bounded [height * scale, width, 3] = .ok () :=
    Extent.check_bounded (by simp [rows]) (narrow.trans spanned)
  have second := Extent.check_bounded natural spanned
  have taken := Precision.admits_bounded (zero_le_one.trans sized) held
  have counted : (width * scale).toNat = width * scale.toNat := by
    rw [Int.toNat_mul (by omega) (by omega), Int.toNat_natCast]
  simp only [boundedImage, fits List.mem_cons_self, fits (.tail _ List.mem_cons_self), taken,
    if_neg (not_lt.mpr sized), first, second, image_eq_picture sized, counted]
  rfl

end Screen

/-! ## Reading a screen from its text

The text of a screen, split at its line breaks, has a line for each row and in it a character for
each pixel.  If pixels that are on and pixels that are off are written differently, and neither as a
line break, then nothing about them is lost.
-/

/-- The characters of each line of a text. -/
def linesOf (text : String) : List (List Char) :=
  ((text.split '\n').toList.map fun line => line.copy).map String.toList

/-- Lines without line breaks are read back from the text that line breaks join them to. -/
theorem linesOf_intercalate {lines : List String} (nonempty : lines ≠ [])
    (unbroken : ∀ line ∈ lines, '\n' ∉ line.toList) :
    linesOf ("\n".intercalate lines) = lines.map String.toList := by
  have read := String.toList_split_intercalate unbroken
  rw [if_neg nonempty] at read
  exact congrArg (List.map String.toList) read

namespace Screen

variable {width height : Nat}

theorem isOn_val (screen : Screen width height) (column : Fin width) (row : Fin height) :
    screen.isOn column.val row.val = .ok (screen.pixel column row) := by
  rw [isOn, locate_eq_ok_iff.mpr (fallsOn_val column row)]
  rfl

/-- The characters of one row, one for each pixel. -/
def rowMarks (screen : Screen width height) (lit unlit : Char) (row : Fin height) : List Char :=
  (List.finRange width).map fun column => if screen.pixel column row then lit else unlit

theorem toList_rowText (screen : Screen width height) (lit unlit : Char) (row : Fin height) :
    (screen.rowText (.singleton lit) (.singleton unlit) row).toList =
      screen.rowMarks lit unlit row := by
  have mark (isLit : Bool) : (if isLit then String.singleton lit else .singleton unlit).toList =
      [if isLit then lit else unlit] := by
    cases isLit <;> exact String.toList_singleton _
  rw [rowText, String.toList_join, List.flatMap_map, rowMarks, List.map_eq_flatMap]
  simp only [mark]

theorem newline_not_mem_rowMarks {lit unlit : Char} (litInline : lit ≠ '\n')
    (unlitInline : unlit ≠ '\n') (screen : Screen width height) (row : Fin height) :
    '\n' ∉ screen.rowMarks lit unlit row := by
  intro member
  obtain ⟨column, -, mark⟩ := List.mem_map.mp member
  split at mark
  · exact litInline mark
  · exact unlitInline mark

/-- The lines of the text of a screen are its rows. -/
theorem linesOf_text (rows : 0 < height) {lit unlit : Char} (litInline : lit ≠ '\n')
    (unlitInline : unlit ≠ '\n') (screen : Screen width height) :
    linesOf (screen.text (.singleton lit) (.singleton unlit)) =
      (List.finRange height).map (screen.rowMarks lit unlit) := by
  have nonempty : screen.rowTexts (.singleton lit) (.singleton unlit) ≠ [] := by
    simpa [rowTexts, List.finRange_eq_nil_iff] using rows.ne'
  rw [text, linesOf_intercalate nonempty]
  · simp only [rowTexts, List.map_map, Function.comp_def, toList_rowText]
  · intro line member
    obtain ⟨row, -, rfl⟩ := List.mem_map.mp member
    rw [toList_rowText]
    exact newline_not_mem_rowMarks litInline unlitInline screen row

/-- What lines of characters say about the pixels of a screen. -/
structure ReadsBack (screen : Screen width height) (lit unlit : Char)
    (lines : List (List Char)) : Prop where
  /-- There is a line for each row. -/
  length_eq : lines.length = height
  /-- Each line has a character for each column. -/
  line_length_eq : ∀ line ∈ lines, line.length = width
  /-- The character of a pixel that is on. -/
  lit_iff : ∀ (column : Fin width) (row : Fin height),
    lines[row]?.bind (·[column]?) = some lit ↔ screen.isOn column.val row.val = .ok true
  /-- The character of a pixel that is off. -/
  unlit_iff : ∀ (column : Fin width) (row : Fin height),
    lines[row]?.bind (·[column]?) = some unlit ↔ screen.isOn column.val row.val = .ok false

theorem readsBack_text (rows : 0 < height) {lit unlit : Char} (apart : lit ≠ unlit)
    (litInline : lit ≠ '\n') (unlitInline : unlit ≠ '\n') (screen : Screen width height) :
    screen.ReadsBack lit unlit (linesOf (screen.text (.singleton lit) (.singleton unlit))) := by
  have mark (column : Fin width) (row : Fin height) :
      ((List.finRange height).map (screen.rowMarks lit unlit))[row]?.bind (·[column]?) =
        some (if screen.pixel column row then lit else unlit) := by
    simp [rowMarks]
  rw [linesOf_text rows litInline unlitInline]
  refine ⟨by simp, ?_, fun column row => ?_, fun column row => ?_⟩
  · intro line member
    obtain ⟨row, -, rfl⟩ := List.mem_map.mp member
    simp [rowMarks]
  · rw [mark, isOn_val]
    cases screen.pixel column row <;> simp [apart.symm]
  · rw [mark, isOn_val]
    cases screen.pixel column row <;> simp [apart]

theorem text_eq_iff (rows : 0 < height) {lit unlit : Char} (apart : lit ≠ unlit)
    (litInline : lit ≠ '\n') (unlitInline : unlit ≠ '\n') {left right : Screen width height} :
    left.text (.singleton lit) (.singleton unlit) =
        right.text (.singleton lit) (.singleton unlit) ↔
      left = right := by
  refine ⟨fun same => ext_pixel fun column row => ?_, fun same => by rw [same]⟩
  have litOnLeft :=
    (readsBack_text rows apart litInline unlitInline left).lit_iff column row
  rw [same, (readsBack_text rows apart litInline unlitInline right).lit_iff, isOn_val, isOn_val,
    Except.ok.injEq, Except.ok.injEq] at litOnLeft
  exact (Bool.eq_iff_iff.mpr litOnLeft).symm

/-- The plain text of a screen tells all of its pixels. -/
theorem plainText_eq_iff (rows : 0 < height) {left right : Screen width height} :
    left.plainText = right.plainText ↔ left = right :=
  text_eq_iff rows (by decide : '#' ≠ '.') (by decide) (by decide)

/-- The text of a screen is lossless: its lines tell which pixels are on, so that two screens with
the same text have the same pixels. -/
theorem text_lossless (rows : 0 < height) {lit unlit : Char}
    (apart : lit ≠ unlit) (litInline : lit ≠ '\n') (unlitInline : unlit ≠ '\n') :
    (∀ screen : Screen width height,
      screen.ReadsBack lit unlit (linesOf (screen.text (.singleton lit) (.singleton unlit)))) ∧
    ∀ left right : Screen width height,
      left.text (.singleton lit) (.singleton unlit) =
          right.text (.singleton lit) (.singleton unlit) ↔
        ∀ column row, left.pixel column row = right.pixel column row := by
  refine ⟨readsBack_text rows apart litInline unlitInline, fun left right => ?_⟩
  rw [text_eq_iff rows apart litInline unlitInline]
  exact ⟨fun same column row => by rw [same], ext_pixel⟩

/-- A screen of two columns and three rows, with its upper right and its lower left pixel on. -/
theorem text_lossless_corners :
    let screen := ((blank 2 3).flip 1 0).flip 0 2
    ('#' ≠ '.' ∧ '#' ≠ '\n' ∧ '.' ≠ '\n') ∧
      (linesOf (screen.text "#" "."))[2]?.bind (·[0]?) = some '#' ∧
        screen.text "#" "." ≠ (screen.flip 0 0).text "#" "." := by
  intro screen
  obtain ⟨reads, same_iff⟩ :=
    @text_lossless 2 3 (by decide) '#' '.' (by decide) (by decide) (by decide)
  refine ⟨by decide, ?_, ?_⟩
  · exact ((reads screen).lit_iff 0 2).mpr (by decide)
  · intro same
    exact absurd ((same_iff _ _).mp same 0 0) (by decide)

end Screen
end ChipEight

import Mathlib.Algebra.Ring.Parity
import Mathlib.Data.Fintype.Fin
import Mathlib.Data.Fintype.Prod
import Mathlib.Data.Int.ModEq
import ChipEight.Screen

/-!
# The parity of a pixel

A pixel is on if an odd number of toggles fell on it since the screen was cleared, and nothing else
of its history counts.
-/

namespace ChipEight

/-! ## Toggled pixels

A pixel changes once for each pair of coordinates that falls on it, so after any number of toggles
only their parity counts, and their order does not.
-/

namespace Screen

variable {width height : Nat}

/-- Whether two coordinates fall on a pixel. -/
def FallsOn (column : Fin width) (row : Fin height) (place : Int × Int) : Prop :=
  place.1 % (width : Int) = (column.val : Int) ∧ place.2 % (height : Int) = (row.val : Int)

instance (column : Fin width) (row : Fin height) (place : Int × Int) :
    Decidable (FallsOn column row place) :=
  inferInstanceAs (Decidable (_ ∧ _))

/-- How many pairs of coordinates fall on a pixel. -/
def hits (column : Fin width) (row : Fin height) (places : List (Int × Int)) : Nat :=
  places.countP fun place => FallsOn column row place

@[simp]
theorem hits_nil (column : Fin width) (row : Fin height) : hits column row [] = 0 := rfl

theorem hits_perm {places others : List (Int × Int)} (same : places.Perm others)
    (column : Fin width) (row : Fin height) :
    hits column row places = hits column row others :=
  same.countP_eq _

theorem locate_eq_ok_iff {column row : Int} {place : Fin width} {level : Fin height} :
    locate column row = .ok (place, level) ↔ FallsOn place level (column, row) := by
  rw [FallsOn, ← wrap?_eq_some_iff, ← wrap?_eq_some_iff, locate]
  split
  · simp_all
  · rename_i nowhere
    simp only [reduceCtorEq, false_iff]
    rintro ⟨columns, rows⟩
    exact nowhere _ _ columns rows

/-- Two coordinates fall on one pixel only. -/
theorem FallsOn.iff_eq {column other : Fin width} {row level : Fin height} {place : Int × Int}
    (falls : FallsOn column row place) :
    FallsOn other level place ↔ column = other ∧ row = level := by
  obtain ⟨columns, rows⟩ := falls
  simp only [FallsOn, columns, rows, Fin.ext_iff]
  omega

theorem FallsOn.hits_cons {column : Fin width} {row : Fin height} {place : Int × Int}
    (falls : FallsOn column row place) (other : Fin width) (level : Fin height)
    (rest : List (Int × Int)) :
    hits other level (place :: rest) =
      hits other level rest + if column = other ∧ row = level then 1 else 0 := by
  simp only [hits, List.countP_cons, decide_eq_true_eq, falls.iff_eq]

theorem toggleAll_cons_eq_ok_iff {screen final : Screen width height} {place : Int × Int}
    {rest : List (Int × Int)} {erased : Bool} :
    screen.toggleAll (place :: rest) = .ok (final, erased) ↔
      ∃ column row later, FallsOn column row place ∧
        (screen.flip column row).toggleAll rest = .ok (final, later) ∧
          erased = (screen.pixel column row || later) := by
  obtain ⟨column, row⟩ := place
  simp only [toggleAll, toggle, bind_eq_ok_iff, pure_eq_ok_iff, Prod.exists, Prod.mk.injEq]
  constructor
  · rintro ⟨_, _, ⟨column, row, located, rfl, rfl⟩, _, later, toggled, rfl, rfl⟩
    exact ⟨column, row, later, locate_eq_ok_iff.mp located, toggled, rfl⟩
  · rintro ⟨column, row, later, falls, toggled, rfl⟩
    exact ⟨_, _, ⟨column, row, locate_eq_ok_iff.mpr falls, rfl, rfl⟩, _, later, toggled, rfl, rfl⟩

theorem toggleAll_append_eq_ok_iff {screen final : Screen width height}
    {earlier later : List (Int × Int)} {erased : Bool} :
    screen.toggleAll (earlier ++ later) = .ok (final, erased) ↔
      ∃ middle first second, screen.toggleAll earlier = .ok (middle, first) ∧
        middle.toggleAll later = .ok (final, second) ∧ erased = (first || second) := by
  induction earlier generalizing screen erased with
  | nil =>
      constructor
      · intro toggled
        exact ⟨screen, false, erased, rfl, toggled, rfl⟩
      · rintro ⟨_, _, second, ⟨⟩, toggled, rfl⟩
        exact toggled
  | cons place rest ih =>
      simp only [List.cons_append, toggleAll_cons_eq_ok_iff, ih]
      constructor
      · rintro ⟨column, row, _, falls, ⟨middle, first, second, others, toggled, rfl⟩, rfl⟩
        exact ⟨middle, _, second, ⟨column, row, first, falls, others, rfl⟩, toggled,
          (Bool.or_assoc ..).symm⟩
      · rintro ⟨middle, _, second, ⟨column, row, first, falls, others, rfl⟩, toggled, rfl⟩
        exact ⟨column, row, _, falls, ⟨middle, first, second, others, toggled, rfl⟩,
          Bool.or_assoc ..⟩

/-- A pixel has changed if an odd number of coordinates fell on it. -/
theorem pixel_toggleAll {screen final : Screen width height} {places : List (Int × Int)}
    {erased : Bool} (toggled : screen.toggleAll places = .ok (final, erased))
    (column : Fin width) (row : Fin height) :
    final.pixel column row =
      (screen.pixel column row ^^ decide (Odd (hits column row places))) := by
  induction places generalizing screen erased with
  | nil =>
      cases toggled
      simp
  | cons place rest ih =>
      obtain ⟨place, level, later, falls, others, -⟩ := toggleAll_cons_eq_ok_iff.mp toggled
      rw [ih others, pixel_flip, falls.hits_cons]
      by_cases same : place = column ∧ level = row
      · simp only [if_pos same, decide_eq_true same, Nat.odd_add_one, decide_not, Bool.xor_assoc,
          Bool.true_xor]
      · simp [same]

/-- A pixel was turned off exactly if some pixel was turned on twice, being on at first counted as
once. -/
theorem erased_toggleAll_iff {screen final : Screen width height} {places : List (Int × Int)}
    {erased : Bool} (toggled : screen.toggleAll places = .ok (final, erased)) :
    erased = true ↔
      ∃ column row, 2 ≤ (screen.pixel column row).toNat + hits column row places := by
  induction places generalizing screen erased with
  | nil =>
      cases toggled
      simp only [hits_nil, Nat.add_zero, Bool.false_eq_true, false_iff, not_exists]
      exact fun column row => Nat.not_le_of_lt (Nat.lt_succ_of_le (Bool.toNat_le _))
  | cons place rest ih =>
      obtain ⟨column, row, later, falls, others, rfl⟩ := toggleAll_cons_eq_ok_iff.mp toggled
      cases lit : screen.pixel column row with
      | true =>
          have twice : 2 ≤ (screen.pixel column row).toNat + hits column row (place :: rest) := by
            rw [lit, falls.hits_cons, if_pos ⟨rfl, rfl⟩, Bool.toNat_true]
            omega
          simpa using ⟨column, row, twice⟩
      | false =>
          -- The toggle turned its pixel on, so it counts the same before and afterwards.
          have moved (other : Fin width) (level : Fin height) :
              ((screen.flip column row).pixel other level).toNat + hits other level rest =
                (screen.pixel other level).toNat + hits other level (place :: rest) := by
            rw [falls.hits_cons, pixel_flip]
            by_cases same : column = other ∧ row = level
            · obtain ⟨rfl, rfl⟩ := same
              simp [lit, Nat.add_comm]
            · simp [same]
          simp only [Bool.false_or, ih others, moved]

/-- The order of toggles does not count. -/
theorem toggleAll_perm {screen final other : Screen width height}
    {places rearranged : List (Int × Int)} {erased met : Bool} (same : places.Perm rearranged)
    (toggled : screen.toggleAll places = .ok (final, erased))
    (again : screen.toggleAll rearranged = .ok (other, met)) : final = other :=
  ext_pixel fun column row => by
    rw [pixel_toggleAll toggled, pixel_toggleAll again, hits_perm same]

/-- Toggles that are made twice change nothing. -/
theorem toggleAll_twice {screen middle final : Screen width height} {places : List (Int × Int)}
    {erased met : Bool} (toggled : screen.toggleAll places = .ok (middle, erased))
    (again : middle.toggleAll places = .ok (final, met)) : final = screen :=
  ext_pixel fun column row => by
    rw [pixel_toggleAll again, pixel_toggleAll toggled, Bool.xor_assoc, Bool.xor_self,
      Bool.xor_false]

end Screen

/-! ## Histories of a screen -/

namespace Screen

variable {width height : Nat}

/-- Something that is done to a screen. -/
inductive Stroke
  /-- Change a pixel to its opposite. -/
  | toggle (column row : Int)
  /-- Turn every pixel off. -/
  | clear

/-- The stroke that toggles the pixel at a pair of coordinates. -/
def Stroke.ofPlace (place : Int × Int) : Stroke :=
  toggle place.1 place.2

/-- The screen after a stroke. -/
def strike (screen : Screen width height) : Stroke → Except Failure (Screen width height)
  | .toggle column row => do
      let (toggled, _) ← screen.toggle column row
      return toggled
  | .clear => .ok screen.clear

/-- The screen after a history of strokes. -/
def run (screen : Screen width height) : List Stroke → Except Failure (Screen width height)
  | [] => .ok screen
  | stroke :: rest => do
      let struck ← screen.strike stroke
      struck.run rest

/-- The coordinates toggled since the last clear, after one more stroke. -/
def Stroke.after (places : List (Int × Int)) : Stroke → List (Int × Int)
  | toggle column row => places ++ [(column, row)]
  | clear => []

/-- The coordinates that a history toggled since it cleared the screen, or since it began. -/
def sinceClear (history : List Stroke) : List (Int × Int) :=
  history.foldl Stroke.after []

/-- How many toggles since the last clear fell on the same pixel as two coordinates. -/
def togglesAt (width height : Nat) (history : List Stroke) (column row : Int) : Nat :=
  (sinceClear history).countP fun place =>
    place.1 ≡ column [ZMOD width] ∧ place.2 ≡ row [ZMOD height]

theorem togglesAt_concat_toggle (width height : Nat) (history : List Stroke) (column row : Int) :
    togglesAt width height (history ++ [.toggle column row]) column row =
      togglesAt width height history column row + 1 := by
  simp [togglesAt, sinceClear, Stroke.after]

theorem togglesAt_eq_hits {column : Fin width} {row : Fin height} {across down : Int}
    (falls : FallsOn column row (across, down)) (history : List Stroke) :
    togglesAt width height history across down = hits column row (sinceClear history) := by
  simp only [togglesAt, hits, FallsOn, Int.ModEq, falls.1, falls.2]
  rfl

theorem fallsOn_val (column : Fin width) (row : Fin height) :
    FallsOn column row ((column.val : Int), (row.val : Int)) :=
  ⟨Int.emod_eq_of_lt (by omega) (by omega), Int.emod_eq_of_lt (by omega) (by omega)⟩

theorem toggle_of_fallsOn {column : Fin width} {row : Fin height} {across down : Int}
    (falls : FallsOn column row (across, down)) (screen : Screen width height) :
    screen.toggle across down = .ok (screen.flip column row, screen.pixel column row) := by
  rw [toggle, locate_eq_ok_iff.mpr falls]
  rfl

theorem exists_fallsOn (columns : 0 < width) (rows : 0 < height) (across down : Int) :
    ∃ (column : Fin width) (row : Fin height), FallsOn column row (across, down) := by
  obtain ⟨⟨column, row⟩, located⟩ := exists_locate columns rows across down
  exact ⟨column, row, locate_eq_ok_iff.mp located⟩

theorem run_append (screen : Screen width height) (earlier later : List Stroke) :
    screen.run (earlier ++ later) = (screen.run earlier).bind (·.run later) := by
  induction earlier generalizing screen with
  | nil => rfl
  | cons stroke rest ih =>
      simp only [List.cons_append, run]
      cases screen.strike stroke with
      | ok struck => exact ih struck
      | error failure => rfl

/-- A history leaves what the toggles since its last clear leave. -/
theorem exists_run (columns : 0 < width) (rows : 0 < height) {screen : Screen width height}
    {places : List (Int × Int)} {erased : Bool}
    (drew : (blank width height).toggleAll places = .ok (screen, erased))
    (history : List Stroke) :
    ∃ final met, screen.run history = .ok final ∧
      (blank width height).toggleAll (history.foldl Stroke.after places) = .ok (final, met) := by
  induction history generalizing screen places erased with
  | nil => exact ⟨screen, erased, rfl, drew⟩
  | cons stroke rest ih =>
      cases stroke with
      | toggle across down =>
          obtain ⟨column, row, falls⟩ := exists_fallsOn columns rows across down
          have toggled := toggle_of_fallsOn falls screen
          have more : (blank width height).toggleAll (places ++ [(across, down)]) =
              .ok (screen.flip column row, erased || (screen.pixel column row || false)) :=
            toggleAll_append_eq_ok_iff.mpr ⟨screen, erased, _, drew,
              toggleAll_cons_eq_ok_iff.mpr ⟨column, row, false, falls, rfl, rfl⟩, rfl⟩
          obtain ⟨final, met, ran, drawn⟩ := ih more
          refine ⟨final, met, ?_, drawn⟩
          rw [run, strike, toggled]
          exact ran
      | clear => exact ih rfl

/-- After a history a pixel is on if it was toggled an odd number of times. -/
theorem pixel_of_run (columns : 0 < width) (rows : 0 < height) {history : List Stroke}
    {screen : Screen width height} (ran : (blank width height).run history = .ok screen)
    (column : Fin width) (row : Fin height) :
    screen.pixel column row = decide (Odd (hits column row (sinceClear history))) := by
  obtain ⟨final, met, again, drew⟩ := exists_run columns rows
    (rfl : (blank width height).toggleAll [] = .ok (blank width height, false)) history
  obtain rfl : screen = final := Except.ok.inj (ran.symm.trans again)
  have parity := pixel_toggleAll drew column row
  rwa [pixel_blank, Bool.false_xor] at parity

theorem litCount_eq_card (screen : Screen width height) :
    screen.litCount =
      (Finset.univ.filter fun pixel : Fin width × Fin height =>
        screen.pixel pixel.1 pixel.2 = true).card := by
  let bits : List.Vector Bool (height * width) := ⟨screen.pixels.toList, by simp⟩
  have get_place (column : Fin width) (row : Fin height) :
      bits.get (place column row) = screen.pixel column row := by
    simp [List.Vector.get, bits, pixel]
  calc
    screen.litCount = bits.toList.count true := by
      simp [litCount, bits]
    _ = (Finset.univ.filter fun index => bits.get index = true).card :=
      (Fin.card_filter_univ_eq_vector_get_eq_count true bits).symm
    _ = _ := by
      symm
      refine Finset.card_bij (fun pixel _ => place pixel.1 pixel.2) ?_ ?_ ?_
      · intro pixel lit
        simpa [get_place] using lit
      · intro pixel _ other _ same
        exact Prod.ext_iff.mpr (place_inj.mp same)
      · intro index lit
        obtain ⟨column, row, rfl⟩ := exists_place index
        exact ⟨(column, row), by simpa [get_place] using lit, rfl⟩

/-- What the parities of a history say about the screen after it. -/
structure ShowsParity (history : List Stroke) (screen : Screen width height) : Prop where
  /-- A pixel is on if it was toggled an odd number of times. -/
  isOn_eq : ∀ column row,
    screen.isOn column row = .ok (decide (Odd (togglesAt width height history column row)))
  /-- The next toggle turns a pixel off if it makes the number even. -/
  toggle_eq : ∀ column row,
    let later := history ++ [.toggle column row]
    ∃ toggled, (blank width height).run later = .ok toggled ∧
      screen.toggle column row =
        .ok (toggled, decide (Even (togglesAt width height later column row)))
  /-- As many pixels are on as were toggled an odd number of times. -/
  litCount_eq : screen.litCount =
    (Finset.univ.filter fun pixel : Fin width × Fin height =>
      Odd (togglesAt width height history pixel.1.val pixel.2.val)).card

theorem showsParity (columns : 0 < width) (rows : 0 < height) {history : List Stroke}
    {screen : Screen width height} (ran : (blank width height).run history = .ok screen) :
    ShowsParity history screen where
  isOn_eq across down := by
    obtain ⟨column, row, falls⟩ := exists_fallsOn columns rows across down
    rw [isOn, locate_eq_ok_iff.mpr falls, togglesAt_eq_hits falls,
      ← pixel_of_run columns rows ran]
    rfl
  toggle_eq across down := by
    obtain ⟨column, row, falls⟩ := exists_fallsOn columns rows across down
    have toggled := toggle_of_fallsOn falls screen
    refine ⟨screen.flip column row, ?_, ?_⟩
    · rw [run_append, ran]
      simp only [Except.bind, run, strike, toggled]
      rfl
    · rw [toggled, pixel_of_run columns rows ran, togglesAt_concat_toggle, togglesAt_eq_hits falls]
      simp only [Nat.even_add_one, Nat.not_even_iff_odd]
  litCount_eq := by
    simp only [litCount_eq_card, pixel_of_run columns rows ran, decide_eq_true_eq,
      togglesAt_eq_hits (fallsOn_val _ _)]

theorem foldl_after_perm {places others : List (Int × Int)} (same : places.Perm others)
    (history : List Stroke) :
    (history.foldl Stroke.after places).Perm (history.foldl Stroke.after others) := by
  induction history generalizing places others with
  | nil => exact same
  | cons stroke rest ih =>
      cases stroke with
      | toggle column row => exact ih (same.append_right _)
      | clear => exact ih (.refl [])

theorem foldl_after_map_ofPlace (places more : List (Int × Int)) :
    (more.map Stroke.ofPlace).foldl Stroke.after places = places ++ more := by
  induction more generalizing places with
  | nil => simp
  | cons place rest ih => simp [Stroke.ofPlace, Stroke.after, ih]

/-- Toggles in another order leave the same screen, whatever is done before and afterwards. -/
theorem run_toggles_perm (columns : 0 < width) (rows : 0 < height) (earlier later : List Stroke)
    {places others : List (Int × Int)} (same : places.Perm others) :
    (blank width height).run (earlier ++ places.map .ofPlace ++ later) =
      (blank width height).run (earlier ++ others.map .ofPlace ++ later) := by
  have started : (blank width height).toggleAll [] = .ok (blank width height, false) := rfl
  obtain ⟨final, erased, ran, drew⟩ := exists_run columns rows started
    (earlier ++ places.map .ofPlace ++ later)
  obtain ⟨other, met, again, drewAgain⟩ := exists_run columns rows started
    (earlier ++ others.map .ofPlace ++ later)
  rw [List.foldl_append, List.foldl_append, foldl_after_map_ofPlace] at drew drewAgain
  have reached := foldl_after_perm (same.append_left (earlier.foldl Stroke.after [])) later
  rw [ran, again, toggleAll_perm reached drew drewAgain]

/-- A screen shows the parities of its history, and it does not matter in which order the toggles
between two clears came. -/
theorem shows_parity (columns : 0 < width) (rows : 0 < height) :
    (∀ history : List Stroke, ∃ screen, (blank width height).run history = .ok screen ∧
      ShowsParity history screen) ∧
    ∀ (earlier later : List Stroke) (places others : List (Int × Int)), places.Perm others →
      (blank width height).run (earlier ++ places.map .ofPlace ++ later) =
        (blank width height).run (earlier ++ others.map .ofPlace ++ later) := by
  refine ⟨fun history => ?_, fun earlier later _ _ same =>
    run_toggles_perm columns rows earlier later same⟩
  obtain ⟨screen, _, ran, -⟩ := exists_run columns rows
    (rfl : (blank width height).toggleAll [] = .ok (blank width height, false)) history
  exact ⟨screen, ran, showsParity columns rows ran⟩

/-- Three toggles of one pixel, two of them outside the screen, and one before a clear. -/
theorem shows_parity_outside :
    let history := [Screen.Stroke.toggle 1 0, .clear, .toggle 0 0, .toggle (-3) 2, .toggle 6 (-2)]
    ∃ screen : Screen 3 2, (blank 3 2).run history = .ok screen ∧
      screen.isOn 9 4 = .ok true ∧ screen.litCount = 1 ∧
        (∃ toggled, screen.toggle 3 0 = .ok (toggled, true)) ∧
          (blank 3 2).run [.toggle 0 0, .toggle 1 1] =
            (blank 3 2).run [.toggle 1 1, .toggle 0 0] := by
  intro history
  obtain ⟨shows, permutes⟩ := shows_parity (by decide : 0 < 3) (by decide : 0 < 2)
  obtain ⟨screen, ran, parity⟩ := shows history
  refine ⟨screen, ran, ?_, ?_, ?_, ?_⟩
  · exact (parity.isOn_eq 9 4).trans (congrArg Except.ok (by decide))
  · exact parity.litCount_eq.trans (by decide)
  · obtain ⟨toggled, -, answered⟩ := parity.toggle_eq 3 0
    have even : Even (togglesAt 3 2 (history ++ [.toggle 3 0]) 3 0) := by decide
    exact ⟨toggled, by rw [answered, decide_eq_true even]⟩
  · exact permutes [] [] [(0, 0), (1, 1)] [(1, 1), (0, 0)] (.swap _ _ _)

end Screen
end ChipEight

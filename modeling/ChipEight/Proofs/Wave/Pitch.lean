import Mathlib.Algebra.Order.Floor.Div
import Mathlib.Algebra.Order.Floor.Ring
import Mathlib.Data.List.Range
import Mathlib.Data.List.SplitBy
import Mathlib.Data.Rat.Floor
import ChipEight.Buzzer

/-!
# The pitch of a square wave

A second of a square wave is made of twice as many half periods as its pitch says, and no two of
them that follow one another have the same height, not even the last one and the first one of the
next second.  So a second that is played again and again keeps its pitch.
-/

namespace ChipEight

/-! ## Numbers that rise evenly

As `time` grows by one, the quotient `parts * time / rate` either stays or grows by one, if
`parts ≤ rate`.  It reaches `number` at the time `⌈number * rate / parts⌉`, its onset, and keeps it
for `⌊rate / parts⌋` or `⌈rate / parts⌉` times.  So a list that shows something of the quotient at
each time is made of pieces in which nothing changes, one for each number in turn.
-/

namespace Wave

variable {parts rate number time : Nat}

/-- The time at which `parts * time / rate` reaches a number. -/
def onset (parts rate number : Nat) : Nat :=
  (number * rate) ⌈/⌉ parts

/-- For how many times `parts * time / rate` keeps a number. -/
def width (parts rate number : Nat) : Nat :=
  onset parts rate (number + 1) - onset parts rate number

theorem onset_le_iff (divided : 0 < parts) :
    onset parts rate number ≤ time ↔ number * rate ≤ parts * time :=
  ceilDiv_le_iff_le_mul divided

@[simp]
theorem onset_zero : onset parts rate 0 = 0 := by
  rw [onset, Nat.zero_mul, zero_ceilDiv]

theorem onset_mul (divided : 0 < parts) (rounds : Nat) :
    onset parts rate (rounds * parts) = rounds * rate := by
  rw [onset, Nat.mul_comm rounds, Nat.mul_assoc, ← smul_eq_mul parts, smul_ceilDiv divided]

theorem le_mul_onset (divided : 0 < parts) : number * rate ≤ parts * onset parts rate number :=
  (onset_le_iff divided).mp le_rfl

theorem mul_onset_lt (divided : 0 < parts) :
    parts * onset parts rate number < number * rate + parts := by
  rcases Nat.eq_zero_or_pos (onset parts rate number) with start | later
  · rw [start]
    omega
  · -- One time earlier the number is not reached yet.
    have early : ¬ number * rate ≤ parts * (onset parts rate number - 1) := by
      rw [← onset_le_iff divided]
      omega
    rw [Nat.mul_sub_one] at early
    omega

theorem onset_le_succ (divided : 0 < parts) :
    onset parts rate number ≤ onset parts rate (number + 1) := by
  rw [onset_le_iff divided]
  exact (Nat.mul_le_mul_right rate (Nat.le_succ number)).trans (le_mul_onset divided)

theorem onset_add_width (divided : 0 < parts) :
    onset parts rate number + width parts rate number = onset parts rate (number + 1) :=
  Nat.add_sub_cancel' (onset_le_succ divided)

theorem lt_mul_width (divided : 0 < parts) : rate < parts * (width parts rate number + 1) := by
  have begun : parts * onset parts rate number < number * rate + parts := mul_onset_lt divided
  have reached : (number + 1) * rate ≤ parts * onset parts rate (number + 1) :=
    le_mul_onset divided
  rw [← onset_add_width divided, Nat.mul_add, Nat.succ_mul] at reached
  rw [Nat.mul_add_one]
  omega

theorem mul_width_lt (divided : 0 < parts) : parts * width parts rate number < rate + parts := by
  have begun : number * rate ≤ parts * onset parts rate number := le_mul_onset divided
  have reached : parts * onset parts rate (number + 1) < (number + 1) * rate + parts :=
    mul_onset_lt divided
  rw [← onset_add_width divided, Nat.mul_add, Nat.succ_mul] at reached
  omega

theorem width_pos (divided : 0 < parts) (fine : parts ≤ rate) : 0 < width parts rate number := by
  have wide : parts * 1 < parts * (width parts rate number + 1) := by
    rw [Nat.mul_one]
    exact fine.trans_lt (lt_mul_width divided)
  exact Nat.lt_of_succ_lt_succ (Nat.lt_of_mul_lt_mul_left wide)

theorem width_eq_floor_or_ceil (divided : 0 < parts) :
    (width parts rate number : Int) = ⌊(rate : ℚ) / parts⌋ ∨
      (width parts rate number : Int) = ⌈(rate : ℚ) / parts⌉ := by
  have positive : (0 : ℚ) < parts := by exact_mod_cast divided
  rcases Nat.le_total (parts * width parts rate number) rate with short | long
  · left
    rw [eq_comm, Int.floor_eq_iff, le_div_iff₀' positive, div_lt_iff₀' positive]
    exact ⟨by exact_mod_cast short, by exact_mod_cast lt_mul_width divided⟩
  · right
    have above : parts * width parts rate number < rate + parts := mul_width_lt divided
    rw [eq_comm, Int.ceil_eq_iff, lt_div_iff₀' positive, div_le_iff₀' positive, mul_sub_one,
      sub_lt_iff_lt_add]
    exact ⟨by exact_mod_cast above, by exact_mod_cast long⟩

/-- A number is the quotient from its onset to the next. -/
theorem mul_div_eq_of_lt_width (divided : 0 < parts) (timed : 0 < rate)
    (within : time < width parts rate number) :
    parts * (onset parts rate number + time) / rate = number := by
  have early : onset parts rate number + time < onset parts rate (number + 1) := by
    rw [← onset_add_width divided]
    omega
  apply Nat.le_antisymm
  · rw [← Nat.lt_succ_iff, Nat.div_lt_iff_lt_mul timed]
    exact Nat.lt_of_not_le fun reached => early.not_ge ((onset_le_iff divided).mpr reached)
  · rw [Nat.le_div_iff_mul_le timed]
    exact (le_mul_onset divided).trans (Nat.mul_le_mul_left parts (Nat.le_add_right _ time))

/-- The last number is reached before the rate is. -/
theorem mul_sub_one_div (divided : 0 < parts) (fine : parts ≤ rate) :
    parts * (rate - 1) / rate = parts - 1 := by
  apply Nat.div_eq_of_lt_le
  · rw [Nat.mul_sub_one, Nat.sub_one_mul]
    omega
  · rw [Nat.sub_add_cancel divided]
    exact Nat.mul_lt_mul_of_pos_left (by omega) divided

section Pieces

variable {α : Type*}

/-- What a number shows, as long as the quotient keeps it, for each of the first numbers. -/
def pieces (parts rate : Nat) (shown : Nat → α) (count : Nat) : List (List α) :=
  (List.range count).map fun number => List.replicate (width parts rate number) (shown number)

theorem length_pieces (shown : Nat → α) (count : Nat) :
    (pieces parts rate shown count).length = count := by
  rw [pieces, List.length_map, List.length_range]

/-- What the quotients show up to an onset is what the numbers before it show, one after another. -/
theorem map_range_onset (divided : 0 < parts) (timed : 0 < rate) (shown : Nat → α) (count : Nat) :
    (List.range (onset parts rate count)).map (fun time => shown (parts * time / rate)) =
      (pieces parts rate shown count).flatten := by
  induction count with
  | zero => rw [onset_zero]; rfl
  | succ count earlier =>
      have last : (List.range (width parts rate count)).map
            (fun time => shown (parts * (onset parts rate count + time) / rate)) =
          List.replicate (width parts rate count) (shown count) := by
        rw [List.eq_replicate_iff, List.length_map, List.length_range]
        refine ⟨rfl, fun value member => ?_⟩
        obtain ⟨time, within, rfl⟩ := List.mem_map.mp member
        rw [mul_div_eq_of_lt_width divided timed (List.mem_range.mp within)]
      rw [← onset_add_width divided, List.range_add, List.map_append, earlier,
        List.map_map, pieces, pieces, List.range_succ, List.map_append, List.flatten_append]
      exact congrArg _ (last.trans (List.flatten_singleton ..).symm)

/-- Where each number shows something else than the next, the pieces cannot be longer. -/
theorem splitBy_flatten_pieces [BEq α] [LawfulBEq α] (divided : 0 < parts) (fine : parts ≤ rate)
    {shown : Nat → α} (changes : ∀ number, shown number ≠ shown (number + 1)) (count : Nat) :
    (pieces parts rate shown count).flatten.splitBy (· == ·) = pieces parts rate shown count := by
  have filled : ∀ number, List.replicate (width parts rate number) (shown number) ≠ [] := by
    intro number
    rw [ne_eq, List.replicate_eq_nil_iff]
    exact (width_pos divided fine).ne'
  apply List.splitBy_flatten
  · intro member
    obtain ⟨number, -, empty⟩ := List.mem_map.mp member
    exact filled number empty
  · intro piece member
    obtain ⟨number, -, rfl⟩ := List.mem_map.mp member
    exact List.isChain_replicate_of_rel _ (beq_self_eq_true (shown number))
  · rw [pieces, List.isChain_map, List.isChain_range]
    intro number _
    refine ⟨filled number, filled (number + 1), ?_⟩
    rw [List.getLast_replicate, List.head_replicate]
    exact beq_false_of_ne (changes number)

end Pieces

end Wave

/-! ## Half periods -/

namespace Wave

/-- The longest runs of equal samples, in order. -/
def runs (samples : List Int16) : List (List Int16) :=
  samples.splitBy (· == ·)

/-- Samples that end at another height than they begin keep their runs when they are repeated. -/
theorem runs_flatten_replicate {samples : List Int16}
    (drops : ∀ last ∈ samples.getLast?, ∀ first ∈ samples.head?, last ≠ first) (rounds : Nat) :
    runs (List.replicate rounds samples).flatten =
      (List.replicate rounds (runs samples)).flatten := by
  induction rounds with
  | zero => rfl
  | succ rounds earlier =>
      rw [List.replicate_succ, List.replicate_succ, List.flatten_cons, List.flatten_cons,
        ← earlier]
      refine List.splitBy_append fun last ends first begins =>
        beq_false_of_ne (drops last ends first ?_)
      cases rounds with
      | zero => cases begins
      | succ rounds =>
          rwa [List.replicate_succ, List.flatten_cons, List.head?_append_of_ne_nil _
            (List.ne_nil_of_mem (List.mem_of_mem_getLast? ends))] at begins

/-- Whether samples are some seconds of a wave that goes up and down as often as its pitch says. -/
structure Oscillates (frequency rate amplitude : Int) (seconds : Nat) (samples : List Int16) :
    Prop where
  length_eq : (samples.length : Int) = seconds * rate
  /-- A period is one run above and one below. -/
  length_runs : ((runs samples).length : Int) = seconds * (2 * frequency)
  height : ∀ number run, (runs samples)[number]? = some run → ∀ sample ∈ run,
    sample.toInt = if number % 2 = 0 then amplitude else -amplitude
  width : ∀ run ∈ runs samples, (run.length : Int) = ⌊(rate : ℚ) / (2 * frequency)⌋ ∨
    (run.length : Int) = ⌈(rate : ℚ) / (2 * frequency)⌉

/-- The height of a half period. -/
def height (amplitude : Int) (number : Nat) : Int16 :=
  Int16.ofInt (if number % 2 = 0 then amplitude else -amplitude)

section Height

variable {amplitude : Int}

theorem toInt_height (raised : 1 ≤ amplitude) (bounded : amplitude ≤ 32767) (number : Nat) :
    (height amplitude number).toInt = if number % 2 = 0 then amplitude else -amplitude := by
  rw [height, Int16.toInt_ofInt_of_le] <;> split <;> omega

theorem height_ne_succ (raised : 1 ≤ amplitude) (bounded : amplitude ≤ 32767) (number : Nat) :
    height amplitude number ≠ height amplitude (number + 1) := by
  intro same
  have equal := congrArg Int16.toInt same
  rw [toInt_height raised bounded, toInt_height raised bounded] at equal
  split at equal <;> split at equal <;> omega

end Height

section Rounds

variable {frequency rate : Nat} {amplitude : Int}

theorem sample_exact (frequency rate : Nat) (amplitude : Int) (time : Nat) :
    sample .exact frequency rate amplitude time =
      height amplitude (2 * frequency * time / rate) := by
  have even : halfPeriod .exact frequency rate time % 2 = 0 ↔
      2 * frequency * time / rate % 2 = 0 := by
    simp only [halfPeriod, Precision.reduce]
    norm_cast
  simp only [sample, height, even]

/-- A second later every half period has a number that is larger by an even number. -/
theorem sample_add_rate (timed : 0 < rate) (time : Nat) :
    sample .exact frequency rate amplitude (time + rate) =
      sample .exact frequency rate amplitude time := by
  rw [sample_exact, sample_exact, Nat.mul_add, Nat.add_mul_div_right _ _ timed, height, height,
    Nat.add_mul_mod_self_left]

/-- What comes back after some time is repeated. -/
theorem flatten_replicate_map_range {α : Type*} {value : Nat → α} {period : Nat}
    (back : ∀ time, value (time + period) = value time) (rounds : Nat) :
    (List.replicate rounds ((List.range period).map value)).flatten =
      (List.range (rounds * period)).map value := by
  have again : ∀ round time, value (round * period + time) = value time := by
    intro round time
    induction round with
    | zero => rw [Nat.zero_mul, Nat.zero_add]
    | succ round earlier => rw [Nat.succ_mul, Nat.add_right_comm, back, earlier]
  induction rounds with
  | zero => rw [Nat.zero_mul]; rfl
  | succ rounds earlier =>
      rw [List.replicate_succ', List.flatten_append, earlier, List.flatten_singleton,
        Nat.succ_mul, List.range_add, List.map_append, List.map_map]
      exact congrArg _ (List.map_congr_left fun time _ => (again rounds time).symm)

theorem flatten_replicate_samples (timed : 0 < rate) (rounds : Nat) :
    (List.replicate rounds (samples .exact frequency rate amplitude)).flatten =
      (List.range (rounds * rate)).map (sample .exact frequency rate amplitude) :=
  flatten_replicate_map_range (sample_add_rate timed) rounds

/-- However often a second is played, its runs are its half periods. -/
theorem runs_flatten_replicate_samples (pitched : 0 < frequency) (sampled : 2 * frequency ≤ rate)
    (raised : 1 ≤ amplitude) (bounded : amplitude ≤ 32767) (rounds : Nat) :
    runs (List.replicate rounds (samples .exact frequency rate amplitude)).flatten =
      pieces (2 * frequency) rate (height amplitude) (rounds * (2 * frequency)) := by
  have divided : 0 < 2 * frequency := Nat.mul_pos Nat.two_pos pitched
  have timed : 0 < rate := divided.trans_le sampled
  rw [flatten_replicate_samples timed, ← onset_mul divided,
    List.map_congr_left fun time _ => sample_exact frequency rate amplitude time,
    map_range_onset divided timed, runs,
    splitBy_flatten_pieces divided sampled (height_ne_succ raised bounded)]

theorem oscillates_flatten_replicate (pitched : 0 < frequency) (sampled : 2 * frequency ≤ rate)
    (raised : 1 ≤ amplitude) (bounded : amplitude ≤ 32767) (rounds : Nat) :
    Oscillates frequency rate amplitude rounds
      (List.replicate rounds (samples .exact frequency rate amplitude)).flatten := by
  have halves := runs_flatten_replicate_samples pitched sampled raised bounded rounds
  constructor
  case length_eq =>
    rw [flatten_replicate_samples (by omega), List.length_map, List.length_range]
    norm_cast
  case length_runs =>
    rw [halves, length_pieces]
    norm_cast
  case height =>
    intro number run half sample member
    rw [halves, pieces, List.getElem?_map, Option.map_eq_some_iff] at half
    obtain ⟨place, found, rfl⟩ := half
    obtain ⟨_, same⟩ := List.getElem?_eq_some_iff.mp found
    rw [List.eq_of_mem_replicate member, toInt_height raised bounded, ← same, List.getElem_range]
  case width =>
    intro run member
    rw [halves] at member
    obtain ⟨number, -, rfl⟩ := List.mem_map.mp member
    simpa only [List.length_replicate, Nat.cast_mul, Nat.cast_ofNat, Int.cast_natCast]
      using width_eq_floor_or_ceil (Nat.mul_pos Nat.two_pos pitched)

theorem head?_samples (timed : 0 < rate) (raised : 1 ≤ amplitude) (bounded : amplitude ≤ 32767) :
    (samples .exact frequency rate amplitude).head?.map Int16.toInt = some amplitude := by
  have first : (List.range rate).head? = some 0 := by
    rw [List.head?_range, if_neg timed.ne']
  change (List.map _ (List.range rate)).head?.map _ = _
  rw [List.head?_map, first, Option.map_some, Option.map_some, sample_exact,
    toInt_height raised bounded, Nat.mul_zero, Nat.zero_div]
  rfl

/-- The last half period has an odd number. -/
theorem getLast?_samples (pitched : 0 < frequency) (sampled : 2 * frequency ≤ rate)
    (raised : 1 ≤ amplitude) (bounded : amplitude ≤ 32767) :
    (samples .exact frequency rate amplitude).getLast?.map Int16.toInt = some (-amplitude) := by
  have last : (List.range rate).getLast? = some (rate - 1) := by
    rw [List.getLast?_range, if_neg (by omega)]
  change (List.map _ (List.range rate)).getLast?.map _ = _
  rw [List.getLast?_map, last, Option.map_some, Option.map_some, sample_exact,
    toInt_height raised bounded, mul_sub_one_div (by omega) sampled, if_neg (by omega)]

/-- A second ends below and begins above. -/
theorem last_ne_first_samples (pitched : 0 < frequency) (sampled : 2 * frequency ≤ rate)
    (raised : 1 ≤ amplitude) (bounded : amplitude ≤ 32767) :
    ∀ last ∈ (samples .exact frequency rate amplitude).getLast?,
      ∀ first ∈ (samples .exact frequency rate amplitude).head?, last ≠ first := by
  intro last ends first begins same
  have above : (samples .exact frequency rate amplitude).head?.map Int16.toInt = some amplitude :=
    head?_samples (by omega) raised bounded
  have below := getLast?_samples pitched sampled raised bounded
  rw [Option.mem_def.mp begins, Option.map_some] at above
  rw [Option.mem_def.mp ends, Option.map_some, same] at below
  have level := Option.some.inj (above.symm.trans below)
  omega

end Rounds

/-- A square wave has exactly the pitch asked for, also when its second is played again and again:
no run goes on from one second into the next. -/
theorem square_oscillates (frequency rate amplitude : Int) (pitched : 1 ≤ frequency)
    (sampled : 2 * frequency ≤ rate) (raised : 1 ≤ amplitude) (bounded : amplitude ≤ 32767) :
    ∃ samples, square .exact frequency rate amplitude = .ok samples ∧
      Oscillates frequency rate amplitude 1 samples ∧
      samples.head?.map Int16.toInt = some amplitude ∧
      samples.getLast?.map Int16.toInt = some (-amplitude) ∧
      ∀ rounds,
        runs (List.replicate rounds samples).flatten =
          (List.replicate rounds (runs samples)).flatten ∧
        Oscillates frequency rate amplitude rounds (List.replicate rounds samples).flatten := by
  obtain ⟨frequency, rfl⟩ := Int.eq_ofNat_of_zero_le (show 0 ≤ frequency by omega)
  obtain ⟨rate, rfl⟩ := Int.eq_ofNat_of_zero_le (show 0 ≤ rate by omega)
  have positive : 0 < frequency := by omega
  have fine : 2 * frequency ≤ rate := by omega
  have oscillates := oscillates_flatten_replicate positive fine raised bounded
  refine ⟨_, square_exact .., ?_, head?_samples (by omega) raised bounded,
    getLast?_samples positive fine raised bounded, fun rounds => ⟨?_, oscillates rounds⟩⟩
  · simpa only [List.replicate_one, List.flatten_singleton] using oscillates 1
  · exact runs_flatten_replicate (last_ne_first_samples positive fine raised bounded) rounds

/-- The pitch does not divide the number of samples: the half periods have one sample or two. -/
theorem square_oscillates_three :
    square .exact 3 10 5 = .ok [5, 5, -5, -5, 5, -5, -5, 5, 5, -5] ∧
      ∃ samples, square .exact 3 10 5 = .ok samples ∧
        Oscillates 3 10 5 1 samples ∧
        samples.head?.map Int16.toInt = some 5 ∧
        samples.getLast?.map Int16.toInt = some (-5) ∧
        ∀ rounds,
          runs (List.replicate rounds samples).flatten =
            (List.replicate rounds (runs samples)).flatten ∧
          Oscillates 3 10 5 rounds (List.replicate rounds samples).flatten :=
  ⟨by decide, square_oscillates 3 10 5 (by decide) (by decide) (by decide) (by decide)⟩

section Bounded

variable {frequency rate amplitude : Int}

theorem sample_bounded {time : Nat} (pitched : 0 ≤ frequency) (within : time ≤ rate)
    (fits : Precision.bounded.admits (2 * frequency * rate) = true) :
    sample .bounded frequency rate amplitude time =
      sample .exact frequency rate amplitude time := by
  have earlier : 2 * frequency * time ≤ 2 * frequency * rate :=
    Int.mul_le_mul_of_nonneg_left within (by omega)
  have number : Precision.bounded.admits (2 * frequency * time) = true :=
    Precision.admits_bounded (by positivity) (earlier.trans (Precision.le_of_admits_bounded fits))
  have half : halfPeriod .bounded frequency rate time = halfPeriod .exact frequency rate time :=
    congrArg (· / rate) (Precision.reduce_of_admits _ _ number)
  rw [sample, sample, half]

/-- Bounded integers make the same wave, as long as the numbers of its half periods fit. -/
theorem square_bounded (pitched : 1 ≤ frequency) (timed : 1 ≤ rate)
    (raised : 1 ≤ amplitude) (bounded : amplitude ≤ 32767)
    (fits : Precision.bounded.admits (2 * frequency * rate) = true) :
    square .bounded frequency rate amplitude = square .exact frequency rate amplitude := by
  have held := Precision.le_of_admits_bounded fits
  have rates : 2 * rate ≤ 2 * frequency * rate :=
    Int.mul_le_mul_of_nonneg_right (by omega) (by omega)
  have pitches : 2 * frequency ≤ 2 * frequency * rate :=
    le_mul_of_one_le_right (by omega) timed
  have taken : Precision.bounded.admits rate = true :=
    Precision.admits_bounded (by omega) (by omega)
  have doubled : Precision.bounded.admits (2 * frequency) = true :=
    Precision.admits_bounded (by omega) (by omega)
  have measured : Precision.bounded.measures rate = true := by
    have largest : Int64.maxValue.toInt = 9223372036854775807 := rfl
    have rounded := Rounding.natAbs_significant_le rate
    simp only [Precision.measures, decide_eq_true_eq]
    omega
  have kept : [amplitude, -amplitude].all Precision.bounded.keeps = true := by
    have least : Int64.minValue.toInt = -9223372036854775808 := rfl
    simp only [Precision.keeps, least, List.all_cons, List.all_nil, Bool.and_true,
      Bool.and_eq_true, decide_eq_true_eq]
    omega
  have same :
      samples .bounded frequency rate amplitude = samples .exact frequency rate amplitude := by
    rw [samples, samples, count, if_pos taken]
    refine List.map_congr_left fun time member => sample_bounded (by omega) ?_ fits
    have := List.mem_range.mp member
    omega
  rw [square_exact, ← same, square, measured, taken, doubled, kept]
  rfl

end Bounded

end Wave
end ChipEight

import ChipEight.Journal

/-!
# Lines of the journal

Every notice makes lines, and a journal writes those that reach its threshold.  The lines themselves
do not depend on the threshold, nor on how many instructions were announced.
-/

namespace ChipEight

/-- The place of a name in ascending order of gravity.  A name that is none of the five has the
place of information. -/
def Level.place (name : String) : Nat :=
  (["DEBUG", "INFO", "WARNING", "ERROR", "CRITICAL"].idxOf? name).getD 1

theorem Level.rank_eq (level : Level) : level.rank = place level.name := by
  cases level with
  | named name other =>
      have unknown : ["DEBUG", "INFO", "WARNING", "ERROR", "CRITICAL"].idxOf? name = none :=
        List.idxOf?_eq_none_iff.mpr other
      rw [Level.name, place, unknown]
      rfl
  | _ => rfl

/-- A line that a notice makes, written or not. -/
structure Line where
  /-- What the line is about. -/
  notice : Notice
  /-- How grave the entry is. -/
  level : Level
  /-- The line as it is written. -/
  text : String

namespace Line

/-- Whether a line is at least as grave as a threshold. -/
def reaches (threshold : Level) (line : Line) : Bool :=
  Level.place threshold.name ≤ Level.place line.level.name

/-- The text of lines, one after the other. -/
def joined (lines : List Line) : String :=
  String.join (lines.map text)

/-- A line that has the level of an entry of its notice and ends with the text of that entry. -/
def OfEntry (line : Line) : Prop :=
  ∃ entry ∈ line.notice.entries, line.level = entry.level ∧
    ∃ heading, line.text = heading ++ " " ++ entry.text ++ "\n"

theorem joined_append (earlier later : List Line) :
    joined (earlier ++ later) = joined earlier ++ joined later := by
  simp [joined]

/-- No line is below the least threshold. -/
theorem filter_reaches_debug (lines : List Line) : lines.filter (reaches .debug) = lines := by
  rw [List.filter_eq_self]
  intro line _
  exact decide_eq_true (Nat.zero_le _)

end Line

namespace Journal

/-- The lines that a notice makes. -/
def linesOf (journal : Journal) (notice : Notice) : List Line :=
  notice.entries.map fun entry => ⟨notice, entry.level, journal.line entry⟩

/-- The lines that several notices make, in order. -/
def lines (journal : Journal) (notices : List Notice) : List Line :=
  notices.flatMap journal.linesOf

theorem ofEntry_of_mem_lines {journal : Journal} {notices : List Notice} {line : Line}
    (member : line ∈ journal.lines notices) : line.OfEntry := by
  obtain ⟨notice, -, member⟩ := List.mem_flatMap.mp member
  obtain ⟨entry, made, rfl⟩ := List.mem_map.mp member
  exact ⟨entry, made, rfl, journal.heading entry.level, rfl⟩

/-- Two journals write one hand if they differ in the threshold and the count at most. -/
def OneHand (left right : Journal) : Prop :=
  ∃ threshold traced, right = { left with threshold, traced }

namespace OneHand

variable {left right last : Journal}

theorem trans (earlier : left.OneHand right) (later : right.OneHand last) :
    left.OneHand last := by
  obtain ⟨_, _, rfl⟩ := earlier
  obtain ⟨threshold, traced, rfl⟩ := later
  exact ⟨threshold, traced, rfl⟩

theorem symm (same : left.OneHand right) : right.OneHand left := by
  obtain ⟨_, _, rfl⟩ := same
  exact ⟨left.threshold, left.traced, rfl⟩

theorem lines_eq (same : left.OneHand right) (notices : List Notice) :
    right.lines notices = left.lines notices := by
  obtain ⟨_, _, rfl⟩ := same
  rfl

theorem at_clock (same : left.OneHand right) (clock : Int) :
    OneHand { left with clock } { right with clock } := by
  obtain ⟨threshold, traced, rfl⟩ := same
  exact ⟨threshold, traced, rfl⟩

end OneHand

theorem accepts_eq_reaches (journal : Journal) (notice : Notice) (entry : Entry) :
    journal.accepts entry.level =
      Line.reaches journal.threshold ⟨notice, entry.level, journal.line entry⟩ := by
  simp only [accepts, Line.reaches, Level.rank_eq]

theorem write_entries (journal : Journal) (notice : Notice) :
    journal.write notice.entries =
      Line.joined ((journal.linesOf notice).filter (Line.reaches journal.threshold)) := by
  rw [linesOf, List.filter_map, Line.joined, List.map_map, write, accepted]
  simp only [accepts_eq_reaches journal notice]
  rfl

/-- Every line of a detail is of the least grave level. -/
theorem level_of_isDetail {journal : Journal} {notice : Notice} (detail : notice.isDetail = true)
    {line : Line} (member : line ∈ journal.linesOf notice) : line.level = .debug := by
  obtain ⟨entry, made, rfl⟩ := List.mem_map.mp member
  cases notice with
  | executing address word =>
      obtain rfl := List.mem_singleton.mp made
      rfl
  | registers machine =>
      obtain ⟨text, -, rfl⟩ := List.mem_map.mp made
      rfl
  | _ => cases detail

/-- A journal that does not let details through writes nothing of them. -/
theorem filter_reaches_of_isDetail {journal : Journal} {notice : Notice}
    (detail : notice.isDetail = true) (silent : journal.accepts .debug = false) :
    (journal.linesOf notice).filter (Line.reaches journal.threshold) = [] := by
  rw [List.filter_eq_nil_iff]
  intro line member
  have low := level_of_isDetail detail member
  simpa [Line.reaches, low, accepts, Level.rank_eq] using silent

/-- Of a notice the lines are written that reach the threshold. -/
theorem text_enter (journal : Journal) (notice : Notice) :
    (journal.enter notice).2 =
      Line.joined ((journal.linesOf notice).filter (Line.reaches journal.threshold)) := by
  simp only [enter]
  split
  · rename_i quiet
    obtain ⟨detail, silent⟩ := (Bool.and_eq_true _ _).mp quiet
    rw [filter_reaches_of_isDetail detail (by simpa using silent)]
    rfl
  · exact journal.write_entries notice

/-- Not putting details into words makes no difference. -/
theorem enter_eq (journal : Journal) (notice : Notice) :
    journal.enter notice =
      ({ journal with traced := journal.traced + if notice.isTrace then 1 else 0 },
        journal.write notice.entries) :=
  Prod.ext rfl ((journal.text_enter notice).trans (journal.write_entries notice).symm)

/-- An announcement is a detail. -/
theorem isDetail_of_isTrace {notice : Notice} (trace : notice.isTrace = true) :
    notice.isDetail = true := by
  cases notice with
  | executing address word => rfl
  | _ => cases trace

/-- A notice leaves the lines that reach the threshold, whether or not announcements are held back
beforehand. -/
theorem text_observe (journal : Journal) (notice : Notice) :
    (journal.observe notice).2 =
      Line.joined ((journal.linesOf notice).filter (Line.reaches journal.threshold)) := by
  simp only [observe]
  split
  · rename_i held
    obtain ⟨trace, silent⟩ := (Bool.and_eq_true _ _).mp held
    rw [filter_reaches_of_isDetail (isDetail_of_isTrace trace) (by simpa using silent)]
    rfl
  · exact journal.text_enter notice

theorem observeAll_cons (journal : Journal) (notice : Notice) (rest : List Notice) :
    journal.observeAll (notice :: rest) =
      (((journal.observe notice).1.observeAll rest).1,
        (journal.observe notice).2 ++ ((journal.observe notice).1.observeAll rest).2) :=
  rfl

/-- An announcement is counted if the journal writes it. -/
theorem journal_observe (journal : Journal) (notice : Notice) :
    (journal.observe notice).1 =
      { journal with
        traced := journal.traced +
          if journal.accepts .debug && notice.isTrace then 1 else 0 } := by
  cases trace : notice.isTrace <;> cases loud : journal.accepts .debug <;>
    simp [observe, enter, trace, loud]

/-- Announcements are counted by the journals that write them. -/
theorem journal_observeAll (journal : Journal) (notices : List Notice) :
    (journal.observeAll notices).1 =
      { journal with
        traced := journal.traced +
          if journal.accepts .debug then notices.countP Notice.isTrace else 0 } := by
  induction notices generalizing journal with
  | nil => simp [observeAll]
  | cons notice rest ih =>
      have same : (journal.observe notice).1.accepts .debug = journal.accepts .debug := by
        rw [journal_observe]
        rfl
      rw [observeAll_cons, ih, same, journal_observe]
      cases journal.accepts .debug with
      | false => simp
      | true =>
          simp only [Bool.true_and, if_true, List.countP_cons, Nat.add_assoc]
          rw [Nat.add_comm (rest.countP Notice.isTrace)]

theorem oneHand_observeAll (journal : Journal) (notices : List Notice) :
    journal.OneHand (journal.observeAll notices).1 := by
  rw [journal_observeAll]
  exact ⟨_, _, rfl⟩

theorem threshold_observeAll (journal : Journal) (notices : List Notice) :
    (journal.observeAll notices).1.threshold = journal.threshold := by
  rw [journal_observeAll]

/-- Of the lines that notices make those are written that reach the threshold. -/
theorem text_observeAll (journal : Journal) (notices : List Notice) :
    (journal.observeAll notices).2 =
      Line.joined ((journal.lines notices).filter (Line.reaches journal.threshold)) := by
  induction notices generalizing journal with
  | nil => rfl
  | cons notice rest ih =>
      have hand : journal.OneHand (journal.observe notice).1 := journal.oneHand_observeAll [notice]
      have threshold : (journal.observe notice).1.threshold = journal.threshold :=
        journal.threshold_observeAll [notice]
      rw [observeAll_cons, ih, hand.lines_eq, threshold, text_observe, ← Line.joined_append,
        ← List.filter_append]
      rfl

end Journal
end ChipEight

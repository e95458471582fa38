import ChipEight.Proofs.Console.Step
import ChipEight.Proofs.Journal.Line
import ChipEight.Proofs.Session.Journalling

/-!
# Transcripts

What a session writes in the course of events.  No journal has a part in what becomes of the
console, and what a journal writes are those of all lines that reach its threshold.
-/

namespace ChipEight
namespace Session

variable {width height : Nat}

/-- Something that happens to a session. -/
inductive Event
  /-- Something is done to the console. -/
  | perform (operation : Operation)
  /-- The journal is told what time it is. -/
  | setClock (clock : Int)

/-- What is done to the console, if anything is. -/
def Event.operation? : Event → Option Operation
  | perform operation => some operation
  | setClock _ => none

/-- What is done to the console, in order. -/
def operations (events : List Event) : List Operation :=
  events.filterMap Event.operation?

/-- What an event leaves behind. -/
def react (session : Session width height) : Event → Report width height
  | .perform operation => session.perform operation
  | .setClock clock => { session := session.setClock clock, text := "", failure := none }

/-- The session after events. -/
def run (session : Session width height) : List Event → Session width height
  | [] => session
  | event :: rest => (session.react event).session.run rest

/-- Everything that is written in the course of events. -/
def text (session : Session width height) : List Event → String
  | [] => ""
  | event :: rest => (session.react event).text ++ (session.react event).session.text rest

/-- The consoles that the operations among events leave behind, each with why its operation was
refused, if it was. -/
def conduct (session : Session width height) :
    List Event → List (Console width height × Option Failure)
  | [] => []
  | .perform operation :: rest =>
      let report := session.perform operation
      (report.session.console, report.failure) :: report.session.conduct rest
  | .setClock clock :: rest => (session.setClock clock).conduct rest

/-- The lines that an event makes, written or not. -/
def linesOf (session : Session width height) : Event → List Line
  | .perform operation => session.journal.lines (session.console.perform operation).notices
  | .setClock _ => []

/-- The lines that are made in the course of events, written or not. -/
def lines (session : Session width height) : List Event → List Line
  | [] => []
  | event :: rest => session.linesOf event ++ (session.react event).session.lines rest

/-- Everything that is written from the moment a console is made. -/
def transcript (config : Config) (width height : Nat) (journal : Journal) (events : List Event) :
    String :=
  let made := create config width height journal
  made.text ++ made.session.text events

/-- The lines that are made from the moment a console is made, written or not. -/
def record (config : Config) (width height : Nat) (journal : Journal) (events : List Event) :
    List Line :=
  journal.lines (Console.create config width height).notices ++
    (create config width height journal).session.lines events

theorem console_react (session : Session width height) (operation : Operation) :
    (session.react (.perform operation)).session.console =
      (session.console.perform operation).console :=
  session.console_perform operation

theorem journal_react (session : Session width height) (operation : Operation) :
    (session.react (.perform operation)).session.journal =
      (session.journal.observeAll (session.console.perform operation).notices).1 := by
  rw [react, perform_eq_report]
  rfl

/-- What becomes of the console is what the operations do to it. -/
theorem conduct_eq (session : Session width height) (events : List Event) :
    session.conduct events = session.console.conduct (operations events) := by
  induction events generalizing session with
  | nil => rfl
  | cons event rest ih =>
      cases event with
      | perform operation =>
          rw [conduct, ih, console_perform, failure_perform]
          rfl
      | setClock clock => exact ih (session.setClock clock)

theorem threshold_react (session : Session width height) (event : Event) :
    (session.react event).session.journal.threshold = session.journal.threshold := by
  cases event with
  | perform operation =>
      rw [journal_react]
      exact Journal.threshold_observeAll _ _
  | setClock clock => rfl

theorem text_react (session : Session width height) (event : Event) :
    (session.react event).text =
      Line.joined ((session.linesOf event).filter (Line.reaches session.journal.threshold)) := by
  cases event with
  | perform operation =>
      rw [react, perform_eq_report]
      exact Journal.text_observeAll _ _
  | setClock clock => rfl

/-- Of the lines that are made those are written that reach the threshold. -/
theorem text_eq (session : Session width height) (events : List Event) :
    session.text events =
      Line.joined ((session.lines events).filter (Line.reaches session.journal.threshold)) := by
  induction events generalizing session with
  | nil => rfl
  | cons event rest ih =>
      rw [text, lines, ih, threshold_react, text_react, List.filter_append, Line.joined_append]

theorem oneHand_react {left right : Session width height} (console : left.console = right.console)
    (hand : left.journal.OneHand right.journal) (event : Event) :
    (left.react event).session.console = (right.react event).session.console ∧
      (left.react event).session.journal.OneHand (right.react event).session.journal := by
  cases event with
  | perform operation =>
      rw [console_react, console_react, console, journal_react, journal_react]
      refine ⟨rfl, ?_⟩
      have leftHand := left.journal.oneHand_observeAll (left.console.perform operation).notices
      have rightHand := right.journal.oneHand_observeAll (right.console.perform operation).notices
      exact leftHand.symm.trans (hand.trans rightHand)
  | setClock clock => exact ⟨console, hand.at_clock clock⟩

/-- Journals that write one hand make the same lines. -/
theorem lines_congr {left right : Session width height} (console : left.console = right.console)
    (hand : left.journal.OneHand right.journal) (events : List Event) :
    right.lines events = left.lines events := by
  induction events generalizing left right with
  | nil => rfl
  | cons event rest ih =>
      obtain ⟨nextConsole, nextHand⟩ := oneHand_react console hand event
      have first : right.linesOf event = left.linesOf event := by
        cases event with
        | perform operation => simp only [linesOf, console, hand.lines_eq]
        | setClock clock => rfl
      rw [lines, lines, ih nextConsole nextHand, first]

theorem oneHand_create {journal other : Journal} (hand : journal.OneHand other) (config : Config)
    (width height : Nat) :
    (create config width height journal).session.journal.OneHand
      (create config width height other).session.journal := by
  have left := journal.oneHand_observeAll (Console.create config width height).notices
  have right := other.oneHand_observeAll (Console.create config width height).notices
  rw [create_eq_report, create_eq_report]
  exact left.symm.trans (hand.trans right)

theorem record_congr {journal other : Journal} (hand : journal.OneHand other) (config : Config)
    (width height : Nat) (events : List Event) :
    record config width height other events = record config width height journal events := by
  rw [record, record, hand.lines_eq,
    lines_congr (by rfl) (oneHand_create hand config width height) events]

theorem transcript_eq (config : Config) (width height : Nat) (journal : Journal)
    (events : List Event) :
    transcript config width height journal events =
      Line.joined
        ((record config width height journal events).filter
          (Line.reaches journal.threshold)) := by
  have made : (create config width height journal).session.journal.threshold =
      journal.threshold := journal.threshold_observeAll (Console.create config width height).notices
  simp only [transcript, record, text_eq, made, List.filter_append, Line.joined_append]
  rw [create_eq_report, report_eq, Journal.text_observeAll]

theorem ofEntry_of_mem_lines {session : Session width height} {events : List Event} {line : Line}
    (member : line ∈ session.lines events) : line.OfEntry := by
  induction events generalizing session with
  | nil => cases member
  | cons event rest ih =>
      rcases List.mem_append.mp member with now | later
      · cases event with
        | perform operation => exact Journal.ofEntry_of_mem_lines now
        | setClock clock => cases now
      · exact ih later

theorem ofEntry_of_mem_record {config : Config} {journal : Journal} {events : List Event}
    {line : Line} (member : line ∈ record config width height journal events) : line.OfEntry := by
  rcases List.mem_append.mp member with made | later
  · exact Journal.ofEntry_of_mem_lines made
  · exact ofEntry_of_mem_lines later

theorem rank_ofName (name : String) :
    (Level.ofName name).rank = Level.place (Upper.ofText name) := by
  rw [Level.rank_eq, Level.name_ofName]

/-- A level is ranked with information if its name is none of the five. -/
theorem rank_ofName_of_unknown {name : String}
    (unknown : Upper.ofText name ∉ ["DEBUG", "INFO", "WARNING", "ERROR", "CRITICAL"]) :
    (Level.ofName name).rank = Level.info.rank := by
  rw [rank_ofName, Level.place, List.idxOf?_eq_none_iff.mpr unknown]
  rfl

/-- Two sessions of one console do the same, whatever their journals are and whatever time these are
told, and it is what the console does without a journal.  If the journals differ in the threshold
alone, each writes those lines of the journal without threshold that are at least as grave as its
own.  A line ends with the text of an entry.  Upper and lower case make no difference to the level
that a name gives. -/
theorem undisturbed_by_journal (config : Config) (width height : Nat) (journal other : Journal)
    {events others : List Event} (same : operations events = operations others) :
    let made := create config width height journal
    let remade := create config width height other
    (made.session.console = remade.session.console ∧ made.failure = remade.failure) ∧
      made.session.conduct events = remade.session.conduct others ∧
      (made.session.console = (Console.create config width height).console ∧
        made.session.conduct events = made.session.console.conduct (operations events)) ∧
      (∀ threshold : Level,
        let complete := record config width height { journal with threshold := .debug } events
        transcript config width height { journal with threshold := .debug } events =
            Line.joined complete ∧
          transcript config width height { journal with threshold } events =
            Line.joined (complete.filter (Line.reaches threshold)) ∧
          ∀ line ∈ complete, line.OfEntry) ∧
      ∀ name : String,
        (Level.ofName name).name = Upper.ofText name ∧
          ((∀ letter ∈ name.toList, letter.toNat < 128) →
            (Level.ofName name).name = name.map Char.toUpper) ∧
          (Level.ofName name).rank = Level.place (Upper.ofText name) ∧
            (Upper.ofText name ∉ ["DEBUG", "INFO", "WARNING", "ERROR", "CRITICAL"] →
              (Level.ofName name).rank = Level.info.rank) := by
  intro made remade
  have console : made.session.console = (Console.create config width height).console := by
    simp only [made, create_eq_report, report_eq]
  have again : remade.session.console = (Console.create config width height).console := by
    simp only [remade, create_eq_report, report_eq]
  refine ⟨⟨console.trans again.symm, ?_⟩, ?_, ⟨console, conduct_eq _ events⟩,
    fun threshold => ⟨?_, ?_, ?_⟩, fun name => ⟨Level.name_ofName name, Level.name_ofName_of_ascii,
      rank_ofName name, rank_ofName_of_unknown⟩⟩
  · simp only [made, remade, create_eq_report, report_eq]
  · rw [conduct_eq, conduct_eq, same, console, again]
  · rw [transcript_eq, Line.filter_reaches_debug]
  · rw [transcript_eq]
    have hand : Journal.OneHand { journal with threshold := .debug } { journal with threshold } :=
      ⟨threshold, journal.traced, rfl⟩
    rw [record_congr hand]
  · exact fun line => ofEntry_of_mem_record

/-- A journal with colours and one that writes hardly anything, the first of which is told the
time. -/
theorem undisturbed_by_journal_told_the_time :
    let loud : Journal :=
      { name := "loud", threshold := .debug, coloured := true, stamped := true, opened := 0
        clock := 0, traced := 0 }
    let quiet : Journal :=
      { name := "quiet", threshold := .critical, coloured := false, stamped := false, opened := 3
        clock := 5, traced := 0 }
    let history := [Operation.load #[0x00, 0xEE] "stray", .step]
    let events := history.map Event.perform
    let timed := Event.setClock 8 :: events
    operations timed = operations events ∧
      (create {} 1 1 loud).session.conduct timed =
        (create {} 1 1 quiet).session.conduct events := by
  intro loud quiet history events timed
  have same : operations timed = operations events := rfl
  exact ⟨same, (undisturbed_by_journal {} 1 1 loud quiet same).2.1⟩

end Session
end ChipEight

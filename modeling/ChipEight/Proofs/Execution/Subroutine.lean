import ChipEight.Proofs.Execution.Path

/-!
# Subroutines

A return goes to the word behind the call that it closes, whatever happened between them.  What
carries this is that the addresses saved when the call was made stay at the bottom of the stack.
-/

namespace ChipEight
namespace Machine

/-- Whether an entry of a path opens a call. -/
def opensCall : Machine × Event → Bool
  | (machine, .step _ _) => machine.word.low / 4096 == 0x2
  | _ => false

/-- Whether an entry of a path closes a call. -/
def closesCall : Machine × Event → Bool
  | (machine, .step _ _) => machine.word.low == 0x00EE
  | _ => false

/-- A path from a call to the return that closes it.  In between at least the one call is open. -/
structure Subroutine (start : Machine) (call : Event) (inner : List (Machine × Event))
    (leaving : Machine) (back : Event) (final : Machine) : Prop where
  /-- One thing happens after another. -/
  path : Path start ((start, call) :: inner ++ [(leaving, back)]) final
  /-- The first event is a call. -/
  opens : opensCall (start, call) = true
  /-- The call stays open. -/
  inside : ∀ entry ∈ inner, start.stack.depth + 1 ≤ entry.1.stack.depth
  /-- The last event is a return. -/
  closes : closesCall (leaving, back) = true
  /-- No other call is open when it happens. -/
  innermost : leaving.stack.depth = start.stack.depth + 1

/-- What an event does to the call stack: a call saves the place behind it, a return takes the last
place back, and everything else leaves the stack alone. -/
theorem stack_of_next? {before after : Machine} {event : Event}
    (next : before.next? event = some after) :
    opensCall (before, event) = true ∧ closesCall (before, event) = false ∧
        before.stack.push before.advance.counter.toNat = .ok after.stack ∨
      opensCall (before, event) = false ∧ closesCall (before, event) = true ∧
        before.stack.pop = .ok (after.stack, after.counter) ∨
      opensCall (before, event) = false ∧ closesCall (before, event) = false ∧
        after.stack = before.stack := by
  cases event with
  | tick | load =>
      cases next
      exact .inr (.inr ⟨rfl, rfl, rfl⟩)
  | resume key =>
      cases next
      exact .inr (.inr ⟨rfl, rfl, before.stack_resume key⟩)
  | step screen held =>
      obtain ⟨drawn, stepped⟩ := next?_step_eq_some_iff.mp next
      obtain ⟨instruction, encoded, performed⟩ := step_eq_ok_iff.mp stepped
      have footprint := footprint_of_perform performed
      have raw : before.word.raw = (before.word.low : Nat) := Word.raw_ofBytes _ _
      simp only [opensCall, closesCall, beq_iff_eq, beq_eq_false_iff_ne]
      by_cases call : before.word.low / 4096 = 0x2
      · have known : before.word.Encodes (.call before.word.address) := ⟨call, rfl⟩
        obtain rfl := encoded.unique known
        obtain ⟨stack, pushed, rfl⟩ := footprint
        exact .inl ⟨call, by omega, pushed⟩
      · by_cases isReturn : before.word.low = 0x00EE
        · have known : before.word.raw = 0x00EE := by omega
          have known : before.word.Encodes .returnFromCall := known
          obtain rfl := encoded.unique known
          obtain ⟨stack, counter, popped, rfl⟩ := footprint
          exact .inr (.inl ⟨call, isReturn, popped⟩)
        · refine .inr (.inr ⟨call, isReturn, footprint.stack_eq ?_ ?_⟩)
          · rintro address rfl
            exact call encoded.1
          · rintro rfl
            simp only [Word.Encodes] at encoded
            omega

/-- The depth of the call stack counts the calls that are open. -/
theorem Path.depth_add_closed {start final : Machine} {entries : List (Machine × Event)}
    (path : Path start entries final) :
    final.stack.depth + entries.countP closesCall =
      start.stack.depth + entries.countP opensCall := by
  induction path with
  | nil => rfl
  | cons next later ih =>
      rw [List.countP_cons, List.countP_cons]
      rcases stack_of_next? next with
        ⟨opens, closes, pushed⟩ | ⟨opens, closes, popped⟩ | ⟨opens, closes, same⟩
      · have := CallStack.depth_push pushed
        simp only [opens, closes, Bool.false_eq_true, ↓reduceIte]
        omega
      · have := CallStack.depth_pop popped
        simp only [opens, closes, Bool.false_eq_true, ↓reduceIte]
        omega
      · simp only [opens, closes, Bool.false_eq_true, ↓reduceIte, ← same]
        omega

/-- The call stack is sound, has the slots it began with, and its oldest addresses are the given
ones. -/
structure Saves (machine : Machine) (slots : Nat) (saved : List UInt16) : Prop where
  /-- Free slots hold zero. -/
  wellFormed : machine.stack.WellFormed
  /-- The number of slots never changes. -/
  capacity_eq : machine.stack.capacity = slots
  /-- The given addresses were saved first. -/
  isPrefix : saved <+: machine.stack.toList

/-- The oldest addresses stay saved while no fewer addresses are on the stack. -/
theorem Saves.next? {before after : Machine} {event : Event} {slots : Nat} {saved : List UInt16}
    (saves : before.Saves slots saved) (next : before.next? event = some after)
    (deep : saved.length ≤ after.stack.depth) : after.Saves slots saved := by
  rcases stack_of_next? next with ⟨-, -, pushed⟩ | ⟨-, -, popped⟩ | ⟨-, -, same⟩
  · refine ⟨saves.wellFormed.push pushed,
      (CallStack.capacity_push pushed).trans saves.capacity_eq, ?_⟩
    rw [CallStack.toList_push pushed]
    exact saves.isPrefix.trans (List.prefix_append _ _)
  · have wellFormed := saves.wellFormed.pop popped
    refine ⟨wellFormed, (CallStack.capacity_pop popped).trans saves.capacity_eq, ?_⟩
    have list := CallStack.toList_pop saves.wellFormed popped
    refine List.prefix_of_prefix_length_le saves.isPrefix (list ▸ List.prefix_append _ _) ?_
    rw [wellFormed.length_toList]
    exact deep
  · exact ⟨same ▸ saves.wellFormed, same ▸ saves.capacity_eq, same ▸ saves.isPrefix⟩

/-- A call saves the place behind it on top of the addresses that were saved before. -/
theorem saves_of_call {before after : Machine} {event : Event}
    (wellFormed : before.stack.WellFormed) (opens : opensCall (before, event) = true)
    (next : before.next? event = some after) :
    after.Saves before.stack.capacity (before.stack.toList ++ [before.advance.counter]) := by
  rcases stack_of_next? next with ⟨-, -, pushed⟩ | ⟨other, -, -⟩ | ⟨other, -, -⟩
  · have saved := CallStack.toList_push_toNat pushed
    exact ⟨wellFormed.push pushed, CallStack.capacity_push pushed, saved ▸ List.prefix_rfl⟩
  · rw [opens] at other
    cases other
  · rw [opens] at other
    cases other

/-- A return takes back the address saved last. -/
theorem saved_of_return {before after : Machine} {event : Event} {slots : Nat}
    {saved : List UInt16} {place : UInt16} (saves : before.Saves slots (saved ++ [place]))
    (closes : closesCall (before, event) = true)
    (innermost : before.stack.depth = saved.length + 1)
    (next : before.next? event = some after) :
    after.stack.WellFormed ∧ after.stack.capacity = slots ∧ after.stack.toList = saved ∧
      after.counter = place := by
  rcases stack_of_next? next with ⟨-, other, -⟩ | ⟨-, -, popped⟩ | ⟨-, other, -⟩
  · rw [closes] at other
    cases other
  · have whole : saved ++ [place] = before.stack.toList := by
      apply saves.isPrefix.eq_of_length
      rw [saves.wellFormed.length_toList, innermost, List.length_append, List.length_singleton]
    rw [CallStack.toList_pop saves.wellFormed popped] at whole
    obtain ⟨same, last⟩ := List.append_inj' whole rfl
    exact ⟨saves.wellFormed.pop popped,
      (CallStack.capacity_pop popped).trans saves.capacity_eq, same.symm,
      (List.singleton_inj.mp last).symm⟩
  · rw [closes] at other
    cases other

theorem Subroutine.final_eq {start leaving final : Machine} {call back : Event}
    {inner : List (Machine × Event)} (wellFormed : start.stack.WellFormed)
    (subroutine : Subroutine start call inner leaving back final) :
    final.counter = start.counter + 2 ∧ final.stack = start.stack := by
  obtain ⟨path, opens, inside, closes, innermost⟩ := subroutine
  cases path with
  | cons called rest =>
      obtain ⟨reached, body, last⟩ := rest.exists_of_append
      obtain ⟨rfl, returned⟩ := last.of_singleton
      -- The body never goes below the addresses of the callers and the one that the call saved.
      let saved := start.stack.toList ++ [start.advance.counter]
      have keeps : ∀ {before after : Machine} {event : Event}, before.next? event = some after →
          start.stack.depth + 1 ≤ after.stack.depth → before.Saves start.stack.capacity saved →
            after.Saves start.stack.capacity saved := by
        intro before after event next deep saves
        apply saves.next? next
        simpa [saved, wellFormed.length_toList] using deep
      have saves := body.invariant_inside keeps inside (Nat.le_of_eq innermost.symm)
        (saves_of_call wellFormed opens called)
      obtain ⟨sound, capacity, same, place⟩ := saved_of_return saves closes
        (by rw [innermost, wellFormed.length_toList]) returned
      exact ⟨place, sound.ext_toList wellFormed capacity same⟩

/-- A return goes to the word behind its call and leaves the stack as the call found it, and at any
time the depth of the stack is the number of calls without that of returns. -/
theorem calls_match :
    (∀ start call inner leaving back final, start.stack.WellFormed →
      Subroutine start call inner leaving back final →
        final.counter.toNat = (start.counter.toNat + 2) % 65536 ∧ final.stack = start.stack) ∧
      ∀ config history machine, Path (initial config) history machine →
        (machine.stack.depth : Int) =
          history.countP opensCall - history.countP closesCall := by
  constructor
  · intro start call inner leaving back final wellFormed subroutine
    obtain ⟨counter, stack⟩ := subroutine.final_eq wellFormed
    refine ⟨?_, stack⟩
    rw [counter]
    exact UInt16.toNat_add start.counter 2
  · intro config history machine path
    have counted := path.depth_add_closed
    have empty : (initial config).stack.depth = 0 := rfl
    omega

/-- A subroutine that calls another one, which returns at once, before it returns itself. -/
theorem calls_match_nested :
    let program : Program :=
      ⟨#[0x22, 0x04, 0x12, 0x02, 0x22, 0x08, 0x00, 0xEE, 0x00, 0xEE], by decide⟩
    let start := (initial {}).load program
    let event := Event.step (Screen.blank 1 1) (Vector.replicate 16 false)
    ∃ outer inner leaving final,
      Subroutine start event [(outer, event), (inner, event)] leaving event final ∧
        Subroutine outer event [] inner event leaving ∧
        final.counter.toNat = 0x202 ∧ final.stack = start.stack ∧
        leaving.counter.toNat = 0x206 ∧ leaving.stack = outer.stack ∧
        (inner.stack.depth = 2 ∧ final.stack.depth = 0) := by
  intro program start event
  let outer : Machine :=
    { start with counter := 0x204, stack := ⟨(Array.replicate 16 0).set 0 0x202, 1⟩ }
  let inner : Machine :=
    { start with
      counter := 0x208, stack := ⟨((Array.replicate 16 0).set 0 0x202).set 1 0x206, 2⟩ }
  let leaving : Machine := { outer with counter := 0x206 }
  let final : Machine := { start with counter := 0x202 }
  have first : start.word = ⟨0x2204⟩ := by decide +kernel
  have second : outer.word = ⟨0x2208⟩ := by decide +kernel
  have third : inner.word = ⟨0x00EE⟩ := by decide +kernel
  have fourth : leaving.word = ⟨0x00EE⟩ := by decide +kernel
  have called : start.next? event = some outer := by
    refine next?_step_eq_some_iff.mpr ⟨Screen.blank 1 1, step_eq_ok_iff.mpr ⟨.call 0x204, ?_, rfl⟩⟩
    rw [first]
    exact ⟨by decide, by decide⟩
  have calledAgain : outer.next? event = some inner := by
    refine next?_step_eq_some_iff.mpr ⟨Screen.blank 1 1, step_eq_ok_iff.mpr ⟨.call 0x208, ?_, rfl⟩⟩
    rw [second]
    exact ⟨by decide, by decide⟩
  have returned : inner.next? event = some leaving := by
    refine next?_step_eq_some_iff.mpr
      ⟨Screen.blank 1 1, step_eq_ok_iff.mpr ⟨.returnFromCall, ?_, rfl⟩⟩
    rw [third]
    rfl
  have returnedAgain : leaving.next? event = some final := by
    refine next?_step_eq_some_iff.mpr
      ⟨Screen.blank 1 1, step_eq_ok_iff.mpr ⟨.returnFromCall, ?_, rfl⟩⟩
    rw [fourth]
    rfl
  have whole : Subroutine start event [(outer, event), (inner, event)] leaving event final :=
    { path := .cons called (.cons calledAgain (.cons returned (.cons returnedAgain (.nil final))))
      opens := by simp only [event, opensCall, first]; decide
      inside := by simp only [List.forall_mem_cons]; decide
      closes := by simp only [event, closesCall, fourth]; decide
      innermost := rfl }
  have nested : Subroutine outer event [] inner event leaving :=
    { path := .cons calledAgain (.cons returned (.nil leaving))
      opens := by simp only [event, opensCall, second]; decide
      inside := by simp
      closes := by simp only [event, closesCall, third]; decide
      innermost := rfl }
  have pushed : start.stack.push 0x202 = .ok outer.stack := rfl
  have sound : outer.stack.WellFormed := (CallStack.wellFormed_empty 16).push pushed
  obtain ⟨counter, stack⟩ := calls_match.1 _ _ _ _ _ _ (CallStack.wellFormed_empty 16) whole
  obtain ⟨place, saved⟩ := calls_match.1 _ _ _ _ _ _ sound nested
  have loaded : (initial {}).next? (.load program) = some start := rfl
  have depth := calls_match.2 {} _ final (.cons loaded whole.path)
  refine ⟨outer, inner, leaving, final, whole, nested, counter, stack, place, saved, rfl, ?_⟩
  simpa [event, opensCall, closesCall, first, second, third, fourth, Word.low] using depth

end Machine
end ChipEight

import TaskGraph.Proofs.Evaluation.Replay

/-!
# The cursor of a recording

A recording advances its cursor before it knows what comes of an evaluation, takes the step back
when the evaluation fails, and lets its log grow on its own (`Recording.wrap_eq_steps`). The two
stay in step all the same: over every run of replays, successes and failures the log is what it was
started with, followed by the values that are new, and the cursor counts the successes
(`Recording.InStep`, kept by each evaluation in `InStep.next`). That the cursor never passes the end
of the log is what makes an evaluation run exactly at that end (`Recording.recording_in_step`).
-/

set_option autoImplicit false

namespace TaskGraph

namespace Recording

variable {ε : Type}

/-! ## An evaluation in its steps -/

/-- The cursor moves on to the position of the next evaluation. -/
def advance (r : Recording) : Recording := { r with cursor := r.cursor + 1 }

/-- The cursor goes back to the position of an evaluation that failed. -/
def stepBack (r : Recording) : Recording := { r with cursor := r.cursor - 1 }

/-- A value is put at the end of the log. -/
def push (r : Recording) (v : Json) : Recording := { r with log := r.log ++ [v] }

@[simp] theorem stepBack_advance (r : Recording) : r.advance.stepBack = r := rfl

/-- The cursor is advanced first; then the value is taken from where it stood, or the evaluation
runs, and its value is pushed or the step taken back. -/
theorem wrap_eq_steps (r : Recording) (run : Unit → Except ε Json) :
    r.wrap run =
      match r.log[r.cursor]? with
      | some v => (.ok v, r.advance)
      | none =>
        match run () with
        | .ok v => (.ok v, r.advance.push v)
        | .error e => (.error e, r.advance.stepBack) := rfl

/-- The three ways of an evaluation: its value is there, or it runs and succeeds, or it runs and
fails. -/
theorem wrap_cases (r : Recording) (run : Unit → Except ε Json) :
    (∃ v, r.cursor < r.log.length ∧ r.wrap run = (.ok v, r.advance)) ∨
    (∃ v, r.log.length ≤ r.cursor ∧ run () = .ok v ∧ r.wrap run = (.ok v, r.advance.push v)) ∨
    (∃ e, r.log.length ≤ r.cursor ∧ run () = .error e ∧ r.wrap run = (.error e, r)) := by
  rw [wrap_eq_steps]
  cases hvalue : r.log[r.cursor]? with
  | some v => exact .inl ⟨v, (List.getElem?_eq_some_iff.1 hvalue).1, rfl⟩
  | none =>
    have hend : r.log.length ≤ r.cursor := List.getElem?_eq_none_iff.1 hvalue
    cases hrun : run () with
    | ok v => exact .inr (.inl ⟨v, hend, rfl, rfl⟩)
    | error e => exact .inr (.inr ⟨e, hend, rfl, by rw [stepBack_advance]⟩)

/-- An evaluation that fails changes neither the log nor the cursor. -/
theorem wrap_of_failed {r : Recording} {run : Unit → Except ε Json} {e : ε}
    (hfailed : (r.wrap run).1 = .error e) : (r.wrap run).2 = r := by
  obtain ⟨v, -, h⟩ | ⟨v, -, -, h⟩ | ⟨e', -, -, h⟩ := wrap_cases r run
  · rw [h] at hfailed
    cases hfailed
  · rw [h] at hfailed
    cases hfailed
  · rw [h]

/-! ## Which evaluations run -/

/-- Every evaluation is answered by what comes of it. -/
def Asks (ε : Type) (r : Recording) : Prop :=
  ∀ run : Unit → Except ε Json, (r.wrap run).1 = run ()

/-- What would come of an evaluation makes no difference, neither to its answer nor to the
recording. -/
def Ignores (ε : Type) (r : Recording) : Prop :=
  ∀ run other : Unit → Except ε Json, r.wrap run = r.wrap other

theorem asks_of_end {r : Recording} (hend : r.log.length ≤ r.cursor) : r.Asks ε := by
  intro run
  obtain ⟨v, hwithin, -⟩ | ⟨v, -, hrun, h⟩ | ⟨e, -, hrun, h⟩ := wrap_cases r run
  · exact absurd hwithin (Nat.not_lt.2 hend)
  · rw [h, hrun]
  · rw [h, hrun]

theorem ignores_of_within {r : Recording} (hwithin : r.cursor < r.log.length) :
    r.Ignores ε := by
  intro run other
  rw [wrap_eq_steps, wrap_eq_steps, List.getElem?_eq_getElem hwithin]

/-- There is more than one thing that can come of an evaluation, so it is not both asked and
ignored. -/
theorem not_asks_of_ignores {r : Recording} (hignores : r.Ignores ε) : ¬ r.Asks ε := by
  intro hasks
  have hsame := congrArg Prod.fst (hignores (fun _ => .ok .null) (fun _ => .ok (.bool true)))
  rw [hasks, hasks] at hsame
  cases hsame

theorem asks_iff (r : Recording) : r.Asks ε ↔ r.log.length ≤ r.cursor := by
  refine ⟨fun hasks => Nat.not_lt.1 fun hwithin => ?_, asks_of_end⟩
  exact not_asks_of_ignores (ignores_of_within hwithin) hasks

theorem ignores_iff (r : Recording) : r.Ignores ε ↔ r.cursor < r.log.length := by
  refine ⟨fun hignores => Nat.not_le.1 fun hend => ?_, ignores_of_within⟩
  exact not_asks_of_ignores hignores (asks_of_end hend)

/-! ## What one evaluation does to log and cursor -/

/-- The value that an answer adds to the log: the one it ran for. -/
def Answer.added (a : Answer ε) : List Json := if a.ran then values [a.value] else []

/-- The values of the evaluations that ran and succeeded, in order. -/
def added (answers : List (Answer ε)) : List Json := answers.flatMap Answer.added

/-- The number of evaluations that succeeded, from the log or anew. -/
def successes (answers : List (Answer ε)) : Nat := answers.countP fun a => a.value.isOk

/-- A recording that has been started with a log and has given these answers. -/
structure InStep (seed : List Json) (answers : List (Answer ε)) (r : Recording) : Prop where
  log : r.log = seed ++ added answers
  cursor : r.cursor = successes answers
  within : r.cursor ≤ r.log.length

theorem inStep_replaying (seed : List Json) :
    InStep seed ([] : List (Answer ε)) (replaying seed) :=
  ⟨(List.append_nil seed).symm, rfl, Nat.zero_le _⟩

theorem added_concat (answers : List (Answer ε)) (a : Answer ε) :
    added (answers ++ [a]) = added answers ++ a.added := by
  simp [added]

theorem successes_concat (answers : List (Answer ε)) (a : Answer ε) :
    successes (answers ++ [a]) = successes answers + if a.value.isOk then 1 else 0 := by
  simp [successes, List.countP_append, List.countP_singleton]

theorem runs_iff (r : Recording) : r.runs = true ↔ r.log.length ≤ r.cursor := by
  simp [runs]

/-- An evaluation keeps log and cursor in step. -/
theorem InStep.next {seed : List Json} {answers : List (Answer ε)} {r : Recording}
    (h : InStep seed answers r) (x : Except ε Json) :
    InStep seed (answers ++ [r.answer x]) (r.next x) := by
  obtain ⟨v, hwithin, hwrap⟩ | ⟨v, hend, -, hwrap⟩ | ⟨e, hend, -, hwrap⟩ :=
    wrap_cases r fun _ => x
  -- the value is there: the cursor moves inside the log
  · have hanswer : r.answer x = recalled v := by
      rw [answer, hwrap, Bool.eq_false_iff.2 fun hruns => absurd ((runs_iff r).1 hruns)
        (Nat.not_le.2 hwithin)]
      rfl
    rw [Recording.next, hwrap, hanswer]
    exact {
      log := by
        rw [added_concat, ← List.append_assoc, ← h.log]
        exact (List.append_nil r.log).symm
      cursor := by
        rw [successes_concat, ← h.cursor]
        rfl
      within := hwithin }
  -- the cursor is at the end: it passes the value that is pushed
  · have hanswer : r.answer x = ran (.ok v) := by
      rw [answer, hwrap, (runs_iff r).2 hend]
      rfl
    rw [Recording.next, hwrap, hanswer]
    exact {
      log := by
        rw [added_concat, ← List.append_assoc, ← h.log]
        rfl
      cursor := by
        rw [successes_concat, ← h.cursor]
        rfl
      within := by
        have := h.within
        simpa [advance, push] using this }
  -- nothing changes
  · have hanswer : r.answer x = ran (.error e) := by
      rw [answer, hwrap, (runs_iff r).2 hend]
      rfl
    rw [Recording.next, hwrap, hanswer]
    exact {
      log := by
        rw [added_concat, ← List.append_assoc, ← h.log]
        exact (List.append_nil r.log).symm
      cursor := by
        rw [successes_concat, ← h.cursor]
        rfl
      within := h.within }

/-! ## Evaluations in turn -/

/-- The answers to the first evaluations do not depend on the later ones. -/
theorem take_answers (r : Recording) (xs : List (Except ε Json)) (n : Nat) :
    (r.answers xs).take n = r.answers (xs.take n) := by
  induction xs generalizing r n with
  | nil => simp [answers]
  | cons x xs ih =>
    cases n with
    | zero => rfl
    | succ n => exact congrArg (r.answer x :: ·) (ih (r.next x) n)

/-- Evaluations in turn keep log and cursor in step. -/
theorem InStep.after {seed : List Json} {past : List (Answer ε)} {r : Recording}
    (h : InStep seed past r) (xs : List (Except ε Json)) :
    InStep seed (past ++ r.answers xs) (r.after xs) := by
  induction xs generalizing past r with
  | nil => rwa [answers, List.append_nil]
  | cons x xs ih =>
    have hnext := ih (h.next x)
    rwa [List.append_assoc] at hnext

/-- Let evaluations be made in turn in a recording that is started with a log, whatever comes of
those that run. After each of them the log is the one that it was started with, followed by the
values of the evaluations that ran and succeeded, in order; the cursor is the number of evaluations
that succeeded, and it is within the log. The next evaluation runs exactly if the cursor has reached
the end of the log: there its answer is what comes of it, and before it what would come of it makes
no difference. An evaluation that fails leaves both as they are. -/
theorem recording_in_step (seed : List Json) (xs : List (Except ε Json)) (n : Nat) :
    let past := ((replaying seed).answers xs).take n
    let r := (replaying seed).after (xs.take n)
    r.log = seed ++ added past ∧
    r.cursor = successes past ∧
    r.cursor ≤ r.log.length ∧
    (r.runs = true ↔ r.cursor = r.log.length) ∧
    (r.Asks ε ↔ r.cursor = r.log.length) ∧
    (r.Ignores ε ↔ r.cursor < r.log.length) ∧
    ∀ (run : Unit → Except ε Json) (e : ε),
      (r.wrap run).1 = .error e → (r.wrap run).2 = r := by
  intro past r
  have hstep : InStep seed past r := by
    have h := (inStep_replaying (ε := ε) seed).after (xs.take n)
    rwa [List.nil_append, ← take_answers] at h
  have hend : r.log.length ≤ r.cursor ↔ r.cursor = r.log.length :=
    ⟨fun h => Nat.le_antisymm hstep.within h, fun h => Nat.le_of_eq h.symm⟩
  refine ⟨hstep.log, hstep.cursor, hstep.within, ?_, ?_, ignores_iff r, ?_⟩
  · rw [runs_iff, hend]
  · rw [asks_iff, hend]
  · intro run e hfailed
    exact wrap_of_failed hfailed

end Recording

end TaskGraph

import TaskGraph.Evaluation.Recording

/-!
# Replaying a recording

A recording is a log of values with a cursor, and it does not know which evaluations failed between
them. Its replay therefore answers the first evaluations with the values of the log, one after the
other, and runs the others (`Recording.answers_behind`). So a replay reproduces a run, failures
included, exactly if no evaluation of the run succeeded after one that had failed
(`Recording.replay_reproduces_iff`).
-/

set_option autoImplicit false

namespace TaskGraph

namespace Recording

variable {ε : Type}

/-! ## Evaluations one after the other -/

/-- What an evaluation is answered with, and whether it ran for it. -/
structure Answer (ε : Type) where
  ran : Bool
  value : Except ε Json

/-- The answer of an evaluation that ran. -/
def ran (x : Except ε Json) : Answer ε := ⟨true, x⟩

/-- The answer of an evaluation that did not run, because its value was there. -/
def recalled (v : Json) : Answer ε := ⟨false, .ok v⟩

/-- Whether an evaluation runs: the log has no value for it. -/
def runs (r : Recording) : Bool := decide (r.log.length ≤ r.cursor)

/-- The answer to an evaluation, given what comes of it if it runs. -/
def answer (r : Recording) (x : Except ε Json) : Answer ε := ⟨r.runs, (r.wrap fun _ => x).1⟩

/-- A recording after an evaluation. -/
def next (r : Recording) (x : Except ε Json) : Recording := (r.wrap fun _ => x).2

/-- The answers to evaluations in turn. -/
def answers : Recording → List (Except ε Json) → List (Answer ε)
  | _, [] => []
  | r, x :: xs => r.answer x :: (r.next x).answers xs

/-- A recording after evaluations in turn. -/
def after (r : Recording) (xs : List (Except ε Json)) : Recording := xs.foldl next r

/-- The values of the evaluations that succeed. -/
def values (xs : List (Except ε Json)) : List Json := xs.filterMap Except.toOption

/-- An evaluation that the log has a value for does not run, whatever would come of it. -/
theorem wrap_of_mem {behind ahead : List Json} {v : Json} (run : Unit → Except ε Json) :
    (Recording.mk (behind ++ v :: ahead) behind.length).wrap run =
      (.ok v, ⟨(behind ++ [v]) ++ ahead, (behind ++ [v]).length⟩) := by
  simp [wrap]

/-- At the end of its log a recording takes the outcomes of evaluations as they come. -/
theorem wrap_of_end (log : List Json) (run : Unit → Except ε Json) :
    (Recording.mk log log.length).wrap run =
      (run (), ⟨log ++ values [run ()], (log ++ values [run ()]).length⟩) := by
  unfold wrap
  cases run () with
  | ok v => simp [values, Except.toOption]
  | error e => simp [values, Except.toOption]

theorem runs_of_mem (behind ahead : List Json) (v : Json) :
    (Recording.mk (behind ++ v :: ahead) behind.length).runs = false := by
  simp [runs]

theorem runs_of_end (log : List Json) : (Recording.mk log log.length).runs = true := by
  simp [runs]

theorem values_cons (x : Except ε Json) (xs : List (Except ε Json)) :
    values (x :: xs) = values [x] ++ values xs := by
  cases x <;> rfl

/-- At the end of its log a recording runs every evaluation, and its log grows by the values. -/
theorem answers_end (log : List Json) (xs : List (Except ε Json)) :
    (Recording.mk log log.length).answers xs = xs.map ran ∧
      ((Recording.mk log log.length).after xs).log = log ++ values xs := by
  induction xs generalizing log with
  | nil => exact ⟨rfl, (List.append_nil log).symm⟩
  | cons x xs ih =>
    obtain ⟨hanswers, hlog⟩ := ih (log ++ values [x])
    have hnext : (Recording.mk log log.length).next x =
        ⟨log ++ values [x], (log ++ values [x]).length⟩ := by
      rw [next, wrap_of_end]
    constructor
    · show answer _ x :: answers (next _ x) xs = _
      rw [hnext, hanswers, answer, runs_of_end, wrap_of_end]
      rfl
    · show (after (next _ x) xs).log = _
      rw [hnext, hlog, values_cons x xs, List.append_assoc]

/-- The values that are ahead of the cursor are the answers to the next evaluations, whatever these
are; the evaluations behind them run. -/
theorem answers_behind (behind ahead : List Json) (xs : List (Except ε Json)) :
    (Recording.mk (behind ++ ahead) behind.length).answers xs =
      (ahead.take xs.length).map recalled ++ (xs.drop ahead.length).map ran := by
  induction ahead generalizing behind xs with
  | nil =>
    rw [List.append_nil, (answers_end behind xs).1]
    simp
  | cons v ahead ih =>
    cases xs with
    | nil => simp [answers]
    | cons x xs =>
      show answer _ x :: answers (next _ x) xs = _
      rw [answer, next, runs_of_mem, wrap_of_mem, ih]
      rfl

/-! ## A run and its replay -/

/-- The answers to the evaluations of a run in a replay of what the run has recorded. An evaluation
is given by what came of it in the run and what comes of it if the replay runs it. -/
def replay (evaluations : List (Except ε Json × Except ε Json)) : List (Answer ε) :=
  (replaying ((fresh.after (evaluations.map Prod.fst)).log)).answers (evaluations.map Prod.snd)

/-- The answer that reproduces an evaluation: the value that it had, without running it, or, if it
failed, what comes of it now. -/
def reproduced : Except ε Json × Except ε Json → Answer ε
  | (.ok v, _) => recalled v
  | (.error _, y) => ran y

/-- Whether no evaluation succeeds after one that fails. -/
def FailuresLast (xs : List (Except ε Json)) : Prop :=
  xs.Pairwise fun x y => x.isOk = false → y.isOk = false

theorem replay_eq (evaluations : List (Except ε Json × Except ε Json)) :
    replay evaluations =
      (values (evaluations.map Prod.fst)).map recalled ++
        ((evaluations.map Prod.snd).drop (values (evaluations.map Prod.fst)).length).map ran := by
  have hlog : (fresh.after (evaluations.map Prod.fst)).log = values (evaluations.map Prod.fst) :=
    (answers_end [] (evaluations.map Prod.fst)).2
  have hlength :
      (values (evaluations.map Prod.fst)).length ≤ (evaluations.map Prod.snd).length := by
    have h := List.length_filterMap_le Except.toOption (evaluations.map Prod.fst)
    simpa [values] using h
  have h := answers_behind [] (values (evaluations.map Prod.fst)) (evaluations.map Prod.snd)
  rw [List.take_of_length_le hlength] at h
  rw [replay, hlog]
  exact h

theorem replay_ok (v : Json) (y : Except ε Json)
    (evaluations : List (Except ε Json × Except ε Json)) :
    replay ((.ok v, y) :: evaluations) = recalled v :: replay evaluations := by
  rw [replay_eq, replay_eq]
  rfl

/-- If nothing succeeds after a failure, a replay runs everything from there on. -/
theorem replay_of_values_eq_nil {evaluations : List (Except ε Json × Except ε Json)}
    (h : values (evaluations.map Prod.fst) = []) :
    replay evaluations = (evaluations.map Prod.snd).map ran := by
  rw [replay_eq, h]
  rfl

theorem values_eq_nil_iff {xs : List (Except ε Json)} :
    values xs = [] ↔ ∀ x ∈ xs, x.isOk = false := by
  rw [values, List.filterMap_eq_nil_iff]
  refine forall₂_congr fun x _ => ?_
  cases x <;> simp [Except.toOption, Except.isOk, Except.toBool]

theorem map_reproduced_of_failed {evaluations : List (Except ε Json × Except ε Json)}
    (h : ∀ x ∈ evaluations.map Prod.fst, x.isOk = false) :
    evaluations.map reproduced = (evaluations.map Prod.snd).map ran := by
  rw [List.map_map]
  refine List.map_congr_left fun ⟨x, y⟩ hmem => ?_
  have hx := h x (List.mem_map.2 ⟨(x, y), hmem, rfl⟩)
  cases x with
  | ok v => cases hx
  | error e => rfl

/-- A replay answers the first evaluations with the values of the run in turn and runs the others.
So it reproduces the run, position by position and failures included, exactly if the run had no
success after a failure. -/
theorem replay_reproduces_iff (evaluations : List (Except ε Json × Except ε Json)) :
    (replay evaluations =
      (values (evaluations.map Prod.fst)).map recalled ++
        ((evaluations.map Prod.snd).drop (values (evaluations.map Prod.fst)).length).map ran) ∧
    (replay evaluations = evaluations.map reproduced ↔
      FailuresLast (evaluations.map Prod.fst)) := by
  refine ⟨replay_eq evaluations, ?_⟩
  induction evaluations with
  | nil => simp [replay, answers, FailuresLast]
  | cons evaluation evaluations ih =>
    obtain ⟨x, y⟩ := evaluation
    unfold FailuresLast at ih ⊢
    rw [List.map_cons, List.map_cons, List.pairwise_cons]
    cases x with
    | ok v =>
      rw [replay_ok]
      simpa [reproduced, Except.isOk, Except.toBool] using ih
    | error e =>
      have hvalues : values ((Except.error e :: evaluations.map Prod.fst)) =
          values (evaluations.map Prod.fst) := rfl
      cases hlog : values (evaluations.map Prod.fst) with
      -- nothing succeeds later: both sides run everything
      | nil =>
        have hfailed := values_eq_nil_iff.1 hlog
        have hreplay : replay ((.error e, y) :: evaluations) = _ :=
          replay_of_values_eq_nil (hvalues.trans hlog)
        rw [hreplay, map_reproduced_of_failed hfailed]
        simp only [List.map_cons, reproduced, true_iff]
        refine ⟨fun z hz _ => hfailed z hz, List.pairwise_of_forall_mem_list fun a _ b hb _ =>
          hfailed b hb⟩
      -- a later value is the answer to the evaluation that failed
      | cons v log =>
        have hlate : ¬ ∀ z ∈ evaluations.map Prod.fst, z.isOk = false := by
          rw [← values_eq_nil_iff, hlog]
          exact List.cons_ne_nil v log
        rw [replay_eq, List.map_cons, hvalues, hlog]
        constructor
        · intro h
          have hran := congrArg Answer.ran (List.cons.inj h).1
          cases hran
        · intro h
          exact absurd (fun z hz => h.1 z hz rfl) hlate

/-- A value recorded after a failure is the replay's answer to the evaluation that failed. -/
theorem late_success_answers_failure :
    ¬ ∀ evaluations : List (Except String Json × Except String Json),
      replay evaluations = evaluations.map reproduced := by
  intro h
  have hreplay := h [(.error "down", .error "down"), (.ok (.nat 1), .ok (.nat 1))]
  have hran := congrArg (List.map Answer.ran) hreplay
  revert hran
  decide

end Recording

end TaskGraph

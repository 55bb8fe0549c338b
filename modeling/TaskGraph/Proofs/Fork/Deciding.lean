import TaskGraph.Execution.Join

/-!
# How a join is decided

Branches reply in any order, each with the outcome that it has. A reply rules on a join if it is a
failure and the join does not compete, or a value and it does; the first such reply decides it. As
long as there is none, a join is a table of what has come in (`Join.Undecided`). With the reply that
decides it, a join settles and names the branches that have not replied, which are to be stopped
(`Join.Undecided.decides`). From then on no reply changes that or the verdict
(`Join.Decided.reply`).
-/

set_option autoImplicit false

namespace TaskGraph

/-- The failure that an outcome is. A cancellation is none. -/
def Fault.failure? {α : Type} : Except Fault α → Option Fault
  | .ok _ => none
  | .error f => if f.isCancelled then none else some f

namespace Join

/-- The verdict that an outcome alone brings about. -/
def ruling (compete : Bool) (x : Except Fault Json) : Option Verdict :=
  if compete then x.toOption.map .won else (Fault.failure? x).map .failed

/-- What rules on a join that does not compete is a failure. -/
theorem ruling_joining {x : Except Fault Json} :
    ruling false x = none ↔ Fault.failure? x = none :=
  Option.map_eq_none_iff

/-- What rules on a competition is a value. -/
theorem ruling_competing {x : Except Fault Json} : ruling true x = none ↔ x.toOption = none :=
  Option.map_eq_none_iff

/-! ## The branches that have replied -/

/-- A table over the branches with one entry replaced. -/
theorem map_range_set {α : Type} (f : Nat → α) (branches i : Nat) (a : α) :
    ((List.range branches).map f).set i a =
      (List.range branches).map fun b => if b = i then a else f b := by
  refine List.ext_getElem (by simp) fun k hk _ => ?_
  simp only [List.getElem_set, List.getElem_map, List.getElem_range, eq_comm]

/-- Which of a number of branches are among some replies. -/
def flags (branches : Nat) (replies : List Nat) : List Bool :=
  (List.range branches).map fun b => decide (b ∈ replies)

variable {j : Join} {branches : Nat} {replies : List Nat}

theorem flags_set (branches : Nat) (replies : List Nat) (i : Nat) :
    (flags branches replies).set i true = flags branches (replies ++ [i]) := by
  rw [flags, map_range_set]
  refine List.map_congr_left fun b _ => ?_
  by_cases hb : b = i
  · simp [hb]
  · simp [hb]

theorem all_flags : (flags branches replies).all id = true ↔ ∀ b < branches, b ∈ replies := by
  simp [flags, List.all_eq_true]

/-- The branches that a join waits for are those that are not among the replies. -/
theorem waiting_eq (h : j.replied = flags branches replies) :
    j.waiting = (List.range branches).filter fun b => decide (b ∉ replies) := by
  unfold waiting
  rw [h, flags, List.length_map, List.length_range]
  refine List.filter_congr fun b hb => ?_
  have hlt : b < branches := List.mem_range.1 hb
  simp [hlt]

theorem waiting_eq_nil (h : j.replied = flags branches replies)
    (hall : ∀ b < branches, b ∈ replies) : j.waiting = [] := by
  rw [waiting_eq h, List.filter_eq_nil_iff]
  intro b hb
  simpa using hall b (List.mem_range.1 hb)

/-! ## Before the decision -/

section Outcomes

variable (outcome : Nat → Except Fault Json)

/-- A join after replies none of which rules on it. -/
structure Undecided (compete : Bool) (branches : Nat) (replies : List Nat) (j : Join) : Prop where
  competes : j.compete = compete
  replied : j.replied = flags branches replies
  values : j.values = (List.range branches).map fun b =>
    if b ∈ replies then (outcome b).toOption else none
  winner : j.winner = none
  failure : j.failure = replies.findSome? fun b => Fault.failure? (outcome b)
  settled : j.settled = true → ∀ b < branches, b ∈ replies
  undecided : ∀ b ∈ replies, ruling compete (outcome b) = none

theorem undecided_start (compete : Bool) (branches : Nat) :
    Undecided outcome compete branches [] (start compete branches) where
  competes := rfl
  replied := by simp [start, flags, List.map_const']
  values := by simp [start, List.map_const']
  winner := rfl
  failure := rfl
  settled h := by cases h
  undecided b hb := by cases hb

variable {outcome} {compete : Bool} {i : Nat}

/-- A join that does not compete and is undecided has noted no failure. -/
theorem Undecided.failure_eq_none (h : Undecided outcome false branches replies j) :
    j.failure = none := by
  rw [h.failure, List.findSome?_eq_none_iff]
  intro b hb
  simpa [ruling] using h.undecided b hb

/-- An undecided join has settled only if every branch has replied. -/
theorem Undecided.not_settled (h : Undecided outcome compete branches replies j)
    (hi : i < branches) (hnew : i ∉ replies) : j.settled = false := by
  cases hsettled : j.settled with
  | false => rfl
  | true => exact absurd (h.settled hsettled i hi) hnew

/-- An undecided join is complete only if every branch has replied. -/
theorem Undecided.isComplete_iff (h : Undecided outcome compete branches replies j) :
    j.isComplete = true ↔ ∀ b < branches, b ∈ replies := by
  rw [← all_flags, ← h.replied]
  unfold isComplete complete
  rw [h.competes, h.winner]
  cases compete with
  | true => simp
  | false => simp [h.failure_eq_none]

/-- The verdict on branches none of which has failed. -/
theorem Undecided.verdict_joined (h : Undecided outcome false branches replies j)
    (hall : ∀ b < branches, b ∈ replies) :
    j.verdict = .joined ((List.range branches).map fun b => (outcome b).toOption) := by
  have hvalues : j.values = (List.range branches).map fun b => (outcome b).toOption := by
    rw [h.values]
    exact List.map_congr_left fun b hb => if_pos (hall b (List.mem_range.1 hb))
  unfold verdict
  rw [h.competes, h.winner, h.failure_eq_none, hvalues]

/-- The verdict on a competition in which no branch has a value. -/
theorem Undecided.verdict_lost (h : Undecided outcome true branches replies j) :
    j.verdict = match replies.findSome? fun b => Fault.failure? (outcome b) with
      | some f => .failed f
      | none => .stopped := by
  unfold verdict
  rw [h.competes, h.winner, h.failure]
  cases replies.findSome? fun b => Fault.failure? (outcome b) with
  | some f => rfl
  | none => rfl

/-! ## One reply -/

/-- Notes that a branch has replied. -/
def replying (j : Join) (i : Nat) : Join := { j with replied := j.replied.set i true }

theorem reply_eq (j : Join) (i : Nat) (x : Except Fault Json) :
    j.reply i x =
      if !((j.replying i).outcome i x).settled && ((j.replying i).outcome i x).isComplete then
        ({ (j.replying i).outcome i x with settled := true }, ((j.replying i).outcome i x).waiting)
      else ((j.replying i).outcome i x, []) :=
  rfl

/-- A fault is noted if it is the first failure. -/
theorem outcome_error (j : Join) (i : Nat) (f : Fault) :
    j.outcome i (.error f) =
      { j with failure := j.failure.or (Fault.failure? (.error f : Except Fault Json)) } := by
  obtain ⟨compete, replied, values, winner, failure, settled⟩ := j
  show fault _ f = _
  unfold fault Fault.failure?
  cases hcancelled : f.isCancelled with
  | true => simp [hcancelled]
  | false => cases failure <;> simp [hcancelled]

theorem outcome_ok (hopen : j.settled = false) (i : Nat) (v : Json) :
    j.outcome i (.ok v) =
      { j with
        winner := if j.compete then some i else j.winner
        values := j.values.set i (some v) } := by
  show j.value i v = _
  rw [value, hopen]
  rfl

theorem outcome_ok_settled (hsettled : j.settled = true) (i : Nat) (v : Json) :
    j.outcome i (.ok v) = j := by
  show j.value i v = _
  rw [value, if_pos hsettled]

/-- The table of values after the reply of another branch. -/
theorem values_append (branches : Nat) (replies : List Nat) (i : Nat) :
    ((List.range branches).map fun b =>
      if b ∈ replies then (outcome b).toOption else none).set i (outcome i).toOption =
      (List.range branches).map fun b =>
        if b ∈ replies ++ [i] then (outcome b).toOption else none := by
  rw [map_range_set]
  refine List.map_congr_left fun b _ => ?_
  by_cases hb : b = i
  · simp [hb]
  · simp [hb]

/-- The table of values does not change with the reply of a branch that has no value. -/
theorem values_append_none (hnew : i ∉ replies) (hnone : (outcome i).toOption = none) :
    ((List.range branches).map fun b => if b ∈ replies then (outcome b).toOption else none) =
      (List.range branches).map fun b =>
        if b ∈ replies ++ [i] then (outcome b).toOption else none := by
  refine List.map_congr_left fun b _ => ?_
  by_cases hb : b = i
  · simp [hb, hnew, hnone]
  · simp [hb]

/-- A reply that rules on nothing is noted, and the join is as undecided as before. -/
theorem Undecided.noted (h : Undecided outcome compete branches replies j) (hi : i < branches)
    (hnew : i ∉ replies) (hruling : ruling compete (outcome i) = none) :
    Undecided outcome compete branches (replies ++ [i])
      ((j.replying i).outcome i (outcome i)) := by
  have hopen : (j.replying i).settled = false := h.not_settled hi hnew
  have hreplied : (j.replying i).replied = flags branches (replies ++ [i]) := by
    rw [replying, h.replied, flags_set]
  have hundecided : ∀ b ∈ replies ++ [i], ruling compete (outcome b) = none := by
    intro b hb
    rcases List.mem_append.1 hb with hb | hb
    · exact h.undecided b hb
    · rwa [List.mem_singleton.1 hb]
  have hfailure : (replies ++ [i]).findSome? (fun b => Fault.failure? (outcome b)) =
      j.failure.or (Fault.failure? (outcome i)) := by
    rw [List.findSome?_append, h.failure, List.findSome?_singleton]
  cases houtcome : outcome i with
  | ok v =>
    -- a value rules on nothing only if the join does not compete
    obtain rfl : compete = false := by
      cases compete with
      | false => rfl
      | true => simp [ruling, houtcome, Except.toOption] at hruling
    have hcompetes : (j.replying i).compete = false := h.competes
    rw [outcome_ok hopen, hcompetes]
    refine ⟨rfl, hreplied, ?_, h.winner, ?_, fun hsettled => ?_, hundecided⟩
    · rw [← values_append, houtcome, ← h.values]
      rfl
    · rw [hfailure, houtcome]
      exact (Option.or_none).symm
    · rw [hopen] at hsettled
      cases hsettled
  | error f =>
    -- a fault leaves the table of values as it was, and is noted if it is the first failure
    rw [outcome_error]
    refine ⟨h.competes, hreplied, ?_, h.winner, ?_, fun hsettled => ?_, hundecided⟩
    · rw [← values_append_none hnew (by rw [houtcome]; rfl), ← h.values]
      rfl
    · rw [hfailure, houtcome]
      rfl
    · rw [hopen] at hsettled
      cases hsettled

/-- A reply that rules on nothing leaves a join undecided and stops no branch. -/
theorem Undecided.reply (h : Undecided outcome compete branches replies j) (hi : i < branches)
    (hnew : i ∉ replies) (hruling : ruling compete (outcome i) = none) :
    (j.reply i (outcome i)).2 = [] ∧
      Undecided outcome compete branches (replies ++ [i]) (j.reply i (outcome i)).1 := by
  have hnoted := h.noted hi hnew hruling
  rw [reply_eq]
  split
  · next hcomplete =>
    -- the join settles because nothing is left to wait for
    simp only [Bool.and_eq_true] at hcomplete
    have hall := hnoted.isComplete_iff.1 hcomplete.2
    refine ⟨waiting_eq_nil hnoted.replied hall, ?_⟩
    exact { hnoted with settled := fun _ => hall }
  · exact ⟨rfl, hnoted⟩

/-! ## The decision -/

/-- A join that has settled on a verdict. -/
inductive Decided : Verdict → Join → Prop where
  | won {j : Join} {i : Nat} {v : Json} (settled : j.settled = true) (competes : j.compete = true)
      (winner : j.winner = some i) (value : j.values[i]? = some (some v)) : Decided (.won v) j
  | failed {j : Join} {f : Fault} (settled : j.settled = true) (competes : j.compete = false)
      (failure : j.failure = some f) : Decided (.failed f) j

theorem Decided.settled {v : Verdict} (h : Decided v j) : j.settled = true := by
  cases h with
  | won settled => exact settled
  | failed settled => exact settled

theorem Decided.verdict_eq {v : Verdict} (h : Decided v j) : j.verdict = v := by
  unfold verdict
  cases h with
  | won _ competes winner value => simp [competes, winner, value]
  | failed _ competes failure => simp [competes, failure]

/-- What is noted of a reply to a join that has settled changes neither that nor its verdict. -/
theorem Decided.noted {v : Verdict} (h : Decided v j) (i : Nat) (x : Except Fault Json) :
    Decided v ((j.replying i).outcome i x) := by
  have hreplying : Decided v (j.replying i) := by
    cases h with
    | won settled competes winner value => exact .won settled competes winner value
    | failed settled competes failure => exact .failed settled competes failure
  cases x with
  | ok w =>
    rw [outcome_ok_settled hreplying.settled]
    exact hreplying
  | error f =>
    -- a failure may still be noted, but only beside a winner or behind the one there is
    rw [outcome_error]
    cases hreplying with
    | won settled competes winner value => exact .won settled competes winner value
    | failed settled competes failure =>
      exact .failed settled competes (by rw [failure, Option.some_or])

/-- A reply to a join that has settled stops no branch and changes nothing of its verdict. -/
theorem Decided.reply {v : Verdict} (h : Decided v j) (i : Nat) (x : Except Fault Json) :
    (j.reply i x).2 = [] ∧ Decided v (j.reply i x).1 := by
  have hnoted := h.noted i x
  rw [reply_eq, hnoted.settled]
  exact ⟨rfl, hnoted⟩

/-- The first reply that rules on a join decides it, and the branches that have not replied by then
are to be stopped. -/
theorem Undecided.decides (h : Undecided outcome compete branches replies j) (hi : i < branches)
    (hnew : i ∉ replies) {v : Verdict} (hruling : ruling compete (outcome i) = some v) :
    (j.reply i (outcome i)).2 =
        (List.range branches).filter (fun b => decide (b ∉ replies ++ [i])) ∧
      Decided v (j.reply i (outcome i)).1 := by
  have hopen : (j.replying i).settled = false := h.not_settled hi hnew
  have hreplied : (j.replying i).replied = flags branches (replies ++ [i]) := by
    rw [replying, h.replied, flags_set]
  cases houtcome : outcome i with
  | ok w =>
    -- the value wins: it is in the table, and the join is complete whoever has replied
    obtain ⟨rfl, rfl⟩ : compete = true ∧ v = .won w := by
      cases compete with
      | true => simpa [ruling, houtcome, Except.toOption, eq_comm] using hruling
      | false => simp [ruling, houtcome, Fault.failure?] at hruling
    have hcompetes : (j.replying i).compete = true := h.competes
    have hlength : i < (j.replying i).values.length := by
      show i < j.values.length
      rw [h.values]
      simpa using hi
    rw [reply_eq, outcome_ok hopen, hcompetes]
    simp only [if_true, hopen, Bool.not_false, isComplete, complete, Option.isSome_some,
      Bool.and_self, Bool.or_true, Bool.true_or]
    refine ⟨waiting_eq hreplied, .won rfl rfl rfl ?_⟩
    exact List.getElem?_set_self hlength
  | error f =>
    -- the failure is the first one, since the join has noted none before
    obtain ⟨rfl, hfailure⟩ : compete = false ∧
        ∃ g, Fault.failure? (.error f : Except Fault Json) = some g ∧ v = .failed g := by
      cases compete with
      | true => simp [ruling, houtcome, Except.toOption] at hruling
      | false =>
        rw [ruling, houtcome] at hruling
        obtain ⟨g, hg, hv⟩ := Option.map_eq_some_iff.1 hruling
        exact ⟨rfl, g, hg, hv.symm⟩
    obtain ⟨g, hg, rfl⟩ := hfailure
    have hcompetes : (j.replying i).compete = false := h.competes
    have hnone : (j.replying i).failure = none := h.failure_eq_none
    rw [reply_eq, outcome_error, hnone, hg]
    simp only [Option.none_or, hopen, Bool.not_false, isComplete, complete, Option.isSome_some,
      hcompetes, Bool.and_self, Bool.true_or, if_true]
    exact ⟨waiting_eq hreplied, .failed rfl rfl rfl⟩

end Outcomes

end Join

end TaskGraph

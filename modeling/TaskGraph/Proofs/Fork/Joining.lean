import TaskGraph.Execution.Forking
import TaskGraph.Proofs.Dialogue
import TaskGraph.Proofs.Fork.Branches
import TaskGraph.Proofs.Fork.Deciding

/-!
# What a fork makes of its branches

A fork is conducted with replies of its branches by `Forking.attend`, which says what it does on the
way and how it goes on: it waits if there are fewer replies than branches. The replies come in any
order, and `outcome` says what each branch replies with.

Every fork hears all of its branches. Without competition its result is a function of the outcomes
alone if none of them is a failure, and the first failure otherwise (`joins_every_branch`). A
competition results in the first value, and in nothing of what is replied after it
(`competition_has_one_winner`). In both, the branches that are stopped are those that have not
replied when the fork is decided.
-/

set_option autoImplicit false

namespace TaskGraph

namespace Forking

/-! ## Conducting a fork -/

/-- What a fork does. -/
inductive Event where
  | begins (context : Context) (graphs : List String) (input : Json) (scope : Scope)
  | hears (branch : Nat)
  | stops (branches : List Nat)
  deriving Repr, DecidableEq

variable {α : Type}

/-- Conducts a dialogue with replies of branches until it waits for one that has not come: what it
does, and how it goes on. -/
def attend (cancelled : Context → Bool) :
    Dialogue α → List (Nat × Except Fault Json) → List Event × Dialogue α
  | .ask (.fork c graphs input scope) k, rs =>
    let (es, d) := attend cancelled (k ()) rs
    (.begins c graphs input scope :: es, d)
  | .ask .reply k, (i, x) :: rs =>
    let (es, d) := attend cancelled (k (i, x)) rs
    (.hears i :: es, d)
  | .ask (.stop branches) k, rs =>
    let (es, d) := attend cancelled (k ()) rs
    (.stops branches :: es, d)
  | .ask (.cancelled c) k, rs => attend cancelled (k (cancelled c)) rs
  | d, _ => ([], d)

/-- Whether a dialogue waits for a branch to reply. -/
def Awaits (d : Dialogue α) : Prop := ∃ k, d = .ask .reply k

/-- To stop no branches is to do nothing. -/
def stopping (branches : List Nat) : List Event :=
  if branches.isEmpty then [] else [.stops branches]

/-! ## A join that hears replies -/

section Chronicle

variable (outcome : Nat → Except Fault Json)

/-- What a fork does when branches reply, and the join after that. -/
def chronicle : Join → List Nat → List Event × Join
  | j, [] => ([], j)
  | j, i :: is =>
    let (j, stopped) := j.reply i (outcome i)
    let (es, j) := chronicle j is
    (.hears i :: (stopping stopped ++ es), j)

variable {outcome} {cancelled : Context → Bool}

theorem chronicle_append (j : Join) (is is' : List Nat) :
    chronicle outcome j (is ++ is') =
      ((chronicle outcome j is).1 ++ (chronicle outcome (chronicle outcome j is).2 is').1,
        (chronicle outcome (chronicle outcome j is).2 is').2) := by
  induction is generalizing j with
  | nil => rfl
  | cons i is ih =>
    simp only [List.cons_append, chronicle]
    rw [ih]
    simp only [List.append_assoc]

/-- A fork hears a reply, stops branches if its join says so, and waits for the others. -/
theorem collect_bind (k : Except Fault Join → Dialogue α) (left : Nat) (j : Join) :
    (collect (left + 1) j).run.bind k = .ask .reply fun x =>
      if (j.reply x.1 x.2).2.isEmpty then (collect left (j.reply x.1 x.2).1).run.bind k
      else .ask (.stop (j.reply x.1 x.2).2) fun _ =>
        (collect left (j.reply x.1 x.2).1).run.bind k := by
  show Dialogue.ask .reply _ = _
  congr 1
  funext x
  show (ExceptT.run (if (j.reply x.1 x.2).2.isEmpty then collect left (j.reply x.1 x.2).1
    else _)).bind k = _
  split
  · rfl
  · rfl

theorem attend_stopping (k : Dialogue α) (branches : List Nat)
    (rs : List (Nat × Except Fault Json)) :
    attend cancelled (if branches.isEmpty then k else .ask (.stop branches) fun _ => k) rs =
      (stopping branches ++ (attend cancelled k rs).1, (attend cancelled k rs).2) := by
  unfold stopping
  split
  · rfl
  · rw [attend]
    rfl

/-- A fork that waits for at least as many branches as reply does what its join does, and goes on
with the rest. -/
theorem attend_collect (k : Except Fault Join → Dialogue α) (is : List Nat) (left : Nat)
    (j : Join) :
    attend cancelled ((collect (is.length + left) j).run.bind k)
        (is.map fun i => (i, outcome i)) =
      ((chronicle outcome j is).1 ++
          (attend cancelled ((collect left (chronicle outcome j is).2).run.bind k) []).1,
        (attend cancelled ((collect left (chronicle outcome j is).2).run.bind k) []).2) := by
  -- fork and join hear the replies one by one, and the join is another one after each
  induction is generalizing j with
  | nil => simp [chronicle]
  | cons i is ih =>
    rw [List.length_cons, Nat.add_right_comm, collect_bind, List.map_cons, attend,
      attend_stopping, ih]
    simp only [chronicle, List.cons_append, List.append_assoc]

/-- A join hears replies none of which rules on it, and does nothing else. -/
theorem chronicle_undecided {compete : Bool} {branches : Nat} {heard : List Nat} {j : Join}
    (is : List Nat) (h : j.Undecided outcome compete branches heard) (hnew : (heard ++ is).Nodup)
    (hbranches : ∀ i ∈ is, i < branches)
    (hnone : ∀ i ∈ is, Join.ruling compete (outcome i) = none) :
    (chronicle outcome j is).1 = is.map .hears ∧
      (chronicle outcome j is).2.Undecided outcome compete branches (heard ++ is) := by
  -- on the replies that are to come; those that have been heard only grow
  induction is generalizing j heard with
  | nil => exact ⟨rfl, by simpa [chronicle] using h⟩
  | cons i is ih =>
    have hi : i ∉ heard := fun hi => (List.nodup_append.1 hnew).2.2 i hi i (by simp) rfl
    obtain ⟨hstops, hreply⟩ := h.reply (hbranches i (by simp)) hi (hnone i (by simp))
    rw [List.append_cons] at hnew ⊢
    obtain ⟨hevents, hjoin⟩ := ih hreply hnew (fun b hb => hbranches b (by simp [hb]))
      (fun b hb => hnone b (by simp [hb]))
    simp only [chronicle, hstops, hevents]
    exact ⟨rfl, hjoin⟩

/-- A join that has settled hears replies, and does nothing else. -/
theorem chronicle_decided {v : Join.Verdict} {j : Join} (is : List Nat) (h : j.Decided v) :
    (chronicle outcome j is).1 = is.map .hears ∧ (chronicle outcome j is).2.Decided v := by
  induction is generalizing j with
  | nil => exact ⟨rfl, h⟩
  | cons i is ih =>
    obtain ⟨hstops, hreply⟩ := h.reply i (outcome i)
    obtain ⟨hevents, hjoin⟩ := ih hreply
    simp only [chronicle, hstops, hevents]
    exact ⟨rfl, hjoin⟩

end Chronicle

/-! ## Forks -/

/-- The branches that are not among those that have been heard. -/
def unheard (branches : List Branch) (heard : List Nat) : List Nat :=
  (List.range branches.length).filter fun b => decide (b ∉ heard)

/-- The branches that have a value, with it, in the order of declaration. -/
def successes (branches : List Branch) (outcome : Nat → Except Fault Json) : List (Branch × Json) :=
  branches.zipIdx.filterMap fun b => (outcome b.2).toOption.map fun v => (b.1, v)

section Successes

variable (branches : List Branch) (outcome : Nat → Except Fault Json)

/-- A table of outcomes over the branches, beside the branches. -/
theorem zip_outcomes :
    branches.zip ((List.range branches.length).map fun b => (outcome b).toOption) =
      branches.zipIdx.map fun b => (b.1, (outcome b.2).toOption) := by
  rw [List.zipIdx_eq_zip_range', ← List.range_eq_range', List.zip_map_right]
  rfl

/-- What is merged are the values of the branches that have one, in the order of declaration. -/
theorem mergeValues_outcomes (s : Scope) :
    mergeValues s ((List.range branches.length).map fun b => (outcome b).toOption) =
      (successes branches outcome).foldl (fun s e => s.mergeData e.2) s := by
  have hsnd : ((List.range branches.length).map fun b => (outcome b).toOption) =
      branches.zipIdx.map fun b => (outcome b.2).toOption := by
    have h := congrArg (List.map Prod.snd) (zip_outcomes branches outcome)
    rwa [List.map_snd_zip (by simp), List.map_map] at h
  unfold mergeValues successes
  rw [hsnd, List.foldl_map, List.foldl_filterMap]
  congr 1
  funext s b
  cases outcome b.2 with
  | ok v => rfl
  -- null is merged for a branch without a value, which changes nothing
  | error f => rfl

/-- What is kept under the keys of branches are the values that are not null. -/
theorem keyed_outcomes :
    keyed branches ((List.range branches.length).map fun b => (outcome b).toOption) =
      Members.ofList ((successes branches outcome).filterMap fun e =>
        (unlessNull e.2).map fun v => (e.1.key, v)) := by
  unfold keyed successes
  rw [zip_outcomes, List.filterMap_map, List.filterMap_filterMap]
  congr 2
  funext b
  cases houtcome : outcome b.2 with
  | ok v => simp [houtcome, Except.toOption]
  | error f => simp [houtcome, Except.toOption]

end Successes

section Forks

variable (c : Context) (task : String) (branches : List Branch) (input : Json) (s : Scope)
  (cancelled : Context → Bool) (outcome : Nat → Except Fault Json)

/-- What a fork does when its branches reply in an order, and how it goes on then. -/
def attended (compete : Bool) (order : List Nat) :
    List Event × Dialogue (Except Fault (Option Json × Scope)) :=
  attend cancelled (run c task compete branches input s).run (order.map fun i => (i, outcome i))

variable {c task branches input s cancelled outcome} {compete : Bool}

/-- What a fork that ends with a verdict results in. -/
def concluded (c : Context) (task : String) (branches : List Branch) (s : Scope)
    (cancelled : Context → Bool) : Join.Verdict → Except Fault (Option Json × Scope)
  | .won v => .ok (unlessNull v, s.mergeData v)
  | .joined values => .ok (some (.obj (keyed branches values)), mergeValues s values)
  | .failed f => .error f
  | .stopped => if cancelled c then .error (.cancelled task) else .ok (none, s)

theorem attend_conclude (v : Join.Verdict) :
    attend cancelled (conclude c task branches s v).run [] =
      ([], .done (concluded c task branches s cancelled v)) := by
  cases v with
  | won | joined | failed => rfl
  | stopped =>
    show attend cancelled (.ask (.cancelled c) _) [] = _
    rw [attend, concluded]
    cases cancelled c with
    | true => rfl
    | false => rfl

/-- A fork starts all branches, and what it does then is what its join does. -/
theorem attended_eq (order : List Nat) (left : Nat)
    (hleft : order.length + left = branches.length) :
    attended c task branches input s cancelled outcome compete order =
      (.begins c (branches.map Branch.graph) input s.child ::
        ((chronicle outcome (Join.start compete branches.length) order).1 ++
          (attend cancelled
            ((collect left
                (chronicle outcome (Join.start compete branches.length) order).2).run.bind
              (Running.onward fun j => conclude c task branches s j.verdict)) []).1),
        (attend cancelled
          ((collect left (chronicle outcome (Join.start compete branches.length) order).2).run.bind
            (Running.onward fun j => conclude c task branches s j.verdict)) []).2) := by
  -- a fork asks for its branches, hears them one by one and concludes with the verdict of the join
  have hrun : (run c task compete branches input s).run =
      .ask (.fork c (branches.map Branch.graph) input s.child) fun _ =>
        (collect branches.length (Join.start compete branches.length)).run.bind
          (Running.onward fun j => conclude c task branches s j.verdict) := by
    show Dialogue.ask (.fork ..) _ = _
    congr 1
    funext x
    exact Running.run_bind _ _
  unfold attended
  rw [hrun, attend, ← hleft, attend_collect]

/-- A fork that has not heard all of its branches waits. -/
theorem attended_awaits {early late : List Nat}
    (horder : (early ++ late).Perm (List.range branches.length)) (hlate : late ≠ []) :
    Awaits (attended c task branches input s cancelled outcome compete early).2 := by
  have hlength : early.length + late.length = branches.length := by
    rw [← List.length_append, horder.length_eq, List.length_range]
  obtain ⟨left, hleft⟩ := Nat.exists_eq_add_one_of_ne_zero (mt List.length_eq_zero_iff.1 hlate)
  rw [hleft] at hlength
  rw [attended_eq early (left + 1) hlength, collect_bind]
  exact ⟨_, rfl⟩

/-- A fork that has heard all of its branches ends with the verdict of its join. -/
theorem attended_all {order : List Nat} (horder : order.Perm (List.range branches.length)) :
    attended c task branches input s cancelled outcome compete order =
      (.begins c (branches.map Branch.graph) input s.child ::
        (chronicle outcome (Join.start compete branches.length) order).1,
        .done (concluded c task branches s cancelled
          (chronicle outcome (Join.start compete branches.length) order).2.verdict)) := by
  have hlength : order.length + 0 = branches.length := by
    rw [Nat.add_zero, horder.length_eq, List.length_range]
  rw [attended_eq order 0 hlength]
  show (_ :: (_ ++ (attend cancelled (conclude c task branches s _).run []).1),
    (attend cancelled (conclude c task branches s _).run []).2) = _
  rw [attend_conclude, List.append_nil]

theorem lt_of_mem_order {order : List Nat} (horder : order.Perm (List.range branches.length)) :
    ∀ b ∈ order, b < branches.length :=
  fun _ hb => List.mem_range.1 (horder.mem_iff.1 hb)

variable (c task input s cancelled) in
/-- A fork none of whose branches rules on it hears all of them, does nothing else, and ends with a
verdict on all of them. -/
theorem attended_undecided {order : List Nat} (horder : order.Perm (List.range branches.length))
    (hnone : ∀ b < branches.length, Join.ruling compete (outcome b) = none) :
    ∃ j : Join, j.Undecided outcome compete branches.length order ∧
      attended c task branches input s cancelled outcome compete order =
        (.begins c (branches.map Branch.graph) input s.child :: order.map .hears,
          .done (concluded c task branches s cancelled j.verdict)) := by
  have hbranches := lt_of_mem_order horder
  obtain ⟨hevents, hjoin⟩ := chronicle_undecided order
    (Join.undecided_start outcome compete branches.length) (horder.nodup_iff.2 List.nodup_range)
    hbranches fun b hb => hnone b (hbranches b hb)
  refine ⟨_, hjoin, ?_⟩
  rw [attended_all horder, hevents]

/-- A fork is decided by the first reply that rules on it: it stops the branches that it has not
heard by then, hears the others, and ends with that verdict. -/
theorem attended_decided {before after : List Nat} {i : Nat} {v : Join.Verdict}
    (horder : (before ++ i :: after).Perm (List.range branches.length))
    (hbefore : ∀ b ∈ before, Join.ruling compete (outcome b) = none)
    (hi : Join.ruling compete (outcome i) = some v) :
    attended c task branches input s cancelled outcome compete (before ++ i :: after) =
      (.begins c (branches.map Branch.graph) input s.child ::
        ((before ++ [i]).map .hears ++ stopping (unheard branches (before ++ [i])) ++
          after.map .hears), .done (concluded c task branches s cancelled v)) := by
  have hbranches := lt_of_mem_order horder
  have hnodup : (before ++ i :: after).Nodup := horder.nodup_iff.2 List.nodup_range
  have hnew : i ∉ before := fun hmem => (List.nodup_append.1 hnodup).2.2 i hmem i (by simp) rfl
  -- up to the reply that rules, at it, and after it
  obtain ⟨hevents, hjoin⟩ := chronicle_undecided before
    (Join.undecided_start outcome compete branches.length) (List.nodup_append.1 hnodup).1
    (fun b hb => hbranches b (by simp [hb])) hbefore
  obtain ⟨hstops, hdecided⟩ := hjoin.decides (hbranches i (by simp)) hnew hi
  obtain ⟨hlater, hverdict⟩ : (chronicle outcome _ after).1 = after.map .hears ∧
      (chronicle outcome _ after).2.Decided v := chronicle_decided after hdecided
  rw [attended_all horder, chronicle_append]
  simp only [chronicle]
  rw [hevents, hstops, hlater, hverdict.verdict_eq]
  simp [unheard]

/-- The branches that a decided fork has not heard are those that reply after the decision. -/
theorem mem_unheard {before after : List Nat} {i : Nat}
    (horder : (before ++ i :: after).Perm (List.range branches.length)) (b : Nat) :
    b ∈ unheard branches (before ++ [i]) ↔ b ∈ after := by
  have hmem : b < branches.length ↔ b ∈ before ++ i :: after := by
    rw [horder.mem_iff, List.mem_range]
  have hnodup : (before ++ [i] ++ after).Nodup := by
    rw [← List.append_cons]
    exact horder.nodup_iff.2 List.nodup_range
  have hdisjoint := (List.nodup_append.1 hnodup).2.2
  rw [unheard, List.mem_filter, List.mem_range, hmem, List.append_cons, List.mem_append,
    decide_eq_true_iff]
  refine ⟨fun h => h.1.resolve_left h.2, fun h => ⟨.inr h, fun hb => hdisjoint b hb b h rfl⟩⟩

end Forks

/-! ## The laws of forks -/

section Laws

variable (c : Context) (task : String) (branches : List Branch) (input : Json) (s : Scope)
  (cancelled : Context → Bool) (outcome : Nat → Except Fault Json)

/-- A fork whose branches reply in any order waits for all of them. If none fails, it results in the
values of the branches, whatever the order is: those that are not null under the keys of their
branches, and all of them merged into the data in the order of declaration. Otherwise it results in
the first failure, and so in no scope, and the branches that a host is told to cancel are those that
have not replied when the failure comes. -/
theorem joins_every_branch {order : List Nat} (horder : order.Perm (List.range branches.length)) :
    (∀ early late, order = early ++ late → late ≠ [] →
      Awaits (attended c task branches input s cancelled outcome false early).2) ∧
    ((∀ b < branches.length, Fault.failure? (outcome b) = none) →
      attended c task branches input s cancelled outcome false order =
        (.begins c (branches.map Branch.graph) input s.child :: order.map .hears,
          .done (.ok (some (.obj (Members.ofList ((successes branches outcome).filterMap fun e =>
              (unlessNull e.2).map fun v => (e.1.key, v)))),
            (successes branches outcome).foldl (fun s e => s.mergeData e.2) s)))) ∧
    (∀ before i after f, order = before ++ i :: after →
      (∀ b ∈ before, Fault.failure? (outcome b) = none) → Fault.failure? (outcome i) = some f →
      attended c task branches input s cancelled outcome false order =
        (.begins c (branches.map Branch.graph) input s.child ::
          ((before ++ [i]).map .hears ++ stopping (unheard branches (before ++ [i])) ++
            after.map .hears), .done (.error f)) ∧
      ∀ {α : Type} (h : Host α) (st : Strand α) (next : Unit → Dialogue (Ending α)) (scope : Nat),
        scope ∈ (h.perform st (.stop (unheard branches (before ++ [i]))) next).cancelled ↔
          scope ∈ h.cancelled ∨ ∃ b ∈ after, st.branches[b]? = some scope) := by
  refine ⟨?waits, ?joins, ?fails⟩
  case waits =>
    rintro early late rfl hlate
    exact attended_awaits horder hlate
  case joins =>
    intro hnone
    obtain ⟨j, hj, hattended⟩ := attended_undecided c task input s cancelled horder
      fun b hb => Join.ruling_joining.2 (hnone b hb)
    rw [hattended, hj.verdict_joined fun b hb => horder.mem_iff.2 (List.mem_range.2 hb), concluded,
      keyed_outcomes, mergeValues_outcomes]
  case fails =>
    rintro before i after f rfl hbefore hfailure
    have hruling : Join.ruling false (outcome i) = some (.failed f) := by
      rw [Join.ruling, hfailure]
      rfl
    refine ⟨attended_decided horder (fun b hb => Join.ruling_joining.2 (hbefore b hb)) hruling, ?_⟩
    intro α h st next scope
    simp only [Host.mem_cancelled_stop, mem_unheard horder]

/-- Two branches. -/
def pair : List Branch := [⟨"a", "left"⟩, ⟨"b", "right"⟩]

/-- The second of two branches fails before the first one, which is stopped then. -/
theorem joins_every_branch_of_pair :
    attended ⟨0, [0]⟩ "task" pair .null (.start .null []) (fun _ => false)
        (fun b => .error (if b = 0 then .cancelled "a" else .notIterable "b" "null")) false [1, 0] =
      ([.begins ⟨0, [0]⟩ ["left", "right"] .null (.start .null []), .hears 1, .stops [0], .hears 0],
        .done (.error (.notIterable "b" "null"))) :=
  ((joins_every_branch ⟨0, [0]⟩ "task" pair .null (.start .null []) (fun _ => false)
    (fun b => .error (if b = 0 then .cancelled "a" else .notIterable "b" "null"))
    (.swap 0 1 [])).2.2 [] 1 [0] _ rfl nofun rfl).1

/-- A competition waits for all of its branches, in whatever order they reply. The first of them
that has a value wins: it results in that value and in no other change of the scope, and the
branches that a host is told to cancel are those that have not replied then. Without a value it
results in the first failure; if there is none either, every branch was cancelled, and the fork is
cancelled if its own scope is. -/
theorem competition_has_one_winner {order : List Nat}
    (horder : order.Perm (List.range branches.length)) :
    (∀ early late, order = early ++ late → late ≠ [] →
      Awaits (attended c task branches input s cancelled outcome true early).2) ∧
    (∀ before i after v, order = before ++ i :: after →
      (∀ b ∈ before, (outcome b).toOption = none) → outcome i = .ok v →
      attended c task branches input s cancelled outcome true order =
        (.begins c (branches.map Branch.graph) input s.child ::
          ((before ++ [i]).map .hears ++ stopping (unheard branches (before ++ [i])) ++
            after.map .hears), .done (.ok (unlessNull v, s.mergeData v))) ∧
      ∀ {α : Type} (h : Host α) (st : Strand α) (next : Unit → Dialogue (Ending α)) (scope : Nat),
        scope ∈ (h.perform st (.stop (unheard branches (before ++ [i]))) next).cancelled ↔
          scope ∈ h.cancelled ∨ ∃ b ∈ after, st.branches[b]? = some scope) ∧
    ((∀ b < branches.length, (outcome b).toOption = none) →
      attended c task branches input s cancelled outcome true order =
        (.begins c (branches.map Branch.graph) input s.child :: order.map .hears,
          .done (match order.findSome? fun b => Fault.failure? (outcome b) with
            | some f => .error f
            | none => if cancelled c then .error (.cancelled task) else .ok (none, s)))) := by
  refine ⟨?waits, ?wins, ?loses⟩
  case waits =>
    rintro early late rfl hlate
    exact attended_awaits horder hlate
  case wins =>
    rintro before i after v rfl hbefore hvalue
    have hruling : Join.ruling true (outcome i) = some (.won v) := by
      rw [Join.ruling, hvalue]
      rfl
    refine ⟨attended_decided horder
      (fun b hb => Join.ruling_competing.2 (hbefore b hb)) hruling, ?_⟩
    intro α h st next scope
    simp only [Host.mem_cancelled_stop, mem_unheard horder]
  case loses =>
    intro hnone
    obtain ⟨j, hj, hattended⟩ := attended_undecided c task input s cancelled horder
      fun b hb => Join.ruling_competing.2 (hnone b hb)
    rw [hattended, hj.verdict_lost]
    cases order.findSome? fun b => Fault.failure? (outcome b) with
    | some f => rfl
    | none => rfl

/-- The second of two branches wins, and the failure of the first one does not count. -/
theorem competition_has_one_winner_of_pair :
    attended ⟨0, [0]⟩ "task" pair .null (.start .null []) (fun _ => false)
        (fun b => if b = 0 then .error (.notIterable "a" "null") else .ok (.bool true))
        true [1, 0] =
      ([.begins ⟨0, [0]⟩ ["left", "right"] .null (.start .null []), .hears 1, .stops [0], .hears 0],
        .done (.ok (some (.bool true), .start .null []))) :=
  ((competition_has_one_winner ⟨0, [0]⟩ "task" pair .null (.start .null []) (fun _ => false)
    (fun b => if b = 0 then .error (.notIterable "a" "null") else .ok (.bool true))
    (.swap 0 1 [])).2.1 [] 1 [0] _ rfl nofun rfl).1

end Laws

end Forking

end TaskGraph

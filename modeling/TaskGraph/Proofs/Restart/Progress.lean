import TaskGraph.Proofs.Program.Compiled
import TaskGraph.Proofs.Restart.Chain
import TaskGraph.Proofs.World

/-!
# Restarts make progress

The ordinals of the children that the runs of a chain execute, one run after the other, strictly
increase (`Restart.Progressive`). A run that is left at a child has executed only children before
it, and the next run executes none before it; it is not left at that child again, so every restart
moves the marker on. It follows that no child is executed twice, that a list is restarted less often
than it has children, and that the bound on restarts is only met by lists that are longer than it.

This rests on the runs alone asking for restarts. A handler that answers with such a request of its
own has a graph start wherever its request says.
-/

set_option autoImplicit false

namespace TaskGraph

/-! ## One run -/

namespace Mark

/-- The child that a mark is about. -/
def ordinal : Mark → Nat
  | visited i | executed i | replayed i | left i => i

/-- Whether a mark is one of a child that is replayed. -/
def Replays (m : Mark) : Prop := ∃ i, m = replayed i

/-- The ordinals of the children that marks say were executed. -/
def executedOf (ms : List Mark) : List Nat :=
  ms.filterMap fun
    | executed i => some i
    | _ => none

theorem mem_executedOf {ms : List Mark} {i : Nat} (h : i ∈ executedOf ms) : executed i ∈ ms := by
  obtain ⟨m, hm, hi⟩ := List.mem_filterMap.1 h
  cases m with
  | executed l =>
    cases hi
    exact hm
  | _ => cases hi

end Mark

/-- How many children a run passes before it may execute one. -/
def Stage.offset (children : Children) : Stage → Nat
  | .arriving _ | .entering _ => 0
  | .resuming m => (children.map Child.id).idxOf m

/-- How many children a run passes before it may be left. -/
def Stage.reach (children : Children) : Stage → Nat
  | .arriving _ => 0
  | .entering _ => 1
  | .resuming m => (children.map Child.id).idxOf m + 1

namespace Path

variable {entry : String} {stage : Stage} {i : Nat} {children : Children} {ms : List Mark}
  {x : Except Fault Scope}

theorem idxOf_cons_of_ne {child : Child Step} {rest : Children} {m : String} (h : child.id ≠ m) :
    ((child :: rest).map Child.id).idxOf m = (rest.map Child.id).idxOf m + 1 := by
  simp [List.idxOf_cons, beq_false_of_ne h]

/-- But for what it replays, a run leaves no mark before its marker. -/
theorem ordinal_le (h : Path entry stage i children ms x) :
    ∀ m ∈ ms, ¬ m.Replays → i + stage.offset children ≤ m.ordinal := by
  -- along the path: with each child that is passed the offset of the marker shrinks by one and the
  -- ordinal grows by one
  induction h with
  | ends => exact nofun
  | leaves | stays => simp [Stage.offset, Mark.ordinal]
  | enters _ ih => exact ih
  | passes _ _ ih =>
    intro m hm hreplays
    have := ih m hm hreplays
    simp only [Stage.offset] at this ⊢
    omega
  | refuses _ _ ih =>
    refine List.forall_mem_cons.2 ⟨fun _ => Nat.le_refl _, fun m hm hreplays => ?_⟩
    have := ih m hm hreplays
    simp only [Stage.offset] at this ⊢
    omega
  | executes _ _ ih =>
    refine List.forall_mem_cons.2 ⟨fun _ => Nat.le_refl _,
      List.forall_mem_cons.2 ⟨fun _ => Nat.le_refl _, fun m hm hreplays => ?_⟩⟩
    have := ih m hm hreplays
    simp only [Stage.offset] at this ⊢
    omega
  | skips other _ ih =>
    intro m hm hreplays
    have := ih m hm hreplays
    simp only [Stage.offset, idxOf_cons_of_ne other] at this ⊢
    omega
  | replays other _ ih =>
    refine List.forall_mem_cons.2
      ⟨fun hreplays => absurd ⟨_, rfl⟩ hreplays, fun m hm hreplays => ?_⟩
    have := ih m hm hreplays
    simp only [Stage.offset, idxOf_cons_of_ne other] at this ⊢
    omega
  | resumes _ ih =>
    intro m hm hreplays
    have := ih m hm hreplays
    simpa [Stage.offset] using this

theorem executed_le (h : Path entry stage i children ms x) :
    ∀ l ∈ Mark.executedOf ms, i + stage.offset children ≤ l :=
  fun _ hl => h.ordinal_le _ (Mark.mem_executedOf hl) nofun

/-- A run executes children in order. -/
theorem executed_sorted (h : Path entry stage i children ms x) :
    (Mark.executedOf ms).Pairwise (· < ·) := by
  induction h with
  | ends | leaves | stays => exact .nil
  | enters _ ih | passes _ _ ih | refuses _ _ ih | skips _ _ ih | replays _ _ ih | resumes _ ih =>
    exact ih
  | executes _ next ih =>
    refine List.pairwise_cons.2 ⟨fun l hl => ?_, ih⟩
    have := next.executed_le l hl
    omega

/-- How far a run has come that was left at the child of a position: behind the child that it
started from, and behind those that it has executed. Its scope carries the marker of that child. -/
structure LeftAt (stage : Stage) (i : Nat) (children : Children) (ms : List Mark) (s : Scope)
    (k : Nat) : Prop where
  marker : s.marker = children[k]?.map Child.id
  bound : k < children.length
  reach : stage.reach children ≤ k
  executed : ∀ l ∈ Mark.executedOf ms, l < i + k
  last : ms.getLast? = some (.left (i + k))

/-- A run that is left further down a list is left further down a longer one, behind marks of its
first child. -/
theorem LeftAt.later {stage' : Stage} {child : Child Step} {rest : Children} {s : Scope} {k : Nat}
    (h : LeftAt stage' (i + 1) rest ms s k) (before : List Mark)
    (hbefore : ∀ l ∈ Mark.executedOf before, l = i) (hreach : stage.reach (child :: rest) ≤ k + 1) :
    LeftAt stage i (child :: rest) (before ++ ms) s (k + 1) where
  marker := h.marker
  bound := Nat.succ_lt_succ h.bound
  reach := hreach
  executed := by
    intro l hl
    rw [Mark.executedOf, List.filterMap_append] at hl
    rcases List.mem_append.1 hl with hl | hl
    · have := hbefore l hl
      omega
    · have := h.executed l hl
      omega
  last := by
    rw [List.getLast?_append, h.last, Option.some_or, Nat.add_right_comm, Nat.add_assoc]

/-- A run that asks for a new one was left at a child. -/
theorem left_at {input : Json} {s : Scope}
    (h : Path entry stage i children ms (.error (.continueAsNew entry input s))) :
    ∃ k, LeftAt stage i children ms s k := by
  generalize hx : (Except.error (.continueAsNew entry input s) : Except Fault Scope) = x at h
  -- the position counts from the front of the list, and grows by one with each child gone through
  induction h with
  | ends leaves | stays leaves => exact nomatch leaves _ hx.symm
  | leaves marker =>
    cases hx
    exact ⟨0, marker, Nat.succ_pos _, Nat.le_refl _, nofun, rfl⟩
  | enters _ ih =>
    obtain ⟨k, h⟩ := ih hx
    exact ⟨k, h.marker, h.bound, Nat.zero_le _, h.executed, h.last⟩
  | passes _ _ ih =>
    obtain ⟨k, h⟩ := ih hx
    exact ⟨k + 1, h.later [] nofun (by simp [Stage.reach])⟩
  | refuses _ _ ih =>
    obtain ⟨k, h⟩ := ih hx
    exact ⟨k + 1, h.later [.visited _] nofun (by simp [Stage.reach])⟩
  | executes _ _ ih =>
    obtain ⟨k, h⟩ := ih hx
    exact ⟨k + 1, h.later [.visited _, .executed _] (by simp [Mark.executedOf])
      (by simp [Stage.reach])⟩
  | skips other _ ih =>
    obtain ⟨k, h⟩ := ih hx
    refine ⟨k + 1, h.later [] nofun ?_⟩
    have := h.reach
    simp only [Stage.reach, idxOf_cons_of_ne other] at this ⊢
    omega
  | replays other _ ih =>
    obtain ⟨k, h⟩ := ih hx
    refine ⟨k + 1, h.later [.replayed _] nofun ?_⟩
    have := h.reach
    simp only [Stage.reach, idxOf_cons_of_ne other] at this ⊢
    omega
  | resumes _ ih =>
    obtain ⟨k, h⟩ := ih hx
    exact ⟨k, h.marker, h.bound, by simpa [Stage.reach] using h.reach, h.executed, h.last⟩

end Path

/-! ## A chain of runs -/

namespace Restart

/-- The children that a run executes. -/
def Leg.executed (leg : Leg) : List Nat := Mark.executedOf leg.marks

variable {β : Type}

/-- How the runs of a chain make progress. -/
structure Progressive (g : Graph) (legs : List Leg) (x : Except Fault β) : Prop where
  /-- No child is executed after a later one, and none twice. -/
  increasing : (legs.flatMap Leg.executed).Pairwise (· < ·)
  /-- There are fewer restarts than children. -/
  bounded : legs.length - 1 ≤ g.children.length - 1
  /-- A chain is given up only if there are more children than runs, unless a run fails with a
  chain that was given up inside it. -/
  givesUp : ∀ reason, x = .error (.continuationFailed reason) →
    limit + 1 < g.children.length ∨
      legs.getLast?.map Leg.outcome = some (.error (.continuationFailed reason))

namespace Chain

variable {g : Graph} {left : Nat} {s : Scope} {legs : List Leg} {x : Except Fault β}

theorem ne_nil {stage : Stage} (h : Chain g left stage legs x) : legs ≠ [] := by
  cases h <;> exact List.cons_ne_nil _ _

/-- A run that is started at a child has that child's ordinal ahead of it, if identifiers are
distinct. -/
theorem offset_start {children : Children} (nodup : (children.map Child.id).Nodup) {k : Nat}
    (hk : k < children.length) (hs : s.marker = children[k]?.map Child.id) :
    (Stage.start s).offset children = k := by
  have h := List.Nodup.idxOf_getElem nodup k (by simpa using hk)
  rw [List.getElem_map] at h
  simp only [Stage.start, hs, List.getElem?_eq_getElem hk, Option.map_some, Stage.offset, h]

/-- A run is not left at the child that it starts from. -/
theorem reach_start (children : Children) (s : Scope) :
    (Stage.start s).reach children = (Stage.start s).offset children + 1 := by
  unfold Stage.start
  cases s.marker <;> rfl

/-- But for what its runs replay, a chain leaves no mark before the child that its first run starts
from. -/
theorem ordinal_le (nodup : (g.children.map Child.id).Nodup) (h : Chain g left (.start s) legs x) :
    ∀ m ∈ legs.flatMap Leg.marks, ¬ m.Replays → (Stage.start s).offset g.children ≤ m.ordinal := by
  generalize hstage : Stage.start s = stage at h
  induction h generalizing s with
  | ends path | fails path | givesUp path => simpa using path.ordinal_le
  | restarts path _ ih =>
    subst hstage
    -- the next run starts from the child that this one was left at, which is a later one
    obtain ⟨k, hleft⟩ := path.left_at
    have hreach := hleft.reach
    rw [reach_start] at hreach
    intro m hm hreplays
    rw [List.flatMap_cons] at hm
    rcases List.mem_append.1 hm with hm | hm
    · have := path.ordinal_le m hm hreplays
      omega
    · have := ih rfl m hm hreplays
      rw [offset_start nodup hleft.bound hleft.marker] at this
      omega

/-- What is executed from a run on is in order. -/
theorem executed_sorted (nodup : (g.children.map Child.id).Nodup)
    (h : Chain g left (.start s) legs x) : (legs.flatMap Leg.executed).Pairwise (· < ·) := by
  generalize hstage : Stage.start s = stage at h
  induction h generalizing s with
  | ends path | fails path | givesUp path => simpa [Leg.executed] using path.executed_sorted
  | restarts path next ih =>
    subst hstage
    obtain ⟨k, hleft⟩ := path.left_at
    rw [List.flatMap_cons]
    -- what this run executes is before the child it is left at, and the rest is not
    refine List.pairwise_append.2 ⟨path.executed_sorted, ih rfl, fun a ha b hb => ?_⟩
    obtain ⟨leg, hleg, hb⟩ := List.mem_flatMap.1 hb
    have hmark := List.mem_flatMap.2 ⟨leg, hleg, Mark.mem_executedOf hb⟩
    have := next.ordinal_le nodup _ hmark nofun
    rw [offset_start nodup hleft.bound hleft.marker] at this
    have := hleft.executed a ha
    simp only [Mark.ordinal] at *
    omega

/-- There are no more runs than children from the one on that the first of them starts from. -/
theorem length_le (nodup : (g.children.map Child.id).Nodup) (h : Chain g left (.start s) legs x) :
    legs.length ≤ max 1 (g.children.length - (Stage.start s).offset g.children) := by
  generalize hstage : Stage.start s = stage at h
  induction h generalizing s with
  | ends | fails | givesUp => exact Nat.le_max_left ..
  | restarts path _ ih =>
    subst hstage
    obtain ⟨k, hleft⟩ := path.left_at
    have hreach := hleft.reach
    have hbound := hleft.bound
    have hrest := ih rfl
    rw [offset_start nodup hleft.bound hleft.marker] at hrest
    rw [reach_start] at hreach
    rw [List.length_cons]
    omega

/-- A chain that is given up has had as many restarts as it may have. -/
theorem givesUp_bound (nodup : (g.children.map Child.id).Nodup)
    (h : Chain g left (.start s) legs x) {reason : String}
    (hx : x = .error (.continuationFailed reason)) :
    left + (Stage.start s).offset g.children + 1 < g.children.length ∨
      legs.getLast?.map Leg.outcome = some (.error (.continuationFailed reason)) := by
  generalize hstage : Stage.start s = stage at h
  -- every restart takes one off those that are left, and moves on by at least one child
  induction h generalizing s with
  | ends => cases hx
  | fails =>
    cases hx
    exact .inr rfl
  | givesUp path =>
    -- the last run was left as well, so there is a child behind the one that it started from
    subst hstage
    obtain ⟨k, hleft⟩ := path.left_at
    have hreach := hleft.reach
    have hbound := hleft.bound
    rw [reach_start] at hreach
    exact .inl (by omega)
  | restarts path next ih =>
    subst hstage
    obtain ⟨k, hleft⟩ := path.left_at
    have hreach := hleft.reach
    rw [reach_start] at hreach
    rcases ih hx rfl with hlong | hlast
    · rw [offset_start nodup hleft.bound hleft.marker] at hlong
      exact .inl (by omega)
    · obtain ⟨leg, legs, rfl⟩ := List.exists_cons_of_ne_nil next.ne_nil
      exact .inr (by simpa using hlast)

/-- A chain that has all its restarts makes progress. -/
theorem progressive (nodup : (g.children.map Child.id).Nodup)
    (h : Chain g limit (.start s) legs x) : Progressive g legs x where
  increasing := h.executed_sorted nodup
  bounded := by
    have := h.length_le nodup
    omega
  givesUp reason hx := by
    rcases h.givesUp_bound nodup hx with hlong | hlast
    · exact .inl (by omega)
    · exact .inr hlast

end Chain

/-- A restart moves on: over all runs of a chain, the ordinals of the executed children strictly
increase, so none is executed twice; there are fewer restarts than children; and a chain is only
given up for a list that is longer than the bound. This holds of the chain of a program and of that
of every graph that a task runs, for all answers about what is due, as long as nothing outside of
the runs asks for a restart. -/
theorem chains_progress {kinds : Kinds} {options : ProgramOptions} {w : Workflow} {e : Setting}
    (hp : Program.compile kinds options w = .ok e.program) {name : String} {g : Graph}
    (hg : e.program.graph name = .ok g) (c : Context) (input : Json) (s : Scope) :
    ((trail rootFrame e c limit g input s).forget.run =
        (rootLoop e.program c limit g input s).run.inline e ∧
      (trail rootFrame e c limit g input s).Ensures Request.Honest
        fun x => Progressive g x.1 x.2) ∧
    ((trail (graphFrame name) e c limit g input s).forget.run =
        (loop e.program c name limit g input s).run.inline e ∧
      (trail (graphFrame name) e c limit g input s).Ensures Request.Honest
        fun x => Progressive g x.1 x.2) := by
  have nodup := (Program.compiled_of_compile hp g (Program.mem_of_graph hg).1).1.nodup_ids
  have hself := Program.graph_of_graph hg
  refine ⟨⟨?_, ?_⟩, ?_, ?_⟩
  · rw [forget_trail (plain_rootFrame e), rootLoop_eq_drive]
  · exact (ensures_chain faithful_rootFrame hself limit input s).mono
      fun _ h => h.progressive nodup
  · rw [forget_trail (plain_graphFrame name e), loop_eq_drive]
  · exact (ensures_chain (faithful_graphFrame name) hself limit input s).mono
      fun _ h => h.progressive nodup

theorem chains_progress_of_pair :
    Program.compile Kinds.standard .standard Pair.workflow = .ok Pair.setting.program ∧
      Pair.setting.program.graph "root" = .ok Pair.graph ∧
      (trail rootFrame Pair.setting ⟨0, [0]⟩ limit Pair.graph .null (.start .null [])).Ensures
        Request.Honest fun x => Progressive Pair.graph x.1 x.2 :=
  ⟨Pair.compiled, Pair.found,
    (chains_progress Pair.compiled Pair.found ⟨0, [0]⟩ .null (.start .null [])).1.2⟩

/-- If the second call is first answered with a request for a restart from the beginning, both
children are executed twice. -/
theorem forged_restart_repeats :
    Program.compile Kinds.standard .standard Pair.workflow = .ok Pair.setting.program ∧
      Pair.setting.program.graph "root" = .ok Pair.graph ∧
      ¬ (trail rootFrame Pair.setting ⟨0, [0]⟩ limit Pair.graph .null (.start .null [])).Ensures
        (fun _ _ => True) fun x => Progressive Pair.graph x.1 x.2 := by
  refine ⟨Pair.compiled, Pair.found, fun h => ?_⟩
  have hplay : ((trail rootFrame Pair.setting ⟨0, [0]⟩ limit Pair.graph .null
      (.start .null [])).play (Machine.within
        ⟨.forging "y" "root" (.start .null []), fun _ => false⟩ Pair.setting 0) .first).1.map
          (fun x => x.1.flatMap Leg.executed) = some [0, 1, 0, 1] := by
    decide +kernel
  obtain ⟨x, hx, hexecuted⟩ := Option.map_eq_some_iff.1 hplay
  have hprogress := h.play (fun _ _ _ _ _ => trivial) (Prod.ext hx rfl)
  have hincreasing := hprogress.increasing
  rw [hexecuted] at hincreasing
  revert hincreasing
  decide

end Restart

end TaskGraph

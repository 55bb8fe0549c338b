import TaskGraph.Proofs.Restart.Progress

/-!
# Jumps across restarts

A flow directive sends a list on to a later child, over the children in between. Its target is kept
by the run alone: the scope that a restart carries has the marker of a child, and no target. So a
run that is left at a child in between forgets where it was going, and the next one goes on right
there.

`Restart.jump_across_restarts` says exactly when this happens. A child in between is visited if and
only if a run is left in between and the chain goes on beyond replaying; the child that it was left
at is then visited. As long as no run is left in between, the jump is made as in a run without
restarts.
-/

set_option autoImplicit false

namespace TaskGraph

/-! ## One run -/

namespace Path

variable {entry : String} {stage : Stage} {i : Nat} {children : Children} {ms : List Mark}
  {x : Except Fault Scope}

/-- Only a child that is visited is executed. -/
theorem visited_of_executed (h : Path entry stage i children ms x) {l : Nat}
    (hl : .executed l ∈ ms) : .visited l ∈ ms := by
  induction h with
  | ends | leaves | stays => simp at hl
  | enters _ ih | passes _ _ ih | skips _ _ ih | resumes _ ih => exact ih hl
  | refuses _ _ ih | replays _ _ ih =>
    have hl := ih (by simpa using hl)
    exact List.mem_cons_of_mem _ hl
  | executes _ _ ih =>
    simp only [List.mem_cons, Mark.executed.injEq, Mark.visited.injEq, reduceCtorEq, false_or]
      at hl ⊢
    rcases hl with rfl | hl
    · exact .inl rfl
    · exact .inr (ih hl)

/-- After a child that is executed, a run goes on to the target of its flow directive. -/
theorem after_executed (h : Path entry stage i children ms x) {n : Nat} {before after : List Mark}
    (hms : ms = before ++ .executed n :: after) :
    ∃ child, children[n - i]? = some child ∧ i ≤ n ∧
      Path entry (.arriving (Sequence.pendingTarget child.base.next)) (n + 1)
        (children.drop (n - i + 1)) after x := by
  -- a child further down a list is a child further down a longer one
  have hlater {i : Nat} {first : Child Step} {rest : Children}
      (h : ∃ child, rest[n - (i + 1)]? = some child ∧ i + 1 ≤ n ∧
        Path entry (.arriving (Sequence.pendingTarget child.base.next)) (n + 1)
          (rest.drop (n - (i + 1) + 1)) after x) :
      ∃ child, (first :: rest)[n - i]? = some child ∧ i ≤ n ∧
        Path entry (.arriving (Sequence.pendingTarget child.base.next)) (n + 1)
          ((first :: rest).drop (n - i + 1)) after x := by
    obtain ⟨child, hchild, hi, hpath⟩ := h
    have hn : n - i = n - (i + 1) + 1 := by omega
    rw [hn, List.getElem?_cons_succ, List.drop_succ_cons]
    exact ⟨child, hchild, by omega, hpath⟩
  induction h generalizing before with
  | ends => simp at hms
  | leaves | stays => rcases before with _ | ⟨m, before⟩ <;> simp at hms
  | enters _ ih | resumes _ ih => exact ih hms hlater
  | passes _ _ ih | skips _ _ ih => exact hlater (ih hms hlater)
  | refuses _ _ ih | replays _ _ ih =>
    rcases before with _ | ⟨m, before⟩
    · simp at hms
    · rw [List.cons_append, List.cons.injEq] at hms
      exact hlater (ih hms.2 hlater)
  | executes _ next ih =>
    rcases before with _ | ⟨m, _ | ⟨m', before⟩⟩
    · simp at hms
    · simp only [List.cons_append, List.nil_append, List.cons.injEq, Mark.executed.injEq] at hms
      obtain ⟨-, rfl, rfl⟩ := hms
      rw [Nat.sub_self]
      exact ⟨_, rfl, Nat.le_refl _, next⟩
    · simp only [List.cons_append, List.cons.injEq] at hms
      exact hlater (ih hms.2.2 hlater)

theorem idxOf_name_cons_of_ne {child : Child Step} {rest : Children} {target : String}
    (h : child.name ≠ target) :
    ((child :: rest).map Child.name).idxOf target = (rest.map Child.name).idxOf target + 1 := by
  simp [List.idxOf_cons, beq_false_of_ne h]

/-- On the way to a target a run leaves no mark before it, unless it is left there. -/
theorem toward (h : Path entry stage i children ms x) {target : String}
    (hstage : stage = .arriving (some target) ∨ stage = .entering (some target)) :
    (∀ m ∈ ms, ¬ m.Replays → i + (children.map Child.name).idxOf target ≤ m.ordinal) ∨
      ∃ k, i ≤ k ∧ k < i + (children.map Child.name).idxOf target ∧ ms = [.left k] := by
  -- a child of the name of the target is the target, and no mark is before it
  have hnamed {child : Child Step} {rest : Children} {i : Nat} {ms : List Mark}
      (hname : child.name = target) (hle : ∀ m ∈ ms, ¬ m.Replays → i ≤ m.ordinal) :
      (∀ m ∈ ms, ¬ m.Replays → i + ((child :: rest).map Child.name).idxOf target ≤ m.ordinal) ∨
        ∃ k, i ≤ k ∧ k < i + ((child :: rest).map Child.name).idxOf target ∧ ms = [.left k] :=
    .inl fun m hm hreplays => by simpa [hname] using hle m hm hreplays
  have hleft (child : Child Step) (rest : Children) (i : Nat) :
      (∀ m ∈ [Mark.left i], ¬ m.Replays →
          i + ((child :: rest).map Child.name).idxOf target ≤ m.ordinal) ∨
        ∃ k, i ≤ k ∧ k < i + ((child :: rest).map Child.name).idxOf target ∧
          [Mark.left i] = [.left k] := by
    by_cases hname : child.name = target
    · exact hnamed hname (by simp [Mark.ordinal])
    · exact .inr ⟨i, Nat.le_refl i, by rw [idxOf_name_cons_of_ne hname]; omega, rfl⟩
  induction h with
  | ends => exact .inl (List.forall_mem_nil _)
  | leaves | stays => exact hleft _ _ _
  | enters _ ih =>
    refine ih (.inr ?_)
    simpa using hstage
  | passes other _ ih =>
    obtain rfl : _ = target := by simpa using hstage
    rcases ih (.inl rfl) with hle | ⟨k, hk, hlt, hms⟩
    · refine .inl fun m hm hreplays => ?_
      have := hle m hm hreplays
      rw [idxOf_name_cons_of_ne other]
      omega
    · exact .inr ⟨k, by omega, by rw [idxOf_name_cons_of_ne other]; omega, hms⟩
  | refuses named next =>
    obtain rfl : _ = some target := by simpa using hstage
    exact hnamed (named target rfl) (Path.refuses named next).ordinal_le
  | executes named next =>
    obtain rfl : _ = some target := by simpa using hstage
    exact hnamed (named target rfl) (Path.executes named next).ordinal_le
  | skips | replays | resumes => simp at hstage

/-- On the way to a marker a run replays, and then visits the child of the marker. -/
theorem resumes_at (h : Path entry stage i children ms x) {marker : String}
    (hstage : stage = .resuming marker) :
    (∀ m ∈ ms, m.Replays) ∨ .visited (i + stage.offset children) ∈ ms := by
  -- the marks up to the marker are replays, and the run may end among them
  induction h with
  | ends => exact .inl nofun
  | skips other _ ih =>
    rcases ih hstage with hreplays | hvisited
    · exact .inl hreplays
    · refine .inr ?_
      simp only [Stage.offset, idxOf_cons_of_ne other] at hvisited ⊢
      rwa [← Nat.add_assoc, Nat.add_right_comm]
  | replays other _ ih =>
    rcases ih hstage with hreplays | hvisited
    · exact .inl (List.forall_mem_cons.2 ⟨⟨_, rfl⟩, hreplays⟩)
    · refine .inr (List.mem_cons_of_mem _ ?_)
      simp only [Stage.offset, idxOf_cons_of_ne other] at hvisited ⊢
      rwa [← Nat.add_assoc, Nat.add_right_comm]
  | resumes next =>
    rcases next with _ | _ | _ | _
    · exact .inl nofun
    · exact .inr (by simp [Stage.offset])
    · exact .inr (by simp [Stage.offset])
  | leaves | stays | enters | passes | refuses | executes => cases hstage

end Path

/-! ## A chain of runs -/

/-- Whether a child of a graph, given by its ordinal, has a flow directive to a later child. -/
def Graph.Jumps (g : Graph) (i j : Nat) : Prop :=
  i < j ∧ ∃ child target, g.children[i]? = some child ∧ child.base.next = some (.target target) ∧
    g.children[j]?.map Child.name = some target

namespace Restart

variable {β : Type} {g : Graph} {left i j : Nat} {s : Scope} {legs : List Leg} {x : Except Fault β}

/-- Whether a run is left at a child, and the chain goes on beyond replaying. -/
def GoesOnFrom (k : Nat) (ms : List Mark) : Prop :=
  ∃ before after, ms = before ++ .left k :: after ∧ ∃ m ∈ after, ¬ m.Replays

/-- What becomes of a jump over the children in between two, in the marks that follow it. -/
structure Lands (i j : Nat) (ms : List Mark) : Prop where
  /-- A child in between is visited exactly if the chain restarts in between. -/
  visited_iff : (∃ l, i < l ∧ l < j ∧ .visited l ∈ ms) ↔ ∃ k, i < k ∧ k < j ∧ GoesOnFrom k ms
  /-- Only a child that is visited is executed. -/
  visited_of_executed : ∀ l, .executed l ∈ ms → .visited l ∈ ms

/-- A jump whose marks are none but behind its target lands there. -/
theorem lands_of_le {ms : List Mark} (h : ∀ m ∈ ms, ¬ m.Replays → j ≤ m.ordinal)
    (hexecuted : ∀ l, .executed l ∈ ms → .visited l ∈ ms) : Lands i j ms := by
  refine ⟨⟨fun ⟨l, _, hj, hl⟩ => ?_, fun ⟨k, _, hj, before, after, hms, _⟩ => ?_⟩, hexecuted⟩
  · have : j ≤ l := h _ hl nofun
    omega
  · have : j ≤ k := h (.left k) (by simp [hms]) nofun
    omega

/-- A jump in which a run is left in between is lost if the chain goes on: the next run visits the
child that the first was left at. -/
theorem lands_of_left {k : Nat} {ms : List Mark} (hi : i < k) (hj : k < j)
    (h : (∀ m ∈ ms, m.Replays) ∨ .visited k ∈ ms)
    (hexecuted : ∀ l, .executed l ∈ ms → .visited l ∈ ms) : Lands i j (.left k :: ms) := by
  refine ⟨?_, fun l hl => List.mem_cons_of_mem _ (hexecuted l (by simpa using hl))⟩
  rcases h with hreplays | hvisited
  -- if all that follows is replayed, nothing is visited and the chain does not go on
  · refine ⟨fun ⟨l, _, _, hl⟩ => ?_, fun ⟨l, _, _, before, after, hms, m, hm, hnot⟩ => ?_⟩
    · obtain ⟨n, hn⟩ := hreplays _ (by simpa using hl)
      cases hn
    · refine absurd ?_ hnot
      rcases before with _ | ⟨m', before⟩
      · simp only [List.nil_append, List.cons.injEq] at hms
        exact hreplays m (hms.2 ▸ hm)
      · simp only [List.cons_append, List.cons.injEq] at hms
        exact hreplays m (by simp [hms.2, hm])
  · exact ⟨fun _ => ⟨k, hi, hj, [], ms, rfl, .visited k, hvisited, nofun⟩,
      fun _ => ⟨k, hi, hj, List.mem_cons_of_mem _ hvisited⟩⟩

/-- A jump in a run that is left, with the marks of the runs that follow it. -/
theorem lands_of_restart {k : Nat} {ms rest : List Mark}
    (htoward : (∀ m ∈ ms, ¬ m.Replays → j ≤ m.ordinal) ∨ ∃ k, i < k ∧ k < j ∧ ms = [.left k])
    (hlast : (.executed i :: ms).getLast? = some (.left k))
    (hle : ∀ m ∈ rest, ¬ m.Replays → k ≤ m.ordinal)
    (hresumes : (∀ m ∈ rest, m.Replays) ∨ .visited k ∈ rest)
    (hexecuted : ∀ l, .executed l ∈ ms → .visited l ∈ ms)
    (hrest : ∀ l, .executed l ∈ rest → .visited l ∈ rest) : Lands i j (ms ++ rest) := by
  rcases htoward with hbehind | ⟨k', hi, hj, rfl⟩
  · -- the run has come to the target before it was left, and the next one starts behind it
    have hjk : j ≤ k := by
      rw [List.getLast?_cons] at hlast
      rcases hms : ms.getLast? with _ | m
      · simp [hms] at hlast
      · obtain rfl : m = .left k := by simpa [hms] using hlast
        exact hbehind _ (List.mem_of_getLast? hms) nofun
    refine lands_of_le (fun m hm hreplays => ?_) fun l hl => ?_
    · rcases List.mem_append.1 hm with hm | hm
      · exact hbehind m hm hreplays
      · exact Nat.le_trans hjk (hle m hm hreplays)
    · rcases List.mem_append.1 hl with hl | hl
      · exact List.mem_append_left _ (hexecuted l hl)
      · exact List.mem_append_right _ (hrest l hl)
  · -- the run was left on the way to the target
    obtain rfl : k' = k := by simpa using hlast
    exact lands_of_left hi hj hresumes hrest

namespace Chain

theorem visited_of_executed {stage : Stage} (h : Chain g left stage legs x) {l : Nat}
    (hl : .executed l ∈ legs.flatMap Leg.marks) : .visited l ∈ legs.flatMap Leg.marks := by
  induction h with
  | ends path | fails path | givesUp path =>
    simp only [List.flatMap_cons, List.flatMap_nil, List.append_nil] at hl ⊢
    exact path.visited_of_executed hl
  | restarts path _ ih =>
    rw [List.flatMap_cons] at hl ⊢
    rcases List.mem_append.1 hl with hl | hl
    · exact List.mem_append_left _ (path.visited_of_executed hl)
    · exact List.mem_append_right _ (ih hl)

/-- A chain that starts at a child visits it, unless it comes to an end while it replays. -/
theorem resumes_at (h : Chain g left (.start s) legs x) {marker : String}
    (hs : s.marker = some marker) :
    (∀ m ∈ legs.flatMap Leg.marks, m.Replays) ∨
      .visited ((Stage.start s).offset g.children) ∈ legs.flatMap Leg.marks := by
  have hstage : Stage.start s = .resuming marker := by simp [Stage.start, hs]
  generalize Stage.start s = stage at h hstage
  cases h with
  | ends path | fails path | givesUp path => simpa using path.resumes_at hstage
  | restarts path next =>
    have hpath := path.resumes_at hstage
    rw [Nat.zero_add] at hpath
    rw [List.flatMap_cons]
    rcases hpath with hreplays | hvisited
    · -- a run that is left leaves a mark of that
      obtain ⟨k, hleft⟩ := path.left_at
      obtain ⟨n, hn⟩ := hreplays _ (List.mem_of_getLast? hleft.last)
      cases hn
    · exact .inr (List.mem_append_left _ hvisited)

/-- What follows a child with a flow directive, in the run that executes it. -/
theorem toward_target (nodup : (g.children.map Child.name).Nodup) (hjump : g.Jumps i j)
    {stage : Stage} {marks before after : List Mark} {x : Except Fault Scope}
    (path : Path g.name stage 0 g.children marks x)
    (hmarks : marks = before ++ .executed i :: after) :
    (∀ m ∈ after, ¬ m.Replays → j ≤ m.ordinal) ∨ ∃ k, i < k ∧ k < j ∧ after = [.left k] := by
  obtain ⟨hij, child, target, hchild, hnext, htarget⟩ := hjump
  obtain ⟨child', hchild', -, hpath⟩ := path.after_executed hmarks
  rw [Nat.sub_zero] at hchild' hpath
  obtain rfl : child = child' := Option.some_inj.1 (hchild.symm.trans hchild')
  rw [hnext] at hpath
  -- the target is the first child of its name
  have hidx : ((g.children.drop (i + 1)).map Child.name).idxOf target = j - (i + 1) := by
    obtain ⟨named, hnamed, rfl⟩ := Option.map_eq_some_iff.1 htarget
    obtain ⟨hj, rfl⟩ := List.getElem?_eq_some_iff.1 hnamed
    have hdrop : j - (i + 1) < ((g.children.drop (i + 1)).map Child.name).length := by
      simp only [List.length_map, List.length_drop]
      omega
    have hnodup : ((g.children.drop (i + 1)).map Child.name).Nodup := by
      rw [List.map_drop]
      exact nodup.sublist (List.drop_sublist ..)
    have := List.Nodup.idxOf_getElem hnodup (j - (i + 1)) hdrop
    simpa [show i + 1 + (j - (i + 1)) = j by omega] using this
  have hj : i + 1 + (j - (i + 1)) = j := by omega
  have htoward := hpath.toward (.inl rfl)
  rw [hidx, hj] at htoward
  exact htoward

/-- What becomes of every jump in a chain. -/
theorem lands (nodup : (g.children.map Child.name).Nodup)
    (nodupIds : (g.children.map Child.id).Nodup) (hjump : g.Jumps i j)
    (h : Chain g left (.start s) legs x) {before after : List Mark}
    (hmarks : legs.flatMap Leg.marks = before ++ .executed i :: after) : Lands i j after := by
  generalize hstage : Stage.start s = stage at h
  have hexecuted {stage : Stage} {marks before after : List Mark} {x : Except Fault Scope}
      (path : Path g.name stage 0 g.children marks x)
      (hmarks : marks = before ++ .executed i :: after) :
      ∀ l, .executed l ∈ after → .visited l ∈ after := by
    obtain ⟨_, _, _, hafter⟩ := path.after_executed hmarks
    exact fun l hl => hafter.visited_of_executed hl
  -- a chain of one run
  have hlast {stage : Stage} {marks : List Mark} {x : Except Fault Scope} {before : List Mark}
      (path : Path g.name stage 0 g.children marks x)
      (hmarks : marks = before ++ .executed i :: after) :
      Lands i j after := by
    rcases toward_target nodup hjump path hmarks with hle | ⟨k, hi, hj, rfl⟩
    · exact lands_of_le hle (hexecuted path hmarks)
    · exact lands_of_left hi hj (.inl nofun) nofun
  induction h generalizing s before with
  | ends path | fails path | givesUp path => exact hlast path (by simpa using hmarks)
  | restarts path next ih =>
    rw [List.flatMap_cons] at hmarks
    rcases List.append_eq_append_iff.1 hmarks with ⟨before', -, hrest⟩ | ⟨after', hrun, hrest⟩
    · exact ih hrest rfl
    · rcases after' with _ | ⟨m, after'⟩
      -- the marks split between two runs, so the child is executed in the later one
      · exact ih (show _ = [] ++ _ from hrest.symm) rfl
      · -- the child is executed in the first run
        rw [List.cons_append, List.cons.injEq] at hrest
        obtain ⟨rfl, rfl⟩ := hrest
        dsimp only at hrun
        obtain ⟨k, hleft⟩ := path.left_at
        have hmarker := hleft.marker.trans (congrArg _ (List.getElem?_eq_getElem hleft.bound))
        have hoffset := offset_start nodupIds hleft.bound hleft.marker
        have hle := next.ordinal_le nodupIds
        have hresumes := next.resumes_at hmarker
        rw [hoffset] at hle hresumes
        refine lands_of_restart (toward_target nodup hjump path hrun) ?_ hle hresumes
          (hexecuted path hrun) fun l => next.visited_of_executed
        have := hleft.last
        rwa [hrun, List.getLast?_append, List.getLast?_cons, Option.some_or, ← List.getLast?_cons,
          Nat.zero_add] at this

end Chain

/-- Whether every jump that the runs of a chain make lands, in the marks that follow it. -/
def JumpsLand (g : Graph) (legs : List Leg) : Prop :=
  ∀ i j, g.Jumps i j → ∀ before after,
    legs.flatMap Leg.marks = before ++ .executed i :: after → Lands i j after

/-- What becomes of a jump over the children in between two, over all runs of a chain and for all
answers about what is due: a child in between is visited exactly if a run is left at a child in
between and the chain goes on beyond replaying. This holds of the chain of a program and of that of
every graph that a task runs, as long as nothing outside of the runs asks for a restart. -/
theorem jump_across_restarts {kinds : Kinds} {options : ProgramOptions} {w : Workflow} {e : Setting}
    (hp : Program.compile kinds options w = .ok e.program) {name : String} {g : Graph}
    (hg : e.program.graph name = .ok g) (c : Context) (input : Json) (s : Scope) :
    ((trail rootFrame e c limit g input s).Ensures Request.Honest fun x => JumpsLand g x.1) ∧
      (trail (graphFrame name) e c limit g input s).Ensures Request.Honest fun x =>
        JumpsLand g x.1 := by
  have hcompiled := (Program.compiled_of_compile hp g (Program.mem_of_graph hg).1).1
  have hself := Program.graph_of_graph hg
  refine ⟨(ensures_chain faithful_rootFrame hself limit input s).mono ?_,
    (ensures_chain (faithful_graphFrame name) hself limit input s).mono ?_⟩
  · exact fun _ h i j hjump before after =>
      h.lands hcompiled.nodup hcompiled.nodup_ids hjump
  · exact fun _ h i j hjump before after =>
      h.lands hcompiled.nodup hcompiled.nodup_ids hjump

/-! ## A jump over one child -/

namespace Detour

/-- A document whose first task goes on to its third. -/
def workflow : Workflow :=
  ⟨⟨"root", none, none, none⟩, none, none,
    [Pair.task "a" (some (.target "c")) (.assign .null), Pair.task "b" none (.assign .null),
      Pair.task "c" none (.assign .null)]⟩

/-- What it is compiled to. -/
def graph : Graph where
  name := "root"
  children :=
    [⟨"a-0", "a", ⟨none, some (.target "c"), none, none, none, []⟩, false, .assign .null⟩,
      ⟨"b-1", "b", ⟨none, none, none, none, none, []⟩, false, .assign .null⟩,
      ⟨"c-2", "c", ⟨none, none, none, none, none, []⟩, false, .assign .null⟩]
  schema := none

/-- The program, on standard terms. -/
def setting : Setting :=
  ⟨⟨"root", [graph], .standard⟩, .ofSettings .standard, CallSettings.standard.timeout⟩

theorem compiled : Program.compile Kinds.standard .standard workflow = .ok setting.program := rfl

theorem found : setting.program.graph "root" = .ok graph := rfl

theorem jumps : graph.Jumps 0 2 := ⟨by decide, _, "c", rfl, rfl, rfl⟩

end Detour

theorem jump_across_restarts_of_detour :
    Program.compile Kinds.standard .standard Detour.workflow = .ok Detour.setting.program ∧
      Detour.setting.program.graph "root" = .ok Detour.graph ∧ Detour.graph.Jumps 0 2 ∧
      (trail rootFrame Detour.setting ⟨0, [0]⟩ limit Detour.graph .null (.start .null [])).Ensures
        Request.Honest fun x => JumpsLand Detour.graph x.1 :=
  ⟨Detour.compiled, Detour.found, Detour.jumps,
    (jump_across_restarts Detour.compiled Detour.found ⟨0, [0]⟩ .null (.start .null [])).1⟩

/-- If a restart is due at the first check for one, which is made before the second child, that
child is executed although the first has gone on to the third. -/
theorem restart_loses_jump :
    Program.compile Kinds.standard .standard Detour.workflow = .ok Detour.setting.program ∧
      Detour.setting.program.graph "root" = .ok Detour.graph ∧
      ¬ (trail rootFrame Detour.setting ⟨0, [0]⟩ limit Detour.graph .null (.start .null [])).Ensures
        Request.Honest fun x => ∀ i j, Detour.graph.Jumps i j → ∀ before after,
          x.1.flatMap Leg.marks = before ++ .executed i :: after →
            ∀ l, i < l → l < j → .executed l ∉ after := by
  refine ⟨Detour.compiled, Detour.found, fun h => ?_⟩
  have hplay : ((trail rootFrame Detour.setting ⟨0, [0]⟩ limit Detour.graph .null
      (.start .null [])).play (Machine.within ⟨.calm, (· == 0)⟩ Detour.setting 0) .first).1.map
        (fun x => x.1.flatMap Leg.marks) =
      some [.visited 0, .executed 0, .left 1, .visited 1, .executed 1, .visited 2,
        .executed 2] := by
    decide +kernel
  obtain ⟨x, hx, hmarks⟩ := Option.map_eq_some_iff.1 hplay
  have hkept := h.play (fun _ _ _ _ => Machine.honest_replies World.honest_calm) (Prod.ext hx rfl)
  exact hkept 0 2 Detour.jumps [.visited 0] _ hmarks 1 (by decide) (by decide) (by simp)

end Restart

end TaskGraph

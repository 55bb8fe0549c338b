import Mathlib.Data.Fintype.EquivFin
import Mathlib.Data.Fintype.Sets
import Mathlib.Logic.Relation
import TaskGraph.Proofs.Program.Compiled

/-!
# Programs whose graphs do not lead back to themselves

A graph leads to another one if a task of it, in nested lists as well, can invoke that one by a name that
is no expression (`Program.Leads`). A program has finitely many graphs, so if none of them leads back to
itself, leading on comes to an end (`Program.Acyclic.wellFounded`).

The compiler registers a graph after those that are compiled along with its children. Without targets of
switches and without processes that run graphs, these are all that the graph leads to, so a graph
leads to earlier ones only (`Program.acyclic_of_compile`).
-/

set_option autoImplicit false

namespace TaskGraph

namespace Program

/-- Whether the graph of a name contains, in nested lists as well, a task that can invoke the graph of
another name. -/
def Leads (p : Program) (name target : String) : Prop :=
  ∃ g, p.graph name = .ok g ∧ ∃ child ∈ g.children, ∃ inner : Step,
    inner.Inside child.action ∧ inner.Names target

/-- Whether no graph of a program leads to itself, directly or through others. -/
def Acyclic (p : Program) : Prop := ∀ name, ¬ Relation.TransGen p.Leads name name

variable {p : Program}

theorem mem_names_of_leads {name target : String} (h : p.Leads name target) :
    name ∈ p.graphs.map Graph.name := by
  obtain ⟨g, hg, -⟩ := h
  obtain ⟨hmem, rfl⟩ := mem_of_graph hg
  exact List.mem_map_of_mem hmem

/-- Leading on comes to an end in an acyclic program, for it has finitely many graphs. -/
theorem Acyclic.wellFounded (hp : p.Acyclic) : WellFounded fun target name => p.Leads name target := by
  let onward (a b : { name // name ∈ p.graphs.map Graph.name }) : Prop :=
    Relation.TransGen p.Leads b.1 a.1
  have htrans : IsTrans _ onward := ⟨fun _ _ _ hab hbc => hbc.trans hab⟩
  have hirrefl : Std.Irrefl onward := ⟨fun a => hp a.1⟩
  have hnamed (a : { name // name ∈ p.graphs.map Graph.name }) :
      Acc (fun target name => p.Leads name target) a.1 := by
    induction a using (Finite.wellFounded_of_trans_of_irrefl onward).induction with
    | _ a ih =>
      refine Acc.intro _ fun target hleads => ?_
      by_cases hmem : target ∈ p.graphs.map Graph.name
      · exact ih ⟨target, hmem⟩ (.single hleads)
      · exact Acc.intro _ fun _ h => absurd (mem_names_of_leads h) hmem
  refine ⟨fun name => Acc.intro _ fun target hleads => ?_⟩
  exact (hnamed ⟨name, mem_names_of_leads hleads⟩).inv hleads

/-! ## Programs without targets -/

/-- Whether no task of a program, in nested lists as well, is a switch with a graph for a target or runs
the graph of a process. -/
def Untargeted (p : Program) : Prop :=
  ∀ g ∈ p.graphs, ∀ child ∈ g.children, ∀ inner : Step, inner.Inside child.action →
    ¬ inner.Targets ∧ ∀ process, ¬ inner.Runs process

/-- A graph leads only to graphs that were registered before it. -/
theorem idxOf_lt_of_leads {kinds : Kinds} {options : ProgramOptions} {w : Workflow}
    (h : Program.compile kinds options w = .ok p) (hp : p.Untargeted) {name target : String}
    (hleads : p.Leads name target) :
    (p.graphs.map Graph.name).idxOf target < (p.graphs.map Graph.name).idxOf name := by
  obtain ⟨r, hsound, hcloses⟩ := closes_of_compile h
  obtain ⟨g, hg, child, hchild, inner, hinner, hnames⟩ := hleads
  obtain ⟨hmem, rfl⟩ := mem_of_graph hg
  have hbuilds := Step.builds_of_names hnames (hp g hmem child hchild inner hinner).1
    (hp g hmem child hchild inner hinner).2
  obtain ⟨before, after, hsplit⟩ := List.append_of_mem hmem
  -- a step was compiled when the graph around it was registered, and all that it builds was there
  -- already
  have hbefore : target ∈ before.map Graph.name := by
    obtain ⟨hlist, hnested⟩ := hsound.ordered before g after (hcloses.graphs ▸ hsplit)
    have hsettled : ∃ task, inner.Settled ⟨before, r.references⟩ task := by
      rcases hinner.cases with rfl | ⟨list, hinside, child', hchild', rfl⟩
      · exact ⟨_, hlist.settled child hchild⟩
      · exact ⟨_, (hnested child hchild list hinside).settled child' hchild'⟩
    obtain ⟨task, hsettled⟩ := hsettled
    obtain ⟨g', hg', rfl⟩ := hsettled.built target hbuilds
    exact List.mem_map_of_mem hg'
  have hnodup : (p.graphs.map Graph.name).Nodup := hcloses.graphs ▸ hsound.nodup
  rw [hsplit, List.map_append, List.map_cons] at hnodup ⊢
  -- names are distinct, so the graph itself is not found any earlier
  have hlast : g.name ∉ before.map Graph.name := fun hearly =>
    (List.nodup_append.1 hnodup).2.2 _ hearly _ (List.mem_cons_self ..) rfl
  rw [List.idxOf_append_of_mem hbefore, List.idxOf_append_of_notMem hlast, List.idxOf_cons_self]
  exact List.idxOf_lt_length_of_mem hbefore

/-- A compiled program without targets of switches and without processes that run graphs is acyclic. -/
theorem acyclic_of_compile {kinds : Kinds} {options : ProgramOptions} {w : Workflow}
    (h : Program.compile kinds options w = .ok p) (hp : p.Untargeted) : p.Acyclic := by
  intro name hcycle
  have hdescends {a b : String} (hab : Relation.TransGen p.Leads a b) :
      (p.graphs.map Graph.name).idxOf b < (p.graphs.map Graph.name).idxOf a := by
    induction hab with
    | single hleads => exact idxOf_lt_of_leads h hp hleads
    | tail _ hleads ih => exact Nat.lt_trans (idxOf_lt_of_leads h hp hleads) ih
  exact Nat.lt_irrefl _ (hdescends hcycle)

end Program

end TaskGraph

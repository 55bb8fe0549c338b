import TaskGraph.Proofs.Program.Origins
import TaskGraph.Proofs.Program.Registers

/-!
# Names of generated graphs

If names are told apart where they stand (`Workflow.NamesApart`) and the tasks and branches that graphs are
made for have no underscores in theirs, all graphs of a document have different names, and compiling it never
finds a name registered already (`Workflow.names_distinct_without_underscores`). With underscores this can
happen in a document without any other fault (`Workflow.names_clash_of_underscores`).
-/

set_option autoImplicit false

namespace TaskGraph

namespace Workflow

/-- The origins of the graphs of a document, in the order of `Workflow.lists`. -/
def origins (w : Workflow) : List Origin :=
  Task.innerOrigins (.named w.name) w.tasks ++ [.named w.name]

theorem map_name_origins (w : Workflow) : w.origins.map Origin.name = w.graphNames := by
  unfold origins graphNames lists
  rw [List.map_append, List.map_append, Task.map_name_innerOrigins]
  rfl

/-- Whether the names of a document are told apart where they stand: siblings have different names, and
so have the document and the nested lists that are graphs, and none of these has a name that is made for
another graph. -/
structure NamesApart (w : Workflow) : Prop where
  siblings : SiblingsApart w.lists
  given : (Origin.givens w.origins).Nodup
  fresh : ∀ n ∈ Origin.givens w.origins, ∀ o ∈ w.origins, o.given? = none → o.name ≠ n

/-- Whether the tasks and branches that graphs are made for have no underscores in their names. -/
def NamesPlain (w : Workflow) : Prop := ∀ o ∈ w.origins, o.Plain

/-- The origins of the graphs of a document are different, and those around them are among them. -/
theorem NamesApart.spread {w : Workflow} (h : w.NamesApart) :
    w.origins.Nodup ∧ ∀ part o, .made part o ∈ w.origins → o ∈ w.origins := by
  obtain ⟨hinner, hnames, hbranches⟩ := siblingsApart_concat.1 h.siblings
  have hgivens := h.given
  unfold origins at hgivens ⊢
  have hroot : w.name ∉ Origin.givens (Task.innerOrigins (.named w.name) w.tasks) := by
    intro hmem
    rw [Origin.givens_append] at hgivens
    exact (List.nodup_append.1 hgivens).2.2 _ hmem _ (List.mem_singleton.2 rfl) rfl
  have hspread := Task.spread_innerOrigins (.named w.name) w.tasks hnames hbranches hinner
    (Task.nodup_givens_left hgivens) hroot
  have hall : Origin.Spread (.named w.name) (fun _ => False) _ := hspread.named hgivens
  refine ⟨hall.nodup, fun part o ho => ?_⟩
  rcases hall.closed part o ho with rfl | hmem
  · exact List.mem_append_right _ (List.mem_singleton.2 rfl)
  · exact hmem

/-- Names that are made without underscores do not clash. -/
theorem NamesApart.nodup {w : Workflow} (h : w.NamesApart) (hplain : w.NamesPlain) :
    w.graphNames.Nodup := by
  obtain ⟨hnodup, hclosed⟩ := h.spread
  rw [← map_name_origins]
  refine hnodup.map_on fun p hp q hq hname => ?_
  refine Origin.name_inj hclosed hplain (fun n hn part o ho => ?_) hp hq hname
  exact h.fresh n (Origin.mem_givens.2 hn) _ ho rfl

/-! ## Compiling -/

open Compiling

variable {kinds : Kinds} {options : ProgramOptions} {w : Workflow}

/-- If the names of its graphs are different, compiling a document does not find one registered already. -/
theorem unrelated_compile (h : w.graphNames.Nodup) : Unrelated (Program.compile kinds options w) := by
  intro f hf
  cases hvalid : w.validate with
  | error f' =>
    cases (compile_of_invalid hvalid).symm.trans hf
    exact unrelated_validate w f hvalid
  | ok =>
    unfold Program.compile at hf
    rw [run_workflow kinds options hvalid] at hf
    rcases hroot : run (root kinds w) .empty with ⟨f' | _, r⟩
    · rw [hroot] at hf
      cases hf
      exact (registers_root w).fault .empty f r hroot h
    · rw [hroot] at hf
      dsimp only at hf
      split at hf <;> cases hf
      exact nofun

/-- The graphs of a program of built-in kinds are those of its document, under different names. -/
theorem names_of_compile (hkinds : kinds.BuiltIn) {p : Program}
    (h : Program.compile kinds options w = .ok p) :
    p.graphs.map Graph.name = w.graphNames ∧ w.graphNames.Nodup := by
  have hnames : p.graphs.map Graph.name = w.graphNames := by
    obtain ⟨r, hroot, hgraphs⟩ := root_of_compile h
    obtain ⟨added, -, hadded, hr⟩ := (registers_root w).names .empty _ r hroot
    rw [hgraphs, ← hadded hkinds]
    exact hr
  obtain ⟨r, hsound, hcloses⟩ := Program.closes_of_compile h
  rw [← hnames, hcloses.graphs]
  exact ⟨rfl, hsound.nodup⟩

/-- The names of the graphs of a document are different if names are told apart where they stand and the
tasks and branches that graphs are made for have no underscores in theirs. No graph is then found registered
already, and in general two graphs of one name are the only reason for that: a document whose graphs have
different names does not fail for it, and in one that compiles they have. -/
theorem names_distinct_without_underscores (w : Workflow) :
    (w.NamesApart → w.NamesPlain → w.graphNames.Nodup) ∧
      (w.graphNames.Nodup → ∀ kinds options graph,
        Program.compile kinds options w ≠ .error (.duplicateGraph graph)) ∧
      ∀ options p, Program.compile Kinds.standard options w = .ok p →
        p.graphs.map Graph.name = w.graphNames ∧ w.graphNames.Nodup := by
  refine ⟨NamesApart.nodup, fun hnodup kinds options graph h => ?_, fun options p h => ?_⟩
  · exact unrelated_compile hnodup _ h graph rfl
  · exact names_of_compile Kinds.builtIn_standard h

end Workflow

/-! ### Two documents -/

namespace Underscores

/-- A task with nothing but a name and an action. -/
def task (name : String) (action : Action) : Task :=
  ⟨name, ⟨none, none, none, none, none, []⟩, action⟩

def note : Task := task "note" (.assign .null)

/-- A document whose underscores are all in names that are given: those of the document and of a nested
list with the same loop as the document. -/
def apart : Workflow :=
  ⟨⟨"root_each", none, none, none⟩, none, none,
    [task "each" (.loop ⟨none, .null, none⟩ none
        [task "race" (.fork true
          [task "left" (.block [note]), task "right" (.attempt [note] none [note])])]),
      task "root" (.block [task "each" (.loop ⟨none, .null, none⟩ none [note])])]⟩

/-- A document with two forks. The name of the first one and that of its branch spell the same as those of
the second one and its branch. -/
def clashing : Workflow :=
  ⟨⟨"root", none, none, none⟩, none, none,
    [task "a" (.fork false [task "b_c" (.assign .null)]),
      task "a_b" (.fork false [task "c" (.assign .null)])]⟩

theorem namesApart_apart : apart.NamesApart :=
  ⟨by unfold SiblingsApart; decide +kernel, by decide +kernel, by decide +kernel⟩

theorem namesPlain_apart : apart.NamesPlain := by
  unfold Workflow.NamesPlain
  decide +kernel

theorem namesApart_clashing : clashing.NamesApart :=
  ⟨by unfold SiblingsApart; decide +kernel, by decide +kernel, by decide +kernel⟩

theorem compiles_apart : (Program.compile Kinds.standard .standard apart).isOk = true := by
  decide +kernel

end Underscores

namespace Workflow

/-- A document in which forks, tries and loops are inside each other, and the names of its graphs. -/
theorem names_distinct_of_apart :
    Underscores.apart.NamesApart ∧ Underscores.apart.NamesPlain ∧ Underscores.apart.graphNames.Nodup ∧
      (∀ graph, Program.compile Kinds.standard .standard Underscores.apart ≠
        .error (.duplicateGraph graph)) ∧
      ∃ p, Program.compile Kinds.standard .standard Underscores.apart = .ok p ∧
        p.graphs.map Graph.name = Underscores.apart.graphNames := by
  obtain ⟨hnodup, hcompile, hnames⟩ := names_distinct_without_underscores Underscores.apart
  have hapart := hnodup Underscores.namesApart_apart Underscores.namesPlain_apart
  refine ⟨Underscores.namesApart_apart, Underscores.namesPlain_apart, hapart,
    hcompile hapart Kinds.standard .standard, ?_⟩
  have hok := Underscores.compiles_apart
  cases hp : Program.compile Kinds.standard .standard Underscores.apart with
  | error f =>
    rw [hp] at hok
    cases hok
  | ok p => exact ⟨p, rfl, (hnames .standard p hp).1⟩

/-- Siblings have different names, and the only name that is given is not made for another graph, but two
branches of different forks are made graphs of one name. -/
theorem names_clash_of_underscores :
    Underscores.clashing.NamesApart ∧ ¬ Underscores.clashing.graphNames.Nodup ∧
      Program.compile Kinds.standard .standard Underscores.clashing =
        .error (.duplicateGraph "fork_root_a_b_c") := by
  exact ⟨Underscores.namesApart_clashing, by decide +kernel, rfl⟩

end Workflow

end TaskGraph

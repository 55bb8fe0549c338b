import TaskGraph.Host.Run
import TaskGraph.Proofs.Document.Interpolation

/-!
# What a graph that is run by its name is started with

A task that runs a graph by its name starts it with the value of the input that the document declares,
and with the input of the task where the document declares none (`graph_is_started_with`). A
declared input that evaluates to null counts as none: it is written and read back like one that is
left out, so the graph is started with the input of the task.
-/

set_option autoImplicit false

namespace TaskGraph

open Decode
open Decode.Fields (named_and named_needed named_maybe named_maybe_null)

/-- Whether a dialogue starts a graph before all else, with an input and in a scope, and waits for it or
not. -/
inductive Dialogue.Starts {α : Type} (c : Context) (name : String) (g : Graph) (input : Json)
    (scope : Scope) : Bool → Dialogue α → Prop where
  | awaited (next : Context → Except Fault Scope → Dialogue α) :
      Starts c name g input scope true
        (.ask (.tell (.enter name input scope)) fun _ =>
          .ask (.record c (.graphStarted name false)) fun _ =>
            .ask (.fresh c) fun inner => .ask (.enter inner g input scope) (next inner))
  | detached (next : Unit → Dialogue α) :
      Starts c name g input scope false
        (.ask (.tell (.detach name input scope)) fun _ =>
          .ask (.record c (.graphStarted name true)) fun _ =>
            .ask (.detach c name input scope) next)

/-- The request that a dialogue begins with. -/
def Dialogue.first? {α : Type} : Dialogue α → Option Request
  | .done _ => none
  | .ask q _ => some q

section Starts

variable {α : Type} {c : Context} {name : String} {g : Graph} {x y : Json} {s s' : Scope}
  {awaits : Bool} {d : Dialogue α}

theorem Dialogue.Starts.first? (h : Starts c name g x s awaits d) :
    d.first? = some (.tell (if awaits then .enter name x s else .detach name x s)) := by
  cases h <;> rfl

/-- A graph is started with one input. -/
theorem Dialogue.Starts.input_eq (h : Starts c name g x s awaits d)
    (h' : Starts c name g y s' awaits d) : x = y := by
  have htold := Option.some.inj (h.first?.symm.trans h'.first?)
  cases awaits
  all_goals
    cases htold
    rfl

end Starts

namespace Restart

variable {β : Type} {p : Program} {name : String} {g : Graph}

theorem starts_runGraph (h : p.graph name = .ok g) (c : Context) (input : Json) (s : Scope)
    (k : Json → Running β) (ev : Evaluator) :
    ((runGraph p c name input s >>= k).run.evaluated ev).1.Starts c name g input s true := by
  unfold runGraph graphOutput loop
  rw [h]
  exact .awaited _

theorem starts_startGraph (h : p.graph name = .ok g) (c : Context) (input : Json) (s : Scope)
    (k : Unit → Running β) (ev : Evaluator) :
    ((startGraph p c name input s >>= k).run.evaluated ev).1.Starts c name g input s false := by
  unfold startGraph
  rw [h]
  exact .detached _

end Restart

/-! ## Payloads with an input -/

namespace WorkflowProcess

open Evaluation

variable {name : String} {s : Scope} {ev ev₁ ev' : Evaluator} {w x declared : Json}

/-- The input is evaluated before the name, and against the same document. -/
theorem run_traverse_input (hw : ev.run (traverse declared s []) = (.ok w, ev₁))
    (hname : ev₁.run (evaluate name s []) = (.ok x, ev')) :
    ev.run (traverse (toJson ⟨name, some declared⟩) s []) =
      (.ok (.obj [("input", w), ("name", x)]), ev') := by
  rw [traverse_eq_traverseIn] at hw ⊢
  have hname' : ev₁.run (evaluateIn (s.document []) name) = (.ok x, ev') := hname
  simp only [toJson, List.cons_append, List.nil_append, traverseIn, traverseMembers, run_bind, hw,
    hname', pure_bind]
  rfl

theorem run_traverse_name (hname : ev.run (evaluate name s []) = (.ok x, ev')) :
    ev.run (traverse (toJson ⟨name, none⟩) s []) = (.ok (.obj [("name", x)]), ev') := by
  rw [traverse_eq_traverseIn]
  have hname' : ev.run (evaluateIn (s.document []) name) = (.ok x, ev') := hname
  simp only [toJson, List.nil_append, traverseIn, traverseMembers, run_bind, hname', pure_bind]
  rfl

/-- An input that has become null is read as none. -/
theorem decode_input (name : String) (w : Json) :
    decode (.obj [("input", w), ("name", .str name)]) =
      .ok ⟨name, if w = .null then none else some w⟩ := by
  refine namedRecord_of_named (named_and (named_and rfl (named_needed (by rfl) (by rfl))) ?_)
  by_cases hw : w = .null
  · rw [if_pos hw]
    exact named_maybe_null (by rw [hw]; rfl)
  · rw [if_neg hw]
    exact named_maybe (by rfl) hw (by rfl)

theorem decode_name (name : String) : decode (.obj [("name", .str name)]) = .ok ⟨name, none⟩ :=
  decode_toJson (p := ⟨name, none⟩) nofun

end WorkflowProcess

/-! ## Starting the graph -/

namespace Sequence

open Evaluation

section

variable (e : Setting) (c : Context) (task : String) (base : TaskBase) (input : Json) (s : Scope)
  {run : ProcessRun} (timeout : Option Duration) {p : WorkflowProcess} {n : String} {g : Graph}
  {ev ev' : Evaluator}

/-- The graph is started with what the evaluated payload holds, or else with the input of the task. -/
theorem starts_process (hrun : run.process = .workflow p) (hgraph : e.program.graph n = .ok g)
    {v : Json} {x : Option Json} (hv : ev.run (traverse p.toJson s []) = (.ok v, ev'))
    (hread : WorkflowProcess.decode v = .ok ⟨n, x⟩) :
    ((process e c task base input s run timeout).run.evaluated ev).1.Starts c n g
      (x.getD input) (s.childWithInput (x.getD input)) run.awaits := by
  obtain ⟨_, awaits⟩ := run
  cases hrun
  unfold process graphProcess
  rw [Calling.evaluated_interpolate hv hread]
  cases awaits with
  | true => exact Restart.starts_runGraph hgraph ..
  | false => exact Restart.starts_startGraph hgraph ..

/-- A task that runs a graph by its name starts it, waited for or not, with the value of the input that is
declared, as its input and as that of its scope, if this value is not null; a value that is null is
replaced by the input of the task, which is also what the graph is started with if no input is declared. -/
theorem graph_is_started_with (hrun : run.process = .workflow p)
    (hgraph : e.program.graph n = .ok g) :
    (∀ declared w ev₁, p.input = some declared → ev.run (traverse declared s []) = (.ok w, ev₁) →
      ev₁.run (evaluate p.name s []) = (.ok (.str n), ev') →
      (∀ x, ((process e c task base input s run timeout).run.evaluated ev).1.Starts c n g x
          (s.childWithInput x) run.awaits ↔ x = if w = .null then input else w) ∧
      (((process e c task base input s run timeout).run.evaluated ev).1.Starts c n g w
          (s.childWithInput w) run.awaits ↔ w ≠ .null ∨ input = .null)) ∧
    (p.input = none → ev.run (evaluate p.name s []) = (.ok (.str n), ev') →
      ∀ x, ((process e c task base input s run timeout).run.evaluated ev).1.Starts c n g x
        (s.childWithInput x) run.awaits ↔ x = input) ∧
    ∀ x, (s.childWithInput x).input = x := by
  obtain ⟨name, declared?⟩ := p
  refine ⟨fun declared w ev₁ hdeclared hw hname => ?_, fun hnone hname x => ?_, fun x => rfl⟩
  · cases hdeclared
    have hstarts := starts_process e c task base input s timeout hrun hgraph
      (WorkflowProcess.run_traverse_input hw hname) (WorkflowProcess.decode_input n w)
    -- what the payload is read to has no input if its value is null, and then the task's takes its place
    have hvalue : (if w = .null then none else some w).getD input =
        if w = .null then input else w := by
      split <;> rfl
    rw [hvalue] at hstarts
    refine ⟨fun x => ⟨fun h => h.input_eq hstarts, fun h => h ▸ hstarts⟩, fun h => ?_, fun h => ?_⟩
    · have heq := h.input_eq hstarts
      by_cases hnull : w = .null
      · rw [if_pos hnull, hnull] at heq
        exact .inr heq.symm
      · exact .inl hnull
    · have heq : (if w = .null then input else w) = w := by
        rcases h with hne | hinput
        · exact if_neg hne
        · split
          · next hnull => rw [hinput, hnull]
          · rfl
      rwa [heq] at hstarts
  · cases hnone
    have hstarts := starts_process e c task base input s timeout hrun hgraph
      (WorkflowProcess.run_traverse_name hname) (WorkflowProcess.decode_name n)
    exact ⟨fun h => h.input_eq hstarts, fun h => h ▸ hstarts⟩

end

end Sequence

/-! ## A document that hands inputs over -/

namespace Handover

/-- The input of the task. -/
def input : Json := .obj [("k", .int 1)]

/-- An expression that is null. -/
def nothing : Json := .str "$\x7b null \x7d"

/-- A task that runs the body of another one with a declared input. -/
def process (declared : Json) : ProcessRun := ⟨.workflow ⟨"try_root_t", some declared⟩, true⟩

def base : TaskBase := ⟨none, none, none, none, none, []⟩

/-- A task that exports its input. -/
def showing : Task :=
  ⟨"a", { base with exported := some (.str "$\x7b data.got \x7d") },
    .assign (.obj [("got", .str "$\x7b input \x7d")])⟩

/-- A document with the two. -/
def workflow : Workflow :=
  ⟨⟨"root", none, none, none⟩, none, none,
    [⟨"t", base, .attempt [showing] none []⟩, ⟨"r", base, .run (process nothing)⟩]⟩

/-- The graph that is run by its name. -/
def graph : Graph := ⟨"try_root_t", [⟨"a-0", "a", showing.base, false,
  .assign (.obj [("got", .str "$\x7b input \x7d")])⟩], none⟩

def setting : Setting :=
  ⟨⟨"root", [graph, ⟨"root", [⟨"t-0", "t", base, false, .attempt (some "try_root_t") none "error"⟩,
    ⟨"r-1", "r", base, false, .run (process nothing) none⟩], none⟩], .standard⟩,
    .ofSettings .standard, CallSettings.standard.timeout⟩

theorem compiled : Program.compile Kinds.standard .standard workflow = .ok setting.program := rfl

theorem found : setting.program.graph "try_root_t" = .ok graph := rfl

/-- The data at the end of a run of the document, on a host without handlers. -/
def data : Option Members :=
  let code := (Host.programRun setting.program input []).run
  let h := Host.run 60 (Host.start setting (.bare 0) .passThrough code)
  h.result.bind fun x => x.toOption.map fun o => o.scope.data

/-- The task that runs the graph, in a scope with nothing but its input. -/
def started (declared : Json) : Dialogue (Except Fault (Option Json)) :=
  ((Sequence.process setting ⟨0, []⟩ "r" base input (.start input []) (process declared)
    none).run.evaluated (.standard .passThrough)).1

/-- What evaluates to a value in that scope. -/
def value? (declared : Json) : Option Json :=
  ((Evaluator.standard .passThrough).run
    (Evaluation.traverse declared (.start input []) [])).1.toOption

theorem run_of_value? {declared w : Json} (h : value? declared = some w) :
    ∃ ev, (Evaluator.standard .passThrough).run
      (Evaluation.traverse declared (.start input []) []) = (.ok w, ev) := by
  unfold value? at h
  rcases hrun : (Evaluator.standard .passThrough).run
    (Evaluation.traverse declared (.start input []) []) with ⟨f | v, ev⟩
  · rw [hrun] at h
    cases h
  · rw [hrun] at h
    cases h
    exact ⟨ev, rfl⟩

/-- The name of the graph is no expression. -/
theorem run_name (ev : Evaluator) :
    ev.run (Evaluation.evaluate "try_root_t" (.start input []) []) = (.ok (.str "try_root_t"), ev) := by
  have hname : Evaluation.isExpression "try_root_t" = false := by decide +kernel
  rw [Evaluation.evaluate, Evaluation.evaluateIn_literal _ hname]
  rfl

end Handover

namespace Sequence

open Handover

theorem graph_is_started_with_of_handover :
    setting.program.graph "try_root_t" = .ok graph ∧
      value? (.arr [.str "$\x7b input \x7d"]) = some (.arr [input]) ∧
      (started (.arr [.str "$\x7b input \x7d"])).Starts ⟨0, []⟩ "try_root_t" graph (.arr [input])
        ((Scope.start input []).childWithInput (.arr [input])) true := by
  have hvalue : value? (.arr [.str "$\x7b input \x7d"]) = some (.arr [input]) := by decide +kernel
  obtain ⟨ev₁, hw⟩ := run_of_value? hvalue
  have hrun : (Handover.process (.arr [.str "$\x7b input \x7d"])).process =
      .workflow ⟨"try_root_t", some (.arr [.str "$\x7b input \x7d"])⟩ := rfl
  obtain ⟨hdeclared, -, -⟩ := graph_is_started_with setting ⟨0, []⟩ "r" base input (.start input [])
    none hrun found
  obtain ⟨-, hstarts⟩ := hdeclared _ _ ev₁ rfl hw (run_name ev₁)
  exact ⟨found, hvalue, hstarts.2 (.inl nofun)⟩

/-- An input that is declared as null is handed over as the input of the task. -/
theorem null_input_is_replaced :
    Program.compile Kinds.standard .standard workflow = .ok setting.program ∧
      value? nothing = some .null ∧
      ¬ (started nothing).Starts ⟨0, []⟩ "try_root_t" graph .null
        ((Scope.start input []).childWithInput .null) true ∧
      data = some [("r", input), ("t", input)] := by
  have hvalue : value? nothing = some .null := by decide +kernel
  obtain ⟨ev₁, hw⟩ := run_of_value? hvalue
  have hrun : (Handover.process nothing).process = .workflow ⟨"try_root_t", some nothing⟩ := rfl
  have hstarts := starts_process setting ⟨0, []⟩ "r" base input (.start input []) none hrun found
    (WorkflowProcess.run_traverse_input hw (run_name ev₁)) (WorkflowProcess.decode_input _ .null)
  refine ⟨compiled, hvalue, fun h => ?_, by decide +kernel⟩
  cases h.input_eq hstarts

end Sequence

end TaskGraph

import TaskGraph.Host.Run
import TaskGraph.Proofs.Graphs.Execution
import TaskGraph.Proofs.Program.Mirrors
import TaskGraph.Proofs.Sequence.Walk

/-!
# The fields of branches

A branch of a fork is a task, and may have a guard and an export like any other one. If it is not a
nested list, its graph is a list of the branch alone, and whatever is answered, the branch obeys its
fields (`Sequence.Obeys`, `Forking.Obeys`): a guard that is false is all that is asked, and the branch
comes to null, which is no value to the fork; an export is the last that is evaluated, and is what the
branch comes to.

If it is a nested list, its graph is that list, and its fields have no place in the program
(`Forking.branches_obey_unless_lists`).
-/

set_option autoImplicit false

namespace TaskGraph

/-! ## A list of one task -/

namespace Sequence

variable (e : Setting) (c : Context) (input : Json) (child : Child Step) (s : Scope)

/-- Does what a task does. The answer is what its list goes on with, or nothing if the list is to stop. -/
def attempted : Running (Option (Option Json × Scope)) := do
  absorb c s (← (step e c child.name child.base input child.action s).outcome)

/-- What a list goes on with after what its task did. -/
def proceed : Option (Option Json × Scope) → Running Turn
  | none => pure (.stop s)
  | some (value, s') => conclude child.name child.base value s'

/-- The guard of a task, and the answer to it. -/
def guarding (answer : Except Fault Bool) : Exchange :=
  ⟨.check child.base.guard s [taskBinding child.name], answer⟩

/-- The export of a task with a value, and the answer to it. -/
def exporting (v : Json) (value : Option Json) (answer : Except Fault Json) : Exchange :=
  ⟨.traverse v s [taskBinding child.name, ("result", value.getD .null)], answer⟩

/-- Whether an execution of a list in a scope obeys the fields of its only task. -/
inductive Obeys : List Exchange → Except Fault Scope → Prop where
  /-- The guard is false, and nothing else is asked. -/
  | skipped : Obeys [guarding child s (.ok false)] (.ok s)
  /-- The guard or something behind it fails. -/
  | failed {answer : Except Fault Bool} {log : List Exchange} {f : Fault}
      (asked : answer ≠ .ok false) : Obeys (guarding child s answer :: log) (.error f)
  /-- The task is cancelled, and so is what is around it. -/
  | stopped {before ran : List Exchange}
      (published : (publish c child.name child.base s).Executes e before (.ok ()))
      (runs : (attempted e c input child s).Executes e ran (.ok none)) :
      Obeys (guarding child s (.ok true) :: (before ++ ran)) (.ok s)
  /-- The task is executed and declares no export. -/
  | plain {before ran : List Exchange} {value : Option Json} {s' : Scope}
      (published : (publish c child.name child.base s).Executes e before (.ok ()))
      (runs : (attempted e c input child s).Executes e ran (.ok (some (value, s'))))
      (undeclared : child.base.exported = none) :
      Obeys (guarding child s (.ok true) :: (before ++ ran)) (.ok (recorded child.name value s'))
  /-- The task is executed, and its export becomes the output. -/
  | exported {before ran : List Exchange} {value : Option Json} {s' : Scope} {v output : Json}
      (published : (publish c child.name child.base s).Executes e before (.ok ()))
      (runs : (attempted e c input child s).Executes e ran (.ok (some (value, s'))))
      (declared : child.base.exported = some v) :
      Obeys (guarding child s (.ok true) :: (before ++ ran ++
          [exporting child (recorded child.name value s') v value (.ok output)]))
        (.ok { recorded child.name value s' with output := some output })

variable {e c input child s} {log : List Exchange}

/-- What is behind the only task of a list asks for nothing. -/
theorem eq_of_executes_follow {entry : Option String} {t : Turn} {s' : Scope}
    (h : (t.follow pure fun pending s => run e c entry input false pending [] s).Executes e log (.ok s')) :
    log = [] ∧ s' = t.scope := by
  cases t with
  | stop s =>
    obtain ⟨rfl, hs⟩ := Running.executes_pure_iff.1 h
    exact ⟨rfl, Except.ok.inj hs⟩
  | next pending s =>
    simp only [Turn.follow, run_nil] at h
    cases pending with
    | some target => cases (Running.executes_throw_iff.1 h).2
    | none =>
      obtain ⟨rfl, hs⟩ := Running.executes_pure_iff.1 h
      exact ⟨rfl, Except.ok.inj hs⟩

/-- An export that is declared is evaluated, and becomes the output. -/
theorem executes_export {value : Option Json} {s' s'' : Scope}
    (h : (export_ child.name child.base value s').Executes e log (.ok s'')) :
    (child.base.exported = none ∧ log = [] ∧ s'' = s') ∨
      ∃ v output, child.base.exported = some v ∧
        log = [exporting child s' v value (.ok output)] ∧ s'' = { s' with output := some output } := by
  unfold export_ at h
  cases hexported : child.base.exported with
  | none =>
    rw [hexported] at h
    obtain ⟨rfl, hs⟩ := Running.executes_pure_iff.1 h
    exact .inl ⟨rfl, rfl, Except.ok.inj hs⟩
  | some v =>
    rw [hexported] at h
    obtain ⟨before, after, output, rfl, hbefore, hgoes⟩ := Running.ok_of_executes_bind h
    obtain rfl := (Dialogue.executes_request_iff rfl).1 hbefore
    obtain ⟨rfl, hs⟩ := Running.executes_pure_iff.1 hgoes
    exact .inr ⟨v, output, rfl, rfl, Except.ok.inj hs⟩

/-- A task whose guard holds obeys its other fields. -/
theorem obeys_of_enact {t : Turn}
    (h : (enact e c child.name child.base (step e c child.name child.base input child.action) s).Executes
      e log (.ok t)) : Obeys e c input child s (guarding child s (.ok true) :: log) (.ok t.scope) := by
  unfold enact at h
  obtain ⟨_, _, _, rfl, hinput, hchecked⟩ := Running.ok_of_executes_bind h
  obtain ⟨rfl, -⟩ := Running.executes_ofExcept_iff.1 hinput
  obtain ⟨before, rest, _, rfl, hpublished, hrest⟩ := Running.ok_of_executes_bind hchecked
  -- what is run behind the check is the body, and then what is made of its outcome
  have hattempted : (attempted e c input child s >>= proceed child s).Executes e rest (.ok t) := by
    unfold attempted
    rw [bind_assoc]
    exact hrest
  obtain ⟨ran, _, came, rfl, hran, hconcluded⟩ := Running.ok_of_executes_bind hattempted
  rw [List.nil_append]
  cases came with
  | none =>
    obtain ⟨rfl, ht⟩ := Running.executes_pure_iff.1 hconcluded
    cases ht
    rw [List.append_nil]
    exact .stopped hpublished hran
  | some came =>
    obtain ⟨value, s'⟩ := came
    obtain ⟨_, _, s'', rfl, hexport, hturn⟩ := Running.ok_of_executes_bind hconcluded
    obtain ⟨rfl, ht⟩ := Running.executes_pure_iff.1 hturn
    cases ht
    rw [Turn.scope_after, List.append_nil]
    -- a value is exported where the task says so; otherwise nothing more is evaluated
    rcases executes_export hexport with ⟨hnone, rfl, rfl⟩ | ⟨v, output, hsome, rfl, rfl⟩
    · rw [List.append_nil]
      exact .plain hpublished hran hnone
    · rw [← List.append_assoc]
      exact .exported hpublished hran hsome

/-- A list of one task obeys the fields of the task, unless it is on its way to a marker. -/
theorem obeys_runGraph {g : Graph} (hg : g.children = [child]) (hs : s.marker = none)
    {x : Except Fault Scope} (h : (runGraph e c g input s).Executes e log x) :
    Obeys e c input child s log x := by
  unfold runGraph at h
  -- without a marker the first task of a list is neither skipped nor replayed, and no restart precedes it
  rw [hg, run_cons, leaves_first, pure_bind] at h
  simp only [Bool.false_eq_true, if_false, resumption_going _ _ _ hs] at h
  rw [if_neg (by simp [Passes])] at h
  unfold visit at h
  obtain ⟨_, after, answer, rfl, hguard, hgoes⟩ := Running.executes_bind_iff.1 h
  obtain rfl := (Dialogue.executes_request_iff rfl).1 hguard
  cases answer with
  | error f =>
    obtain ⟨rfl, rfl⟩ := hgoes
    exact .failed nofun
  | ok holds =>
    cases holds with
    | false =>
      obtain ⟨rfl, rfl⟩ := Running.executes_pure_iff.1 hgoes
      exact .skipped
    | true =>
      cases x with
      | error f => exact .failed nofun
      | ok s' =>
        obtain ⟨rest, behind, t, rfl, henact, hfollow⟩ := Running.ok_of_executes_bind hgoes
        obtain ⟨rfl, rfl⟩ := eq_of_executes_follow hfollow
        rw [List.append_nil]
        exact obeys_of_enact henact

end Sequence

/-! ## The graph of a branch -/

namespace Restart

variable {e : Setting} {c : Context} {g : Graph} {input : Json} {s : Scope} {log : List Exchange}
  {x : Except Fault Json}

/-- What is asked after a graph that is run by its name has come to a value. -/
def closing (c : Context) (g : Graph) (v : Json) : List Exchange :=
  [⟨.record c (.graphCompleted g.name 0), ()⟩, ⟨.tell (.leave g.name (.ok v)), ()⟩]

/-- What is asked for a graph that is run by its name: a run is opened for it, and there its list is run
to an end. -/
def passage (c : Context) (g : Graph) (input : Json) (s : Scope) (inner : Context)
    (inside : List Exchange) (ending : Except Fault Scope) (after : List Exchange) : List Exchange :=
  [⟨.tell (.enter g.name input s), ()⟩, ⟨.record c (.graphStarted g.name false), ()⟩,
    ⟨.fresh c, inner⟩] ++ inside ++ ⟨.enter inner g input s, ending⟩ :: after

/-- A graph whose list ends in a scope comes to the output of that scope. -/
theorem passage_of_runGraph (hg : e.program.graph g.name = .ok g)
    (h : (runGraph e.program c g.name input s).Executes e log x) :
    ∃ inner inside ending after, log = passage c g input s inner inside ending after ∧
      (Sequence.runGraph e inner g input s).Executes e inside ending ∧
      ∀ s', ending = .ok s' →
        after = closing c g (s'.output.getD .null) ∧ x = .ok (s'.output.getD .null) := by
  obtain ⟨_, told, rfl, htold⟩ := (Dialogue.executes_ask_iff rfl).1 h
  obtain ⟨ran, left, result, rfl, hran, hleft⟩ := Running.executes_outcome_bind_iff.1 htold
  unfold graphOutput at hran
  rw [hg] at hran
  obtain ⟨_, recorded, rfl, hrecorded⟩ := (Dialogue.executes_ask_iff rfl).1 hran
  obtain ⟨looped, completed, y, rfl, hloop, hcompleted⟩ := Running.executes_bind_iff.1 hrecorded
  rw [loop.eq_def] at hloop
  obtain ⟨inner, opened, rfl, hopened⟩ := (Dialogue.executes_ask_iff rfl).1 hloop
  obtain ⟨inside, ending, rest, rfl, hinside, hrest⟩ := Dialogue.executes_enter_iff.1 hopened
  refine ⟨inner, inside, ending, rest ++ completed ++ left, by simp [passage], hinside, ?_⟩
  -- a list that ends in a scope is not run again: what is left is the end of the graph
  rintro s' rfl
  obtain ⟨rfl, rfl⟩ := Running.executes_pure_iff.1 hrest
  obtain ⟨_, _, rfl, hdone⟩ := (Dialogue.executes_ask_iff rfl).1 hcompleted
  obtain ⟨rfl, rfl⟩ := Running.executes_pure_iff.1 hdone
  obtain ⟨_, _, rfl, hend⟩ := (Dialogue.executes_ask_iff rfl).1 hleft
  obtain ⟨rfl, rfl⟩ := Running.executes_ofExcept_iff.1 hend
  exact ⟨rfl, rfl⟩

end Restart

namespace Forking

open Restart (passage closing)
open Sequence (guarding exporting attempted publish recorded)

section

variable (e : Setting) (c : Context) (input : Json) (g : Graph) (child : Child Step) (s : Scope)

/-- Whether an execution of the graph of a branch in a scope, with an outcome, obeys the fields of a
task. -/
inductive Obeys : List Exchange → Except Fault Json → Prop where
  /-- The guard is false: nothing else is asked, and the branch comes to null. -/
  | skipped {inner : Context} :
      Obeys (passage c g input s inner [guarding child s (.ok false)] (.ok s) (closing c g .null))
        (.ok .null)
  /-- The guard or something behind it fails, and the list with it. -/
  | failed {inner : Context} {answer : Except Fault Bool} {log after : List Exchange} {f : Fault}
      {x : Except Fault Json} (asked : answer ≠ .ok false) :
      Obeys (passage c g input s inner (guarding child s answer :: log) (.error f) after) x
  /-- The task is cancelled, and so is what is around it. -/
  | stopped {inner : Context} {before ran : List Exchange}
      (published : (publish inner child.name child.base s).Executes e before (.ok ()))
      (runs : (attempted e inner input child s).Executes e ran (.ok none)) :
      Obeys (passage c g input s inner (guarding child s (.ok true) :: (before ++ ran)) (.ok s)
        (closing c g .null)) (.ok .null)
  /-- The task is executed and declares no export. -/
  | plain {inner : Context} {before ran : List Exchange} {value : Option Json} {s' : Scope}
      (published : (publish inner child.name child.base s).Executes e before (.ok ()))
      (runs : (attempted e inner input child s).Executes e ran (.ok (some (value, s'))))
      (undeclared : child.base.exported = none) :
      Obeys (passage c g input s inner (guarding child s (.ok true) :: (before ++ ran))
        (.ok (recorded child.name value s')) (closing c g (s'.output.getD .null)))
        (.ok (s'.output.getD .null))
  /-- The task is executed: its export is evaluated last, and the branch comes to it. -/
  | exported {inner : Context} {before ran : List Exchange} {value : Option Json} {s' : Scope}
      {v output : Json}
      (published : (publish inner child.name child.base s).Executes e before (.ok ()))
      (runs : (attempted e inner input child s).Executes e ran (.ok (some (value, s'))))
      (declared : child.base.exported = some v) :
      Obeys (passage c g input s inner (guarding child s (.ok true) :: (before ++ ran ++
          [exporting child (recorded child.name value s') v value (.ok output)]))
        (.ok { recorded child.name value s' with output := some output }) (closing c g output))
        (.ok output)

variable {e c input g child s} {log : List Exchange} {x : Except Fault Json}

/-- A branch whose graph is a list of one task obeys the fields of the task. -/
theorem obeys_runGraph (hg : e.program.graph g.name = .ok g) (hchild : g.children = [child])
    (h : (Restart.runGraph e.program c g.name input s.child).Executes e log x) :
    Obeys e c input g child s.child log x := by
  obtain ⟨inner, inside, ending, after, rfl, hinside, hending⟩ := Restart.passage_of_runGraph hg h
  cases Sequence.obeys_runGraph hchild rfl hinside with
  | skipped =>
    obtain ⟨rfl, rfl⟩ := hending _ rfl
    exact .skipped
  | failed asked => exact .failed asked
  | stopped published runs =>
    obtain ⟨rfl, rfl⟩ := hending _ rfl
    exact .stopped published runs
  | @plain before ran value s' published runs undeclared =>
    obtain ⟨rfl, rfl⟩ := hending _ rfl
    have houtput : (recorded child.name value s').output = s'.output := by
      cases value <;> rfl
    rw [houtput]
    exact .plain published runs undeclared
  | exported published runs declared =>
    obtain ⟨rfl, rfl⟩ := hending _ rfl
    exact .exported published runs declared

/-- Whatever obeys the fields of a task asks for its guard first. -/
theorem Obeys.guards (h : Obeys e c input g child s log x) :
    ∃ answer rest, log.drop 3 = guarding child s answer :: rest := by
  cases h <;> exact ⟨_, _, rfl⟩

end

/-! ## What a fork makes of null -/

theorem keyed_eq (branches : List Branch) (values : List (Option Json)) :
    keyed branches values = Members.ofList
      ((branches.zip (values.map (·.bind unlessNull))).filterMap fun (b, v) =>
        v.map fun v => (b.key, v)) := by
  rw [List.zip_map_right, List.filterMap_map]
  rfl

theorem mergeValues_eq (s : Scope) (values : List (Option Json)) :
    mergeValues s values = (values.map (·.getD .null)).foldl Scope.mergeData s := by
  rw [List.foldl_map]
  rfl

/-- A null is no value to a fork: not under the key of its branch, not in the data, and not as the winner
of a competition. -/
theorem null_is_no_value (branches : List Branch) {values : List (Option Json)} {i : Nat}
    (hnull : values[i]? = some (some .null)) (c : Context) (task : String) (s : Scope) :
    keyed branches values = keyed branches (values.set i none) ∧
      mergeValues s values = mergeValues s (values.set i none) ∧
      conclude c task branches s (.won .null) = pure (none, s) := by
  obtain ⟨hi, hvalue⟩ := List.getElem?_eq_some_iff.1 hnull
  have hmap {β : Type} (f : Option Json → β) (hf : f (some .null) = f none) :
      (values.set i none).map f = values.map f := by
    have hlength : i < (values.map f).length := by simpa using hi
    have hstill : (values.map f)[i] = f none := by rw [List.getElem_map, hvalue, hf]
    rw [List.map_set, ← hstill, List.set_getElem_self]
  refine ⟨?_, ?_, rfl⟩
  · rw [keyed_eq, keyed_eq, hmap _ rfl]
  · rw [mergeValues_eq, mergeValues_eq, hmap _ rfl]

end Forking

/-! ## Forks of a document -/

namespace Task

theorem alone_of_ne_block {item : Task} (h : ∀ list, item.action ≠ .block list) :
    item.alone = [item] := by
  obtain ⟨name, base, action⟩ := item
  cases action with
  | block list => exact absurd rfl (h list)
  | _ => rfl

end Task

namespace Forking

/-- A fork of a document is compiled to one of the graphs of its branches, which are run in the scope
that the fork finds. The graph of a branch mirrors the list that the branch is. If the branch is not a
nested list, it obeys its fields in every execution of its graph, and a null that it comes to is no value
to the fork. If it is one, the graph is that of its tasks alone, and its fields can be left out of the
document. -/
theorem branches_obey_unless_lists {kinds : Kinds} {options : ProgramOptions} {w : Workflow}
    {e : Setting} (hcompile : Program.compile kinds options w = .ok e.program) {graph : String}
    {tasks : TaskList} (hlist : w.Holds kinds graph tasks) {name : String} {base : TaskBase}
    {compete : Bool} {items : List Task} (hfork : ⟨name, base, .fork compete items⟩ ∈ tasks)
    (hbuiltIn : Task.BuiltIn kinds ⟨name, base, .fork compete items⟩) :
    (∃ g, e.program.graph graph = .ok g ∧ ∃ child ∈ g.children, child.name = name ∧
        child.base = base ∧ child.action = .fork compete (items.map (Task.branch graph name))) ∧
      (∀ (c : Context) (input : Json) (s : Scope), ∃ k,
        (run c name compete (items.map (Task.branch graph name)) input s).run =
          .ask (.fork c ((items.map (Task.branch graph name)).map Branch.graph) input s.child) k) ∧
      (∀ item ∈ items, ∃ g, g.name = (Task.branch graph name item).graph ∧
        e.program.graph g.name = .ok g ∧
        List.Forall₂ (Task.Mirrored kinds g.name) (Task.alone item) g.children ∧
        ((∀ list, item.action ≠ .block list) → ∃ child, g.children = [child] ∧
          Task.Mirrored kinds g.name item child ∧ ∀ (c : Context) (input : Json) (s : Scope) log x,
            (Restart.runGraph e.program c g.name input s.child).Executes e log x →
            Obeys e c input g child s.child log x)) ∧
      (∀ c s branches values i, values[i]? = some (some .null) →
        keyed branches values = keyed branches (values.set i none) ∧
        mergeValues s values = mergeValues s (values.set i none) ∧
        conclude c name branches s (.won .null) = pure (none, s)) ∧
      Program.compile kinds options w.bare = .ok e.program := by
  obtain ⟨outer, houter, hmirrors⟩ := hlist.mirrored hcompile
  obtain ⟨child, hchild, hmirrored⟩ := Compiling.exists_of_forall₂ hmirrors hfork
  refine ⟨⟨outer, houter, child, hchild, hmirrored.name, hmirrored.base,
      hmirrored.fork hbuiltIn compete items rfl⟩, fun c input s => ⟨_, rfl⟩, fun item hitem => ?_,
    fun c s branches values i hnull => null_is_no_value branches hnull c name s,
    (Program.compile_bare kinds options w).trans hcompile⟩
  -- the list of a branch becomes a graph, whatever kind the branch is of
  have hbranch : w.Holds kinds (Task.branch graph name item).graph (Task.alone item) :=
    hlist.part hfork hbuiltIn (List.mem_map_of_mem hitem)
  obtain ⟨g, hg, hbody⟩ := hbranch.mirrored hcompile
  obtain ⟨-, hname⟩ := Program.mem_of_graph hg
  rw [← hname] at hg hbody
  refine ⟨g, hname, hg, hbody, fun hitem => ?_⟩
  -- a branch that is no nested list is the only task of its graph
  rw [Task.alone_of_ne_block hitem] at hbody
  obtain ⟨child, rest, hitem, hrest, hchildren⟩ := List.forall₂_cons_left_iff.1 hbody
  obtain rfl := List.forall₂_nil_left_iff.1 hrest
  exact ⟨child, hchildren, hitem, fun c input s log x h => obeys_runGraph hg hchildren h⟩

end Forking

/-! ## A document with branches of both kinds -/

namespace Crossroads

def base : TaskBase := ⟨none, none, none, none, none, []⟩

/-- A guard that is false. -/
def never : String := "$\x7b false \x7d"

/-- A call, exported. -/
def calling : Task :=
  ⟨"c", { base with exported := some (.str "$\x7b data.c \x7d") }, .call (.activity ⟨"x", []⟩)⟩

/-- A branch that is a nested list, under a guard that is false. -/
def skipped : Task := ⟨"skipped", { base with guard := some never }, .block [calling]⟩

/-- A branch that is a nested list with an export. -/
def shown : Task :=
  ⟨"shown", { base with exported := some (.str "$\x7b data.d.x \x7d") },
    .block [⟨"d", base, .assign (.obj [("x", .int 1)])⟩]⟩

/-- A branch that is no list, under a guard that is false. -/
def other : Task := ⟨"plain", { base with guard := some never }, .assign (.obj [("y", .int 2)])⟩

def items : List Task := [skipped, shown, other]

def workflow : Workflow :=
  ⟨⟨"root", none, none, none⟩, none, none, [⟨"f", base, .fork false items⟩]⟩

/-- The graph of the first branch: the tasks of the list. -/
def skippedGraph : Graph := ⟨"fork_root_f_skipped", [⟨"c-0", "c", calling.base, false,
  .call (.activity ⟨"x", []⟩) none⟩], none⟩

/-- The graph of the last branch: the branch alone. -/
def otherGraph : Graph := ⟨"fork_root_f_plain", [⟨"plain-0", "plain", other.base, false,
  .assign (.obj [("y", .int 2)])⟩], none⟩

def setting : Setting :=
  ⟨⟨"root", [skippedGraph,
      ⟨"fork_root_f_shown", [⟨"d-0", "d", base, false, .assign (.obj [("x", .int 1)])⟩], none⟩,
      otherGraph,
      ⟨"root", [⟨"f-0", "f", base, false, .fork false
        [⟨"skipped", "fork_root_f_skipped"⟩, ⟨"shown", "fork_root_f_shown"⟩,
          ⟨"plain", "fork_root_f_plain"⟩]⟩], none⟩], .standard⟩,
    .ofSettings .standard, CallSettings.standard.timeout⟩

theorem compiled : Program.compile Kinds.standard .standard workflow = .ok setting.program := rfl

/-- A handler that answers every call. -/
def answering : Surroundings := ⟨fun _ _ => some ⟨some 0, .ok (.str "ran")⟩, fun _ _ => none, none, 0⟩

/-- A run of the document to its end. -/
def ended : Host Host.RunResult :=
  (Host.start setting answering .passThrough (Host.programRun setting.program .null []).run).run 200

/-- The data at the end. -/
def data : Option Members := ended.result.bind fun x => x.toOption.map fun o => o.scope.data

/-- What the guard of the first branch comes to in the scope that the fork finds. -/
def guardHolds : Option Bool :=
  ((Evaluator.standard .passThrough).run (Evaluation.check skipped.base.guard
    (Scope.start .null []).child [Sequence.taskBinding "skipped"])).1.toOption

/-- Expressions are evaluated, and calls are answered. -/
def answers : (q : Request) → q.Answer
  | .evaluate text s locals => ((Evaluator.standard .passThrough).run (Evaluation.evaluate text s locals)).1
  | .traverse v s locals => ((Evaluator.standard .passThrough).run (Evaluation.traverse v s locals)).1
  | .check guard s locals => ((Evaluator.standard .passThrough).run (Evaluation.check guard s locals)).1
  | .dispatch .. => .ok (.str "ran")
  | .cancelled _ | .due .. => false
  | .pause .. => true
  | .settle _ => .ok ()
  | .record .. | .tell _ | .publish _ | .respond .. | .detach .. | .fork .. | .stop _ | .still _ => ()
  | .fresh c => c
  | .enter _ _ _ s => .ok s
  | .reply => (0, .ok .null)
  | .offer _ => none
  | .beat .. => 0
  | .listen .. => .ok []

/-- The first branch with these answers, in the scope that the fork finds. -/
def conducted : Option (List Exchange × Except Fault Json) :=
  Dialogue.conduct answers (Dialogue.conductGraph setting answers 1)
    (Restart.runGraph setting.program ⟨0, []⟩ skippedGraph.name .null (Scope.start .null []).child).run

/-- The guard that the first task of a graph has, by what is asked for the graph. -/
def firstGuard? (log : List Exchange) : Option (Option String) :=
  match log.drop 3 with
  | ⟨.check guard .., _⟩ :: _ => some guard
  | _ => none

theorem guard_conducted :
    (conducted.map fun x => (firstGuard? x.1, x.2.toOption)) = some (some none, some (.str "ran")) := by
  decide +kernel

theorem executes_conducted {log : List Exchange} {x : Except Fault Json}
    (h : conducted = some (log, x)) :
    (Restart.runGraph setting.program ⟨0, []⟩ skippedGraph.name .null
      (Scope.start .null []).child).Executes setting log x :=
  Dialogue.executes_conduct (fun _ _ _ _ _ _ => Dialogue.executes_conductGraph) h

end Crossroads

namespace Forking

open Crossroads

theorem branches_obey_unless_lists_of_crossroads :
    Program.compile Kinds.standard .standard workflow = .ok setting.program ∧
      ∃ child, otherGraph.children = [child] ∧ child.base = other.base ∧
        ∀ (c : Context) (input : Json) (s : Scope) log x,
          (Restart.runGraph setting.program c otherGraph.name input s.child).Executes setting log x →
          Obeys setting c input otherGraph child s.child log x := by
  have hroot : workflow.Holds Kinds.standard "root" workflow.tasks := .root
  obtain ⟨-, -, hitems, -⟩ := branches_obey_unless_lists compiled hroot (List.mem_singleton.2 rfl)
    ⟨false, rfl⟩
  obtain ⟨g, hname, hg, -, hobeys⟩ := hitems other (by simp [items])
  obtain ⟨child, hchild, hmirrored, hexecutes⟩ := hobeys nofun
  rw [hname] at hg
  obtain rfl : otherGraph = g := Except.ok.inj hg
  exact ⟨compiled, child, hchild, hmirrored.base, hexecutes⟩

/-- A branch that is a nested list is run although its guard is false, and comes to what is exported
inside it; another one comes to nothing although it declares an export. -/
theorem list_branch_ignores_its_fields :
    Program.compile Kinds.standard .standard workflow = .ok setting.program ∧
      guardHolds = some false ∧
      ended.past = [.activity ⟨"x", []⟩] ∧
      data = some [("f", .obj [("skipped", .str "ran")])] ∧
      ¬ ∀ item ∈ items, ∃ g child, setting.program.graph (Task.branch "root" "f" item).graph = .ok g ∧
        child.name = item.name ∧ child.base = item.base ∧ ∀ log x,
          (Restart.runGraph setting.program ⟨0, []⟩ g.name .null (Scope.start .null []).child).Executes
            setting log x →
          Obeys setting ⟨0, []⟩ .null g child (Scope.start .null []).child log x := by
  refine ⟨compiled, by decide +kernel, by decide +kernel, by decide +kernel, fun h => ?_⟩
  obtain ⟨g, child, hg, -, hbase, hobeys⟩ := h skipped (List.mem_cons_self ..)
  obtain rfl : skippedGraph = g := Except.ok.inj hg
  obtain ⟨⟨log, x⟩, hconducted, hguarded⟩ := Option.map_eq_some_iff.1 guard_conducted
  obtain ⟨answer, rest, hguards⟩ := (hobeys log x (executes_conducted hconducted)).guards
  -- the first guard that is asked is that of the task in the list, which has none
  have hguard : firstGuard? log = some child.base.guard := by
    unfold firstGuard?
    rw [hguards]
    rfl
  rw [(Prod.mk.inj hguarded).1, hbase] at hguard
  cases hguard

end Forking

end TaskGraph

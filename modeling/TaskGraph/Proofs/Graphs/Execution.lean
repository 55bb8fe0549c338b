import TaskGraph.Execution.Sequence
import TaskGraph.Proofs.Calls.Blocks

/-!
# Executions with graphs in them

An execution of a dialogue runs the graphs that the dialogue enters where it enters them, and answers all
other requests in any way. `Dialogue.Executes` relates a dialogue to the exchanges of one execution, in
order, and to the value that it ends in; the exchanges of a graph stand before the one that enters it.

Executions are taken apart along `bind` (`Dialogue.executes_bind_iff`), so a task that runs graphs is
described by the executions of those graphs and by what it does between them.
-/

set_option autoImplicit false

namespace TaskGraph

/-! ## Scopes that graphs are run in -/

/-- Whether a scope is entered from another one, with these entries for its data: input and environment
are the same, and there is neither an output nor a marker. -/
structure Scope.Opens (s s' : Scope) (data : String → Option Json) : Prop where
  input : s'.input = s.input
  env : s'.env = s.env
  output : s'.output = none
  marker : s'.marker = none
  data : ∀ name, s'.data.get? name = data name

theorem Scope.opens_child (s : Scope) : s.Opens s.child s.data.get? :=
  ⟨rfl, rfl, rfl, rfl, fun _ => rfl⟩

/-- An entry that is set hides an older one of its name, and no other. -/
theorem Scope.Opens.setData {s s' : Scope} {data : String → Option Json} (h : s.Opens s' data)
    (key : String) (v : Json) :
    s.Opens (s'.setData key v) fun name => if name = key then some v else data name where
  input := h.input
  env := h.env
  output := h.output
  marker := h.marker
  data name := by
    by_cases hname : name = key
    · subst hname
      rw [if_pos rfl]
      exact Members.get?_insert_self ..
    · rw [if_neg hname, ← h.data]
      exact Members.get?_insert_of_ne _ hname v

/-! ## Executions -/

/-- Whether a request enters a graph. -/
def Request.enters : Request → Bool
  | .enter .. => true
  | _ => false

namespace Dialogue

variable {α β : Type} {e : Setting}

/-- Whether an execution of a dialogue makes these exchanges and ends in this value. -/
inductive Executes (e : Setting) : {α : Type} → Dialogue α → List Exchange → α → Prop where
  | done {α : Type} (a : α) : Executes e (.done a) [] a
  | answer {α : Type} {q : Request} {next : q.Answer → Dialogue α} {x : q.Answer}
      {log : List Exchange} {a : α} (other : q.enters = false)
      (rest : Executes e (next x) log a) : Executes e (.ask q next) (⟨q, x⟩ :: log) a
  | enter {α : Type} {c : Context} {g : Graph} {input : Json} {s : Scope}
      {next : Except Fault Scope → Dialogue α} {inside log : List Exchange} {x : Except Fault Scope}
      {a : α} (graph : Executes e (Sequence.runGraph e c g input s).run inside x)
      (rest : Executes e (next x) log a) :
      Executes e (.ask (.enter c g input s) next) (inside ++ ⟨.enter c g input s, x⟩ :: log) a

theorem executes_done_iff {a b : α} {log : List Exchange} :
    (Dialogue.done a).Executes e log b ↔ log = [] ∧ b = a := by
  constructor
  · intro h
    cases h
    exact ⟨rfl, rfl⟩
  · rintro ⟨rfl, rfl⟩
    exact .done b

/-- A request that enters no graph is answered in any way. -/
theorem executes_ask_iff {q : Request} (hq : q.enters = false)
    {next : q.Answer → Dialogue α} {log : List Exchange} {a : α} :
    (Dialogue.ask q next).Executes e log a ↔
      ∃ x rest, log = ⟨q, x⟩ :: rest ∧ (next x).Executes e rest a := by
  constructor
  · intro h
    cases h with
    | answer _ rest => exact ⟨_, _, rfl, rest⟩
    | enter => cases hq
  · rintro ⟨x, rest, rfl, hrest⟩
    exact .answer hq hrest

theorem executes_request_iff {q : Request} (hq : q.enters = false) {log : List Exchange}
    {x : q.Answer} : (request q).Executes e log x ↔ log = [⟨q, x⟩] := by
  refine (executes_ask_iff hq).trans ?_
  constructor
  · rintro ⟨y, rest, rfl, hrest⟩
    obtain ⟨rfl, rfl⟩ := executes_done_iff.1 hrest
    rfl
  · rintro rfl
    exact ⟨x, [], rfl, .done x⟩

theorem executes_enter_iff {c : Context} {g : Graph} {input : Json} {s : Scope}
    {next : Except Fault Scope → Dialogue α} {log : List Exchange} {a : α} :
    (Dialogue.ask (.enter c g input s) next).Executes e log a ↔
      ∃ inside x rest, log = inside ++ ⟨.enter c g input s, x⟩ :: rest ∧
        (Sequence.runGraph e c g input s).run.Executes e inside x ∧ (next x).Executes e rest a := by
  constructor
  · intro h
    cases h with
    | answer other => cases other
    | enter graph rest => exact ⟨_, _, _, rfl, graph, rest⟩
  · rintro ⟨inside, x, rest, rfl, hgraph, hrest⟩
    exact .enter hgraph hrest

theorem Executes.bind {d : Dialogue α} {f : α → Dialogue β} {before after : List Exchange} {a : α}
    {b : β} (hd : d.Executes e before a) (hf : (f a).Executes e after b) :
    (d.bind f).Executes e (before ++ after) b := by
  induction hd with
  | done a => exact hf
  | answer other _ ih => exact .answer other (ih hf)
  | enter graph _ _ ih =>
    rw [List.append_assoc]
    exact .enter graph (ih hf)

/-- An execution of a dialogue that goes on as another one is an execution of each, one after the
other. -/
theorem executes_bind_iff {d : Dialogue α} {f : α → Dialogue β} {log : List Exchange} {b : β} :
    (d.bind f).Executes e log b ↔
      ∃ before after a, log = before ++ after ∧ d.Executes e before a ∧ (f a).Executes e after b := by
  constructor
  · intro h
    induction d generalizing log with
    | done a => exact ⟨[], log, a, rfl, .done a, h⟩
    | ask q k ih =>
      cases h with
      | answer other rest =>
        obtain ⟨before, after, a, rfl, hbefore, hafter⟩ := ih _ rest
        exact ⟨⟨q, _⟩ :: before, after, a, rfl, .answer other hbefore, hafter⟩
      | enter graph rest =>
        obtain ⟨before, after, a, rfl, hbefore, hafter⟩ := ih _ rest
        exact ⟨_ ++ ⟨_, _⟩ :: before, after, a, by simp, .enter graph hbefore, hafter⟩
  · rintro ⟨before, after, a, rfl, hd, hf⟩
    exact hd.bind hf

/-! ### Executions that are computed -/

/-- Conducts a dialogue: graphs are run by one function, and all other requests are answered by another
one. -/
def conduct (answers : (q : Request) → q.Answer)
    (graphs : Context → Graph → Json → Scope → Option (List Exchange × Except Fault Scope)) :
    Dialogue α → Option (List Exchange × α)
  | .done a => some ([], a)
  | .ask (.enter c g input s) next => do
    let (inside, x) ← graphs c g input s
    let (log, a) ← conduct answers graphs (next x)
    return (inside ++ ⟨.enter c g input s, x⟩ :: log, a)
  | .ask q next => do
    let (log, a) ← conduct answers graphs (next (answers q))
    return (⟨q, answers q⟩ :: log, a)

/-- Conducts a run of a graph, with no more than so many graphs inside each other. -/
def conductGraph (e : Setting) (answers : (q : Request) → q.Answer) :
    Nat → Context → Graph → Json → Scope → Option (List Exchange × Except Fault Scope)
  | 0, _, _, _, _ => none
  | depth + 1, c, g, input, s =>
    conduct answers (conductGraph e answers depth) (Sequence.runGraph e c g input s).run

/-- What is conducted is executed, if this holds of the graphs. -/
theorem executes_conduct {answers : (q : Request) → q.Answer}
    {graphs : Context → Graph → Json → Scope → Option (List Exchange × Except Fault Scope)}
    (hgraphs : ∀ c g input s log x, graphs c g input s = some (log, x) →
      (Sequence.runGraph e c g input s).run.Executes e log x)
    {d : Dialogue α} {log : List Exchange} {a : α} (h : conduct answers graphs d = some (log, a)) :
    d.Executes e log a := by
  fun_induction conduct answers graphs d generalizing log a with
  | case1 =>
    cases h
    exact .done _
  -- a graph that is entered is conducted by itself, and its exchanges stand where it is entered
  | case2 c g input s next ih =>
    obtain ⟨⟨inside, x⟩, hinside, h⟩ := Option.bind_eq_some_iff.1 h
    obtain ⟨⟨rest, b⟩, hrest, h⟩ := Option.bind_eq_some_iff.1 h
    cases h
    exact .enter (hgraphs _ _ _ _ _ _ hinside) (ih x hrest)
  | case3 q next hother ih =>
    obtain ⟨⟨rest, b⟩, hrest, h⟩ := Option.bind_eq_some_iff.1 h
    cases h
    refine .answer ?_ (ih hrest)
    cases q with
    | enter c g input s => exact (hother c g input s next rfl HEq.rfl).elim
    | _ => rfl

theorem executes_conductGraph {answers : (q : Request) → q.Answer} {depth : Nat} {c : Context}
    {g : Graph} {input : Json} {s : Scope} {log : List Exchange} {x : Except Fault Scope}
    (h : conductGraph e answers depth c g input s = some (log, x)) :
    (Sequence.runGraph e c g input s).run.Executes e log x := by
  induction depth generalizing c g input s log x with
  | zero => cases h
  | succ depth ih => exact executes_conduct (fun _ _ _ _ _ _ hinside => ih hinside) h

end Dialogue

/-! ## Computations that may fail -/

namespace Running

variable {α β : Type} {e : Setting} {log : List Exchange}

/-- Whether an execution of a computation makes these exchanges and has this outcome. -/
abbrev Executes (e : Setting) (r : Running α) (log : List Exchange) (x : Except Fault α) : Prop :=
  r.run.Executes e log x

theorem executes_pure_iff {a : α} {x : Except Fault α} :
    (pure a : Running α).Executes e log x ↔ log = [] ∧ x = .ok a :=
  Dialogue.executes_done_iff

theorem executes_throw_iff {f : Fault} {x : Except Fault α} :
    (throw f : Running α).Executes e log x ↔ log = [] ∧ x = .error f :=
  Dialogue.executes_done_iff

theorem executes_ofExcept_iff {y x : Except Fault α} :
    (ofExcept y).Executes e log x ↔ log = [] ∧ x = y :=
  Dialogue.executes_done_iff

/-- What an execution of a computation is followed by: one of what goes on from its value, or nothing if
it has failed. -/
def Goes (e : Setting) (k : α → Running β) : Except Fault α → List Exchange → Except Fault β → Prop
  | .ok a, log, y => (k a).Executes e log y
  | .error f, log, y => log = [] ∧ y = .error f

theorem executes_bind_iff {r : Running α} {k : α → Running β} {y : Except Fault β} :
    (r >>= k).Executes e log y ↔
      ∃ before after x, log = before ++ after ∧ r.Executes e before x ∧ Goes e k x after y := by
  unfold Executes
  rw [run_bind, Dialogue.executes_bind_iff]
  refine exists_congr fun before => exists_congr fun after => exists_congr fun x => ?_
  refine and_congr_right fun _ => and_congr_right fun _ => ?_
  cases x with
  | ok a => exact Iff.rfl
  | error f => exact Dialogue.executes_done_iff

/-- A computation that comes to a value went on from a value. -/
theorem ok_of_executes_bind {r : Running α} {k : α → Running β} {b : β}
    (h : (r >>= k).Executes e log (.ok b)) :
    ∃ before after a, log = before ++ after ∧ r.Executes e before (.ok a) ∧
      (k a).Executes e after (.ok b) := by
  obtain ⟨before, after, x, rfl, hr, hgoes⟩ := executes_bind_iff.1 h
  cases x with
  | ok a => exact ⟨before, after, a, rfl, hr, hgoes⟩
  | error f => cases hgoes.2

theorem executes_outcome_bind_iff {r : Running α} {k : Except Fault α → Running β}
    {y : Except Fault β} :
    (r.outcome >>= k).Executes e log y ↔
      ∃ before after x, log = before ++ after ∧ r.Executes e before x ∧ (k x).Executes e after y := by
  unfold Executes
  rw [run_outcome_bind, Dialogue.executes_bind_iff]

/-- The value of a computation is put into another one. -/
theorem executes_map_iff {r : Running α} {f : α → β} {y : Except Fault β} :
    (do let a ← r; pure (f a) : Running β).Executes e log y ↔
      ∃ x, r.Executes e log x ∧ y = x.map f := by
  rw [executes_bind_iff]
  constructor
  · rintro ⟨before, after, x, rfl, hr, hgoes⟩
    cases x with
    | ok a =>
      obtain ⟨rfl, rfl⟩ := executes_pure_iff.1 hgoes
      exact ⟨.ok a, by rwa [List.append_nil], rfl⟩
    | error f =>
      obtain ⟨rfl, rfl⟩ := hgoes
      exact ⟨.error f, by rwa [List.append_nil], rfl⟩
  · rintro ⟨x, hr, rfl⟩
    refine ⟨log, [], x, (List.append_nil log).symm, hr, ?_⟩
    cases x with
    | ok a => exact executes_pure_iff.2 ⟨rfl, rfl⟩
    | error f => exact ⟨rfl, rfl⟩

end Running

end TaskGraph

import TaskGraph.Execution.Sequence
import TaskGraph.Proofs.Document.Reading
import TaskGraph.Proofs.Evaluation.Traversal

/-!
# Payloads without expressions

What a task carries is written as a value, evaluated, and read again before it is used. The written form
of whatever a document can hold is read back as what was written (`decode_toJson` of each payload); where
a record can be more than a document can hold, what is read from a document is within it: a port and a
status are numbers of 16 bits, and a body and an input that are there are not null. So a payload
without expressions is interpolated to itself (`interpolation_keeps_payloads`).
-/

set_option autoImplicit false

namespace TaskGraph

open Decode Decode.Fields

/-! ## Payloads are read back as they were written -/

theorem ActivityCall.decode_toJson (c : ActivityCall) : decode c.toJson = .ok c := by
  obtain ⟨name, arguments⟩ := c
  refine namedRecord_of_named (named_and (named_and rfl ?_) ?_)
  · exact named_needed (by rfl) (by rfl)
  · exact named_withDefault (by rfl) (sequence_value arguments)

theorem Endpoint.decode_toJson (e : Endpoint) : decode e.toJson = .ok e := by
  cases e with
  | uri text => rfl
  | object uri => rfl

theorem HttpOutput.decode_name (o : HttpOutput) : decode (.str o.name) = .ok o := by
  cases o <;> rfl

theorem HttpCall.decode_toJson {c : HttpCall} (h : c.body ≠ some .null) :
    decode c.toJson = .ok c := by
  obtain ⟨method, endpoint, headers, query, body, output, redirect⟩ := c
  refine namedRecord_of_named (named_and (named_and (named_and (named_and (named_and (named_and
    (named_and rfl ?_) ?_) ?_) ?_) ?_) ?_) ?_)
  -- the other fields are read at their keys whether the body is written or left out
  · exact named_withDefault (v := .str method) (by cases body <;> rfl) rfl
  · exact named_needed (v := endpoint.toJson) (by cases body <;> rfl) endpoint.decode_toJson
  · exact named_withDefault (v := .obj headers) (by cases body <;> rfl) rfl
  · exact named_withDefault (v := .obj query) (by cases body <;> rfl) rfl
  · cases body with
    | none => exact named_maybe_absent rfl
    | some v => exact named_maybe (by rfl) (fun hv => h (congrArg some hv)) (by rfl)
  · exact named_withDefault (v := .str output.name) (by cases body <;> rfl) output.decode_name
  · exact named_withDefault (v := .bool redirect) (by cases body <;> rfl) rfl

theorem GrpcService.decode_toJson {s : GrpcService} (h : ∀ p, s.port = some p → p < Nat.pow 2 16) :
    decode s.toJson = .ok s := by
  obtain ⟨name, host, port⟩ := s
  refine namedRecord_of_named (named_and (named_and (named_and rfl ?_) ?_) ?_)
  · exact named_needed (by rfl) (by rfl)
  · cases host with
    | none => exact named_maybe_null (by rfl)
    | some host => exact named_maybe (v := .str host) (by rfl) nofun (by rfl)
  · cases port with
    | none => exact named_maybe_null (by rfl)
    | some p => exact named_maybe (v := .nat p) (by rfl) nofun (natural_nat (h p rfl))

theorem GrpcCall.decode_toJson {c : GrpcCall} (h : ∀ p, c.service.port = some p → p < Nat.pow 2 16) :
    decode c.toJson = .ok c := by
  obtain ⟨service, method, arguments⟩ := c
  refine namedRecord_of_named (named_and (named_and (named_and rfl ?_) ?_) ?_)
  · exact named_needed (by rfl) (service.decode_toJson h)
  · exact named_needed (by rfl) (by rfl)
  · exact named_withDefault (by rfl) (by rfl)

theorem ShellProcess.decode_toJson (p : ShellProcess) : decode p.toJson = .ok p := by
  obtain ⟨command, arguments, environment⟩ := p
  refine namedRecord_of_named (named_and (named_and (named_and rfl ?_) ?_) ?_)
  · exact named_needed (by rfl) (by rfl)
  · exact named_withDefault (by rfl) (sequence_value arguments)
  · exact named_withDefault (by rfl) (by rfl)

theorem ScriptLanguage.decode_name (l : ScriptLanguage) : decode (.str l.name) = .ok l := by
  cases l <;> rfl

theorem ScriptProcess.decode_toJson (p : ScriptProcess) : decode p.toJson = .ok p := by
  obtain ⟨language, code, arguments, environment⟩ := p
  refine namedRecord_of_named (named_and (named_and (named_and (named_and rfl ?_) ?_) ?_) ?_)
  · exact named_needed (by rfl) language.decode_name
  · exact named_needed (by rfl) (by rfl)
  · exact named_withDefault (by rfl) (sequence_value arguments)
  · exact named_withDefault (by rfl) (by rfl)

theorem ContainerProcess.decode_toJson (p : ContainerProcess) : decode p.toJson = .ok p := by
  obtain ⟨image, command, arguments, environment⟩ := p
  refine namedRecord_of_named (named_and (named_and (named_and (named_and rfl ?_) ?_) ?_) ?_)
  · exact named_needed (v := .str image) (by cases command <;> rfl) rfl
  · cases command with
    | none => exact named_maybe_absent rfl
    | some command => exact named_maybe (v := .str command) (by rfl) nofun (by rfl)
  · exact named_withDefault (v := .arr arguments) (by cases command <;> rfl) (sequence_value arguments)
  · exact named_withDefault (v := .obj environment) (by cases command <;> rfl) rfl

theorem WorkflowProcess.decode_toJson {p : WorkflowProcess} (h : p.input ≠ some .null) :
    decode p.toJson = .ok p := by
  obtain ⟨name, input⟩ := p
  refine namedRecord_of_named (named_and (named_and rfl ?_) ?_)
  · exact named_needed (v := .str name) (by cases input <;> rfl) rfl
  · cases input with
    | none => exact named_maybe_absent rfl
    | some v => exact named_maybe (by rfl) (fun hv => h (congrArg some hv)) (by rfl)

theorem RaiseError.decode_toJson {e : RaiseError} (h : e.status < Nat.pow 2 16) :
    decode e.toJson = .ok e := by
  obtain ⟨errorType, status, title, detail⟩ := e
  refine namedRecord_of_named (named_and (named_and (named_and (named_and rfl ?_) ?_) ?_) ?_)
  · exact named_needed (by rfl) (by rfl)
  · exact named_withDefault (by rfl) (natural_nat h)
  · exact named_withDefault (by rfl) (by rfl)
  · exact named_withDefault (by rfl) (by rfl)

theorem Process.await_lt_kind (p : Process) : "await" < p.kind := by
  cases p with
  | shell p => exact (by decide : "await" < "shell")
  | script p => exact (by decide : "await" < "script")
  | container p => exact (by decide : "await" < "container")
  | workflow p => exact (by decide : "await" < "workflow")

/-- A process is found again under its own word, beside the flag. -/
theorem ProcessRun.decode_toJson {r : ProcessRun}
    (h : ∀ p, r.process = .workflow p → p.input ≠ some .null) : decode r.toJson = .ok r := by
  obtain ⟨process, awaits⟩ := r
  have hread : Process.decode [("await", .bool awaits), (process.kind, process.payload)] =
      .ok process := by
    cases process with
    | shell p => exact map_eq_ok.2 ⟨p, p.decode_toJson, rfl⟩
    | script p => exact map_eq_ok.2 ⟨p, p.decode_toJson, rfl⟩
    | container p => exact map_eq_ok.2 ⟨p, p.decode_toJson, rfl⟩
    | workflow p => exact map_eq_ok.2 ⟨p, WorkflowProcess.decode_toJson (h p rfl), rfl⟩
  -- the flag comes before every kind of process in key order
  have hjson : toJson ⟨process, awaits⟩ =
      .obj [("await", .bool awaits), (process.kind, process.payload)] := by
    have hlt := process.await_lt_kind
    simp [toJson, Json.object, Members.ofList, Members.insertAll, Members.insert, hlt,
      Std.ne_of_lt hlt]
  rw [hjson]
  exact bind_eq_ok.2 ⟨awaits, rfl, bind_eq_ok.2 ⟨process, hread, rfl⟩⟩

/-! ## What a document can hold -/

/-- An optional value that is there is not null. -/
theorem gives_maybe_value (key : String) : (maybe key value).Gives fun o => o ≠ some .null := by
  refine gives_withDefault (fun v o h => ?_) (by simp)
  rintro rfl
  exact optional_value_ne_null h

theorem HttpCall.body_ne_null {j : Json} {c : HttpCall} (h : decode j = .ok c) :
    c.body ≠ some .null := by
  have hgives : fields.Gives fun c => c.body ≠ some .null :=
    .and (.and (.and (.and (.and (.and (.and (gives_none
      fun _ _ _ _ _ _ _ _ _ hbody _ _ _ _ => hbody) (gives_any _)) (gives_any _)) (gives_any _))
      (gives_any _)) (gives_maybe_value "body")) (gives_any _)) (gives_any _)
  exact hgives.record h

theorem GrpcService.port_lt {j : Json} {s : GrpcService} (h : decode j = .ok s) :
    ∀ p, s.port = some p → p < Nat.pow 2 16 := by
  have hgives : fields.Gives fun s => ∀ p, s.port = some p → p < Nat.pow 2 16 :=
    .and (.and (.and (gives_none fun _ _ _ _ _ hport => hport) (gives_any _)) (gives_any _))
      (gives_maybe fun _ _ => lt_of_natural)
  exact hgives.record h

theorem GrpcCall.port_lt {j : Json} {c : GrpcCall} (h : decode j = .ok c) :
    ∀ p, c.service.port = some p → p < Nat.pow 2 16 := by
  have hgives : fields.Gives fun c => ∀ p, c.service.port = some p → p < Nat.pow 2 16 :=
    .and (.and (.and (gives_none fun _ hservice _ _ _ _ => hservice)
      (gives_field (fun _ _ => GrpcService.port_lt) nofun nofun)) (gives_any _)) (gives_any _)
  exact hgives.record h

theorem WorkflowProcess.input_ne_null {j : Json} {p : WorkflowProcess} (h : decode j = .ok p) :
    p.input ≠ some .null := by
  have hgives : fields.Gives fun p => p.input ≠ some .null :=
    .and (.and (gives_none fun _ _ _ hinput => hinput) (gives_any _)) (gives_maybe_value "input")
  exact hgives.chosenRecord h

theorem RaiseError.status_lt {j : Json} {e : RaiseError} (h : decode j = .ok e) :
    e.status < Nat.pow 2 16 := by
  have hgives : fields.Gives fun e => e.status < Nat.pow 2 16 :=
    .and (.and (.and (.and (gives_none fun _ _ _ hstatus _ _ _ _ => hstatus) (gives_any _))
      (gives_withDefault (fun _ _ => lt_of_natural) (by decide))) (gives_any _)) (gives_any _)
  exact hgives.record h

theorem Process.input_ne_null {m : Members} {p : WorkflowProcess} (h : decode m = .ok (.workflow p)) :
    p.input ≠ some .null := by
  unfold decode at h
  split at h
  · obtain ⟨q, -, hq⟩ := map_eq_ok.1 h
    cases hq
  · obtain ⟨q, -, hq⟩ := map_eq_ok.1 h
    cases hq
  · obtain ⟨q, -, hq⟩ := map_eq_ok.1 h
    cases hq
  · obtain ⟨q, hread, hq⟩ := map_eq_ok.1 h
    cases hq
    exact WorkflowProcess.input_ne_null hread
  · cases h

theorem ProcessRun.input_ne_null {j : Json} {r : ProcessRun} (h : decode j = .ok r) :
    ∀ p, r.process = .workflow p → p.input ≠ some .null := by
  intro p hp
  unfold decode at h
  split at h
  · next m =>
    have hprocess : Process.decode m = .ok r.process := by
      dsimp only at h
      split at h
      all_goals
        obtain ⟨awaits, -, h⟩ := bind_eq_ok.1 h
        obtain ⟨process, hread, h⟩ := bind_eq_ok.1 h
        cases h
        exact hread
    rw [hp] at hprocess
    exact Process.input_ne_null hprocess
  · cases h

/-! ## Interpolating -/

/-- Answers the evaluations that a dialogue begins with, up to its first request of another kind. -/
def Dialogue.evaluated {α : Type} : Dialogue α → Evaluator → Dialogue α × Evaluator
  | .ask (.evaluate text s locals) next, ev =>
    let (x, ev) := ev.run (Evaluation.evaluate text s locals)
    (next x).evaluated ev
  | .ask (.traverse v s locals) next, ev =>
    let (x, ev) := ev.run (Evaluation.traverse v s locals)
    (next x).evaluated ev
  | .ask (.check guard s locals) next, ev =>
    let (x, ev) := ev.run (Evaluation.check guard s locals)
    (next x).evaluated ev
  | d, ev => (d, ev)

theorem Running.evaluated_traverse {β : Type} {v w : Json} {s : Scope} {locals : Locals}
    {ev ev' : Evaluator} (h : ev.run (Evaluation.traverse v s locals) = (.ok w, ev'))
    (k : Json → Running β) :
    (traverse v s locals >>= k).run.evaluated ev = (k w).run.evaluated ev' := by
  show (Dialogue.ask (.traverse v s locals) fun x =>
    (Dialogue.done x).bind (ExceptT.bindCont k)).evaluated ev = _
  rw [Dialogue.evaluated, h]
  rfl

namespace Calling

variable {α β : Type} {decode : Decoder α} {payload v : Json} {a : α}

/-- What is interpolated goes on with what the evaluated payload is read to. -/
theorem evaluated_interpolate {task : String} {s : Scope} {ev ev' : Evaluator}
    (hv : ev.run (Evaluation.traverse payload s []) = (.ok v, ev')) (ha : decode v = .ok a)
    (k : α → Running β) :
    (interpolate task decode payload s >>= k).run.evaluated ev = (k a).run.evaluated ev' := by
  unfold interpolate
  rw [bind_assoc, Running.evaluated_traverse hv, ha, pure_bind]

/-- Whether a payload in its written form is read back as it was, and interpolated to itself if no text
inside it is an expression, whatever the scope and the evaluator. -/
def Keeps (decode : Decoder α) (payload : Json) (a : α) : Prop :=
  decode payload = .ok a ∧
    ((∀ p raw, payload.at? p = some (.str raw) → Evaluation.isExpression raw = false) →
      ∀ (task : String) (s : Scope) (ev : Evaluator),
        (interpolate task decode payload s).run.evaluated ev = (.done (.ok a), ev))

theorem keeps_of_decode (h : decode payload = .ok a) : Keeps decode payload a := by
  refine ⟨h, fun hplain task s ev => ?_⟩
  have htraverse := Evaluation.traverse_of_expressions_eq_nil
    (Evaluation.expressions_eq_nil_iff.2 hplain) s []
  have hv : ev.run (Evaluation.traverse payload s []) = (.ok payload, ev) := by
    rw [htraverse]
    rfl
  rw [← bind_pure (interpolate task decode payload s), evaluated_interpolate hv h]
  rfl

end Calling

/-! ## What tasks carry -/

open Calling (Keeps keeps_of_decode)

/-- Whether the arguments of a call are kept. -/
def Call.Kept : Call → Prop
  | activity c => Keeps ActivityCall.decode c.toJson c
  | http c => Keeps HttpCall.decode c.toJson c
  | grpc c => Keeps GrpcCall.decode c.toJson c

/-- Whether the arguments of a process are kept. -/
def Process.Kept : Process → Prop
  | shell p => Keeps ShellProcess.decode p.toJson p
  | script p => Keeps ScriptProcess.decode p.toJson p
  | container p => Keeps ContainerProcess.decode p.toJson p
  | workflow p => Keeps WorkflowProcess.decode p.toJson p

/-- Whether what a task carries is kept, and a run of a process is also read back as a whole. -/
def Action.Kept : Action → Prop
  | call c => c.Kept
  | run r => r.process.Kept ∧ ProcessRun.decode r.toJson = .ok r
  | raise e => Keeps RaiseError.decode e.toJson e
  | _ => True

theorem ProcessRun.kept {j : Json} {r : ProcessRun} (h : decode j = .ok r) :
    (Action.run r).Kept := by
  have hinput := input_ne_null h
  refine ⟨?_, decode_toJson hinput⟩
  obtain ⟨process, awaits⟩ := r
  cases process with
  | shell p => exact keeps_of_decode p.decode_toJson
  | script p => exact keeps_of_decode p.decode_toJson
  | container p => exact keeps_of_decode p.decode_toJson
  | workflow p => exact keeps_of_decode (WorkflowProcess.decode_toJson (hinput p rfl))

theorem RaiseError.kept {j : Json} {e : RaiseError} (h : decodeTask j = .ok e) :
    (Action.raise e).Kept := by
  have hgives : (needed "error" decode).Gives fun e => e.status < Nat.pow 2 16 :=
    gives_field (fun _ _ => status_lt) nofun nofun
  exact keeps_of_decode (decode_toJson (hgives.record h))

namespace Task

theorem kept_callAction {name kind : String} {arguments : Json} {action : Action}
    (h : callAction name kind arguments = .ok action) : action.Kept := by
  unfold callAction at h
  split at h
  · obtain ⟨c, hread, rfl⟩ := map_eq_ok.1 h
    exact keeps_of_decode c.decode_toJson
  · obtain ⟨c, hread, rfl⟩ := map_eq_ok.1 h
    exact keeps_of_decode (HttpCall.decode_toJson (HttpCall.body_ne_null (mapError_eq_ok.1 hread)))
  · obtain ⟨c, hread, rfl⟩ := map_eq_ok.1 h
    exact keeps_of_decode (GrpcCall.decode_toJson (GrpcCall.port_lt (mapError_eq_ok.1 hread)))
  · cases h
    trivial

/-- A task list, a fork and a `try` carry nothing but tasks. -/
theorem kept_readAction {tasks : Decoder TaskList} {name : String} {body : Members} {action : Action}
    (h : readAction tasks name body = .ok action) : action.Kept := by
  -- these are read as records of their own fields; what stands in them is a list of tasks again
  have hloop : (loopFields tasks).Gives Action.Kept :=
    .and (.and (.and (gives_none fun _ _ _ _ _ _ => trivial) (gives_any _)) (gives_any _))
      (gives_any _)
  have hattempt : (attemptFields tasks).Gives Action.Kept :=
    .and (.and (gives_none fun _ _ _ _ => trivial) (gives_any _)) (gives_any _)
  have hfork : (forkFields tasks).Gives Action.Kept :=
    .and (.and (gives_none fun _ _ _ _ => trivial) (gives_any _)) (gives_any _)
  unfold readAction at h
  split at h
  · split at h
    · cases h
      trivial
    · cases h
  · dsimp only at h
    split at h
    · exact hloop.record (mapError_eq_ok.1 h)
    · exact hattempt.record (mapError_eq_ok.1 h)
    · exact hfork.record (mapError_eq_ok.1 h)
    · obtain ⟨entries, -, h⟩ := bind_eq_ok.1 h
      obtain ⟨cases, -, h⟩ := bind_eq_ok.1 h
      cases h
      trivial
    · obtain ⟨kind, -, h⟩ := bind_eq_ok.1 h
      exact kept_callAction h
    · obtain ⟨r, hread, rfl⟩ := map_eq_ok.1 h
      exact ProcessRun.kept (mapError_eq_ok.1 hread)
    · obtain ⟨d, -, rfl⟩ := map_eq_ok.1 h
      trivial
    · obtain ⟨e, hread, rfl⟩ := map_eq_ok.1 h
      exact RaiseError.kept (mapError_eq_ok.1 hread)
    · obtain ⟨l, -, rfl⟩ := map_eq_ok.1 h
      trivial
    · cases h
      trivial
    · obtain ⟨ts, -, rfl⟩ := map_eq_ok.1 h
      trivial

/-- Whatever a task that is read from a document carries to a call, a process or an error is read back from
its written form as it was, and if no text inside it is an expression, it is interpolated to itself
in every scope and without a call of the wrapper. -/
theorem interpolation_keeps_payloads {tasks : Decoder TaskList} {j : Json} {t : Task}
    (h : readItem tasks j = .ok t) : t.action.Kept := by
  obtain ⟨m, -, h⟩ := bind_eq_ok.1 h
  obtain ⟨⟨name, body⟩, -, h⟩ := bind_eq_ok.1 h
  dsimp only at h
  split at h
  · obtain ⟨base, -, h⟩ := bind_eq_ok.1 h
    obtain ⟨action, haction, h⟩ := bind_eq_ok.1 h
    cases h
    exact kept_readAction haction
  · cases h

/-- A call with its address inside an object, a null for its body and no further fields. -/
def paging : Json :=
  .obj [("page", .obj [("call", .str "http"), ("with", .obj [("body", .null),
    ("endpoint", .obj [("port", .nat 80), ("uri", .str "http://h/")]),
    ("query", .obj [("n", .nat 1)])])])]

/-- A run of a script that is not waited for, with the other word for its language. -/
def scripted : Json :=
  .obj [("script", .obj [("run", .obj [("await", .bool false), ("script", .obj
    [("arguments", .arr [.null]), ("code", .str "f()"), ("language", .str "javascript")])])])]

theorem interpolation_keeps_payloads_of_defaults :
    let page : HttpCall := ⟨"GET", .object "http://h/", [], [("n", .nat 1)], none, .content, false⟩
    let script : ScriptProcess := ⟨.js, "f()", [.null], []⟩
    let base : TaskBase := ⟨none, none, none, none, none, []⟩
    let s := Scope.start .null []
    let ev : Evaluator := ⟨Evaluation.engine, .passThrough, 0⟩
    readItem TaskList.decode paging = .ok ⟨"page", base, .call (.http page)⟩ ∧
      readItem TaskList.decode scripted = .ok ⟨"script", base, .run ⟨.script script, false⟩⟩ ∧
      (Calling.interpolate "page" HttpCall.decode page.toJson s).run.evaluated ev =
        (.done (.ok page), ev) ∧
      (Calling.interpolate "script" ScriptProcess.decode script.toJson s).run.evaluated ev =
        (.done (.ok script), ev) := by
  intro page script base s ev
  have hpaging : readItem TaskList.decode paging = .ok ⟨"page", base, .call (.http page)⟩ := by rfl
  have hscripted :
      readItem TaskList.decode scripted = .ok ⟨"script", base, .run ⟨.script script, false⟩⟩ := by
    rfl
  have hpage : Evaluation.expressions page.toJson = [] := by decide +kernel
  have hscript : Evaluation.expressions script.toJson = [] := by decide +kernel
  have hkept : (Action.call (.http page)).Kept := interpolation_keeps_payloads hpaging
  have hkept' : (Action.run ⟨.script script, false⟩).Kept := interpolation_keeps_payloads hscripted
  exact ⟨hpaging, hscripted, hkept.2 (Evaluation.expressions_eq_nil_iff.1 hpage) "page" s ev,
    hkept'.1.2 (Evaluation.expressions_eq_nil_iff.1 hscript) "script" s ev⟩

end Task

end TaskGraph

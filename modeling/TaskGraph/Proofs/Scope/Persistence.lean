import TaskGraph.Host.Run
import TaskGraph.Program.Compiling
import TaskGraph.Proofs.Document.Reading

/-!
# Scopes that are written down

A run that is left for a new one hands its scope on. What is read from the written form of a scope is the
scope, but for an output that is null: it is read as none (`Scope.survives_writing`). Expressions see
no difference, since an absent output is null to them. A nested list sees one: it hands the output
of its scope on as its own value, and records nothing if there is none.
-/

set_option autoImplicit false

namespace TaskGraph

open Decode
open Decode.Fields (named_and named_withDefault named_maybe named_maybe_null named_maybe_absent)

namespace Scope

/-- What is left of a scope that is written and read again. -/
def persisted (s : Scope) : Scope :=
  { s with output := if s.output = some .null then none else s.output }

theorem persisted_eq_iff {s : Scope} : s.persisted = s ↔ s.output ≠ some .null := by
  obtain ⟨input, data, env, output, marker⟩ := s
  by_cases h : output = some .null
  · subst h
    simp [persisted]
  · simp [persisted, h]

theorem persisted_persisted (s : Scope) : s.persisted.persisted = s.persisted := by
  rw [persisted_eq_iff]
  unfold persisted
  split
  · simp
  · next h => exact h

/-- Expressions see an output that is null where there is none. -/
theorem document_persisted (s : Scope) (locals : Locals) :
    s.persisted.document locals = s.document locals := by
  obtain ⟨input, data, env, output, marker⟩ := s
  by_cases h : output = some .null
  · subst h
    rfl
  · rw [persisted_eq_iff.2 h]

/-- The entries that a scope is written as. -/
def entries (s : Scope) : Members :=
  [("input", s.input), ("data", .obj s.data), ("env", .obj s.env)] ++
    (match s.output with
      | some v => [("output", v)]
      | none => []) ++
    (match s.marker with
      | some m => [("resume_marker", .str m)]
      | none => [])

theorem get?_entries (s : Scope) (key : String) :
    (Members.ofList s.entries).get? key = s.entries.get? key := by
  refine Members.get?_ofList ?_ key
  obtain ⟨input, data, env, output, marker⟩ := s
  cases output <;> cases marker <;> simp [entries, Members.keys]

/-- A scope is read from its written form up to an output that is null. -/
theorem decode_toJson (s : Scope) : decode s.toJson = .ok s.persisted := by
  have hentries := get?_entries s
  obtain ⟨input, data, env, output, marker⟩ := s
  refine namedRecord_of_named (named_and (named_and (named_and (named_and (named_and rfl ?_) ?_) ?_)
    ?_) ?_)
  · exact named_withDefault (v := input) (hentries "input") rfl
  · exact named_withDefault (v := .obj data) (hentries "data") rfl
  · exact named_withDefault (v := .obj env) (hentries "env") rfl
  · cases output with
    | none => exact named_maybe_absent ((hentries "output").trans (by cases marker <;> rfl))
    | some v =>
      have hv : (Members.ofList (entries ⟨input, data, env, some v, marker⟩)).get? "output" = some v :=
        hentries "output"
      -- an output is always written, but a null at its key is read as none
      by_cases hnull : v = .null
      · subst hnull
        exact named_maybe_null hv
      · rw [if_neg fun h => hnull (Option.some.inj h)]
        exact named_maybe hv hnull rfl
  · cases marker with
    | none => exact named_maybe_absent ((hentries "resume_marker").trans (by cases output <;> rfl))
    | some m =>
      exact named_maybe (v := .str m)
        ((hentries "resume_marker").trans (by cases output <;> rfl)) nofun (by rfl)

end Scope

/-! ## A document that exports null -/

namespace Nought

def base : TaskBase := ⟨none, none, none, none, none, []⟩

/-- The fields of a task whose output is null. -/
def exporting : TaskBase := { base with exported := some (.str "$\x7b null \x7d") }

/-- Exports null and goes on with a nested list. -/
def workflow : Workflow :=
  ⟨⟨"root", none, none, none⟩, none, none,
    [⟨"a", exporting, .assign (.obj [("x", .int 1)])⟩,
      ⟨"b", base, .block [⟨"c", base, .assign (.obj [("y", .int 2)])⟩]⟩]⟩

/-- What the nested list is compiled to. -/
def nested : Children := [⟨"c-0", "c", base, false, .assign (.obj [("y", .int 2)])⟩]

def graph : Graph :=
  ⟨"root", [⟨"a-0", "a", exporting, false, .assign (.obj [("x", .int 1)])⟩,
    ⟨"b-1", "b", base, true, .block nested⟩], none⟩

def setting : Setting :=
  ⟨⟨"root", [⟨"b", nested, none⟩, graph], .standard⟩, .ofSettings .standard,
    CallSettings.standard.timeout⟩

theorem compiled : Program.compile Kinds.standard .standard workflow = .ok setting.program := rfl

/-- What a run of the graph from a scope ends in, told to restart or not. -/
def result (suggests : Option Bool) (s : Scope) : Option (Except Fault Scope) :=
  (Host.run 60 (Host.start setting { Surroundings.bare 0 with suggests := suggests } .passThrough
    (Host.graphRun graph .null s).run)).result

/-- The scope that a run is left with for a new one. -/
def left? (s : Scope) : Option Scope :=
  match result (some true) s with
  | some (.error (.continueAsNew _ _ s)) => some s
  | _ => none

/-- The data that a run ends with. -/
def data? (s : Scope) : Option Members :=
  (result none s).bind fun x => x.toOption.map Scope.data

/-- The scope before the nested list. -/
def carried : Scope where
  input := .null
  data := [("a", .obj [("x", .int 1)]), ("x", .int 1)]
  env := []
  output := some .null
  marker := some "b-1"

theorem left?_eq : left? (.start .null []) = some carried := by
  decide +kernel

end Nought

namespace Scope

/-- Whatever is in a scope, it is read from its written form as it was exactly if its output is not null;
else it is read without an output, and the rest as it was. Writing it again changes nothing more,
and all evaluations are the same in both. -/
theorem survives_writing (s : Scope) :
    decode s.toJson = .ok s.persisted ∧
      (decode s.toJson = .ok s ↔ s.output ≠ some .null) ∧
      decode s.persisted.toJson = .ok s.persisted ∧
      (∀ raw locals, Evaluation.evaluate raw s.persisted locals = Evaluation.evaluate raw s locals) ∧
      (∀ v locals, Evaluation.traverse v s.persisted locals = Evaluation.traverse v s locals) ∧
      ∀ guard locals, Evaluation.check guard s.persisted locals = Evaluation.check guard s locals := by
  refine ⟨decode_toJson s, ?_, ?_, fun raw locals => ?_, fun v locals => ?_, fun guard locals => ?_⟩
  · rw [decode_toJson, Except.ok.injEq, persisted_eq_iff]
  · rw [decode_toJson, persisted_persisted]
  · rw [Evaluation.evaluate, Evaluation.evaluate, document_persisted]
  · rw [Evaluation.traverse, Evaluation.traverse, document_persisted]
  · cases guard with
    | none => rfl
    | some guard =>
      simp only [Evaluation.check, Evaluation.evaluate, document_persisted]

open Nought in
/-- A run is left with an output that is null, and the new run records the nested list as null; from the
written form of the same scope it records nothing. -/
theorem null_output_is_lost :
    Program.compile Kinds.standard .standard workflow = .ok setting.program ∧
      left? (.start .null []) = some carried ∧
      decode carried.toJson ≠ .ok carried ∧
      (data? carried).map (·.get? "b") = some (some .null) ∧
      (decode carried.toJson).toOption.bind (fun s => (data? s).map (·.get? "b")) =
        some none := by
  refine ⟨compiled, left?_eq, ?_, by decide +kernel, by decide +kernel⟩
  rw [decode_toJson]
  intro h
  exact persisted_eq_iff.1 (Except.ok.inj h) rfl

end Scope

end TaskGraph

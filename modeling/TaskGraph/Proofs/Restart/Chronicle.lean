import TaskGraph.Host.Run
import TaskGraph.Proofs.Restart.Course

/-!
# The chronicle of a program's runs

Running a program opens one run after another, each with a history of its own. A `Chapter` is what a
history says of its run as a whole: where it started, and how it was closed. In a `Chronicle` the first
chapter starts at the root, a chapter that asks for a restart names a child behind the first one of its
own graph, and the next chapter starts where the last one asked for.

`Ledger.law` admits only what continues a chronicle, and lets a chapter be opened only in the run that
was opened just before. The runs of a program keep to it (`Terms.abides_programRun`), and when they end
in a value the last chapter is completed and the scope has no marker (`Ledger.Ends`).
-/

set_option autoImplicit false

namespace TaskGraph

open Running (Any Result)

/-! ## Chapters -/

/-- What the history of a run says of the run as a whole. -/
structure Chapter where
  run : Nat
  entry : String
  marker : Option String
  /-- How the run was closed, once it is. -/
  close : Option HistoryEvent
  deriving Repr, DecidableEq

namespace Chapter

/-- The event that starts the history. -/
def opening (ch : Chapter) : HistoryEvent :=
  .runStarted ch.entry (Decimal.natText ch.run) ch.marker

/-- Whether an event may close a chapter: a restart is one of the same graph, at one of its children. -/
def Closes (p : Program) (ch : Chapter) : HistoryEvent → Prop
  | .runCompleted .. | .runFailed _ => True
  | .continuedAsNew entry marker =>
    entry = ch.entry ∧ ∃ g, p.graph entry = .ok g ∧ g.Marks marker
  | _ => False

end Chapter

/-- Whether a run may start behind some chapters, latest first: at the root without a marker, or where
the last run asked for a restart. -/
def Continues (p : Program) : List Chapter → String → Option String → Prop
  | [], entry, marker => entry = p.root ∧ marker = none
  | ch :: _, entry, marker => ch.close = some (.continuedAsNew entry marker)

/-- Whether chapters, latest first, tell of the runs of a program. -/
def Chronicle (p : Program) : List Chapter → Prop
  | [] => True
  | ch :: earlier => Continues p earlier ch.entry ch.marker ∧
    (∀ ev, ch.close = some ev → ch.Closes p ev) ∧ Chronicle p earlier

theorem Chronicle.closes {p : Program} {chapters : List Chapter} (h : Chronicle p chapters)
    {ch : Chapter} (hch : ch ∈ chapters) {ev : HistoryEvent} (hev : ch.close = some ev) :
    ch.Closes p ev := by
  induction chapters with
  | nil => exact (List.not_mem_nil hch).elim
  | cons last earlier ih =>
    rcases List.mem_cons.1 hch with rfl | hmem
    · exact h.2.1 ev hev
    · exact ih h.2.2 hmem

/-! ## Ledgers -/

/-- The chapters so far, latest first, and the run that was opened last, if nothing was asked since. -/
structure Ledger where
  chapters : List Chapter
  opened : Option Nat

namespace Ledger

/-- Before anything is asked. -/
def blank : Ledger := ⟨[], none⟩

/-- The chapters with an event in the history of a run. -/
def note (l : Ledger) (run : Nat) : HistoryEvent → List Chapter
  | .runStarted entry _ marker => ⟨run, entry, marker, none⟩ :: l.chapters
  | ev => if ev.isRunEvent then
      match l.chapters with
      | [] => []
      | ch :: earlier => { ch with close := some ev } :: earlier
    else l.chapters

/-- Whether an event in the history of a run continues the chronicle. -/
def Admits (p : Program) (l : Ledger) (run : Nat) : HistoryEvent → Prop
  | .runStarted entry id marker =>
    l.opened = some run ∧ id = Decimal.natText run ∧ Continues p l.chapters entry marker
  | ev => ev.isRunEvent = true →
    ∃ ch earlier, l.chapters = ch :: earlier ∧ ch.run = run ∧ ch.close = none ∧ ch.Closes p ev

/-- The ledger after an answer to a request. -/
def after (l : Ledger) : (q : Request) → q.Answer → Ledger
  | .fresh _, inner => ⟨l.chapters, some inner.run⟩
  | .record c ev, _ => ⟨l.note c.run ev, none⟩
  | _, _ => ⟨l.chapters, none⟩

/-- Whether a request is one that the runs of a program may make. -/
def Allows {p : Program} (T : Terms p) (l : Ledger) : Request → Prop
  | .record c ev => l.Admits p c.run ev
  | q => q.Fair T

/-- The law that the runs of a program keep to. -/
def law {p : Program} (T : Terms p) : Dialogue.Law Ledger := ⟨Allows T, after⟩

/-- Whether the runs of a program may have ended in a result: in a value when the last chapter is
completed with its output, and then without a marker. -/
def Ends {p : Program} (T : Terms p) (l : Ledger) : Except Fault Restart.Outcome → Prop
  | .ok o => o.scope.marker = none ∧ l.chapters.length = o.restarts + 1 ∧
    ∃ ch earlier, l.chapters = ch :: earlier ∧ ch.run = o.run ∧
      ch.close = some (.runCompleted o.output 0)
  | .error f => T.faults f

theorem note_of_not_runEvent (l : Ledger) (run : Nat) {ev : HistoryEvent}
    (h : ev.isRunEvent = false) : l.note run ev = l.chapters := by
  cases ev with
  | runStarted | runCompleted | runFailed | continuedAsNew => cases h
  | _ => rfl

variable {p : Program} {T : Terms p} {l : Ledger}

/-- What is allowed keeps the chronicle up. -/
theorem chronicle_after {q : Request} (hq : l.Allows T q) (h : Chronicle p l.chapters)
    (x : q.Answer) : Chronicle p (l.after q x).chapters := by
  have hclosed (ev : HistoryEvent) {run : Nat} (hev : ∃ ch earlier, l.chapters = ch :: earlier ∧
      ch.run = run ∧ ch.close = none ∧ ch.Closes p ev) :
      Chronicle p (match l.chapters with
        | [] => []
        | ch :: earlier => { ch with close := some ev } :: earlier) := by
    obtain ⟨ch, earlier, hchapters, -, -, hcloses⟩ := hev
    rw [hchapters] at h ⊢
    refine ⟨h.1, fun ev' hev' => ?_, h.2.2⟩
    cases hev'
    cases ev <;> exact hcloses
  cases q with
  | record c ev =>
    cases ev with
    | runStarted entry id marker => exact ⟨hq.2.2, nofun, h⟩
    | runCompleted | runFailed | continuedAsNew => exact hclosed _ (hq rfl)
    | _ => exact h
  | _ => exact h

/-- A request of a run that is on its course is allowed at any time, and leaves the chapters alone. -/
theorem allows_of_fair {q : Request} (hq : q.Fair T) : l.Allows T q := by
  cases q with
  | record c ev =>
    have hev : ev.isRunEvent = false := hq
    cases ev with
    | runStarted | runCompleted | runFailed | continuedAsNew => cases hev
    | _ => exact nofun
  | _ => exact hq

theorem fair_of_allows {q : Request} (hne : ∀ c ev, q ≠ .record c ev) (hq : l.Allows T q) :
    q.Fair T := by
  cases q with
  | record c ev => exact absurd rfl (hne c ev)
  | _ => exact hq

theorem chapters_after_of_fair {q : Request} (hq : q.Fair T) (x : q.Answer) :
    (l.after q x).chapters = l.chapters := by
  cases q with
  | record c ev => exact l.note_of_not_runEvent c.run hq
  | _ => rfl

variable {α : Type} {P : Ledger → α → Prop}

/-- That a run was just opened allows no less. -/
theorem abides_of_reopened (hP : ∀ (chs : List Chapter) (opened : Option Nat) a,
      P ⟨chs, none⟩ a → P ⟨chs, opened⟩ a)
    {d : Dialogue α} {chs : List Chapter} (opened : Option Nat)
    (h : d.Abides (law T) (Request.Kept T) P ⟨chs, none⟩) :
    d.Abides (law T) (Request.Kept T) P ⟨chs, opened⟩ := by
  cases d with
  | done a => exact hP chs opened a h
  | ask q k =>
    obtain ⟨hq, hk⟩ := h
    cases q with
    | record c ev =>
      cases ev with
      | runStarted => exact absurd hq.1 nofun
      | _ => exact ⟨hq, hk⟩
    | _ => exact ⟨hq, hk⟩

/-- A graph that is on its course is run in place. -/
theorem abides_of_fair {β : Type} {E : Fault → Prop} {V : β → Prop} {d : Dialogue (Except Fault β)}
    {k : Except Fault β → Dialogue α} (hP : ∀ (chs : List Chapter) (opened : Option Nat) a,
      P ⟨chs, none⟩ a → P ⟨chs, opened⟩ a)
    (hd : d.Heeds (Request.Fair T) (Request.Kept T) (Result E V)) {chs : List Chapter}
    (hk : ∀ x, Result E V x → (k x).Abides (law T) (Request.Kept T) P ⟨chs, none⟩) :
    (d.bind k).Abides (law T) (Request.Kept T) P ⟨chs, none⟩ := by
  have habides : d.Abides (law T) (Request.Kept T)
      (fun l x => l.chapters = chs ∧ Result E V x) ⟨chs, none⟩ :=
    hd.abides rfl (fun _ _ _ hq => allows_of_fair hq) fun _ _ x hl hq =>
      (chapters_after_of_fair hq x).trans hl
  refine habides.bind fun ⟨chs', opened⟩ x ⟨hchs, hx⟩ => ?_
  cases hchs
  exact abides_of_reopened hP opened (hk x hx)

end Ledger

/-! ## The runs of a program -/

namespace Terms

variable {p : Program} (T : Terms p) {c : Context}

variable {ch : Chapter} {earlier : List Chapter} (hrun : c.run = ch.run) (hclose : ch.close = none)
include hrun hclose

/-- A run that ends in a value is completed. -/
theorem abides_completed {s : Scope} (hs : s.marker = none) {restarts : Nat}
    (hcount : earlier.length = restarts) :
    (do
      Running.record c (.runCompleted (s.output.getD .null) 0)
      pure (⟨s.output.getD .null, s, restarts, c.run⟩ : Restart.Outcome) :
        Running Restart.Outcome).run.Abides (Ledger.law T) (Request.Kept T) (Ledger.Ends T)
      ⟨ch :: earlier, none⟩ :=
  ⟨fun _ => ⟨ch, earlier, rfl, hrun.symm, hclose, trivial⟩, fun _ _ =>
    ⟨hs, congrArg (· + 1) hcount, _, earlier, rfl, hrun.symm, rfl⟩⟩

/-- A run that ends in a fault has failed. -/
theorem abides_failed {f : Fault} (hf : T.faults f) :
    (do
      Running.record c (.runFailed f.message)
      throw f : Running Restart.Outcome).run.Abides (Ledger.law T) (Request.Kept T) (Ledger.Ends T)
      ⟨ch :: earlier, none⟩ :=
  ⟨fun _ => ⟨ch, earlier, rfl, hrun.symm, hclose, trivial⟩, fun _ _ => hf⟩

omit hrun hclose

/-- The runs of a graph as the entry point of a program: each is a chapter that starts where the last
one asked for, and is closed once. -/
theorem abides_rootLoop (left : Nat) {g : Graph} (hg : p.graph g.name = .ok g) (input : Json)
    {s : Scope} (hs : s.OnCourse g) {l : Ledger} (hl : Continues p l.chapters g.name s.marker)
    (hcount : l.chapters.length + left = Restart.limit) :
    (Restart.rootLoop p c left g input s).run.Abides (Ledger.law T) (Request.Kept T)
      (Ledger.Ends T) l := by
  induction left using Nat.strongRecOn generalizing input s l with | ind left ih =>
  rw [Restart.rootLoop.eq_def]
  refine ⟨trivial, fun inner _ => ⟨⟨rfl, rfl, hl⟩, fun _ _ => ⟨⟨hg, hs⟩, fun x hx => ?_⟩⟩⟩
  cases x with
  | ok s' => exact T.abides_completed rfl rfl hx (Nat.eq_sub_of_add_eq hcount)
  | error f =>
    cases f with
    | continueAsNew entry input' s' =>
      cases left with
      | zero => exact T.abides_failed rfl rfl (T.ordinary _ rfl)
      | succ left =>
        rcases hx with hfault | ⟨rfl, hmarks⟩
        · exact absurd (T.leaves _ hfault) (by simp [Fault.asksRestart])
        · -- the next run is one of the same graph, at the child that the marker names
          refine ⟨fun _ => ⟨_, _, rfl, rfl, rfl, rfl, g, hg, hmarks⟩, fun _ _ => ?_⟩
          rw [hg]
          refine ih left left.lt_succ_self input' (.inr hmarks) rfl ?_
          show l.chapters.length + 1 + left = Restart.limit
          omega
    | _ => exact T.abides_failed rfl rfl (hx.resolve_right id)

/-- The runs of a program keep to the law from its root on. -/
theorem abides_programRun (hroot : ∃ g, p.graph p.root = .ok g) (input : Json) (env : Members) :
    (Host.programRun p input env).run.Abides (Ledger.law T) (Request.Kept T) (Ledger.Ends T)
      .blank := by
  obtain ⟨g, hg⟩ := hroot
  have hname : g.name = p.root := (Program.mem_of_graph hg).2
  have hstart := Graph.result_initialScope T.ordinary p.options g input env
  have hrun : Host.programRun p input env = (do
      let s ← Running.ofExcept (g.initialScope p.options input env)
      Restart.rootLoop p Host.rootContext Restart.limit g input s) := by
    unfold Host.programRun
    rw [hg]
    rfl
  rw [hrun]
  -- an input that is refused ends the program before a chapter is begun
  cases hs : g.initialScope p.options input env with
  | error f =>
    rw [hs] at hstart
    exact hstart
  | ok s =>
    rw [hs] at hstart
    refine T.abides_rootLoop Restart.limit (Program.graph_of_graph hg) input (.inl hstart) ?_
      (Nat.zero_add _)
    exact ⟨hname, hstart⟩

end Terms

end TaskGraph

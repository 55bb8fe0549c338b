import TaskGraph.Proofs.Calls.Blocks
import TaskGraph.Proofs.Restart.Abandonment
import TaskGraph.Proofs.Restart.Traceless

/-!
# What a replay can fail with

A run that is on its way to a marker evaluates the guards of the children that it replays, and the
responses to their queries, once more, in the scope that the run before it has left. It ends in the
fault of the first of these evaluations that fails, whatever it would have come to when the child was
reached for the first time; a replay is strict in this sense (`Dialogue.Strict`). In a nested list an
evaluation that is cancelled is looked over, for that cancels the list alone.

So a run that is restarted fails before the child that it is to go on at exactly if such an evaluation
fails (`Restart.replay_fails_at_evaluations`), and there are documents that fail for being restarted
(`Restart.restart_breaks_guard`).
-/

set_option autoImplicit false

namespace TaskGraph

/-! ## Strict dialogues -/

/-- Whether an evaluation is answered with a fault. -/
def Request.Fails : (q : Request) → q.Answer → Fault → Prop
  | .evaluate .., x, f | .traverse .., x, f => x = .error f
  | .check .., x, f => x = .error f
  | _, _, _ => False

/-- An evaluation fails with one fault. -/
theorem Request.Fails.unique {q : Request} {x : q.Answer} {f f' : Fault}
    (h : q.Fails x f) (h' : q.Fails x f') : f = f' := by
  cases q with
  | evaluate | traverse | check => exact Except.error.inj (h.symm.trans h')
  | _ => exact h.elim

namespace Dialogue

variable {α β : Type}

/-- Whether a dialogue makes only requests of a kind and ends in a value with a property, but for the
fault of an evaluation, which is its end at once. -/
def Strict (allowed : Request → Prop) (P : α → Prop) : Dialogue (Except Fault α) → Prop
  | done x => ∃ a, x = .ok a ∧ P a
  | ask q k => allowed q ∧ ∀ x, (∃ f, q.Fails x f ∧ k x = done (.error f)) ∨
      (∀ f, q.Fails x f → f.isCancelled = true) ∧ Strict allowed P (k x)

/-- Whether a dialogue is strict until it goes on as another one. -/
def StrictUntil (allowed : Request → Prop) (P : α → Prop) :
    Dialogue (Except Fault α) → Dialogue (Except Fault α) → Prop
  | done x, target => done x = target ∨ ∃ a, x = .ok a ∧ P a
  | ask q k, target => ask q k = target ∨ allowed q ∧ ∀ x, (∃ f, q.Fails x f ∧ k x = done (.error f)) ∨
      (∀ f, q.Fails x f → f.isCancelled = true) ∧ (k x).StrictUntil allowed P target

variable {allowed : Request → Prop} {P : α → Prop} {Q : β → Prop}

/-- A strict dialogue is followed by one that goes on from its value, hands on a fault, and may look over a
cancellation. -/
theorem Strict.bind {d : Dialogue (Except Fault α)} {g : Except Fault α → Dialogue (Except Fault β)}
    (h : d.Strict allowed P) (hvalue : ∀ a, P a → (g (.ok a)).Strict allowed Q)
    (hfault : ∀ f, f.isCancelled = false → g (.error f) = done (.error f))
    (hcancelled : ∀ f, f.isCancelled = true →
      g (.error f) = done (.error f) ∨ (g (.error f)).Strict allowed Q) :
    (d.bind g).Strict allowed Q := by
  induction d with
  | done x =>
    obtain ⟨a, rfl, ha⟩ := h
    exact hvalue a ha
  | ask q k ih =>
    refine ⟨h.1, fun x => ?_⟩
    rcases h.2 x with ⟨f, hf, hend⟩ | ⟨hlooked, hgoesOn⟩
    · have hnext : (k x).bind g = g (.error f) := by
        rw [hend]
        rfl
      dsimp only
      rw [hnext]
      -- the fault that an evaluation ended in is handed on, unless it is a cancellation that may be
      -- looked over
      cases hkind : f.isCancelled with
      | false => exact .inl ⟨f, hf, hfault f hkind⟩
      | true =>
        refine (hcancelled f hkind).imp (fun heq => ⟨f, hf, heq⟩) fun hstrict => ⟨fun f' hf' => ?_, hstrict⟩
        rw [hf'.unique hf]
        exact hkind
    · exact .inr ⟨hlooked, ih x hgoesOn⟩

theorem strictUntil_self (d : Dialogue (Except Fault α)) : d.StrictUntil allowed P d := by
  cases d <;> exact Or.inl rfl

/-- A strict dialogue is followed by one that is strict up to another one. -/
theorem Strict.until {d : Dialogue (Except Fault β)} {k : β → Running α}
    {target : Dialogue (Except Fault α)} (h : d.Strict allowed Q)
    (hk : ∀ b, Q b → (k b).run.StrictUntil allowed P target) :
    (d.bind (Running.onward k)).StrictUntil allowed P target := by
  induction d with
  | done x =>
    obtain ⟨b, rfl, hb⟩ := h
    exact hk b hb
  | ask q next ih =>
    refine Or.inr ⟨h.1, fun x => ?_⟩
    rcases h.2 x with ⟨f, hf, hend⟩ | ⟨hlooked, hgoesOn⟩
    · refine .inl ⟨f, hf, ?_⟩
      show (next x).bind _ = _
      rw [hend]
      rfl
    · exact .inr ⟨hlooked, ih x hgoesOn⟩

/-- Whether a dialogue that is played as in a log goes on as another one on the way, with requests of a kind
alone and no evaluation that fails but by a cancellation, and ends as given from there. -/
def Passes (allowed : Request → Prop) (d target : Dialogue α) (log : List Exchange) (ending : Dialogue α) :
    Prop :=
  ∃ first last, log = first ++ last ∧ d.Plays first target ∧ target.Plays last ending ∧
    ∀ y ∈ first, allowed y.request ∧ ∀ f, y.request.Fails y.answer f → f.isCancelled = true

theorem Passes.refl {target ending : Dialogue α} {log : List Exchange} (h : target.Plays log ending) :
    Passes allowed target target log ending :=
  ⟨[], log, rfl, .refl _, h, fun _ hy => (List.not_mem_nil hy).elim⟩

theorem Passes.cons {q : Request} {k : q.Answer → Dialogue α} {x : q.Answer} {target ending : Dialogue α}
    {log : List Exchange} (h : Passes allowed (k x) target log ending) (hq : allowed q)
    (hlooked : ∀ f, q.Fails x f → f.isCancelled = true) :
    Passes allowed (.ask q k) target (⟨q, x⟩ :: log) ending := by
  obtain ⟨first, last, rfl, hfirst, hlast, hall⟩ := h
  refine ⟨⟨q, x⟩ :: first, last, rfl, .ask hfirst, hlast, fun y hy => ?_⟩
  rcases List.mem_cons.1 hy with rfl | hy
  · exact ⟨hq, hlooked⟩
  · exact hall y hy

/-- A dialogue that is strict up to another one fails after it has gone on as that one, or else right after
an evaluation that has failed, and with its fault. -/
theorem StrictUntil.fails {d target : Dialogue (Except Fault α)} (h : d.StrictUntil allowed P target)
    {log : List Exchange} {f : Fault} (hplays : d.Plays log (done (.error f))) :
    Passes allowed d target log (done (.error f)) ∨
      ∃ first q x, log = first ++ [⟨q, x⟩] ∧ allowed q ∧ q.Fails x f := by
  -- along what is played: it has gone on as the other one, or an evaluation fails and is the last
  -- exchange
  induction d generalizing log with
  | done x =>
    obtain ⟨rfl, hx⟩ := plays_done hplays
    rcases h with rfl | ⟨a, rfl, -⟩
    · exact .inl (.refl hplays)
    · cases hx
  | ask q k ih =>
    rcases h with rfl | ⟨hq, hk⟩
    · exact .inl (.refl hplays)
    · obtain ⟨x, rest, rfl, hrest⟩ := plays_ask hplays
      rcases hk x with ⟨f', hf', hend⟩ | ⟨hlooked, hgoesOn⟩
      · rw [hend] at hrest
        obtain ⟨rfl, hf⟩ := plays_done hrest
        cases hf
        exact .inr ⟨[], q, x, rfl, hq, hf'⟩
      · rcases ih x hgoesOn hrest with hpasses | ⟨first, q', x', rfl, hq', hf'⟩
        · exact .inl (hpasses.cons hq hlooked)
        · exact .inr ⟨⟨q, x⟩ :: first, q', x', rfl, hq', hf'⟩

/-- Before it goes on as the other one, it ends in the fault of an evaluation as soon as one fails. -/
theorem StrictUntil.ends {d target : Dialogue (Except Fault α)} (h : d.StrictUntil allowed P target)
    {log : List Exchange} {q : Request} {k : q.Answer → Dialogue (Except Fault α)}
    (hplays : d.Plays log (ask q k)) (hbefore : ¬ Passes allowed d target log (ask q k)) {x : q.Answer}
    {f : Fault} (hf : q.Fails x f) (hkind : f.isCancelled = false) : k x = done (.error f) := by
  induction d generalizing log with
  | done y => cases hplays
  | ask q' k' ih =>
    rcases h with rfl | ⟨hq, hk⟩
    · exact absurd (.refl hplays) hbefore
    · cases hplays with
      | refl =>
        rcases hk x with ⟨f', hf', hend⟩ | ⟨hlooked, -⟩
        · rw [hend, hf'.unique hf]
        · rw [hlooked f hf] at hkind
          cases hkind
      | @ask _ _ x' rest _ hrest =>
        rcases hk x' with ⟨f', -, hend⟩ | ⟨hlooked, hgoesOn⟩
        · rw [hend] at hrest
          cases hrest
        · exact ih x' hgoesOn hrest fun hpasses => hbefore (hpasses.cons hq hlooked)

end Dialogue

namespace Running

variable {α β : Type} {allowed : Request → Prop} {P : α → Prop} {Q : β → Prop}

/-- Whether a computation makes only requests of a kind and ends in a value with a property, but for the
fault of an evaluation, which is its end at once. -/
def Strict (allowed : Request → Prop) (P : α → Prop) (r : Running α) : Prop := r.run.Strict allowed P

theorem Strict.pure {a : α} (h : P a) : Strict allowed P (pure a) := ⟨a, rfl, h⟩

theorem Strict.bind {r : Running α} {k : α → Running β} (h : r.Strict allowed P)
    (hk : ∀ a, P a → (k a).Strict allowed Q) : (r >>= k).Strict allowed Q := by
  unfold Strict
  rw [run_bind]
  exact Dialogue.Strict.bind h hk (fun _ _ => rfl) fun _ _ => .inl rfl

/-- A computation whose outcome is looked at: faults are handed on, cancellations may be looked over. -/
theorem Strict.outcome {r : Running α} {k : Except Fault α → Running β} (h : r.Strict allowed P)
    (hvalue : ∀ a, P a → (k (.ok a)).Strict allowed Q)
    (hfault : ∀ f, f.isCancelled = false → (k (.error f)).run = .done (.error f))
    (hcancelled : ∀ f, f.isCancelled = true → (k (.error f)).Strict allowed Q) :
    (r.outcome >>= k).Strict allowed Q := by
  unfold Strict
  rw [run_outcome_bind]
  exact Dialogue.Strict.bind h hvalue hfault fun f hf => .inr (hcancelled f hf)

/-- A request that is no evaluation. -/
theorem Strict.ask {q : Request} (hq : allowed q) (hno : ∀ x f, ¬ q.Fails x f) :
    (ask q).Strict allowed fun _ => True :=
  ⟨hq, fun x => .inr ⟨fun f hf => absurd hf (hno x f), x, rfl, trivial⟩⟩

theorem Strict.check {guard : Option String} {s : Scope} {locals : Locals}
    (h : allowed (.check guard s locals)) : (check guard s locals).Strict allowed fun _ => True := by
  refine ⟨h, fun x => ?_⟩
  cases x with
  | ok holds => exact .inr ⟨nofun, holds, rfl, trivial⟩
  | error f => exact .inl ⟨f, rfl, rfl⟩

theorem Strict.traverse {v : Json} {s : Scope} {locals : Locals}
    (h : allowed (.traverse v s locals)) : (traverse v s locals).Strict allowed fun _ => True := by
  refine ⟨h, fun x => ?_⟩
  cases x with
  | ok v => exact .inr ⟨nofun, v, rfl, trivial⟩
  | error f => exact .inl ⟨f, rfl, rfl⟩

end Running

/-! ## Queries -/

namespace Listening

variable {queries : Query → Prop} (c : Context) (s : Scope)

theorem strict_register {q : Query} (hq : queries q) :
    (register c s q).Strict (Request.Traceless queries c s) fun _ => True := by
  have hid : ∃ q', queries q' ∧ q'.id = q.id := ⟨q, hq, rfl⟩
  have hanswered (v : Json) : Running.Strict (Request.Traceless queries c s) (fun _ => True) (do
      Running.tell (.query q.id v)
      Running.ask (.respond q.id v)
      Running.record c (.queryRegistered q.id)) := by
    refine .bind (.ask hid fun _ _ => id) fun _ _ => .bind (.ask hid fun _ _ => id) fun _ _ => ?_
    exact .ask ⟨rfl, hid⟩ fun _ _ => id
  unfold register
  cases hresponse : q.response with
  | none => exact hanswered _
  | some v => exact .bind (.traverse ⟨rfl, q, hq, hresponse⟩) fun v _ => hanswered v

theorem strict_registerAll (qs : List Query) (hqs : ∀ q ∈ qs, queries q) :
    (registerAll c s qs).Strict (Request.Traceless queries c s) fun _ => True := by
  induction qs with
  | nil => exact .pure trivial
  | cons q qs ih =>
    refine .bind (strict_register c s (hqs q (List.mem_cons_self ..))) fun _ _ => ?_
    exact ih fun q' hq' => hqs q' (List.mem_cons_of_mem _ hq')

end Listening

/-! ## Replayed children -/

namespace Sequence

variable {queries : Query → Prop} (e : Setting) (c : Context) {s : Scope}

/-- Whether a replayed child leaves its scope as it was. -/
def Keeps (s : Scope) : Turn → Prop
  | .next pending s' => pending = none ∧ s' = s
  | .stop s' => s' = s

theorem strict_rerun {body : Doing}
    (h : (body s).Strict (Request.Traceless queries c s) fun y => y.2 = s) :
    (rerun c body s).Strict (Request.Traceless queries c s) (Keeps s) := by
  refine .outcome h (fun y hy => .pure ⟨rfl, hy⟩) (fun f hf => ?_) fun f hf => ?_
  · simp only [absorb, hf]
    rfl
  · simp only [absorb, hf, if_true]
    refine .bind (P := fun y => ∀ r, y = some r → r.2 = s)
      (.bind (.ask rfl fun _ _ => id) fun cancelled _ => ?_) fun y hy => ?_
    · cases cancelled with
      | true =>
        refine .pure fun r hr => ?_
        cases hr
      | false =>
        refine .pure fun r hr => ?_
        cases hr
        rfl
    · cases y with
      | none => exact .pure rfl
      | some r => exact .pure ⟨rfl, hy r rfl⟩

theorem strict_turn (child : Child Doing)
    (h : (child.action s).Strict (Request.Traceless queries c s) fun y => y.2 = s) :
    (turn e c .replay child s).Strict (Request.Traceless queries c s) (Keeps s) := by
  refine .bind (.check rfl) fun holds _ => ?_
  cases holds with
  | false => exact .pure ⟨rfl, rfl⟩
  | true => exact strict_rerun c h

theorem replays_strict :
    Replays queries e c s (Keeps s) (Running.Strict (Request.Traceless queries c s)) where
  value h := .pure h
  andThen h hk := .bind h hk
  register qs hqs := Listening.strict_registerAll c s qs hqs
  turn child h := strict_turn e c child h
  next h := h
  stop h := h

variable {marker : String}

/-- A run on its way to a marker is strict until it has gone through the children before it. -/
theorem strictUntil_rest (hs : s.marker = some marker) (entry : String) (input : Json) (first : Bool)
    (before rest : Children) (hids : ∀ child ∈ before, child.id ≠ marker)
    (hreplayable : before.Replayable)
    (hlists : ∀ child ∈ before, child.action.Lists Children.Replayable)
    (hqueries : ∀ child ∈ before, ∀ q, child.action.Queries q → queries q) :
    (run e c (some entry) input first none (before ++ rest) s).run.StrictUntil
      (Request.Traceless queries c s) (· = s) (run e c (some entry) input true none rest s).run := by
  induction before generalizing first with
  | nil =>
    rw [List.nil_append, run_resuming_first e c hs (some entry) input first true]
    exact Dialogue.strictUntil_self _
  | cons child before ih =>
    have hrest := ih false (fun k hk => hids k (List.mem_cons_of_mem _ hk))
      (fun k hk => hreplayable k (List.mem_cons_of_mem _ hk))
      (fun k hk => hlists k (List.mem_cons_of_mem _ hk))
      (fun k hk => hqueries k (List.mem_cons_of_mem _ hk))
    rw [List.cons_append, run_cons, leaves_resuming e c _ _ hs]
    simp only [pure_bind, Bool.false_eq_true, if_false, Option.isSome_some,
      resumption_other child.replayed hs (.inr (hids child (List.mem_cons_self ..)))]
    cases hreplayed : child.replayed with
    | false =>
      rw [if_pos (by simp [Passes])]
      exact hrest
    | true =>
      rw [if_neg (by simp [Passes]), if_pos rfl, visit_eq_turn, Running.run_bind]
      have hturn := strict_turn e c (embody e c input child) ((replays_strict e c).step hs child.name
        child.base input child.action (hreplayable child (List.mem_cons_self ..) hreplayed)
        (hlists child (List.mem_cons_self ..)) (hqueries child (List.mem_cons_self ..)))
      refine Dialogue.Strict.until hturn fun t ht => ?_
      cases t with
      | stop s' => exact Or.inr ⟨s', rfl, ht⟩
      | next pending s' =>
        obtain ⟨rfl, rfl⟩ := ht
        exact hrest

end Sequence

/-! ## A guard that another task invalidates -/

namespace Shifted

def base : TaskBase := ⟨none, none, none, none, none, []⟩

/-- A guard that is false at first. -/
def guarded : TaskBase := { base with guard := some "${ data.mode }" }

def inner : Children := [⟨"c-0", "c", base, false, .assign (.obj [("x", .int 1)])⟩]

/-- What is in front of the last task: the nested list has a guard, which is false when the list is reached
for the first time, and the task behind it makes a number of what the guard looks at. -/
def before : Children :=
  [⟨"a-0", "a", base, false, .assign (.obj [("mode", .bool false)])⟩,
    ⟨"b-1", "b", guarded, true, .block inner⟩,
    ⟨"d-2", "d", Idle.first, false, .assign (.obj [("mode", .int 5)])⟩]

def last : Child Step := ⟨"e-3", "e", base, false, .assign (.obj [("y", .int 2)])⟩

def root : Graph := ⟨"root", before ++ [last], none⟩

def workflow : Workflow :=
  ⟨⟨"root", none, none, none⟩, none, none,
    [⟨"a", base, .assign (.obj [("mode", .bool false)])⟩,
      ⟨"b", guarded, .block [⟨"c", base, .assign (.obj [("x", .int 1)])⟩]⟩,
      ⟨"d", Idle.first, .assign (.obj [("mode", .int 5)])⟩,
      ⟨"e", base, .assign (.obj [("y", .int 2)])⟩]⟩

/-- The program of the document, with a limit on histories. -/
def setting (limit : Nat) : Setting :=
  ⟨⟨"root", [⟨"b", inner, none⟩, root], ⟨limit, true⟩⟩, .ofSettings .standard,
    CallSettings.standard.timeout⟩

theorem compiled (limit : Nat) :
    Program.compile Kinds.standard ⟨limit, true⟩ workflow = .ok (setting limit).program := rfl

/-- The host of a run of the program, after some steps. -/
def host (limit steps : Nat) : Host Host.RunResult :=
  (Host.start (setting limit) (.bare 0) .passThrough
    (Host.programRun (setting limit).program .null []).run).run steps

/-- The scope of a run that is restarted at the last task. -/
def scope : Scope := { Scope.start .null [] with
  data := [("a", .obj [("mode", .bool false)]), ("d", .obj [("mode", .int 5)]), ("mode", .int 5)]
  marker := some last.id }

end Shifted

namespace Restart

/-- A run of a graph of a compiled program that goes on at a marked child makes only requests of a replay
until it has reached that child. If it fails, it has reached it before, or the last thing that happened is
that an evaluation of the replay has failed, and that is the fault. Whenever one fails before the child is
reached, and not by a cancellation, this is the end of the run. -/
theorem replay_fails_at_evaluations {kinds : Kinds} (hkinds : kinds.BuiltIn) {options : ProgramOptions}
    {w : Workflow} {e : Setting} (h : Program.compile kinds options w = .ok e.program) {g : Graph}
    (hg : g ∈ e.program.graphs) {before rest : Children} {child : Child Step}
    (hsplit : g.children = before ++ child :: rest) (c : Context) (input : Json) {s : Scope}
    (hs : s.marker = some child.id) :
    (∀ log f, (Sequence.runGraph e c g input s).run.Plays log (.done (.error f)) →
      Dialogue.Passes (Request.Traceless (Step.block before).Queries c s)
          (Sequence.runGraph e c g input s).run
          (Sequence.run e c (some g.name) input true none (child :: rest) s).run log (.done (.error f)) ∨
        ∃ first q x, log = first ++ [⟨q, x⟩] ∧
          Request.Traceless (Step.block before).Queries c s q ∧ q.Fails x f) ∧
      ∀ log q k, (Sequence.runGraph e c g input s).run.Plays log (.ask q k) →
        ¬ Dialogue.Passes (Request.Traceless (Step.block before).Queries c s)
          (Sequence.runGraph e c g input s).run
          (Sequence.run e c (some g.name) input true none (child :: rest) s).run log (.ask q k) →
        ∀ x f, q.Fails x f → f.isCancelled = false → k x = .done (.error f) := by
  obtain ⟨hlist, hnested⟩ := Program.compiled_of_compile h g hg
  have hmem : ∀ k ∈ before, k ∈ g.children := by
    intro k hk
    rw [hsplit]
    exact List.mem_append_left _ hk
  have hids : ∀ k ∈ before, k.id ≠ child.id := fun k hk =>
    Children.apart_of_split hlist.nodup_ids hsplit k (List.mem_append_left _ hk)
  have hlists (k : Child Step) (hk : k ∈ before) : k.action.Lists Children.Replayable :=
    fun inner hinner => (hnested k (hmem k hk) inner hinner).quiet hkinds
  have hstrict := Sequence.strictUntil_rest e c hs g.name input true before (child :: rest) hids
    (fun k hk => hlist.quiet hkinds k (hmem k hk)) hlists fun _ hk _ hq => hq.block hk
  rw [← hsplit] at hstrict
  exact ⟨fun log f hplays => hstrict.fails hplays,
    fun log q k hplays hbefore x f hf hkind => hstrict.ends hplays hbefore hf hkind⟩

/-- A run that is restarted at the last of four tasks evaluates the guard of the nested list first. If that
fails, so does the run, and it has not reached the task. -/
theorem replay_fails_at_evaluations_of_shifted :
    Program.compile Kinds.standard ⟨1, true⟩ Shifted.workflow = .ok (Shifted.setting 1).program ∧
      ∃ next, (Sequence.runGraph (Shifted.setting 1) ⟨1, [0]⟩ Shifted.root .null Shifted.scope).run =
          .ask (.check (some "${ data.mode }") Shifted.scope [Sequence.taskBinding "b"]) next ∧
        ∀ f, f.isCancelled = false → next (.error f) = .done (.error f) := by
  obtain ⟨next, hnext⟩ : ∃ next,
      (Sequence.runGraph (Shifted.setting 1) ⟨1, [0]⟩ Shifted.root .null Shifted.scope).run =
        .ask (.check (some "${ data.mode }") Shifted.scope [Sequence.taskBinding "b"]) next := ⟨_, rfl⟩
  have hsplit : Shifted.root.children = Shifted.before ++ Shifted.last :: [] := rfl
  obtain ⟨-, hends⟩ := replay_fails_at_evaluations Kinds.builtIn_standard (Shifted.compiled 1)
    (by simp [Shifted.setting]) hsplit ⟨1, [0]⟩ .null (s := Shifted.scope) rfl
  refine ⟨Shifted.compiled 1, next, hnext, fun f hf => ?_⟩
  refine hends [] _ next (hnext ▸ .refl _) ?_ (.error f) f rfl hf
  rintro ⟨first, last, hlog, hfirst, -, -⟩
  -- the run would be that of the last task alone, which has no guard
  obtain ⟨rfl, rfl⟩ := List.append_eq_nil_iff.1 hlog.symm
  rw [hnext] at hfirst
  cases hfirst

/-- Without a limit on histories the run comes to its end, and the guard is evaluated once. With one it is
left before the last task, and the new run fails because the guard, which is evaluated once more, is no
boolean by then. -/
theorem restart_breaks_guard :
    Program.compile Kinds.standard ⟨1, true⟩ Shifted.workflow = .ok (Shifted.setting 1).program ∧
      Idle.result (Shifted.host 0 100) =
        some (.inr (0, [("a", .obj [("mode", .bool false)]), ("d", .obj [("mode", .int 5)]),
          ("e", .obj [("y", .int 2)]), ("mode", .int 5), ("y", .int 2)])) ∧
      Idle.result (Shifted.host 1 100) =
        some (.inl (Fault.guardNotBoolean "${ data.mode }" "number").message) := by
  refine ⟨Shifted.compiled 1, ?_, ?_⟩
  · decide +kernel
  · decide +kernel

end Restart

end TaskGraph

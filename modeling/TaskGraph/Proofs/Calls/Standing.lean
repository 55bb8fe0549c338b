import TaskGraph.Proofs.Calls.Orderly
import TaskGraph.Proofs.Host.Bound

/-!
# Strands and their calls

A strand of a host is in the midst of no call, and then there are only whole blocks in the runs that it has
opened; or it is in the midst of one, and then there is a block that is begun in the run of that call
(`Host.Stands`). Whatever a strand is answered, it stands so again (`Host.Stands.asks`), and so it does when
its time comes or its context is cancelled. What other strands do leaves its runs alone
(`Host.leaves_other`).
-/

set_option autoImplicit false

namespace TaskGraph

open Running (Any Result)
open Exchange (written Interrupted written_append interrupted_append)
open Calling (Execution)

namespace History

/-- The events of calls. -/
def calls (h : History) : List HistoryEvent := h.events.toList.filter fun ev => ev.call?.isSome

/-- Whether the run has ended. -/
def ended (h : History) : Bool := h.events.toList.any HistoryEvent.endsRun

theorem calls_record (h : History) (ev : HistoryEvent) :
    (h.record ev).calls = h.calls ++ if ev.call?.isSome then [ev] else [] := by
  unfold calls record
  rw [Array.toList_push, List.filter_append, List.filter_cons, List.filter_nil]

theorem ended_record (h : History) (ev : HistoryEvent) : (h.record ev).ended = (h.ended || ev.endsRun) := by
  unfold ended record
  rw [Array.toList_push, List.any_append, List.any_cons, List.any_nil, Bool.or_false]

end History

namespace Host

variable {α : Type} {h h' : Host α} {R : Nat → Prop}

/-! ## Changes that are beside the point -/

/-- Whether a host is what another one has come to without a word of calls or ends in runs of a kind. -/
structure Spares (R : Nat → Prop) (h h' : Host α) : Prop where
  calls : ∀ run, R run → (h'.history run).calls = (h.history run).calls
  ended : ∀ run, R run → (h'.history run).ended = (h.history run).ended
  size : h.runs.size ≤ h'.runs.size
  cancelled : ∀ c, h.isCancelled c = true → h'.isCancelled c = true

theorem Spares.of_grows {N : Notice → Prop} (hg : h.Grows N HistoryEvent.Quiet h')
    (hcancelled : ∀ c, h.isCancelled c = true → h'.isCancelled c = true) : h.Spares R h' := by
  have hhistory (run : Nat) : (h'.history run).calls = (h.history run).calls ∧
      (h'.history run).ended = (h.history run).ended := by
    obtain ⟨new, hnew, hquiet⟩ := hg.histories run
    unfold History.calls History.ended
    rw [hnew, List.filter_append, List.any_append]
    have hcalls : (new.filter fun ev => ev.call?.isSome) = [] :=
      List.filter_eq_nil_iff.2 fun ev hev => by simp [(hquiet ev hev).1]
    have hends : new.any HistoryEvent.endsRun = false :=
      List.any_eq_false.2 fun ev hev => by simp [(hquiet ev hev).2]
    rw [hcalls, hends, List.append_nil, Bool.or_false]
    exact ⟨rfl, rfl⟩
  exact ⟨fun run _ => (hhistory run).1, fun run _ => (hhistory run).2, hg.runs, hcancelled⟩

theorem Spares.of_runs (hruns : h'.runs = h.runs) (hcancelled : h'.cancelled = h.cancelled) :
    h.Spares R h' := by
  have hhistory (run : Nat) : h'.history run = h.history run := by
    unfold history
    rw [hruns]
  refine ⟨fun run _ => by rw [hhistory], fun run _ => by rw [hhistory], Nat.le_of_eq (by rw [hruns]),
    fun c hc => ?_⟩
  unfold isCancelled at hc ⊢
  rw [hcancelled]
  exact hc

/-- A context that is cancelled stays so, whatever a strand asks for. -/
theorem isCancelled_perform {c : Context} (hc : h.isCancelled c = true) (s : Strand α) (q : Request)
    (next : q.Answer → Dialogue (Ending α)) : (h.perform s q next).isCancelled c = true := by
  by_cases hstop : ∃ branches, q = .stop branches
  · obtain ⟨branches, rfl⟩ := hstop
    exact isCancelled_cancels_of _ hc
  · unfold isCancelled at hc ⊢
    rw [cancelled_perform h s q fun branches heq => hstop ⟨branches, heq⟩]
    exact hc

/-- A turn leaves the runs alone that it does not write an event of a call or an end to. -/
theorem spares_perform (h : Host α) (s : Strand α) (q : Request)
    (next : q.Answer → Dialogue (Ending α))
    (hq : ∀ c ev, q = .record c ev → ev.Quiet ∨ ¬ R c.run) : h.Spares R (h.perform s q next) := by
  have hcancelled (c : Context) (hc : h.isCancelled c = true) := isCancelled_perform hc s q next
  have hgrows (hquiet : ∀ c ev, q = .record c ev → ev.Quiet) : h.Spares R (h.perform s q next) :=
    .of_grows (grows_perform (N := Any) (fun _ _ => trivial) (fun _ => ⟨rfl, rfl⟩) h s q next
      (fun _ _ => trivial) hquiet) hcancelled
  cases q with
  | record c ev =>
    rcases hq c ev rfl with hquiet | hrun
    · refine hgrows fun c' ev' heq => ?_
      cases heq
      exact hquiet
    · have hhistory (run : Nat) (hr : R run) :
          (h.perform s (.record c ev) next).history run = h.history run := by
        refine (history_record h c ev run).trans (if_neg fun heq => hrun ?_)
        rw [heq.1]
        exact hr
      refine ⟨fun run hr => by rw [hhistory run hr], fun run hr => by rw [hhistory run hr], ?_, hcancelled⟩
      exact Nat.le_of_eq (Array.size_modify ..).symm
  | _ => exact hgrows nofun

/-! ## Runs and their calls -/

/-- Whether the calls in the history of a run are those of calls that are over, and then some others. A
wait between the attempts of a call is cut short only where its context is cancelled. -/
def Recorded (e : Setting) (h : Host α) (run : Nat) (rest : List HistoryEvent) : Prop :=
  ∃ xs : List (Execution e), (h.history run).calls = xs.flatMap Execution.events ++ rest ∧
    ∀ x ∈ xs, x.context.run = run ∧ (x.Interrupted → h.isCancelled x.context = true)

/-- Whether runs were opened by a strand, and have not ended. -/
def Holds (k : Kinship) (h : Host α) (i : Nat) (own : List Nat) : Prop :=
  ∀ run ∈ own, run < h.runs.size ∧ k.opener run = i ∧ (h.history run).ended = false

variable {e : Setting} {run : Nat} {rest : List HistoryEvent}

theorem Recorded.spares (hr : h.Recorded e run rest) (hs : h.Spares R h') (hrun : R run) :
    h'.Recorded e run rest := by
  obtain ⟨xs, hcalls, hxs⟩ := hr
  refine ⟨xs, (hs.calls run hrun).trans hcalls, fun x hx => ?_⟩
  exact (hxs x hx).imp_right fun hcut hinterrupted => hs.cancelled _ (hcut hinterrupted)

/-- A run that nothing was written to. -/
theorem recorded_of_empty (hempty : h.history run = .empty) : h.Recorded e run [] :=
  ⟨[], by rw [hempty]; rfl, fun _ hx => absurd hx List.not_mem_nil⟩

/-- A call that comes to its end makes a block of what it has written. -/
theorem Recorded.over {x : Execution e} (hr : h.Recorded e x.context.run x.events)
    (hcut : x.Interrupted → h.isCancelled x.context = true) : h.Recorded e x.context.run [] := by
  obtain ⟨xs, hcalls, hxs⟩ := hr
  refine ⟨xs ++ [x], ?_, fun y hy => ?_⟩
  · rw [hcalls, List.flatMap_append, List.flatMap_singleton, List.append_nil]
  · rcases List.mem_append.1 hy with hy | hy
    · exact hxs y hy
    · obtain rfl := List.mem_singleton.1 hy
      exact ⟨rfl, hcut⟩

/-- An event of a call is written to a run. -/
theorem Recorded.record (hr : h.Recorded e run rest) {c : Context} {ev : HistoryEvent} (hc : c.run = run)
    (hrun : run < h.runs.size) (hev : ev.call?.isSome = true) :
    (h.record c ev).Recorded e run (rest ++ [ev]) := by
  obtain ⟨xs, hcalls, hxs⟩ := hr
  refine ⟨xs, ?_, hxs⟩
  rw [history_record, if_pos ⟨hc, hrun⟩, History.calls_record, if_pos hev, hcalls, List.append_assoc]

end Host

/-! ## Strands in the midst of calls -/

section

variable {α : Type}

/-- Whether a strand in a phase goes on with the answer to a request. -/
inductive Phase.Awaits : (q : Request) → (q.Answer → Dialogue (Ending α)) → Phase α → Prop where
  | ready {q : Request} {next : q.Answer → Dialogue (Ending α)} : Awaits q next (.ready (.ask q next))
  | calling {c : Context} {r : CallRequest} {timeout : Duration}
      {next : Except Fault Json → Dialogue (Ending α)} {due : Option Nat} {result : Except Fault Json} :
      Awaits (.dispatch c r timeout) next (.calling c due r.task result next)
  | pausing {c : Context} {d : Duration} {next : Bool → Dialogue (Ending α)} {due : Nat} :
      Awaits (.pause c d) next (.pausing c due next)

/-- Whether a strand in a phase is in the midst of a call in a context: its requests have been answered
as in a log so far, and the strand goes on with what the call comes to. -/
def Phase.Calls (e : Setting) (c : Context) (log : List Exchange)
    (next : Except Fault Json → Dialogue (Ending α)) (p : Phase α) : Prop :=
  ∃ (r : CallRequest) (q : Request) (k : q.Answer → Dialogue (Except Fault Json)),
    (Calling.perform e c r).run.Plays log (.ask q k) ∧ p.Awaits q fun x => (k x).bind next

/-- Whether some strand of a host is in the midst of a call in a run, and the call has written some
events so far. -/
def Host.Calls (e : Setting) (h : Host α) (run : Nat) (rest : List HistoryEvent) : Prop :=
  ∃ s ∈ h.strands, ∃ c log next, s.phase.Calls e c log next ∧ c.run = run ∧ written log = rest

end

namespace Host

variable {e : Setting} {k k' : Kinship} {h h' : Host RunResult} {s : Strand RunResult} {i j : Nat}
  {p : Phase RunResult} {own : List Nat}

/-- Only the strand that a host was started with ends with the result of the whole. -/
def Fits (i : Nat) (_ : List Nat) (ending : Ending RunResult) : Prop :=
  ∀ v, ending = .result v → i = mainStrand

/-- Whether a strand goes on with its calls in order. -/
def Tends (e : Setting) (k : Kinship) (h : Host RunResult) (i : Nat)
    (code : Dialogue (Ending RunResult)) : Prop :=
  ∃ own, h.Holds k i own ∧ code.Orderly e (Fits i) own

/-- What holds of a strand that is in the midst of no call. -/
structure Idle (e : Setting) (k : Kinship) (h : Host RunResult) (i : Nat) (p : Phase RunResult) :
    Prop where
  leads : p.Leads Any (Tends e k h i)
  recorded : ∀ run, k.opener run = i → h.Recorded e run []

/-- What holds of a strand that is in the midst of a call, but for its phase. -/
structure Performs (e : Setting) (k : Kinship) (h : Host RunResult) (i : Nat) (c : Context)
    (log : List Exchange) (next : Except Fault Json → Dialogue (Ending RunResult)) (own : List Nat) :
    Prop where
  mem : c.run ∈ own
  holds : h.Holds k i own
  onward : ∀ x, (next x).Orderly e (Fits i) own
  cut : Interrupted log → h.isCancelled c = true
  recorded : h.Recorded e c.run (written log)
  others : ∀ run, k.opener run = i → run ≠ c.run → h.Recorded e run []

/-- What holds of each strand. -/
structure Stands (e : Setting) (k : Kinship) (h : Host RunResult) (i j : Nat) (p : Phase RunResult) :
    Prop where
  main : i = mainStrand → j = mainJob
  phase : h.Idle e k i p ∨ ∃ c log next own, p.Calls e c log next ∧ h.Performs e k i c log next own

/-! ### What stays so on another host -/

/-- Whether what a strand of a number has opened is left alone, and the strand opens nothing. -/
structure Leaves (k k' : Kinship) (h h' : Host RunResult) (i : Nat) : Prop where
  spares : h.Spares (fun run => k.opener run = i) h'
  opened : ∀ run, k'.opener run = i → k.opener run = i
  kept : ∀ run < h.runs.size, k.opener run = i → k'.opener run = i

theorem Leaves.of_spares (hs : h.Spares Any h') : Leaves k k h h' i :=
  ⟨⟨fun run _ => hs.calls run trivial, fun run _ => hs.ended run trivial, hs.size, hs.cancelled⟩,
    fun _ => id, fun _ _ => id⟩

theorem Holds.leaves (hown : h.Holds k i own) (hl : Leaves k k' h h' i) : h'.Holds k' i own := by
  intro run hrun
  obtain ⟨hlt, hopener, hended⟩ := hown run hrun
  exact ⟨Nat.lt_of_lt_of_le hlt hl.spares.size, hl.kept run hlt hopener,
    (hl.spares.ended run hopener).trans hended⟩

theorem Performs.leaves {c : Context} {log : List Exchange}
    {next : Except Fault Json → Dialogue (Ending RunResult)} (hp : h.Performs e k i c log next own)
    (hl : Leaves k k' h h' i) : h'.Performs e k' i c log next own where
  mem := hp.mem
  holds := hp.holds.leaves hl
  onward := hp.onward
  cut hcut := hl.spares.cancelled c (hp.cut hcut)
  recorded := hp.recorded.spares hl.spares (hp.holds c.run hp.mem).2.1
  others run hrun hne := (hp.others run (hl.opened run hrun) hne).spares hl.spares (hl.opened run hrun)

theorem Stands.leaves (hst : h.Stands e k i j p) (hl : Leaves k k' h h' i) : h'.Stands e k' i j p where
  main := hst.main
  phase := by
    rcases hst.phase with hidle | ⟨c, log, next, own, hcalls, hp⟩
    · refine .inl ⟨hidle.leads.mono fun code ⟨own, hown, hcode⟩ => ⟨own, hown.leaves hl, hcode⟩, ?_⟩
      exact fun run hrun => (hidle.recorded run (hl.opened run hrun)).spares hl.spares (hl.opened run hrun)
    · exact .inr ⟨c, log, next, own, hcalls, hp.leaves hl⟩

/-! ### How a strand goes on -/

section

variable {c : Context} {r : CallRequest} {log : List Exchange}
  {next : Except Fault Json → Dialogue (Ending RunResult)}

/-- Another request of the call, which writes nothing, is answered. -/
theorem Performs.snoc (hp : h.Performs e k i c log next own) {x : Exchange} (hevent : x.event? = none)
    (hcut : x.cut = false ∨ h.isCancelled c = true) :
    h.Performs e k i c (log ++ [x]) next own where
  mem := hp.mem
  holds := hp.holds
  onward := hp.onward
  cut hinterrupted := by
    rcases interrupted_append.1 hinterrupted with hinterrupted | ⟨y, hy, hycut⟩
    · exact hp.cut hinterrupted
    · obtain rfl := List.mem_singleton.1 hy
      exact hcut.resolve_left fun huncut => nomatch huncut.symm.trans hycut
  recorded := by
    have hwritten : written [x] = [] := by simp [written, hevent]
    rw [written_append, hwritten, List.append_nil]
    exact hp.recorded
  others := hp.others

/-- A strand goes on with its call, or, when that has come to its end, from there. -/
theorem Performs.goesOn (hp : h.Performs e k i c log next own) (hmain : i = mainStrand → j = mainJob)
    {d : Dialogue (Except Fault Json)} (hplays : (Calling.perform e c r).run.Plays log d) :
    h.Stands e k i j (.ready (d.bind next)) where
  main := hmain
  phase := by
    cases d with
    | ask q k => exact .inr ⟨c, log, next, own, ⟨r, q, k, hplays, .ready⟩, hp⟩
    | done result =>
      refine .inl ⟨⟨own, hp.holds, hp.onward result⟩, fun run hrun => ?_⟩
      by_cases heq : run = c.run
      · subst heq
        exact Recorded.over (x := ⟨c, r, log, result, hplays⟩) hp.recorded hp.cut
      · exact hp.others run hrun heq

end

/-- A strand that waits for detached graphs is in the midst of no call. -/
theorem Stands.look {c : Context} {due : Nat} {next : Except Fault Unit → Dialogue (Ending RunResult)}
    (hst : h.Stands e k i j (.settling c due next)) (done : Prop) :
    (done → h.Stands e k i j (.ready (next (.ok ())))) ∧
      ∀ due', h.Stands e k i j (.settling c due' next) := by
  rcases hst.phase with hidle | ⟨_, _, _, _, ⟨_, _, _, _, hawaits⟩, _⟩
  · exact ⟨fun _ => ⟨hst.main, .inl ⟨hidle.leads _, hidle.recorded⟩⟩,
      fun _ => ⟨hst.main, .inl ⟨hidle.leads, hidle.recorded⟩⟩⟩
  · cases hawaits

/-- A strand is cut short where its context is cancelled. -/
theorem Stands.cut (hst : h.Stands e k i j p) {c : Context} {code : Dialogue (Ending RunResult)}
    (hint : interrupted p = some (c, code)) (hc : h.isCancelled c = true) :
    h.Stands e k i j (.ready code) := by
  rcases hst.phase with hidle | ⟨c', log, next, own, ⟨r, q, k', hplays, hawaits⟩, hp⟩
  · exact ⟨hst.main, .inl ⟨hidle.leads.of_interrupted (fun _ => trivial) hint, hidle.recorded⟩⟩
  · have hallowed := (Calling.heeds_perform e c' r).allows hplays
    cases hawaits with
    | ready => cases hint
    | calling =>
      cases hint
      exact (hp.snoc rfl (.inl rfl)).goesOn hst.main (hplays.snoc _)
    | pausing =>
      cases hint
      obtain rfl : c = c' := hallowed
      exact (hp.snoc rfl (.inr hc)).goesOn hst.main (hplays.snoc _)

/-- A strand whose time has come goes on. -/
theorem Stands.paused {c : Context} {due : Nat} {next : Bool → Dialogue (Ending RunResult)}
    (hst : h.Stands e k i j (.pausing c due next)) : h.Stands e k i j (.ready (next true)) := by
  rcases hst.phase with hidle | ⟨c', log, next', own, ⟨r, q, k', hplays, hawaits⟩, hp⟩
  · exact ⟨hst.main, .inl ⟨hidle.leads _, hidle.recorded⟩⟩
  · cases hawaits
    exact (hp.snoc rfl (.inl rfl)).goesOn hst.main (hplays.snoc _)

theorem Stands.called {c : Context} {due : Option Nat} {task : String} {result : Except Fault Json}
    {next : Except Fault Json → Dialogue (Ending RunResult)}
    (hst : h.Stands e k i j (.calling c due task result next)) :
    h.Stands e k i j (.ready (next result)) := by
  rcases hst.phase with hidle | ⟨c', log, next', own, ⟨r, q, k', hplays, hawaits⟩, hp⟩
  · exact ⟨hst.main, .inl ⟨hidle.leads.2 _ hidle.leads.1, hidle.recorded⟩⟩
  · cases hawaits
    exact (hp.snoc rfl (.inl rfl)).goesOn hst.main (hplays.snoc _)

/-- A strand that is in the midst of no call goes on with what it waits for. -/
theorem Stands.of_idle (hst : h.Stands e k i j p) (hp : ∀ q next, ¬ p.Awaits q next)
    {p' : Phase RunResult} (himp : p.Leads Any (Tends e k h i) → p'.Leads Any (Tends e k h i)) :
    h.Stands e k i j p' := by
  rcases hst.phase with hidle | ⟨_, _, _, _, ⟨_, _, _, _, hawaits⟩, _⟩
  · exact ⟨hst.main, .inl ⟨himp hidle.leads, hidle.recorded⟩⟩
  · exact absurd hawaits (hp _ _)

/-- A strand takes signals from the board. -/
theorem Stands.receive (hst : h.Stands e k i j p) {b b' : Board} {c : Context} {taken : List String}
    {p' : Phase RunResult} (hp : Host.receive b p = some (c, taken, b', p')) : h.Stands e k i j p' := by
  refine hst.of_idle (fun q next hawaits => ?_) fun hleads => hleads.of_receive hp
  cases hawaits <;> cases hp

/-! ### Turns -/

section

variable (k h) (s : Strand RunResult) (q : Request) (next : q.Answer → Dialogue (Ending RunResult))

/-- A turn of another strand leaves what a strand has opened alone. -/
theorem leaves_other (hi : i ≠ s.id)
    (hq : ∀ c ev, q = .record c ev → ev.Quiet ∨ k.opener c.run = s.id) :
    Leaves k (k.after h s q) h (h.perform s q next) i where
  spares := spares_perform h s q next fun c ev heq =>
    (hq c ev heq).imp_right fun hopener hrun => hi (hrun.symm.trans hopener)
  opened run hrun := by
    cases q with
    | fresh c =>
      by_cases hsize : run = h.runs.size
      · exact absurd ((if_pos hsize).symm.trans hrun).symm hi
      · exact (if_neg hsize).symm.trans hrun
    | _ => exact hrun
  kept run hrun hopener := ((k.extends_after h s q).opener run hrun).trans hopener

/-- A turn in which nothing is written and no run is opened leaves all alone. -/
theorem leaves_perform (hrecord : ∀ c ev, q ≠ .record c ev) (hfresh : ∀ c, q ≠ .fresh c) :
    Leaves k (k.after h s q) h (h.perform s q next) i where
  spares := spares_perform h s q next fun c ev heq => absurd heq (hrecord c ev)
  opened run hrun := by
    cases q with
    | fresh c => exact absurd rfl (hfresh c)
    | _ => exact hrun
  kept run hrun hopener := ((k.extends_after h s q).opener run hrun).trans hopener

end

section

variable {q : Request} {next : q.Answer → Dialogue (Ending RunResult)}

/-- Whether a host gives an answer, as far as it is known: a fresh run has the next number. -/
def Gives (h : Host RunResult) : (q : Request) → q.Answer → Prop
  | .fresh c, inner => inner = ⟨h.runs.size, c.scopes⟩
  | _, _ => True

theorem history_fresh (h : Host RunResult) (s : Strand RunResult) (c : Context)
    (next : Context → Dialogue (Ending RunResult)) (run : Nat) :
    (h.perform s (.fresh c) next).history run = h.history run := by
  have hopened : (h.perform s (.fresh c) next).history run = (h.open_ c).2.history run := rfl
  rw [hopened, history_eq, history_eq, open_, Array.getElem?_push]
  split
  · next hrun => simp [hrun]
  · rfl

theorem history_unopened {run : Nat} (hrun : h.runs.size ≤ run) : h.history run = .empty := by
  rw [history_eq, Array.getElem?_eq_none hrun]
  rfl

/-- The runs that a strand has open after an answer. -/
theorem Holds.answered (hown : h.Holds k s.id own) {x : q.Answer} (hx : h.Gives q x) :
    (h.perform s q next).Holds (k.after h s q) s.id (q.opened own x) := by
  -- only two requests change which runs a strand has open: one that ends a run and one that opens
  -- one
  by_cases hrecord : ∃ c ev, q = .record c ev
  · obtain ⟨c, ev, rfl⟩ := hrecord
    intro run hrun
    obtain ⟨hmem, hne⟩ := Request.mem_opened_record.1 hrun
    obtain ⟨hlt, hopener, hended⟩ := hown run hmem
    refine ⟨(Array.size_modify ..).symm ▸ hlt, hopener, ?_⟩
    show ((h.record c ev).history run).ended = false
    rw [history_record]
    split
    · next heq =>
      have hends : ev.endsRun = false := Bool.eq_false_iff.2 fun hends => hne hends heq.1.symm
      rw [History.ended_record, hended, hends]
      rfl
    · exact hended
  · by_cases hfresh : ∃ c, q = .fresh c
    · obtain ⟨c, rfl⟩ := hfresh
      obtain rfl := hx
      intro run hrun
      rw [history_fresh]
      have hsize : (h.perform s (.fresh c) next).runs.size = h.runs.size + 1 := Array.size_push _
      rw [hsize]
      rcases List.mem_cons.1 hrun with rfl | hmem
      · refine ⟨Nat.lt_succ_self _, if_pos rfl, ?_⟩
        rw [history_unopened (Nat.le_refl _)]
        rfl
      · obtain ⟨hlt, hopener, hended⟩ := hown run hmem
        exact ⟨Nat.lt_succ_of_lt hlt, (if_neg (Nat.ne_of_lt hlt)).trans hopener, hended⟩
    · have hrecord (c : Context) (ev : HistoryEvent) (heq : q = .record c ev) : False :=
        hrecord ⟨c, ev, heq⟩
      have hfresh (c : Context) (heq : q = .fresh c) : False := hfresh ⟨c, heq⟩
      rw [Request.opened_of_ne hrecord hfresh]
      exact hown.leaves (leaves_perform k h s q next hrecord hfresh)

/-- A turn outside of calls writes nothing of calls. -/
theorem recorded_answered (hidle : ∀ run, k.opener run = s.id → h.Recorded e run [])
    (hq : q.Aside own) (run : Nat) (hrun : (k.after h s q).opener run = s.id) :
    (h.perform s q next).Recorded e run [] := by
  by_cases hrecord : ∃ c ev, q = .record c ev
  · obtain ⟨c, ev, rfl⟩ := hrecord
    obtain ⟨xs, hcalls, hxs⟩ := hidle run hrun
    refine ⟨xs, ?_, hxs⟩
    show ((h.record c ev).history run).calls = _
    rw [history_record]
    split
    -- outside of calls the entry is of no call, so the blocks of the history are as before
    · rw [History.calls_record, hq.1, hcalls]
      exact List.append_nil _
    · exact hcalls
  · by_cases hfresh : ∃ c, q = .fresh c
    · obtain ⟨c, rfl⟩ := hfresh
      by_cases hsize : run = h.runs.size
      · refine recorded_of_empty ?_
        rw [history_fresh, history_unopened (Nat.le_of_eq hsize.symm)]
      · have hopener : k.opener run = s.id := (if_neg hsize).symm.trans hrun
        obtain ⟨xs, hcalls, hxs⟩ := hidle run hopener
        exact ⟨xs, (history_fresh ..).symm ▸ hcalls, hxs⟩
    · have hl := leaves_perform (i := s.id) k h s q next (fun c ev heq => hrecord ⟨c, ev, heq⟩)
        fun c heq => hfresh ⟨c, heq⟩
      exact (hidle run (hl.opened run hrun)).spares hl.spares (hl.opened run hrun)

/-- A strand that makes a request outside of its calls. -/
theorem leads_aside (hmain : s.id = mainStrand → s.job = mainJob)
    (hidle : ∀ run, k.opener run = s.id → h.Recorded e run []) (hown : h.Holds k s.id own)
    (hq : q.Aside own) (hnext : ∀ x, (next x).Orderly e (Fits s.id) (q.opened own x)) :
    h.Leads e Any ((h.perform s q next).Stands e (k.after h s q) s.id s.job) q next := by
  have htends (x : q.Answer) (hx : h.Gives q x) :
      (h.perform s q next).Tends e (k.after h s q) s.id (next x) :=
    ⟨_, hown.answered hx, hnext x⟩
  refine Leads.mono (leads_of_serves ?_) fun p hp => ⟨hmain, .inl ⟨hp, recorded_answered hidle hq⟩⟩
  cases q with
  | fresh c => exact htends _ rfl
  | enter c g input scope =>
    refine ⟨own, hown.answered (q := .enter c g input scope) (x := .error (.cancelled "")) trivial, ?_⟩
    refine Dialogue.Orderly.bind (Calling.orderly_graph hq g input scope) fun own' x ⟨hown', _⟩ => ?_
    exact (hnext x).weaken (fun _ _ _ _ hfits => hfits) hown'
  | _ => exact fun x _ => htends x trivial

/-- A strand that makes a request of its call. -/
theorem leads_call (hmain : s.id = mainStrand → s.job = mainJob) {c : Context} {r : CallRequest}
    {log : List Exchange} {onward : Except Fault Json → Dialogue (Ending RunResult)}
    (hp : h.Performs e k s.id c log onward own) {next : q.Answer → Dialogue (Except Fault Json)}
    (hplays : (Calling.perform e c r).run.Plays log (.ask q next)) :
    h.Leads e Any ((h.perform s q fun x => (next x).bind onward).Stands e (k.after h s q) s.id s.job) q
      fun x => (next x).bind onward := by
  have hallowed := (Calling.heeds_perform e c r).allows hplays
  cases q with
  -- an entry of the call: it goes to the run of the call alone and does not end it
  | record c' ev =>
    obtain ⟨rfl, hcall⟩ := hallowed
    obtain ⟨hlt, hopener, -⟩ := hp.holds c'.run hp.mem
    have hends : ev.endsRun = false := by
      cases ev with
      | runCompleted | runFailed | continuedAsNew => cases hcall
      | _ => rfl
    have hnoted (x : Unit) : (h.perform s (.record c' ev) fun x => (next x).bind onward).Performs e
        (k.after h s (.record c' ev)) s.id c' (log ++ [⟨.record c' ev, x⟩]) onward own := by
      refine ⟨hp.mem, fun run hrun => ?_, hp.onward, fun hcut => ?_, ?_, fun run hrun hne => ?_⟩
      · obtain ⟨hlt, hopener, hended⟩ := hp.holds run hrun
        refine ⟨(Array.size_modify ..).symm ▸ hlt, hopener, ?_⟩
        show ((h.record c' ev).history run).ended = false
        rw [history_record]
        split
        · rw [History.ended_record, hended, hends]
          rfl
        · exact hended
      · rcases interrupted_append.1 hcut with hcut | ⟨y, hy, hycut⟩
        · exact hp.cut hcut
        · obtain rfl := List.mem_singleton.1 hy
          cases hycut
      · rw [written_append]
        exact hp.recorded.record rfl hlt hcall
      · refine (hp.others run hrun hne).spares (R := fun run => run ≠ c'.run)
          (spares_perform h s _ _ fun c ev heq => .inr fun hrun => ?_) hne
        cases heq
        exact hrun rfl
    exact fun x _ => (hnoted x).goesOn hmain (hplays.snoc x)
  -- until the handler answers, the strand waits in its call
  | dispatch c' r' timeout =>
    have hl := leaves_perform (i := s.id) k h s (.dispatch c' r' timeout)
      (fun x => (next x).bind onward) nofun nofun
    have hp := hp.leaves hl
    refine fun x _ => ⟨(hp.snoc rfl (.inl rfl)).goesOn hmain (hplays.snoc x), fun due => ⟨hmain, ?_⟩⟩
    exact .inr ⟨c, log, onward, own, ⟨r, _, next, hplays, .calling⟩, hp⟩
  -- between two tries: the pause is over, or it is cut short because the context is cancelled by
  -- then
  | pause c' d =>
    obtain rfl : c' = c := hallowed
    have hl := leaves_perform (i := s.id) k h s (.pause c' d) (fun x => (next x).bind onward) nofun nofun
    have hp := hp.leaves hl
    refine ⟨fun hc => ?_, (hp.snoc rfl (.inl rfl)).goesOn hmain (hplays.snoc true), fun due => ⟨hmain, ?_⟩⟩
    · exact (hp.snoc rfl (.inr (isCancelled_perform hc ..))).goesOn hmain (hplays.snoc false)
    · exact .inr ⟨c', log, onward, own, ⟨r, _, next, hplays, .pausing⟩, hp⟩
  | _ => exact absurd hallowed id

/-- A strand that offers a call begins it, unless it is answered outright. -/
theorem leads_offer (hmain : s.id = mainStrand → s.job = mainJob)
    (hidle : ∀ run, k.opener run = s.id → h.Recorded e run []) (hown : h.Holds k s.id own)
    {c : Context} {r : CallRequest} {onward : Except Fault Json → Dialogue (Ending RunResult)}
    {next : Option (Except Fault Json) → Dialogue (Ending RunResult)} (hc : c.run ∈ own)
    (hnone : next none = (Calling.perform e c r).run.bind onward)
    (hsome : ∀ x, (next (some x)).Orderly e (Fits s.id) own)
    (honward : ∀ x, (onward x).Orderly e (Fits s.id) own) :
    h.Leads e Any ((h.perform s (.offer r) next).Stands e (k.after h s (.offer r)) s.id s.job)
      (.offer r) next := by
  have hl := leaves_perform (i := s.id) k h s (.offer r) next nofun nofun
  have hholds := hown.leaves hl
  have hrecorded (run : Nat) (hrun : k.opener run = s.id) :=
    (hidle run hrun).spares hl.spares hrun
  have hstands {p : Phase RunResult}
      (hp : p.Leads Any (Tends e (k.after h s (.offer r)) (h.perform s (.offer r) next) s.id)) :
      (h.perform s (.offer r) next).Stands e (k.after h s (.offer r)) s.id s.job p :=
    ⟨hmain, .inl ⟨hp, hrecorded⟩⟩
  refine ⟨?_, fun x hx => ?_⟩
  -- nothing has been written of the call when it begins
  · have hbegun : (h.perform s (.offer r) next).Performs e (k.after h s (.offer r)) s.id c [] onward own :=
      ⟨hc, hholds, honward, fun ⟨_, hx, _⟩ => absurd hx List.not_mem_nil,
        hrecorded c.run (hown c.run hc).2.1, fun run hrun _ => hrecorded run hrun⟩
    rw [hnone]
    exact hbegun.goesOn hmain (.refl _)
  · have htends (x : Except Fault Json) : Tends e (k.after h s (.offer r))
        (h.perform s (.offer r) next) s.id (next (some x)) := ⟨own, hholds, hsome x⟩
    exact ⟨hstands (htends x), fun _ => hstands (htends x), hstands ⟨hx, fun y _ => htends y⟩⟩

end

/-- A strand that makes a request goes on as it should, and writes of calls and ends only to runs that it
has opened. -/
theorem Stands.asks {q : Request} {next : q.Answer → Dialogue (Ending RunResult)}
    (hst : h.Stands e k s.id s.job (.ready (.ask q next))) :
    h.Leads e Any ((h.perform s q next).Stands e (k.after h s q) s.id s.job) q next ∧
      ∀ c ev, q = .record c ev → ev.Quiet ∨ k.opener c.run = s.id := by
  rcases hst.phase with ⟨⟨own, hown, hcode⟩, hidle⟩ | ⟨c, log, onward, own, ⟨r, _, _, hplays, hawaits⟩, hp⟩
  · cases hcode with
    | ask hq hnext =>
      refine ⟨leads_aside hst.main hidle hown hq hnext, ?_⟩
      rintro c ev rfl
      cases hends : ev.endsRun with
      | false => exact .inl ⟨hq.1, hends⟩
      | true => exact .inr (hown c.run (hq.2 hends)).2.1
    | call c onward hc hnone hsome honward =>
      exact ⟨leads_offer hst.main hidle hown hc hnone hsome honward, nofun⟩
  · have hallowed := (Calling.heeds_perform e c r).allows hplays
    cases hawaits with
    | ready =>
      refine ⟨leads_call hst.main hp hplays, ?_⟩
      rintro c' ev rfl
      obtain ⟨rfl, -⟩ := hallowed
      exact .inr (hp.holds c'.run hp.mem).2.1

end Host

end TaskGraph

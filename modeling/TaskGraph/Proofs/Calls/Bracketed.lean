import TaskGraph.Proofs.Calls.Standing
import TaskGraph.Proofs.Host.Awake
import TaskGraph.Proofs.Host.Tally

/-!
# The calls of a history

A run is called in by the strand that has opened it only, and that strand performs its calls in order. So
on every host that a run of a program comes to, the events of calls in a history are the blocks of calls
that are over, and after them at most what a call has written that some strand is in the midst of; a run
that has ended has no such call (`Host.calls_of_reaches`).

What is kept up is `Host.Bracketed`: every strand stands as it should, and one that is gone has left nothing
but blocks, unless the whole was given up because its time was over.
-/

set_option autoImplicit false

namespace TaskGraph

open Running (Any Result)
open Exchange (written)
open Calling (Execution)

namespace Host

variable {e : Setting} {k k' : Kinship} {h h' : Host RunResult} {s : Strand RunResult}

/-- Whether the whole was given up because its time was over. -/
def GivenUp (h : Host RunResult) : Prop := ∃ workflow ms, h.result = some (.error (.runTimeout workflow ms))

/-- What holds of a host, with the strands that have opened its runs. -/
structure Bracketed (e : Setting) (k : Kinship) (h : Host RunResult) : Prop where
  bound : Bound (Pact.free e.program) k h
  awake : h.Awake
  opener : ∀ run, k.opener run < h.fresh
  strands : h.Every (Stands e k h)
  gone : ∀ run, k.opener run ∉ h.ids → ∃ rest, h.Recorded e run rest ∧
    (rest ≠ [] → (h.history run).ended = false ∧ h.GivenUp)
  deadline : ∀ t v, h.deadline = some (t, v) → ∃ workflow ms, v = .error (.runTimeout workflow ms)
  result : h.result.isSome = true → mainStrand ∉ h.ids

namespace Bracketed

/-- A change that is beside the point of calls, if the strands that are left stand as they should. -/
theorem spares (hb : h.Bracketed e k) (hbound : Bound (Pact.free e.program) k h') (hawake : h'.Awake)
    (hs : h.Spares Any h') (hfresh : h.fresh ≤ h'.fresh) (hids : ∀ id, id ∈ h'.ids ↔ id ∈ h.ids)
    (hdeadline : ∀ t v, h'.deadline = some (t, v) → ∃ workflow ms, v = .error (.runTimeout workflow ms))
    (hresult : h'.result = h.result) (hstrands : h.Every (Stands e k h') → h'.Every (Stands e k h')) :
    h'.Bracketed e k where
  bound := hbound
  awake := hawake
  opener run := Nat.lt_of_lt_of_le (hb.opener run) hfresh
  strands := hstrands (hb.strands.mono fun _ _ _ hst => hst.leaves (.of_spares hs))
  gone run hrun := by
    obtain ⟨rest, hr, hrest⟩ := hb.gone run fun hid => hrun ((hids _).2 hid)
    refine ⟨rest, hr.spares hs trivial, fun hne => ?_⟩
    obtain ⟨hended, workflow, ms, hgiven⟩ := hrest hne
    exact ⟨(hs.ended run trivial).trans hended, workflow, ms, hresult.trans hgiven⟩
  deadline := hdeadline
  result hr := by
    rw [hids]
    exact hb.result (hresult ▸ hr)

/-- The same if strands, runs and what is cancelled are as they were. -/
theorem same (hb : h.Bracketed e k) (hbound : Bound (Pact.free e.program) k h') (hawake : h'.Awake)
    (hstrands : h'.strands = h.strands) (hruns : h'.runs = h.runs)
    (hcancelled : h'.cancelled = h.cancelled) (hfresh : h'.fresh = h.fresh)
    (hdeadline : ∀ t v, h'.deadline = some (t, v) → ∃ workflow ms, v = .error (.runTimeout workflow ms))
    (hresult : h'.result = h.result) : h'.Bracketed e k := by
  refine hb.spares hbound hawake (.of_runs hruns hcancelled) (Nat.le_of_eq hfresh.symm) (fun id => ?_)
    hdeadline hresult fun hst => hst.of_strands hstrands
  unfold ids
  rw [hstrands]

/-! ### Turns -/

/-- A strand that is added is in the midst of no call, and has opened no run. -/
theorem born (hb : h.Bracketed e k) {id : Nat} (hid : h.fresh ≤ id) (hopener : k'.opener = k.opener)
    {code : Dialogue (Ending RunResult)} (hcode : code.Orderly e (Fits id) []) (job : Nat) :
    h'.Stands e k' id job (.ready code) := by
  have hmain : mainStrand < h.fresh := Nat.lt_of_le_of_lt (Nat.zero_le _) (hb.opener 0)
  refine ⟨fun heq => absurd (heq ▸ hid) (Nat.not_le_of_gt hmain), .inl ⟨⟨[], nofun, hcode⟩, ?_⟩⟩
  intro run hrun
  rw [hopener] at hrun
  exact absurd (hrun ▸ hb.opener run) (Nat.not_lt_of_ge hid)

/-- A strand that asks for something. -/
theorem perform (hb : h.Bracketed e k) (hs : s ∈ h.strands) {q : Request}
    {next : q.Answer → Dialogue (Ending RunResult)} (hphase : s.phase = .ready (.ask q next)) :
    (h.perform s q next).Bracketed e (k.after h s q) := by
  have hst := hb.strands s hs
  rw [hphase] at hst
  obtain ⟨hnext, hwrites⟩ := hst.asks
  -- the strand writes of calls to runs of its own alone, so the other strands stand as they did
  have hothers : h.Every fun i j p => i ≠ s.id → (h.perform s q next).Stands e (k.after h s q) i j p :=
    fun t ht hne => (hb.strands t ht).leaves (leaves_other k h s q next hne hwrites)
  -- a strand that is added has a new number, and so has opened no run yet
  have hborn {id : Nat} (hid : h.fresh ≤ id) {code : Dialogue (Ending RunResult)}
      (hcode : code.Orderly e (Fits id) []) (job : Nat) (hopener : (k.after h s q).opener = k.opener) :
      (h.perform s q next).Stands e (k.after h s q) id job (.ready code) :=
    hb.born hid hopener hcode job
  obtain ⟨new, hadds, -⟩ := adds_perform hb.bound.numbered hs q next
  have hmem (id : Nat) (hid : id ∈ h.ids) : id ∈ (h.perform s q next).ids :=
    hadds.ids.mem_iff.2 (List.mem_append_left _ hid)
  have hgrows : Grows Any Any h (h.perform s q next) :=
    grows_perform (fun _ _ => trivial) (fun _ => trivial) h s q next (fun _ _ => trivial) fun _ _ _ => trivial
  refine ⟨hb.bound.perform hs hphase, hb.awake.perform hb.bound.numbered s q next, fun run => ?_, ?_,
    fun run hrun => ?_, fun t v hv => hb.deadline t v (hgrows.deadline ▸ hv), fun hr hid => ?_⟩
  -- only a request for a fresh run opens one, and the strand that asks for it is an old one
  · refine Nat.lt_of_lt_of_le ?_ hgrows.fresh
    cases q with
    | fresh c =>
      show (if run = h.runs.size then s.id else k.opener run) < h.fresh
      split
      · exact hb.bound.lt_fresh hs
      · exact hb.opener run
    | _ => exact hb.opener run
  · refine every_serve (fun _ _ => trivial) hothers hb.bound.setting hb.bound.around
      (fun i j c due next _ hst => hst.look _) (fun i j p c code _ hst hint hc => hst.cut hint hc)
      ?_ ?_ hnext
    · rintro c graphs input scope rfl name - scopes id hid
      refine hborn hid ?_ _ rfl
      exact Dialogue.Orderly.bind (Calling.orderly_runGraph name input scope) fun _ _ _ => .done nofun
    · rintro c name input scope rfl
      refine hborn (Nat.le_refl _) ?_ _ rfl
      exact Dialogue.Orderly.bind (Calling.orderly_graphOutput name input scope) fun _ _ _ => .done nofun
  · -- a strand that is gone has opened no run since
    have hgone : k.opener run ∉ h.ids := by
      intro hid
      refine hrun ?_
      cases q with
      | fresh c =>
        show (if run = h.runs.size then s.id else k.opener run) ∈ _
        split
        · exact hmem _ (mem_ids.2 ⟨s, hs, rfl⟩)
        · exact hmem _ hid
      | _ => exact hmem _ hid
    have hne : k.opener run ≠ s.id := fun heq => hgone (heq ▸ mem_ids.2 ⟨s, hs, rfl⟩)
    have hspares := spares_perform (R := fun run => k.opener run ≠ s.id) h s q next fun c ev heq =>
      (hwrites c ev heq).imp_right not_not_intro
    obtain ⟨rest, hr, hrest⟩ := hb.gone run hgone
    refine ⟨rest, hr.spares hspares hne, fun hnonempty => ?_⟩
    obtain ⟨hended, workflow, ms, hgiven⟩ := hrest hnonempty
    exact ⟨(hspares.ended run hne).trans hended, workflow, ms, hgrows.result.trans hgiven⟩
  · rcases List.mem_append.1 (hadds.ids.mem_iff.1 hid) with hold | hnew
    · exact hb.result (hgrows.result ▸ hr) hold
    · have hle := (hadds.fresh _ hnew).1
      exact Nat.not_lt_of_ge hle (Nat.lt_of_le_of_lt (Nat.zero_le _) (hb.opener 0))

/-- A strand that has ended writes nothing. -/
theorem spares_conclude (h : Host RunResult) (s : Strand RunResult) (ending : Ending RunResult) :
    h.Spares Any (h.conclude s ending) := by
  by_cases hresult : ∃ v, ending = .result v
  · obtain ⟨v, rfl⟩ := hresult
    exact .of_runs rfl rfl
  · refine .of_grows (N := Any) (grows_conclude h s fun v heq => hresult ⟨v, heq⟩) fun c hc => ?_
    unfold isCancelled at hc ⊢
    rw [cancelled_conclude]
    exact hc

/-- A strand that has ended leaves nothing but blocks. -/
theorem conclude (hb : h.Bracketed e k) (hs : s ∈ h.strands) {ending : Ending RunResult}
    (hphase : s.phase = .ready (.done ending)) : (h.conclude s ending).Bracketed e k := by
  have hst := hb.strands s hs
  rw [hphase] at hst
  -- a strand that has ended is at no call
  have hidle : h.Idle e k s.id (.ready (.done ending)) := by
    refine hst.phase.resolve_right ?_
    rintro ⟨_, _, _, _, ⟨_, _, _, _, hawaits⟩, _⟩
    cases hawaits
  have hfits : ∀ v, ending = .result v → s.id = mainStrand := by
    obtain ⟨own, -, hfits⟩ := hidle.leads
    cases hfits
    assumption
  have hspares := spares_conclude h s ending
  have hids (id : Nat) : id ∈ (h.conclude s ending).ids ↔ id ∈ h.ids ∧ id ≠ s.id := by
    rw [ids_conclude, List.mem_filter]
    simp
  -- a strand that is woken by the reply was waiting for it, and so at no call either
  have hstrands : (h.conclude s ending).Every (Stands e k (h.conclude s ending)) := by
    refine every_conclude (fun reply branch _ i j next hst => ?_) fun t ht _ =>
      (hb.strands t ht).leaves (.of_spares hspares)
    exact hst.of_idle (fun _ _ hawaits => nomatch hawaits) fun hleads => hleads _ (Running.result_any _)
  have hkept (hne : ∀ v, ending ≠ .result v) : Grows Any Any h (h.conclude s ending) :=
    grows_conclude h s hne
  refine ⟨hb.bound.conclude hs hphase, hb.awake.conclude ending,
    fun run => Nat.lt_of_lt_of_le (hb.opener run) (later_conclude h s ending).fresh, hstrands,
    fun run hrun => ?_, fun t v hv => ?_, fun hr hid => ?_⟩
  · by_cases heq : k.opener run = s.id
    · exact ⟨[], (hidle.recorded run heq).spares hspares trivial, fun hne => absurd rfl hne⟩
    · obtain ⟨rest, hr, hrest⟩ := hb.gone run fun hid => hrun ((hids _).2 ⟨hid, heq⟩)
      refine ⟨rest, hr.spares hspares trivial, fun hnonempty => ?_⟩
      obtain ⟨hended, workflow, ms, hgiven⟩ := hrest hnonempty
      have hne (v : RunResult) : ending ≠ .result v := by
        rintro rfl
        exact hb.result (hgiven ▸ rfl) (hfits v rfl ▸ mem_ids.2 ⟨s, hs, rfl⟩)
      exact ⟨(hspares.ended run trivial).trans hended, workflow, ms, (hkept hne).result.trans hgiven⟩
  · cases ending with
    | result v => exact hb.deadline t _ hv
    | branch | detached => exact hb.deadline t _ ((hkept nofun).deadline ▸ hv)
  · obtain ⟨hleft, hne⟩ := (hids _).1 hid
    cases ending with
    | result v => exact hne (hfits v rfl).symm
    | branch | detached => exact hb.result ((hkept nofun).result ▸ hr) hleft

theorem stepStrand (hb : h.Bracketed e k) (hs : s ∈ h.strands)
    (hready : ∃ code, s.phase = .ready code) : ∃ k', (h.stepStrand s).Bracketed e k' := by
  obtain ⟨code, hphase⟩ := hready
  have hturned : (h.turned s).Bracketed e k :=
    hb.same (hb.bound.of_core rfl hb.bound.strands (.refl _))
      (hb.awake.turned hs hb.bound.numbered.nodup hphase) rfl rfl rfl rfl hb.deadline rfl
  unfold Host.stepStrand
  rw [hphase]
  cases code with
  | done ending => exact ⟨k, hturned.conclude hs hphase⟩
  | ask q next => exact ⟨_, hturned.perform hs hphase⟩

/-! ### Appointments -/

/-- What is written in the history of a run: blocks, and what a call has written so far that is not over,
unless the run has ended. -/
theorem recorded (hb : h.Bracketed e k) (run : Nat) :
    ∃ rest, h.Recorded e run rest ∧
      (rest ≠ [] → (h.history run).ended = false ∧ (h.GivenUp ∨ h.Calls e run rest)) := by
  by_cases hid : k.opener run ∈ h.ids
  · obtain ⟨s, hs, hopener⟩ := mem_ids.1 hid
    rcases (hb.strands s hs).phase with hidle | ⟨c, log, next, own, hcalls, hp⟩
    · exact ⟨[], hidle.recorded run hopener.symm, fun hne => absurd rfl hne⟩
    · by_cases heq : run = c.run
      · subst heq
        exact ⟨_, hp.recorded, fun _ => ⟨(hp.holds c.run hp.mem).2.2,
          .inr ⟨s, hs, c, log, next, hcalls, rfl, rfl⟩⟩⟩
      · exact ⟨[], hp.others run hopener.symm heq, fun hne => absurd rfl hne⟩
  · obtain ⟨rest, hr, hrest⟩ := hb.gone run hid
    exact ⟨rest, hr, fun hne => (hrest hne).imp_right .inl⟩

/-- A change in which nothing of calls or ends is written. -/
theorem grows (hb : h.Bracketed e k) (hbound : Bound (Pact.free e.program) k h') (hawake : h'.Awake)
    (hg : Grows Any HistoryEvent.Quiet h h')
    (hcancelled : ∀ c, h.isCancelled c = true → h'.isCancelled c = true) (hids : h'.ids = h.ids)
    (hstrands : h.Every (Stands e k h') → h'.Every (Stands e k h')) : h'.Bracketed e k :=
  hb.spares hbound hawake (.of_grows hg hcancelled) hg.fresh (fun id => by rw [hids])
    (fun t v hv => hb.deadline t v (hg.deadline ▸ hv)) hg.result hstrands

theorem isCancelled_of_cancelled (hcancelled : h'.cancelled = h.cancelled) (c : Context)
    (hc : h.isCancelled c = true) : h'.isCancelled c = true := by
  unfold isCancelled at hc ⊢
  rw [hcancelled]
  exact hc

theorem deliver (hb : h.Bracketed e k) (name : String) (payload : Json) :
    (h.deliver name payload).Bracketed e k :=
  hb.grows
    (hb.bound.idle (grows_deliver (fun _ => trivial) h name payload) (hb.bound.strands.deliver name payload)
      (ids_deliver h name payload ▸ .refl _) (inFlight_deliver h name payload))
    (hb.awake.deliver hb.bound.numbered.nodup name payload)
    (grows_deliver (fun _ => ⟨rfl, rfl⟩) h name payload)
    (isCancelled_of_cancelled (cancelled_deliver h name payload)) (ids_deliver h name payload)
    fun hst => hst.deliver (fun _ _ _ _ _ _ _ _ hst hp => hst.receive hp) (fun _ _ _ _ _ hst => hst.look _)
      name payload

theorem cancel (hb : h.Bracketed e k) (scope : Nat) : (h.cancel scope).Bracketed e k :=
  hb.grows
    (hb.bound.of_core (core_cancel ..) (hb.bound.strands.cancel (fun _ => trivial) scope)
      (ids_cancel h scope ▸ .refl _))
    (hb.awake.cancel scope) (.of_core (core_cancel ..)) (fun _ => isCancelled_cancel_of scope)
    (ids_cancel h scope)
    fun hst => hst.cancels scope (fun _ _ _ _ _ hst hint hc => hst.cut hint hc) fun _ _ _ hst _ => hst

/-- A strand whose time has come. -/
theorem arrive (hb : h.Bracketed e k) (hs : s ∈ h.strands) : (h.arrive s).Bracketed e k :=
  hb.grows
    (hb.bound.of_core (core_arrive h s) (hb.bound.strands.arrive (hb.bound.strands s hs))
      (ids_arrive h s ▸ .refl _))
    (hb.awake.arrive hs) (.of_core (core_arrive h s)) (isCancelled_of_cancelled (cancelled_arrive h s))
    (ids_arrive h s)
    fun hst => hst.arrive
      (fun _ _ _ _ hst => hst.of_idle (fun _ _ hawaits => nomatch hawaits) id)
      (fun _ _ _ _ _ hst => hst.paused) (fun _ _ _ _ _ _ _ hst => hst.called)
      (fun _ _ _ _ _ hst => hst.look _) (hst s hs)

/-- Giving up cancels everything, and writes nothing. -/
theorem spares_giveUp (h : Host RunResult) (v : RunResult) : h.Spares Any (h.giveUp v) := by
  have hs : h.Spares Any (((h.strands.filter (·.job == mainJob)).map Strand.id).foldl remove h
      |>.cancel rootScope) := by
    refine .of_grows (N := Any) (.of_core ((core_cancel ..).trans (core_foldl core_remove ..))) fun c hc => ?_
    refine isCancelled_cancel_of _ (isCancelled_of_cancelled ?_ c hc)
    exact cancelled_foldl (f := remove) (fun _ _ => rfl) h _
  exact ⟨hs.calls, hs.ended, hs.size, hs.cancelled⟩

/-- The strands of the main job are gone when their time is over, in the midst of a call or not. -/
theorem giveUp (hb : h.Bracketed e k) {t : Nat} {v : RunResult} (hdeadline : h.deadline = some (t, v)) :
    (h.giveUp v).Bracketed e k := by
  have hspares := spares_giveUp h v
  have hgiven : (h.giveUp v).GivenUp := by
    obtain ⟨workflow, ms, rfl⟩ := hb.deadline t v hdeadline
    exact ⟨workflow, ms, rfl⟩
  have hstrands : (h.giveUp v).Every (Stands e k (h.giveUp v)) :=
    Every.giveUp v (fun _ _ _ _ _ hst hint hc => hst.cut hint hc) fun s hs _ =>
      (hb.strands s hs).leaves (.of_spares hspares)
  have hmain : (h.giveUp v).Every fun i _ _ => i ≠ mainStrand :=
    Every.giveUp v (fun _ _ _ _ _ hne _ _ => hne) fun s hs hjob hid => hjob ((hb.strands s hs).main hid)
  refine ⟨hb.bound.giveUp hdeadline, hb.awake.giveUp v, fun run => ?_, hstrands, fun run _ => ?_, nofun,
    fun _ hid => ?_⟩
  · exact Nat.lt_of_lt_of_le (hb.opener run) (later_keep h (.deadline v)).fresh
  · obtain ⟨rest, hr, hrest⟩ := hb.recorded run
    refine ⟨rest, hr.spares hspares trivial, fun hne => ?_⟩
    exact ⟨(hspares.ended run trivial).trans (hrest hne).1, hgiven⟩
  · obtain ⟨s, hs, heq⟩ := mem_ids.1 hid
    exact hmain s hs heq

/-- A host at another time. -/
theorem strike (hb : h.Bracketed e k) (t : Nat) (a : Appointment RunResult) :
    ({ h with now := max h.now t }.strike t a).Bracketed e k := by
  refine hb.same (hb.bound.strike t a) (hb.awake.strike t a)
    (strands_strike { h with now := max h.now t } t a) ?_ ?_ ?_ (fun t' v hv => ?_) ?_
  all_goals cases a <;> first | rfl | exact hb.deadline t' v hv

theorem keep (hb : h.Bracketed e k) {t : Nat} {a : Appointment RunResult} (ha : h.Keeps t a) :
    (h.keep a).Bracketed e k := by
  have hturn : ({ h with turn := none } : Host RunResult).Bracketed e k :=
    hb.same (hb.bound.of_core rfl hb.bound.strands (.refl _)) hb.awake rfl rfl rfl rfl hb.deadline rfl
  cases a with
  | strand s => exact hb.arrive ha
  | beat b =>
    refine hb.grows (hb.bound.keep (t := t) (a := .beat b) trivial)
      (hb.awake.keep (t := t) (a := .beat b) hb.bound.numbered.nodup trivial)
      ((grows_record h b.context ⟨rfl, rfl⟩).then_core rfl) (isCancelled_of_cancelled rfl) rfl ?_
    exact fun hst => hst.of_strands rfl
  | occurrence o =>
    cases o with
    | signal name payload => exact hturn.deliver name payload
    | cancel => exact hturn.cancel rootScope
  | deadline v => exact hb.giveUp ha

theorem moves (hb : h.Bracketed e k) {who : Option (Strand RunResult)} (hmoves : h.Moves who h') :
    ∃ k', h'.Bracketed e k' := by
  cases hmoves with
  | turn hs hcan => exact hb.stepStrand hs (hcan.elim hb.awake.ready_of_next? id)
  | keep ha => exact ⟨k, (hb.strike _ _).keep (keeps_strike ha)⟩
  | occur o => exact ⟨k, hb.keep (t := 0) trivial⟩
  | suggest suggests suggestAfter =>
    refine ⟨k, hb.same ?_ hb.awake rfl rfl rfl rfl hb.deadline rfl⟩
    exact hb.bound.of_strands rfl rfl rfl rfl rfl ⟨hb.bound.around.handler, hb.bound.around.gateway⟩
      hb.bound.deadline hb.bound.result
  | unlimited =>
    refine ⟨k, hb.same ?_ hb.awake rfl rfl rfl rfl nofun rfl⟩
    exact hb.bound.of_strands rfl rfl rfl rfl rfl hb.bound.around nofun hb.bound.result

/-! ### Starting -/

theorem start {around : Surroundings} {input : Json} {env : Members} (wrapper : Wrapper)
    (hbound : Bound (Pact.free e.program) .blank
      (Host.start e around wrapper (programRun e.program input env).run)) :
    (Host.start e around wrapper (programRun e.program input env).run).Bracketed e .blank := by
  have hempty (run : Nat) :
      (Host.start e around wrapper (programRun e.program input env).run).history run = .empty := by
    rw [history_eq]
    cases run <;> rfl
  refine ⟨hbound, fun s hs _ => ?_, fun _ => Nat.one_pos, fun s hs => ?_, fun run hrun => ?_, nofun, nofun⟩
  · obtain rfl := List.mem_singleton.1 hs
    exact ⟨_, rfl⟩
  · obtain rfl := List.mem_singleton.1 hs
    refine ⟨fun _ => rfl, .inl ⟨⟨[], nofun, ?_⟩, fun run _ => recorded_of_empty (hempty run)⟩⟩
    exact Dialogue.Orderly.bind (Calling.orderly_programRun e.program input env) fun _ _ _ =>
      .done fun _ _ => rfl
  · exact absurd (List.mem_singleton.2 rfl) hrun

theorem withLimit (hb : h.Bracketed e k) (workflow : String) (limit : Option Duration) :
    (h.withLimit workflow limit).Bracketed e k := by
  have hbound := hb.bound.withLimit workflow limit
  cases limit with
  | none => exact hb
  | some d =>
    refine hb.same hbound hb.awake rfl rfl rfl rfl ?_ rfl
    rintro t v ⟨⟩
    exact ⟨workflow, _, rfl⟩

/-- Every host that a run of a program comes to. -/
theorem of_reaches {around : Surroundings} {input : Json} {env : Members}
    (hh : Reaches e around input env h) : ∃ k, h.Bracketed e k := by
  have hlater {h : Host RunResult} {k : Kinship} (entry : Nat × Occurrence) (hb : h.Bracketed e k) :
      ({ h with agenda := h.agenda ++ [entry] } : Host RunResult).Bracketed e k :=
    hb.same (hb.bound.of_core rfl hb.bound.strands (.refl _)) hb.awake rfl rfl rfl rfl hb.deadline rfl
  have hmoved {h h' : Host RunResult} {who : Option (Strand RunResult)} (hmoves : h.Moves who h')
      (hb : ∃ k, h.Bracketed e k) : ∃ k, h'.Bracketed e k := by
    obtain ⟨k, hb⟩ := hb
    exact hb.moves hmoves
  induction hh with
  | start wrapper signals at? workflow limit =>
    refine ⟨.blank, withLimit (withCancellation_of (fun hb => hb.cancel rootScope) hlater
      (withSignals_of (fun _ name payload hb => hb.deliver name payload) (fun _ => hlater) (start wrapper ?_)
        signals) at?) workflow limit⟩
    exact bound_start _ ⟨fun _ _ _ _ => Running.result_any _, fun _ _ _ _ => Running.result_any _⟩ wrapper
      fun _ _ _ _ => trivial
  | advance _ horizon hstep ih => exact hmoved (moves_of_advance hstep) ih
  | suggest _ suggests suggestAfter ih => exact hmoved (.suggest suggests suggestAfter) ih
  | unlimited _ ih => exact hmoved .unlimited ih

end Bracketed

/-! ## Histories -/

/-- The events of calls in the history of a run are, in order, the blocks that the calls of that run have
written, one for each of them. After them there may be what a call has written that is not over: of one
that a strand is in the midst of, or of one that was given up with the whole, in a run that has not ended
in either case. A block ends without the last attempt that it might have had, although the last fault
could be mended, only where the context of the call is cancelled. -/
theorem calls_of_reaches {around : Surroundings} {input : Json} {env : Members}
    (hh : Reaches e around input env h) (run : Nat) :
    ∃ (xs : List (Execution e)) (rest : List HistoryEvent),
      (h.history run).calls = xs.flatMap Execution.events ++ rest ∧
      (∀ x ∈ xs, x.context.run = run ∧ (∃ b, x.Writes b) ∧
        (x.Interrupted → h.isCancelled x.context = true)) ∧
      (rest ≠ [] → (h.history run).ended = false ∧ (h.GivenUp ∨ h.Calls e run rest)) := by
  obtain ⟨k, hb⟩ := Bracketed.of_reaches hh
  obtain ⟨rest, ⟨xs, hcalls, hxs⟩, hrest⟩ := hb.recorded run
  refine ⟨xs, rest, hcalls, fun x hx => ?_, hrest⟩
  obtain ⟨hrun, hcut⟩ := hxs x hx
  exact ⟨hrun, x.block, hcut⟩

end Host

namespace Pair

/-- Handlers that answer the first call, and fail at any other one in a way that can not be mended. -/
def failing : Surroundings :=
  ⟨fun past _ => some ⟨some 0, if past = [] then .ok .null else .error (.callFailed "y" "gone" false)⟩,
    fun _ _ => none, none, 0⟩

/-- Two calls in one run, the second of which fails, run to the end. -/
def failed : Host Host.RunResult :=
  (Host.start setting failing .passThrough (Host.programRun setting.program .null []).run).run 100

end Pair

/-- Two calls write two blocks, and the run has ended. -/
theorem Host.calls_of_failed :
    (Pair.failed.history 1).calls = [.callScheduled "x" 1, .callCompleted "x" 0, .callScheduled "y" 1,
        .callFailed "y" "[BRAID-040] Call 'y' failed: gone" false] ∧
      (Pair.failed.history 1).ended = true ∧
      ∃ xs : List (Execution Pair.setting),
        (Pair.failed.history 1).calls = xs.flatMap Execution.events ∧ ∀ x ∈ xs, ∃ b, x.Writes b := by
  have hended : (Pair.failed.history 1).ended = true := by decide +kernel
  refine ⟨by decide +kernel, hended, ?_⟩
  have hreaches : Host.Reaches Pair.setting Pair.failing .null [] Pair.failed :=
    (Host.Reaches.start .passThrough [] none "root" none).run 100
  obtain ⟨xs, rest, hcalls, hxs, hrest⟩ := Host.calls_of_reaches hreaches 1
  -- in a run that has ended no call is left open
  have hover : rest = [] := Decidable.byContradiction fun hne => nomatch hended.symm.trans (hrest hne).1
  exact ⟨xs, by rw [hcalls, hover, List.append_nil], fun x hx => (hxs x hx).2.1⟩

end TaskGraph

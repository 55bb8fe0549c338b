import TaskGraph.Host.Run
import TaskGraph.Proofs.Host.Accounts
import TaskGraph.Proofs.Host.Answers

/-!
# The hosts that a run of a program comes to

`Host.Reaches` are the hosts that a run of a program may come to, whatever decides at each moment whether
a run is to be restarted. `Host.Course` is what holds of all of them: the strand that the host was
started with keeps to the law of a ledger, the ledger is a chronicle and tells what the histories say,
and every other strand is on its course. One step keeps it up (`Host.Course.advance`), and so does a
whole run (`Host.course_of_reaches`).
-/

set_option autoImplicit false

namespace TaskGraph

open Running (Any Result)

namespace Host

/-! ## What is there from the start -/

section

variable {α : Type} {P : Host α → Prop} {h : Host α}

/-- Signals keep up what delivering one and putting something on the agenda keep up. -/
theorem withSignals_of (deliver : ∀ h name payload, P h → P (h.deliver name payload))
    (later : ∀ (h : Host α) entry, P h → P { h with agenda := h.agenda ++ [entry] }) (hh : P h)
    (signals : List (Option Nat × String × Json)) : P (h.withSignals signals) := by
  unfold Host.withSignals
  induction signals generalizing h with
  | nil => exact hh
  | cons signal signals ih =>
    obtain ⟨at?, name, payload⟩ := signal
    refine ih ?_
    cases at? with
    | none => exact deliver h name payload hh
    | some t => exact later h _ hh

/-- A cancellation keeps up what cancelling everything and putting something on the agenda keep up. -/
theorem withCancellation_of (cancel : P h → P (h.cancel rootScope))
    (later : ∀ entry, P h → P { h with agenda := h.agenda ++ [entry] }) (hh : P h)
    (at? : Option Nat) : P (h.withCancellation at?) := by
  rcases at? with _ | _ | t
  · exact hh
  · exact cancel hh
  · exact later _ hh

end

/-! ## Reachable hosts -/

/-- The hosts that a run of a program comes to, with what is around it. Signals, a cancellation and a
limit on the time are there from the start; restarts may be suggested or not at any time, and the limit
may be lifted. -/
inductive Reaches (e : Setting) (around : Surroundings) (input : Json) (env : Members) :
    Host RunResult → Prop where
  | start (wrapper : Wrapper) (signals : List (Option Nat × String × Json)) (at? : Option Nat)
      (workflow : String) (limit : Option Duration) :
      Reaches e around input env ((((start e around wrapper
        (programRun e.program input env).run).withSignals signals).withCancellation at?).withLimit
          workflow limit)
  | advance {h h' : Host RunResult} (reached : Reaches e around input env h) (horizon : Option Nat)
      (step : h.advance horizon = some h') : Reaches e around input env h'
  | suggest {h : Host RunResult} (reached : Reaches e around input env h) (suggests : Option Bool)
      (suggestAfter : Nat) : Reaches e around input env
        { h with surroundings := ⟨h.surroundings.handler, h.surroundings.gateway, suggests,
          suggestAfter⟩ }
  | unlimited {h : Host RunResult} (reached : Reaches e around input env h) :
      Reaches e around input env { h with deadline := none }

variable {e : Setting} {around : Surroundings} {input : Json} {env : Members}

theorem Reaches.run {h : Host RunResult} (hh : Reaches e around input env h) (fuel : Nat) :
    Reaches e around input env (h.run fuel) := by
  induction fuel generalizing h with
  | zero => exact hh
  | succ fuel ih =>
    unfold Host.run
    split
    · exact hh
    · split
      · next h' hstep => exact ih (.advance hh none hstep)
      · exact hh

theorem Reaches.linger {h : Host RunResult} (hh : Reaches e around input env h) (horizon fuel : Nat) :
    Reaches e around input env (h.linger horizon fuel) := by
  induction fuel generalizing h with
  | zero => exact hh
  | succ fuel ih =>
    unfold Host.linger
    split
    · next h' hstep => exact ih (.advance hh (some horizon) hstep)
    · exact hh

/-- What a program is run to, and what it comes to in the background. -/
theorem Reaches.conduct {h : Host RunResult} (hh : Reaches e around input env h) :
    Reaches e around input env h.conduct :=
  hh.run plenty

theorem Reaches.lingering {h : Host RunResult} (hh : Reaches e around input env h) (ms : Nat) :
    Reaches e around input env (h.lingering ms) := by
  unfold Host.lingering
  split
  · exact hh
  · exact (Reaches.unlimited hh).linger _ _

/-! ## The course of a host -/

variable (T : Terms e.program)

/-- What a strand has to be at: the one that the host was started with, while it is there, at code that
keeps to the law of the ledger, any other one on its course. -/
def Duty (l : Ledger) (ended : Bool) (id job : Nat) (code : Dialogue (Ending RunResult)) : Prop :=
  if id = mainStrand then
    ended = false ∧ job = mainJob ∧ code.Abides (Ledger.law T) (Request.Kept T)
      (fun l ending => ∃ v, ending = .result v ∧ l.Ends T v) l
  else Dialogue.Fair T code

/-- What holds of a host that runs a program. -/
structure Course (l : Ledger) (h : Host RunResult) : Prop where
  setting : h.setting = e
  around : h.surroundings.Within T.faults
  fresh : mainStrand < h.fresh
  strands : h.Tended T.faults (Duty T l h.result.isSome)
  journal : ∀ told ∈ h.journal, Notice.Fair T told.2
  deadline : ∀ time v, h.deadline = some (time, v) → ∃ f, v = .error f ∧ T.faults f
  result : ∀ v, h.result = some v → l.Ends T v
  chronicle : Chronicle e.program l.chapters
  accounts : h.Accounts l.chapters
  opened : ∀ run, l.opened = some run → h.Blank run ∧ ∃ s, h.Upfront s

section

variable {T} {l : Ledger} {h h' : Host RunResult} {s : Strand RunResult}

theorem duty_main {ended : Bool} {id job : Nat} {code : Dialogue (Ending RunResult)}
    (hid : id = mainStrand) : Duty T l ended id job code ↔
      ended = false ∧ job = mainJob ∧ code.Abides (Ledger.law T) (Request.Kept T)
        (fun l ending => ∃ v, ending = .result v ∧ l.Ends T v) l :=
  iff_of_eq (if_pos hid)

theorem duty_other {ended : Bool} {id job : Nat} {code : Dialogue (Ending RunResult)}
    (hid : id ≠ mainStrand) : Duty T l ended id job code ↔ Dialogue.Fair T code :=
  iff_of_eq (if_neg hid)

/-- Only the strand that the host was started with is bound by the ledger and by the result. -/
theorem Duty.of_other {l' : Ledger} {ended ended' : Bool} {id job : Nat}
    {code : Dialogue (Ending RunResult)} (hid : id ≠ mainStrand) (hd : Duty T l ended id job code) :
    Duty T l' ended' id job code :=
  (duty_other hid).2 ((duty_other hid).1 hd)

theorem notice_fair (n : Notice) (hn : n.ofGraph = false) : Notice.Fair T n := by
  cases n with
  | enter | leave | detach => cases hn
  | _ => trivial

/-- A change that leaves the strands and the histories alone keeps a run that was just opened. -/
theorem Course.opened_of_runs (hc : Course T l h) (hruns : h'.runs = h.runs)
    (hstrands : h'.strands = h.strands) (hqueue : h'.queue = h.queue) (hturn : h'.turn = h.turn)
    (run : Nat) (hl : l.opened = some run) : h'.Blank run ∧ ∃ s, h'.Upfront s := by
  obtain ⟨hblank, s, hs⟩ := hc.opened run hl
  exact ⟨hblank.of_runs hruns, s, hs.of_strands hstrands hqueue hturn⟩

/-- What a host only adds to stays right. -/
theorem Course.grows (hc : Course T l h) {l' : Ledger} (hl : l'.chapters = l.chapters)
    (hg : Grows (Notice.Fair T) (fun ev => ev.isRunEvent = false) h h') (ht : h'.Tended T.faults (Duty T l' h'.result.isSome))
    (hopened : ∀ run, l'.opened = some run → h'.Blank run ∧ ∃ s, h'.Upfront s) :
    Course T l' h' where
  setting := hg.setting.trans hc.setting
  around := by
    rw [hg.surroundings]
    exact hc.around
  fresh := Nat.lt_of_lt_of_le hc.fresh hg.fresh
  strands := ht
  journal told htold := by
    obtain ⟨new, hnew, hfair⟩ := hg.journal
    rw [hnew] at htold
    exact (List.mem_append.1 htold).elim (hfair told) (hc.journal told)
  deadline t v hv := hc.deadline t v (hg.deadline ▸ hv)
  result v hv := by
    have hends := hc.result v (hg.result ▸ hv)
    unfold Ledger.Ends at hends ⊢
    rw [hl]
    exact hends
  chronicle := hl ▸ hc.chronicle
  accounts := hl ▸ hc.accounts.grows hg
  opened := hopened

/-- The same when no run was just opened. -/
theorem Course.idle (hc : Course T l h) (hl : l.opened = none) (hg : Grows (Notice.Fair T) (fun ev => ev.isRunEvent = false) h h')
    (ht : h'.Tended T.faults (Duty T l h.result.isSome)) : Course T l h' :=
  hc.grows rfl hg (by rw [hg.result]; exact ht) fun run hrun => by
    rw [hl] at hrun
    cases hrun

/-! ### Turns -/

theorem runnable_of_next? (hs : h.next? = some s) : s ∈ h.runnable := by
  unfold next? at hs
  simp only [Option.or_eq_some_iff] at hs
  rcases hs with hs | ⟨-, hs | ⟨-, hs⟩⟩
  · exact List.mem_of_find?_eq_some hs
  · exact List.mem_of_find?_eq_some hs
  · exact List.mem_of_head? hs

theorem mem_of_next? (hs : h.next? = some s) : s ∈ h.strands := by
  obtain ⟨id, -, hid⟩ := List.mem_filterMap.1 (runnable_of_next? hs)
  exact List.mem_of_find?_eq_some hid

/-- The strand whose turn it is, is in the queue. -/
theorem queued_of_next? (hs : h.next? = some s) : s.id ∈ h.queue := by
  obtain ⟨id, hmem, hid⟩ := List.mem_filterMap.1 (runnable_of_next? hs)
  have heq := List.find?_some hid
  rw [show s.id = id by simpa using heq]
  exact hmem

/-- A host in which it is the turn of a strand. -/
def turned (h : Host RunResult) (s : Strand RunResult) : Host RunResult :=
  { h with turn := some s.job, queue := s.id :: h.queue.filter (· != s.id) }

/-- The ledger after the host's answer to a request of the strand that it was started with. -/
def answered (h : Host RunResult) (l : Ledger) : Request → Ledger
  | .fresh _ => ⟨l.chapters, some h.runs.size⟩
  | .record c ev => ⟨l.note c.run ev, none⟩
  | _ => ⟨l.chapters, none⟩

theorem answered_of_ne {q : Request} (hrecord : ∀ c ev, q ≠ .record c ev)
    (hfresh : ∀ c, q ≠ .fresh c) : h.answered l q = ⟨l.chapters, none⟩ := by
  cases q with
  | record c ev => exact absurd rfl (hrecord c ev)
  | fresh c => exact absurd rfl (hfresh c)
  | _ => rfl

/-- The strand that the host was started with goes on in keeping with the ledger. -/
theorem follows_main {q : Request} {next : q.Answer → Dialogue (Ending RunResult)}
    (hq : l.Allows T q) (hover : h.result.isSome = false) (hid : s.id = mainStrand)
    (hjob : s.job = mainJob)
    (hnext : ∀ x, q.Kept T x → (next x).Abides (Ledger.law T) (Request.Kept T)
      (fun l ending => ∃ v, ending = .result v ∧ l.Ends T v) (l.after q x)) :
    h.Follows T (Duty T (h.answered l q) h.result.isSome s.id s.job) q next := by
  cases q with
  | enter c g input scope =>
    refine (duty_main hid).2 ⟨hover, hjob, ?_⟩
    refine Ledger.abides_of_fair (fun _ _ _ => id) (T.fair_graph hq.1 input hq.2) ?_
    exact hnext
  | fresh c => exact (duty_main hid).2 ⟨hover, hjob, hnext ⟨h.runs.size, c.scopes⟩ trivial⟩
  | _ => exact fun x hx => (duty_main hid).2 ⟨hover, hjob, hnext x hx⟩

/-- Any other strand goes on on its course. -/
theorem follows_other {ended : Bool} {q : Request} {next : q.Answer → Dialogue (Ending RunResult)}
    (hid : s.id ≠ mainStrand) (hfair : Dialogue.Fair T (.ask q next)) :
    h.Follows T (Duty T l ended s.id s.job) q next := by
  obtain ⟨hq, hnext⟩ := hfair
  cases q with
  | enter c g input scope =>
    exact (duty_other hid).2 (Dialogue.Heeds.bind (T.fair_graph hq.1 input hq.2) hnext)
  | fresh c => exact (duty_other hid).2 (hnext _ trivial)
  | _ => exact fun x hx => (duty_other hid).2 (hnext x hx)

/-- A strand that is on its course adds only what it may add. -/
theorem grows_turn {q : Request} (hfair : q.Fair T) (next : q.Answer → Dialogue (Ending RunResult)) :
    Grows (Notice.Fair T) (fun ev => ev.isRunEvent = false) h ((h.turned s).perform s q next) := by
  have hturned : Grows (Notice.Fair T) (fun ev => ev.isRunEvent = false) h (h.turned s) := .of_core rfl
  refine hturned.trans (grows_perform notice_fair (fun _ => rfl) (h.turned s) s q next ?_ ?_)
  · rintro n rfl
    exact hfair
  · rintro c ev rfl
    exact hfair

/-- A strand that asks for something. -/
theorem Course.perform (hc : Course T l h) (hs : s ∈ h.strands) {q : Request}
    {next : q.Answer → Dialogue (Ending RunResult)} (hphase : s.phase = .ready (.ask q next))
    (hopened : s.id ≠ mainStrand → l.opened = none) :
    ∃ l', Course T l' ((h.turned s).perform s q next) := by
  have hduty := hc.strands s hs
  rw [hphase] at hduty
  -- strands that are added are not the main one, so their code only has to be fair
  have hnew (l' : Ledger) (id job : Nat) (code : Dialogue (Ending RunResult)) (hid : h.fresh ≤ id)
      (hcode : Dialogue.Fair T code) : Duty T l' h.result.isSome id job code :=
    (duty_other (Nat.ne_of_gt (Nat.lt_of_lt_of_le hc.fresh hid))).2 hcode
  have hturned : (h.turned s).Tended T.faults (Duty T l h.result.isSome) := hc.strands
  by_cases hid : s.id = mainStrand
  · obtain ⟨hover, hjob, hq, hnext⟩ := (duty_main hid).1 hduty
    have hbut : (h.turned s).TendedBut T.faults (Duty T (h.answered l q) h.result.isSome) s.id :=
      hturned.mono fun _ _ _ hcode hne => hcode.of_other (hid ▸ hne)
    have hfair (hne : ∀ c ev, q ≠ .record c ev) : q.Fair T := Ledger.fair_of_allows hne hq
    have htended := tended_perform T hbut (hnew (h.answered l q)) hc.setting (Nat.le_refl _)
      hc.around hfair (follows_main hq hover hid hjob hnext)
    refine ⟨h.answered l q, ?_⟩
    by_cases hrecord : ∃ c ev, q = .record c ev
    · -- an event that the law admits is written to the ledger and to a history
      obtain ⟨c, ev, rfl⟩ := hrecord
      have haccounts : (h.turned s).Accounts l.chapters := hc.accounts.of_runs rfl
      have hblank (run : Nat) (hl : l.opened = some run) : (h.turned s).Blank run :=
        (hc.opened run hl).1.of_runs rfl
      have hq : l.Allows T (.record c ev) := hq
      refine ⟨hc.setting, hc.around, hc.fresh, htended, hc.journal, hc.deadline, fun v hv => ?_,
        Ledger.chronicle_after hq hc.chronicle (), (haccounts.record hblank hq).of_runs rfl, nofun⟩
      have hv : h.result = some v := hv
      rw [hv] at hover
      cases hover
    · have hne : ∀ c ev, q ≠ .record c ev := fun c ev heq => hrecord ⟨c, ev, heq⟩
      have hgrows := grows_turn (h := h) (s := s) (hfair hne) next
      by_cases hfresh : ∃ c, q = .fresh c
      · -- the strand that has opened a run is the next one to go on
        obtain ⟨c, rfl⟩ := hfresh
        have hupfront := upfront_goOn (h := ((h.turned s).open_ c).2) hs hid rfl rfl
          (next ⟨h.runs.size, c.scopes⟩)
        refine hc.grows rfl hgrows htended fun run hrun => ⟨?_, _, hupfront⟩
        cases hrun
        exact (blank_open (h.turned s) c).of_runs rfl
      · have hanswered := answered_of_ne (h := h) (l := l) hne fun c heq => hfresh ⟨c, heq⟩
        rw [hanswered] at htended ⊢
        exact hc.grows rfl hgrows (by rw [hgrows.result]; exact htended) nofun
  · have hl := hopened hid
    have hheeds := (duty_other hid).1 hduty
    refine ⟨l, hc.idle hl (grows_turn hheeds.1 next) ?_⟩
    exact tended_perform T (hturned.but s.id) (hnew l) hc.setting (Nat.le_refl _) hc.around
      (fun _ => hheeds.1) (follows_other hid hheeds)

/-- A strand that has ended. -/
theorem Course.conclude (hc : Course T l h) (hs : s ∈ h.strands) {ending : Ending RunResult}
    (hphase : s.phase = .ready (.done ending)) (hopened : s.id ≠ mainStrand → l.opened = none) :
    ∃ l', Course T l' ((h.turned s).conclude s ending) := by
  have hduty := hc.strands s hs
  rw [hphase] at hduty
  have hturned : (h.turned s).Tended T.faults (Duty T l h.result.isSome) := hc.strands
  have hgrows : Grows (Notice.Fair T) (fun ev => ev.isRunEvent = false) h (h.turned s) := .of_core rfl
  by_cases hid : s.id = mainStrand
  · -- with the result there, the strand that came to it is gone
    obtain ⟨-, -, v, rfl, hends⟩ := (duty_main hid).1 hduty
    have hrest : ((h.turned s).conclude s (.result v)).Tended T.faults
        (Duty T ⟨l.chapters, none⟩ true) :=
      tended_conclude (hturned.mono fun _ _ _ hcode hne => hcode.of_other (hid ▸ hne)) nofun
    refine ⟨⟨l.chapters, none⟩, hc.setting, hc.around, hc.fresh, hrest, hc.journal, hc.deadline,
      fun v' hv => ?_, hc.chronicle, ?_, nofun⟩
    · cases hv
      exact hends
    · exact hc.accounts.of_runs rfl
  · have hending : Ending.Fair T ending := (duty_other hid).1 hduty
    refine ⟨l, hc.idle (hopened hid) (hgrows.trans ?_) (tended_conclude (hturned.but s.id) ?_)⟩
    · refine grows_conclude _ _ ?_
      rintro v rfl
      exact hending
    · rintro reply rfl
      exact hending

/-- Between a run's being opened and its first event, it is the turn of the strand that opened it. -/
theorem Course.turn_of_opened (hc : Course T l h) {run : Nat} (hl : l.opened = some run) :
    ∃ s, h.next? = some s ∧ s.id = mainStrand ∧ ∃ code, s.phase = .ready code := by
  obtain ⟨-, s, hs⟩ := hc.opened run hl
  exact ⟨s, hs.next?, hs.id, hs.phase⟩

theorem Course.stepStrand (hc : Course T l h) (hs : h.next? = some s) :
    ∃ l', Course T l' (h.stepStrand s) := by
  have hmem := mem_of_next? hs
  -- a run was just opened only if it is the turn of the main strand, and then the strand can go on
  have hopened {P : Prop} (hP : (s.id = mainStrand ∧ ∃ code, s.phase = .ready code) → P)
      (hnot : ¬ P) : l.opened = none := by
    cases hl : l.opened with
    | none => rfl
    | some run =>
      obtain ⟨s', hs', hid, hready⟩ := hc.turn_of_opened hl
      cases hs.symm.trans hs'
      exact absurd (hP ⟨hid, hready⟩) hnot
  have hgone (hwaits : ∀ code, s.phase ≠ .ready code) : Course T l ((h.turned s).remove s.id) := by
    refine hc.idle (hopened (P := ∃ code, s.phase = .ready code) And.right ?_) (.of_core rfl) ?_
    · rintro ⟨code, hcode⟩
      exact hwaits code hcode
    · exact TendedBut.remove (h := h.turned s) (hc.strands.but s.id)
  unfold Host.stepStrand
  cases hphase : s.phase with
  | ready code =>
    cases code with
    | done ending => exact hc.conclude hmem hphase fun hid => hopened And.left hid
    | ask q next => exact hc.perform hmem hphase fun hid => hopened And.left hid
  | _ => exact ⟨l, hgone fun code hcode => by rw [hphase] at hcode; cases hcode⟩

/-! ### Appointments -/

theorem mem_of_earliest {as : List (Nat × Appointment RunResult)} {a : Nat × Appointment RunResult}
    (ha : earliest as = some a) : a ∈ as := by
  induction as with
  | nil => cases ha
  | cons b bs ih =>
    unfold earliest at ha
    split at ha
    · cases ha
      exact List.mem_cons_self ..
    · next later hlater =>
      split at ha <;> cases ha
      · exact List.mem_cons_self ..
      · exact List.mem_cons_of_mem _ (ih hlater)

/-- Whether there is something on a host that an appointment at a time is with. -/
def Keeps (h : Host RunResult) (t : Nat) : Appointment RunResult → Prop
  | .strand s => s ∈ h.strands
  | .deadline v => h.deadline = some (t, v)
  | .beat _ | .occurrence _ => True

theorem keeps_of_mem {t : Nat} {a : Appointment RunResult} (ha : (t, a) ∈ h.appointments) :
    h.Keeps t a := by
  unfold appointments at ha
  simp only [List.mem_append, List.mem_filterMap, List.mem_map, Option.mem_toList] at ha
  rcases ha with ((⟨s, hs, hdue⟩ | ⟨b, -, hbeat⟩) | ⟨o, -, hoccurrence⟩) | ⟨d, hd, hdeadline⟩
  · obtain ⟨due, -, heq⟩ := Option.map_eq_some_iff.1 hdue
    cases heq
    exact hs
  · cases hbeat
    trivial
  · cases hoccurrence
    trivial
  · cases hdeadline
    exact hd

/-- A run that is given up fails in the way that its limit says. -/
theorem Course.giveUp (hc : Course T l h) (hl : l.opened = none) {t : Nat} {v : RunResult}
    (hdeadline : h.deadline = some (t, v)) : Course T l (h.giveUp v) := by
  have hcancelled : ∀ scope, T.faults (.cancelled scope) := fun _ => T.ordinary _ rfl
  have hrest : (h.giveUp v).Tended T.faults (Duty T l true) := by
    refine Tended.giveUp hcancelled v fun s hs hjob => (hc.strands s hs).mono fun code hcode => ?_
    -- the strand that the host was started with is of the main job
    exact hcode.of_other fun hid => hjob ((duty_main hid).1 hcode).2.1
  have hstopped : Course T l (((h.strands.filter (·.job == mainJob)).map Strand.id).foldl remove h
      |>.cancel rootScope) := by
    refine hc.idle hl (.of_core ((core_cancel ..).trans (core_foldl core_remove ..))) ?_
    exact Tended.giveUp hcancelled v fun s hs _ => hc.strands s hs
  refine ⟨hstopped.setting, hstopped.around, hstopped.fresh, hrest, hstopped.journal, nofun,
    fun v' hv => ?_, hc.chronicle, hstopped.accounts.of_runs rfl, fun run hrun => ?_⟩
  · cases hv
    obtain ⟨f, rfl, hf⟩ := hc.deadline t v hdeadline
    exact hf
  · rw [hl] at hrun
    cases hrun

theorem Course.keep (hc : Course T l h) (hl : l.opened = none) {t : Nat}
    {a : Appointment RunResult} (ha : h.Keeps t a) : Course T l (h.keep a) := by
  cases a with
  | strand s => exact hc.idle hl (.of_core (core_arrive h s)) (hc.strands.arrive (hc.strands s ha))
  | beat b =>
    refine hc.idle hl (Grows.then_core (grows_record h b.context ?_) rfl) hc.strands
    rfl
  | occurrence o =>
    have hturn : Course T l { h with turn := none } := hc.idle hl (.of_core rfl) hc.strands
    cases o with
    | signal name payload =>
      exact hturn.idle hl (grows_deliver (fun _ => rfl) _ name payload) (hturn.strands.deliver name payload)
    | cancel =>
      exact hturn.idle hl (.of_core (core_cancel ..))
        (hturn.strands.cancel (fun _ => T.ordinary _ rfl) rootScope)
  | deadline v => exact hc.giveUp hl ha

/-- A step is that of the strand whose turn it is, or, if no strand can run, keeps an appointment. -/
theorem advance_cases {horizon : Option Nat} (hstep : h.advance horizon = some h') :
    (∃ s, h.next? = some s ∧ h' = h.stepStrand s) ∨
      h.next? = none ∧ ∃ t a, (t, a) ∈ h.appointments ∧
        h' = ({ h with now := max h.now t }.strike t a).keep a := by
  unfold Host.advance at hstep
  split at hstep
  · next s hs =>
    cases hstep
    exact .inl ⟨s, hs, rfl⟩
  · next hnone =>
    refine .inr ⟨hnone, ?_⟩
    unfold Host.fire at hstep
    split at hstep
    · cases hstep
    · next t a ha =>
      split at hstep
      · cases hstep
      · cases hstep
        exact ⟨t, a, mem_of_earliest ha, rfl⟩

/-- What an appointment is with is still there when it has come. -/
theorem keeps_strike {t : Nat} {a : Appointment RunResult} (ha : (t, a) ∈ h.appointments) :
    ({ h with now := max h.now t }.strike t a).Keeps t a := by
  have hkeeps := keeps_of_mem ha
  cases a <;> exact hkeeps

/-- One step keeps the course of a host up. -/
theorem Course.advance (hc : Course T l h) {horizon : Option Nat}
    (hstep : h.advance horizon = some h') : ∃ l', Course T l' h' := by
  rcases advance_cases hstep with ⟨s, hs, rfl⟩ | ⟨hnone, t, a, ha, rfl⟩
  · exact hc.stepStrand hs
  · have hl : l.opened = none := by
      cases hl : l.opened with
      | none => rfl
      | some run =>
        obtain ⟨s, hs, -⟩ := hc.turn_of_opened hl
        rw [hnone] at hs
        cases hs
    have hclock : Course T l { h with now := max h.now t } := hc.idle hl (.of_core rfl) hc.strands
    have hstruck := hclock.idle hl (.of_core (core_strike _ t a)) (hclock.strands.strike t a)
    exact ⟨l, hstruck.keep hl (keeps_strike ha)⟩

/-! ### Starting -/

theorem course_start (hroot : ∃ g, e.program.graph e.program.root = .ok g)
    (hwithin : around.Within T.faults) (wrapper : Wrapper) :
    Course T .blank (Host.start e around wrapper (programRun e.program input env).run) where
  setting := rfl
  around := hwithin
  fresh := Nat.one_pos
  strands := by
    intro s hs
    rw [List.mem_singleton.1 hs]
    refine (duty_main rfl).2 ⟨rfl, rfl, (T.abides_programRun hroot input env).bind ?_⟩
    exact fun l v hv => ⟨v, rfl, hv⟩
  journal _ htold := (List.not_mem_nil htold).elim
  deadline := nofun
  result := nofun
  chronicle := trivial
  accounts := by
    refine ⟨nofun, fun run _ => ?_, List.nodup_nil⟩
    rw [history_eq]
    cases run <;> rfl
  opened := nofun

/-- What is there from the start keeps the course of a host up. -/
theorem Course.withSignals (hc : Course T l h) (hl : l.opened = none)
    (signals : List (Option Nat × String × Json)) : Course T l (h.withSignals signals) :=
  withSignals_of
    (fun h name payload hc =>
      hc.idle hl (grows_deliver (fun _ => rfl) h name payload) (hc.strands.deliver name payload))
    (fun _ _ hc => hc.idle hl (.of_core rfl) hc.strands) hc signals

theorem Course.withCancellation (hc : Course T l h) (hl : l.opened = none) (at? : Option Nat) :
    Course T l (h.withCancellation at?) :=
  withCancellation_of
    (fun hc => hc.idle hl (.of_core (core_cancel ..))
      (hc.strands.cancel (fun _ => T.ordinary _ rfl) rootScope))
    (fun _ hc => hc.idle hl (.of_core rfl) hc.strands) hc at?

theorem Course.withLimit (hc : Course T l h) (workflow : String) (limit : Option Duration) :
    Course T l (h.withLimit workflow limit) := by
  cases limit with
  | none => exact hc
  | some d =>
    refine ⟨hc.setting, hc.around, hc.fresh, hc.strands, hc.journal, fun t v hv => ?_, hc.result,
      hc.chronicle, hc.accounts.of_runs rfl, hc.opened_of_runs rfl rfl rfl rfl⟩
    cases hv
    exact ⟨_, rfl, T.ordinary _ rfl⟩

end

/-- Every host that a run of a program comes to is on its course. -/
theorem course_of_reaches (hroot : ∃ g, e.program.graph e.program.root = .ok g)
    (hwithin : around.Within T.faults) {h : Host RunResult} (hh : Reaches e around input env h) :
    ∃ l, Course T l h := by
  induction hh with
  | start wrapper signals at? workflow limit =>
    have hstart : Course T .blank (Host.start e around wrapper
        (programRun e.program input env).run) := course_start hroot hwithin wrapper
    exact ⟨_, ((hstart.withSignals rfl signals).withCancellation rfl at?).withLimit workflow limit⟩
  | advance _ horizon hstep ih =>
    obtain ⟨l, hc⟩ := ih
    exact hc.advance hstep
  | suggest _ suggests suggestAfter ih =>
    obtain ⟨l, hc⟩ := ih
    exact ⟨l, hc.setting, ⟨hc.around.handler, hc.around.gateway⟩, hc.fresh, hc.strands, hc.journal,
      hc.deadline, hc.result, hc.chronicle, hc.accounts.of_runs rfl, hc.opened_of_runs rfl rfl rfl rfl⟩
  | unlimited _ ih =>
    obtain ⟨l, hc⟩ := ih
    exact ⟨l, hc.setting, hc.around, hc.fresh, hc.strands, hc.journal, nofun, hc.result,
      hc.chronicle, hc.accounts.of_runs rfl, hc.opened_of_runs rfl rfl rfl rfl⟩

end Host

/-! ## Two calls on a host -/

namespace Surroundings

/-- Handlers that answer every call at once, where a restart is due at every child. -/
def ready : Surroundings := ⟨fun _ _ => some ⟨some 0, .ok .null⟩, fun _ _ => none, some true, 0⟩

theorem within_ready (E : Fault → Prop) : ready.Within E where
  handler _ _ reply hreply := by
    cases hreply
    trivial
  gateway _ _ _ hreply := nomatch hreply

theorem within_bare (suggestAfter : Nat) (E : Fault → Prop) : (bare suggestAfter).Within E where
  handler _ _ _ hreply := nomatch hreply
  gateway _ _ _ hreply := nomatch hreply

/-- Handlers that answer the first call with a request for a restart. -/
def forging (entry : String) (s : Scope) : Surroundings :=
  ⟨fun past _ => some ⟨some 0, if past = [] then .error (.continueAsNew entry .null s) else .ok .null⟩,
    fun _ _ => none, none, 0⟩

end Surroundings

namespace Pair

/-- Two calls with a restart in between, run to the end. -/
def restarted : Host Host.RunResult :=
  (Host.start setting .ready .passThrough (Host.programRun setting.program .null []).run).run 100

theorem reaches_restarted : Host.Reaches setting .ready .null [] restarted :=
  (Host.Reaches.start .passThrough [] none "root" none).run 100

/-- Two calls, the first of which is answered with a request for a restart, run to the end. -/
def forged (entry : String) (s : Scope) : Host Host.RunResult :=
  (Host.start setting (.forging entry s) .passThrough
    (Host.programRun setting.program .null []).run).run 100

theorem reaches_forged (entry : String) (s : Scope) :
    Host.Reaches setting (.forging entry s) .null [] (forged entry s) :=
  (Host.Reaches.start .passThrough [] none "root" none).run 100

end Pair

end TaskGraph

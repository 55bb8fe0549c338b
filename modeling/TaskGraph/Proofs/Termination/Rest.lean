import TaskGraph.Proofs.Fork.Hearing
import TaskGraph.Proofs.Host.Enlisted
import TaskGraph.Proofs.Host.Tally

/-!
# What a host at rest waits for

A strand that waits for another one waits for a younger one: a fork waits for its branches, and a run that
is left waits for the graphs that were detached in it. Whoever forked a strand hears its reply, since it
asks for nothing else before all branches have replied (`Phase.Owes`), and as long as graphs of a run count
as unfinished, there are strands for them. One step of a host keeps this up (`Host.Concerted.steps`).

So when no strand can go on and the result is not there, the youngest strand waits for something from
outside: for a handler, for its time to come or for signals (`Host.Concerted.outside`). No program deadlocks by
itself.
-/

set_option autoImplicit false

namespace TaskGraph

open Running (Any Result)

variable {α : Type}

/-! ## Strands and the strands that forked them -/

/-- What is known of the strands of a host by their numbers: the strand that has forked a strand, if one
has, and the job that a strand belongs to. -/
structure Family where
  parent : Nat → Option Nat
  job : Nat → Nat

namespace Family

/-- The family on a host at its start. -/
def blank : Family := ⟨fun _ => none, fun _ => Host.mainJob⟩

/-- The family after a request of a strand: strands that are forked are of the job of the strand, and one
that is detached is of a job of its own. -/
def after (f : Family) (h : Host α) (s : Strand α) : Request → Family
  | .fork .. => ⟨fun i => if h.fresh ≤ i then some s.id else f.parent i,
      fun i => if h.fresh ≤ i then s.job else f.job i⟩
  | .detach .. => ⟨fun i => if h.fresh ≤ i then none else f.parent i,
      fun i => if h.fresh ≤ i then i else f.job i⟩
  | _ => f

variable {f : Family} {h : Host α} {s : Strand α} {i : Nat}

theorem parent_after (q : Request) (hi : i < h.fresh) : (f.after h s q).parent i = f.parent i := by
  cases q with
  | fork | detach => exact if_neg (Nat.not_le_of_lt hi)
  | _ => rfl

theorem job_after (q : Request) (hi : i < h.fresh) : (f.after h s q).job i = f.job i := by
  cases q with
  | fork | detach => exact if_neg (Nat.not_le_of_lt hi)
  | _ => rfl

end Family

/-- The number of strands that a request forks. -/
def Request.branches : Request → Nat
  | .fork _ graphs _ _ => graphs.length
  | _ => 0

/-- How a strand may end, given the strand that forked it and the run that it was detached in: one that was
forked ends with a reply, one that was detached with the end of a graph of the run, and any other one with
the result. -/
def Ending.Fits (parent origin : Option Nat) : Ending Host.RunResult → Prop
  | .result _ => parent = none ∧ origin = none
  | .branch _ => (∃ p, parent = some p) ∧ origin = none
  | .detached run => parent = none ∧ origin = some run

namespace Ending

variable {ending : Ending Host.RunResult} {parent origin : Option Nat}

/-- A strand that ends as it may is counted for a run if it was detached in it. -/
theorem Fits.finishes (h : ending.Fits parent origin) (run : Nat) :
    ending.finishes run = if origin = some run then 1 else 0 := by
  cases ending with
  | result | branch =>
    rw [h.2]
    rfl
  | detached r =>
    rw [h.2, finishes_detached]
    simp

/-- A strand that was neither forked nor detached ends with the result. -/
theorem Fits.result (h : ending.Fits none none) : ∃ v, ending = .result v := by
  cases ending with
  | result v => exact ⟨v, rfl⟩
  | branch => exact nomatch h.1
  | detached => exact nomatch h.2

end Ending

/-! ## What strands owe to their branches -/

namespace Phase

/-- Whether a strand in a phase hears its branches, as many of which are left as said, before it comes to
an end: as long as some are left it waits for them, or it is the one to go on. What it waits to be finished
was detached in a run of its own. -/
def Owes (E : Ending Host.RunResult → Prop) (own : Nat → Prop) (first : Prop) (left : Nat) :
    Phase Host.RunResult → Prop
  | ready code => code.Hears E left ∧ (0 < left → first)
  | joining next => 0 < left ∧ ∀ x, (next x).Hears E (left - 1)
  | settling c _ next => left = 0 ∧ own c.run ∧ ∀ x, (next x).Hears E 0
  | p => left = 0 ∧ p.Leads Any fun code => code.Hears E 0

variable {E : Ending Host.RunResult → Prop} {own own' : Nat → Prop} {first first' : Prop} {left : Nat}
  {p p' : Phase Host.RunResult}

theorem owes_ready {code : Code} (hleft : left = 0) (hcode : code.Hears E 0) :
    (ready code).Owes E own first left :=
  ⟨hleft ▸ hcode, fun hpos => absurd hleft (Nat.ne_of_gt hpos)⟩

theorem Owes.mono (h : p.Owes E own first left) (hown : ∀ run, own run → own' run)
    (hfirst : p.waits = false → 0 < left → first → first') : p.Owes E own' first' left := by
  cases p with
  | ready => exact ⟨h.1, fun hpos => hfirst rfl hpos (h.2 hpos)⟩
  | settling => exact ⟨h.1, hown _ h.2.1, h.2.2⟩
  | _ => exact h

/-- A strand that is woken because its context is cancelled. -/
theorem Owes.of_interrupted (h : p.Owes E own first left) {c : Context} {code : Code}
    (hp : Host.interrupted p = some (c, code)) : (ready code).Owes E own first left := by
  cases p with
  | calling =>
    cases hp
    exact owes_ready h.1 (h.2.2 _ (Running.result_any _))
  | pausing =>
    cases hp
    exact owes_ready h.1 (h.2 _)
  | settling =>
    cases hp
    exact owes_ready h.1 (h.2.2 _)
  | listening =>
    cases hp
    exact owes_ready h.1 (h.2 _ (Running.result_any _))
  | ready | delayed | joining => cases hp

/-- A strand that takes signals from the board. -/
theorem Owes.of_receive {b b' : Board} (h : p.Owes E own first left) {c : Context} {taken : List String}
    (hp : Host.receive b p = some (c, taken, b', p')) : p'.Owes E own first left := by
  cases p with
  | listening c' mode slots next =>
    cases mode with
    | all =>
      simp only [Host.receive] at hp
      rcases b.fill slots with ⟨slots', taken', b''⟩
      split at hp <;> cases hp
      · exact owes_ready h.1 (h.2 _ (Running.result_any _))
      · exact h
    | one | any =>
      simp only [Host.receive] at hp
      split at hp <;> cases hp
      · exact owes_ready h.1 (h.2 _ (Running.result_any _))
      · exact h
  | _ => cases hp

end Phase

namespace Host

variable {e : Setting} {h h' : Host RunResult} {s : Strand RunResult}

/-- Whatever a strand that hears its branches asks for, it comes to a phase in which it still does. -/
theorem leads_owes {E : Ending RunResult → Prop} {own : Nat → Prop} {first : Prop} {left : Nat}
    {q : Request} {next : q.Answer → Code} (hcode : (Dialogue.ask q next).Hears E left)
    (hown : ∀ c, q = .settle c → own c.run) (hfirst : first) :
    h.Leads e Any (Phase.Owes E own first (left + q.branches)) q next := by
  obtain ⟨hq, hnext⟩ := hcode
  cases q with
  | fork c graphs input scope =>
    -- all branches are left to be heard, and the strand is the one to go on
    obtain rfl : left = 0 := hq
    intro x _
    refine ⟨?_, fun _ => hfirst⟩
    rw [Nat.zero_add]
    exact hnext x trivial
  | reply => exact ⟨hq, fun x => hnext x trivial⟩
  | stop branches => exact fun x _ => ⟨hnext x trivial, fun _ => hfirst⟩
  | settle c =>
    obtain rfl : left = 0 := hq
    exact ⟨fun x => Phase.owes_ready rfl (hnext x trivial), fun _ => ⟨rfl, hown c rfl, fun x => hnext x trivial⟩⟩
  | pause c d =>
    obtain rfl : left = 0 := hq
    have hcode (x : Bool) : (next x).Hears E 0 := hnext x trivial
    exact ⟨fun _ => Phase.owes_ready rfl (hcode _), Phase.owes_ready rfl (hcode _), fun _ => ⟨rfl, hcode⟩⟩
  | dispatch c r timeout =>
    obtain rfl : left = 0 := hq
    have hcode (x : Except Fault Json) : (next x).Hears E 0 := hnext x trivial
    exact fun x hx => ⟨Phase.owes_ready rfl (hcode x), fun _ => ⟨rfl, hx, fun x _ => hcode x⟩⟩
  | offer r =>
    obtain rfl : left = 0 := hq
    have hcode (x : Option (Except Fault Json)) : (next x).Hears E 0 := hnext x trivial
    exact ⟨Phase.owes_ready rfl (hcode _), fun x hx => ⟨Phase.owes_ready rfl (hcode _), fun _ => ⟨rfl, hcode _⟩,
      rfl, hx, fun x _ => hcode _⟩⟩
  | listen c mode names =>
    obtain rfl : left = 0 := hq
    have hcode (x : Except Fault (List (String × Json))) : (next x).Hears E 0 := hnext x trivial
    exact ⟨fun x _ => Phase.owes_ready rfl (hcode x), fun _ => ⟨rfl, fun x _ => hcode x⟩⟩
  | fresh c =>
    obtain rfl : left = 0 := hq
    show Phase.Owes E own first 0 (.ready _)
    exact Phase.owes_ready rfl (hnext _ trivial)
  | enter c g input scope =>
    obtain rfl : left = 0 := hq
    show Phase.Owes E own first 0 (.ready _)
    exact Phase.owes_ready rfl
      (Dialogue.Hears.bind (Forking.hears_runGraph e c g input scope) fun x _ => hnext x trivial)
  | _ =>
    obtain rfl : left = 0 := hq
    exact fun x _ => Phase.owes_ready rfl (hnext x trivial)

/-! ## Replies -/

theorem conclude_of_parent (h : Host RunResult) {p : Nat} (hparent : s.parent = some p)
    (reply : Except Fault Json) :
    h.conclude s (.branch reply) = (h.remove s.id).replyTo p (s.path.getLastD 0) reply := by
  unfold Host.conclude
  rw [hparent]

/-- A strand that hears a reply is the first one in the queue. -/
theorem replyTo_of_joining {u : Strand RunResult} {p : Nat} {next : Nat × Except Fault Json → Code}
    (hfound : h.strands.find? (·.id == p) = some u) (hjoining : u.phase = .joining next) (branch : Nat)
    (reply : Except Fault Json) :
    h.replyTo p branch reply =
      { h.put { u with phase := .ready (next (branch, reply)) } with queue := u.id :: h.queue } := by
  unfold Host.replyTo
  rw [hfound]
  simp only [hjoining]
  rfl

/-! ## Concerted hosts -/

/-- The number of the branches that a strand has not heard yet. -/
def unheard (f : Family) (h : Host α) (i : Nat) : Nat := h.ids.countP fun id => f.parent id = some i

/-- Whether the strand of a number is the next one to go on. -/
def Foremost (h : Host α) (i : Nat) : Prop := ∃ s, h.next? = some s ∧ s.id = i

/-- Whether a phase is right for a strand of a number and a job. -/
def Minds (f : Family) (k : Kinship) (runs : Nat) (first : Nat → Prop) (left : Nat → Nat) (i j : Nat)
    (p : Phase RunResult) : Prop :=
  j = f.job i ∧ p.Owes (Ending.Fits (f.parent i) (k.origin i)) (fun run => k.opener run = i ∧ run < runs)
    (first i) (left i)

/-- Whether all that the strands of a host wait for from one another is on its way. -/
structure Concerted (e : Setting) (f : Family) (k : Kinship) (first : Nat → Prop) (h : Host RunResult) :
    Prop where
  bound : Bound (.free e.program) k h
  awake : h.Awake
  enlisted : h.Enlisted f.parent
  strands : h.Every (Minds f k h.runs.size first (h.unheard f))
  elder : ∀ i p, f.parent i = some p → p < i ∧ f.job i = f.job p
  opened : ∀ i run, k.origin i = some run → run < h.runs.size ∧ k.opener run < i
  present : mainStrand ∈ h.ids
  alone : f.parent mainStrand = none ∧ k.origin mainStrand = none
  running : ∀ run, h.inFlight run ≤ h.ids.countP fun i => k.origin i = some run

variable {f : Family} {k : Kinship} {first first' : Nat → Prop}

theorem minds_look (h : Host RunResult) {runs : Nat} {left : Nat → Nat} (i j : Nat) (c : Context) (due : Nat)
    (next : Except Fault Unit → Code) (hp : Minds f k runs first left i j (.settling c due next)) :
    (h.inFlight c.run = 0 → Minds f k runs first left i j (.ready (next (.ok ())))) ∧
      ∀ due', Minds f k runs first left i j (.settling c due' next) :=
  ⟨fun _ => ⟨hp.1, Phase.owes_ready hp.2.1 (hp.2.2.2 _)⟩, fun _ => hp⟩

namespace Concerted

theorem mono (hc : Concerted e f k first h)
    (hfirst : ∀ s ∈ h.strands, s.phase.waits = false → 0 < h.unheard f s.id → first s.id → first' s.id) :
    Concerted e f k first' h :=
  { hc with
    strands := fun s hs => (hc.strands s hs).imp_right fun hp => hp.mono (fun _ => id) (hfirst s hs) }

/-- When no strand can go on, none is owed anything by one that could. -/
theorem calm (hc : Concerted e f k first h) (hidle : h.next? = none) :
    Concerted e f k (fun _ => False) h :=
  hc.mono fun _ hs hready => Bool.noConfusion (hready.symm.trans (hc.enlisted.waits hidle hs))

/-- Strands stay as numerous as they are, and nothing is counted differently. -/
theorem idle (hc : Concerted e f k first h) (hbound : Bound (.free e.program) k h') (hawake : h'.Awake)
    (henlisted : h'.Enlisted f.parent) (ht : h'.Every (Minds f k h.runs.size first' (h.unheard f)))
    (hids : h'.ids = h.ids) (hruns : h.runs.size ≤ h'.runs.size)
    (hcount : ∀ run, h'.inFlight run = h.inFlight run) : Concerted e f k first' h' where
  bound := hbound
  awake := hawake
  enlisted := henlisted
  strands := by
    have hleft : h'.unheard f = h.unheard f := funext fun i => by unfold unheard; rw [hids]
    rw [hleft]
    exact Every.mono ht fun _ _ _ => And.imp_right fun hp =>
      hp.mono (fun _ => And.imp_right fun hlt => Nat.lt_of_lt_of_le hlt hruns) fun _ _ => id
  elder := hc.elder
  opened i run hi := (hc.opened i run hi).imp_left fun hlt => Nat.lt_of_lt_of_le hlt hruns
  present := hids ▸ hc.present
  alone := hc.alone
  running run := by
    rw [hcount, hids]
    exact hc.running run

/-- A host with the strands and the runs of one that is concerted. -/
theorem of_strands (hc : Concerted e f k first h) (hbound : Bound (.free e.program) k h')
    (hstrands : h'.strands = h.strands) (hqueue : h'.queue = h.queue) (hruns : h'.runs = h.runs) :
    Concerted e f k first h' :=
  hc.idle hbound (hc.awake.of_strands hstrands (by rw [hqueue]; exact List.Subset.refl _))
    (hc.enlisted.of_strands hstrands (by rw [hqueue]; exact List.Subset.refl _))
    (Every.of_strands hc.strands hstrands) (congrArg (List.map Strand.id) hstrands)
    (Nat.le_of_eq (by rw [hruns])) fun run => inFlight_of_runs hruns run

/-! ### Appointments -/

theorem deliver (hc : Concerted e f k first h) (name : String) (payload : Json) :
    Concerted e f k first (h.deliver name payload) := by
  refine hc.idle (hc.bound.deliver name payload) (hc.awake.deliver hc.bound.numbered.nodup name payload)
    (hc.enlisted.deliver name payload) ?_ (ids_deliver h name payload) ?_ (inFlight_deliver h name payload)
  · exact Every.deliver (fun _ _ _ _ _ _ _ _ hp hreceive => hp.imp_right fun hp => hp.of_receive hreceive)
      (minds_look h) hc.strands name payload
  · exact (grows_deliver (N := Any) (V := Any) (fun _ => trivial) h name payload).runs

theorem cancel (hc : Concerted e f k first h) (scope : Nat) : Concerted e f k first (h.cancel scope) := by
  have hcore := core_cancel h scope
  refine hc.idle (hc.bound.cancel scope) (hc.awake.cancel scope) (hc.enlisted.cancel scope) ?_
    (ids_cancel h scope) (later_of_core hcore).runs (inFlight_of_core hcore)
  exact hc.strands.cancels scope (fun _ _ _ _ _ hp hint _ => hp.imp_right fun hp => hp.of_interrupted hint)
    fun _ _ _ hp _ => hp

theorem arrive (hc : Concerted e f k first h) (hs : s ∈ h.strands) :
    Concerted e f k first (h.arrive s) := by
  have hcore := core_arrive h s
  refine hc.idle (hc.bound.keep (a := .strand s) (t := 0) hs) (hc.awake.arrive hs)
    (hc.enlisted.arrive (hc.enlisted s hs).1) ?_ (ids_arrive h s) (later_of_core hcore).runs
    (inFlight_of_core hcore)
  refine Every.arrive ?_ ?_ ?_ (minds_look h) hc.strands (hc.strands s hs)
  · exact fun _ _ _ _ hp => hp.imp_right fun hp => Phase.owes_ready hp.1 hp.2
  · exact fun _ _ _ _ _ hp => hp.imp_right fun hp => Phase.owes_ready hp.1 (hp.2 _)
  · exact fun _ _ _ _ _ _ _ hp => hp.imp_right fun hp => Phase.owes_ready hp.1 (hp.2.2 _ (Running.result_any _))

/-- A host that keeps an appointment stays concerted, unless it is given up. -/
theorem keep (hc : Concerted e f k first h) {t : Nat} {a : Appointment RunResult} (ha : h.Keeps t a) :
    (h.keep a).result.isSome ∨ Concerted e f k first (h.keep a) := by
  have hturn : Concerted e f k first { h with turn := none } :=
    hc.of_strands (hc.bound.of_core rfl hc.bound.strands (.refl _)) rfl rfl rfl
  cases a with
  | strand s => exact .inr (hc.arrive ha)
  | beat b =>
    refine .inr (hc.idle (hc.bound.keep ha) (hc.awake.keep hc.bound.numbered.nodup ha)
      (hc.enlisted.keep ha) hc.strands rfl (later_keep h (.beat b)).runs fun run => ?_)
    exact inFlight_record ..
  | occurrence o =>
    cases o with
    | signal name payload => exact .inr (hturn.deliver name payload)
    | cancel => exact .inr (hturn.cancel rootScope)
  | deadline v => exact .inl rfl

/-! ### Turns -/

theorem lt_fresh (hc : Concerted e f k first h) {i : Nat} (hi : i ∈ h.ids) : i < h.fresh :=
  hc.bound.numbered.below i hi

/-- No strand is left to be heard by one that is still to come. -/
theorem unheard_of_le (hc : Concerted e f k first h) {i : Nat} (hi : h.fresh ≤ i) : h.unheard f i = 0 := by
  refine List.countP_eq_zero.2 fun id hid hparent => ?_
  have hlt := (hc.elder id i (by simpa using hparent)).1
  have hbelow := hc.lt_fresh hid
  omega

/-- With a turn, a strand has more branches to hear by those that it forks. -/
theorem unheard_perform (hc : Concerted e f k first h) {q : Request} {next : q.Answer → Code}
    {new : List Nat} (ha : h.Adds (h.perform s q next) new) (hspawns : h.Spawns q new) (i : Nat) :
    (h.perform s q next).unheard (f.after h s q) i =
      h.unheard f i + if i = s.id then q.branches else 0 := by
  have hold : (h.ids.countP fun id => (f.after h s q).parent id = some i) = h.unheard f i :=
    List.countP_congr fun id hid => by rw [f.parent_after q (hc.lt_fresh hid)]
  -- of the new strands, those of a fork have the strand as their parent, and a detached one has
  -- none
  have hnew : (new.countP fun id => (f.after h s q).parent id = some i) =
      if i = s.id then q.branches else 0 := by
    cases q with
    | fork c graphs input scope =>
      have hlength : new.length = (Request.fork c graphs input scope).branches := hspawns
      have hparent (id : Nat) (hid : id ∈ new) :
          (f.after h s (.fork c graphs input scope)).parent id = some s.id :=
        if_pos (ha.fresh id hid).1
      by_cases hi : i = s.id
      · rw [if_pos hi, ← hlength]
        exact List.countP_eq_length.2 fun id hid => by simp [hparent id hid, hi]
      · rw [if_neg hi]
        exact List.countP_eq_zero.2 fun id hid => by simpa [hparent id hid] using fun heq => hi heq.symm
    | detach c name input scope =>
      have hnone : (new.countP fun id => (f.after h s (.detach c name input scope)).parent id = some i) = 0 := by
        refine List.countP_eq_zero.2 fun id hid => ?_
        have hparent : (f.after h s (.detach c name input scope)).parent id = none :=
          if_pos (ha.fresh id hid).1
        simp [hparent]
      rw [hnone]
      exact (ite_self 0).symm
    | _ =>
      obtain rfl := hspawns
      exact (ite_self 0).symm
  unfold unheard
  rw [ha.ids.countP_eq, List.countP_append, hnew, hold]
  rfl

/-- The run of what a strand waits to be finished is its own. -/
theorem own_of_binds (hc : Concerted e f k first h) (hs : s ∈ h.strands) {q : Request}
    {next : q.Answer → Code} (hphase : s.phase = .ready (.ask q next)) {c : Context}
    (hq : q = .settle c ∨ ∃ name input scope, q = .detach c name input scope) :
    k.opener c.run = s.id ∧ c.run < h.runs.size := by
  obtain ⟨l, hl, hallows, -⟩ := hc.bound.binds hs hphase
  have hown : c.run ∈ l.own := by
    rcases hq with rfl | ⟨name, input, scope, rfl⟩
    · exact hallows
    · exact hallows.1
  exact (hl.own c.run hown).symm

/-- A strand that is forked is younger than the strand that forks it, and of the same job. -/
theorem elder_after (hc : Concerted e f k first h) (hs : s ∈ h.strands) (q : Request) {i p : Nat}
    (hp : (f.after h s q).parent i = some p) :
    p < i ∧ (f.after h s q).job i = (f.after h s q).job p := by
  have hsid := hc.bound.lt_fresh hs
  by_cases hi : i < h.fresh
  · rw [f.parent_after q hi] at hp
    obtain ⟨hlt, hjob⟩ := hc.elder i p hp
    rw [f.job_after q hi, f.job_after q (Nat.lt_trans hlt hi)]
    exact ⟨hlt, hjob⟩
  · have hle := Nat.le_of_not_lt hi
    cases q with
    | fork c graphs input scope =>
      have hparent : (f.after h s (.fork c graphs input scope)).parent i = some s.id := if_pos hle
      have hjob : (f.after h s (.fork c graphs input scope)).job i = s.job := if_pos hle
      obtain rfl := Option.some.inj (hparent.symm.trans hp)
      rw [hjob, f.job_after _ hsid]
      exact ⟨Nat.lt_of_lt_of_le hsid hle, (hc.strands s hs).1⟩
    | detach c name input scope =>
      have hparent : (f.after h s (.detach c name input scope)).parent i = none := if_pos hle
      cases hparent.symm.trans hp
    | _ => exact hc.elder i p hp

/-- A strand that a request adds was detached in a run if the request detaches it. -/
theorem detached_of_origin (hc : Concerted e f k first h) {q : Request} {i run : Nat} (hi : h.fresh ≤ i)
    (horigin : (k.after h s q).origin i = some run) :
    ∃ c name input scope, q = .detach c name input scope ∧ i = h.fresh ∧ run = c.run := by
  have hunborn := hc.bound.unborn i hi
  cases q with
  | detach c name input scope =>
    have horigin : (if i = h.fresh then some c.run else k.origin i) = some run := horigin
    split at horigin
    · next heq => exact ⟨c, name, input, scope, rfl, heq, (Option.some.inj horigin).symm⟩
    · cases hunborn.symm.trans horigin
  | _ => cases hunborn.symm.trans horigin

/-- A strand that is detached in a run is younger than the one that has opened the run. -/
theorem opened_perform (hc : Concerted e f k first h) (hs : s ∈ h.strands) {q : Request}
    {next : q.Answer → Code} (hphase : s.phase = .ready (.ask q next)) {i run : Nat}
    (horigin : (k.after h s q).origin i = some run) :
    run < (h.perform s q next).runs.size ∧ (k.after h s q).opener run < i := by
  have hkin := k.extends_after h s q
  have hold : run < h.runs.size ∧ k.opener run < i := by
    by_cases hi : i < h.fresh
    · rw [hkin.origin i hi] at horigin
      exact hc.opened i run horigin
    · obtain ⟨c, name, input, scope, rfl, rfl, rfl⟩ := hc.detached_of_origin (Nat.le_of_not_lt hi) horigin
      obtain ⟨hopener, hlt⟩ := hc.own_of_binds hs hphase (.inr ⟨name, input, scope, rfl⟩)
      exact ⟨hlt, hopener ▸ hc.bound.lt_fresh hs⟩
  rw [hkin.opener run hold.1]
  exact hold.imp_left fun hlt => Nat.lt_of_lt_of_le hlt (h.later_perform s q next).runs

/-- With a turn, all strands hear their branches still, and the strand whose turn it is goes on before any
other one that has to. -/
theorem strands_perform (hc : Concerted e f k (fun i => i = s.id) h) (hs : s ∈ h.strands) {q : Request}
    {next : q.Answer → Code} (hphase : s.phase = .ready (.ask q next)) :
    (h.perform s q next).Every (Minds (f.after h s q) (k.after h s q) (h.perform s q next).runs.size
      (fun i => i = s.id) ((h.perform s q next).unheard (f.after h s q))) := by
  obtain ⟨new, ha, hspawns⟩ := adds_perform hc.bound.numbered hs q next
  have hleft := hc.unheard_perform ha hspawns
  have hkin := k.extends_after h s q
  have hruns := (h.later_perform s q next).runs
  have hsid := hc.bound.lt_fresh hs
  have hnew {i : Nat} (hi : h.fresh ≤ i) : (h.perform s q next).unheard (f.after h s q) i = 0 := by
    rw [hleft, hc.unheard_of_le hi, if_neg (by omega)]
  refine every_serve (fun _ _ => trivial) ?_ hc.bound.setting hc.bound.around
    (fun i j c due next _ => minds_look h i j c due next)
    (fun _ _ _ _ _ _ hp hint _ => hp.imp_right fun hp => hp.of_interrupted hint) ?_ ?_ ?_
  · -- nothing is forked or opened for the other strands
    intro t ht hne
    obtain ⟨hjob, howes⟩ := hc.strands t ht
    have htid := hc.bound.lt_fresh ht
    refine ⟨hjob.trans (f.job_after q htid).symm, ?_⟩
    rw [f.parent_after q htid, hkin.origin t.id htid, hleft, if_neg hne]
    exact howes.mono (fun run ⟨hopener, hlt⟩ =>
      ⟨(hkin.opener run hlt).trans hopener, Nat.lt_of_lt_of_le hlt hruns⟩) fun _ _ => id
  -- a branch has its parent to reply to, and is of no run
  · rintro c graphs input scope rfl name - scopes id hid
    have hparent : (f.after h s (.fork c graphs input scope)).parent id = some s.id := if_pos hid
    have horigin : (k.after h s (.fork c graphs input scope)).origin id = none := hc.bound.unborn id hid
    refine ⟨(if_pos hid).symm, Phase.owes_ready (hnew hid) ?_⟩
    rw [hparent, horigin]
    exact (Restart.hears_runGraph name input scope).map _ fun _ => ⟨⟨s.id, rfl⟩, rfl⟩
  -- a detached graph is of the run that has detached it, and has no parent
  · rintro c name input scope rfl
    have hparent : (f.after h s (.detach c name input scope)).parent h.fresh = none :=
      if_pos (Nat.le_refl _)
    have horigin : (k.after h s (.detach c name input scope)).origin h.fresh = some c.run := if_pos rfl
    refine ⟨(if_pos (Nat.le_refl _)).symm, Phase.owes_ready (hnew (Nat.le_refl _)) ?_⟩
    rw [hparent, horigin]
    exact (Restart.hears_graphOutput name input scope).map _ fun _ => ⟨rfl, rfl⟩
  -- the strand itself has the branches to hear that it forks now
  · have hminds := hc.strands s hs
    rw [hphase] at hminds
    have hleads : h.Leads e Any (Phase.Owes (Ending.Fits (f.parent s.id) (k.origin s.id))
        (fun run => (k.after h s q).opener run = s.id ∧ run < (h.perform s q next).runs.size) (s.id = s.id)
        (h.unheard f s.id + q.branches)) q next := by
      refine leads_owes hminds.2.1 ?_ rfl
      rintro c rfl
      obtain ⟨hopener, hlt⟩ := hc.own_of_binds hs hphase (.inl rfl)
      exact ⟨hopener, Nat.lt_of_lt_of_le hlt hruns⟩
    refine hleads.mono fun p hp => ⟨hminds.1.trans (f.job_after q hsid).symm, ?_⟩
    rw [f.parent_after q hsid, hkin.origin s.id hsid, hleft, if_pos rfl]
    exact hp

/-- A strand that asks for something. -/
theorem perform (hc : Concerted e f k (fun i => i = s.id) h) (hs : s ∈ h.strands) (hqueue : s.id ∈ h.queue)
    {q : Request} {next : q.Answer → Code} (hphase : s.phase = .ready (.ask q next)) :
    Concerted e (f.after h s q) (k.after h s q) (fun i => i = s.id) (h.perform s q next) where
  bound := hc.bound.perform hs hphase
  awake := hc.awake.perform hc.bound.numbered s q next
  enlisted := by
    have henlisted : h.Enlisted (f.after h s q).parent := by
      intro t ht
      rw [f.parent_after q (hc.bound.lt_fresh ht)]
      exact hc.enlisted t ht
    refine henlisted.perform ?_ ?_ (henlisted s hs).1 hqueue next
    · rintro c graphs input scope rfl id hid
      exact if_pos hid
    · rintro c name input scope rfl
      exact if_pos (Nat.le_refl _)
  strands := hc.strands_perform hs hphase
  elder _ _ hp := hc.elder_after hs q hp
  opened _ _ horigin := hc.opened_perform hs hphase horigin
  present := by
    obtain ⟨new, ha, -⟩ := adds_perform hc.bound.numbered hs q next
    exact ha.ids.mem_iff.2 (List.mem_append_left _ hc.present)
  alone := by
    have hmain := hc.lt_fresh hc.present
    rw [f.parent_after q hmain, (k.extends_after h s q).origin _ hmain]
    exact hc.alone
  -- as many graphs are in flight as there are strands that come from the run
  running run := by
    obtain ⟨new, ha, hspawns⟩ := adds_perform hc.bound.numbered hs q next
    rw [hc.bound.countP_perform next ha hspawns, inFlight_perform h s q next (hc.bound.lt_size hs hphase)]
    exact Nat.add_le_add_right (hc.running run) _

section

variable (hc : Concerted e f k (fun i => i = s.id) h) (hs : s ∈ h.strands) {ending : Ending RunResult}
include hc hs

/-- With the end of a strand, the one that has forked it has one branch less to hear. -/
theorem unheard_conclude (ending : Ending RunResult) (i : Nat) :
    h.unheard f i = (h.conclude s ending).unheard f i + if f.parent s.id = some i then 1 else 0 := by
  have hcount := countP_ids_conclude hc.bound.numbered.nodup hs ending fun id => f.parent id = some i
  simp only [decide_eq_true_eq] at hcount
  exact hcount

theorem fits_of_done (hphase : s.phase = .ready (.done ending)) :
    ending.Fits (f.parent s.id) (k.origin s.id) := by
  have hminds := hc.strands s hs
  rw [hphase] at hminds
  exact hminds.2.1.2

/-- The strand that has forked the one that ends waits for its reply. -/
theorem joining_of_parent {p : Strand RunResult} (hp : p ∈ h.strands) (hparent : f.parent s.id = some p.id) :
    ∃ next, p.phase = .joining next := by
  have hpos : 0 < h.unheard f p.id :=
    List.countP_pos_iff.2 ⟨s.id, mem_ids.2 ⟨s, hs, rfl⟩, by simpa using hparent⟩
  obtain ⟨-, howes⟩ := hc.strands p hp
  cases hphase : p.phase with
  | joining next => exact ⟨next, rfl⟩
  | ready code =>
    rw [hphase] at howes
    have hlt := (hc.elder s.id p.id hparent).1
    exact absurd (howes.2 hpos) (Nat.ne_of_lt hlt)
  | delayed | calling | pausing | settling | listening =>
    rw [hphase] at howes
    exact absurd howes.1 (Nat.ne_of_gt hpos)

/-- A strand that has not forked the one that ends hears its branches as before. -/
theorem minds_conclude {t : Strand RunResult} (ht : t ∈ h.strands) (hne : t.id ≠ s.id)
    (hparent : f.parent s.id ≠ some t.id) :
    Minds f k (h.conclude s ending).runs.size first ((h.conclude s ending).unheard f) t.id t.job t.phase := by
  have hleft : h.unheard f t.id = (h.conclude s ending).unheard f t.id := by
    rw [hc.unheard_conclude hs ending t.id, if_neg hparent]
    rfl
  obtain ⟨hjob, howes⟩ := hc.strands t ht
  refine ⟨hjob, hleft ▸ howes.mono (fun run => And.imp_right fun hlt => ?_) fun _ _ hid => absurd hid hne⟩
  exact Nat.lt_of_lt_of_le hlt (later_conclude h s ending).runs

/-- With the end of a branch, the strand that has forked it has one branch less to hear, and it is the next
one to go on. -/
theorem strands_replied {reply : Except Fault Json} (hphase : s.phase = .ready (.done (.branch reply)))
    (hturn : h.turn = some s.job) : (h.conclude s (.branch reply)).Every
      (Minds f k (h.conclude s (.branch reply)).runs.size (h.conclude s (.branch reply)).Foremost
        ((h.conclude s (.branch reply)).unheard f)) := by
  obtain ⟨⟨p, hparent⟩, -⟩ := hc.fits_of_done hs hphase
  have hconclude := h.conclude_of_parent ((hc.enlisted s hs).1.trans hparent) reply
  -- whoever has not forked the branch is as before
  have hothers {t : Strand RunResult} (hmem : t ∈ (h.remove s.id).strands) (hne : t.id ≠ p) :
      Minds f k (h.conclude s (.branch reply)).runs.size (h.conclude s (.branch reply)).Foremost
        ((h.conclude s (.branch reply)).unheard f) t.id t.job t.phase := by
    obtain ⟨hmem, hid⟩ := List.mem_filter.1 hmem
    exact hc.minds_conclude hs hmem (by simpa using hid)
      fun heq => hne (Option.some.inj (heq.symm.trans hparent))
  intro t ht
  cases hfound : (h.remove s.id).strands.find? (·.id == p) with
  | none =>
    have hreplied : h.conclude s (.branch reply) = h.remove s.id := by
      rw [hconclude, Host.replyTo, hfound]
    rw [hreplied] at ht
    exact hothers ht (by simpa using List.find?_eq_none.1 hfound t ht)
  | some u =>
    have hu := List.mem_of_find?_eq_some hfound
    obtain rfl : u.id = p := by simpa using List.find?_some hfound
    have humem := (List.mem_filter.1 hu).1
    obtain ⟨next, hjoining⟩ := hc.joining_of_parent hs humem hparent
    let woken : Strand RunResult := { u with phase := .ready (next (s.path.getLastD 0, reply)) }
    have hreplied : h.conclude s (.branch reply) =
        { (h.remove s.id).put woken with queue := u.id :: (h.remove s.id).queue } :=
      hconclude.trans (replyTo_of_joining hfound hjoining _ reply)
    obtain ⟨hjob, howes⟩ := hc.strands u humem
    rw [hreplied] at ht
    obtain ⟨t', ht', rfl⟩ := List.mem_map.1 ht
    by_cases hid : t'.id = u.id
    · rw [if_pos (show t'.id = woken.id from hid)]
      rw [hjoining, hc.unheard_conclude hs (.branch reply) u.id, if_pos hparent] at howes
      refine ⟨hjob, howes.2 _, fun _ => ⟨woken, ?_, rfl⟩⟩
      have hsame : s.job = u.job :=
        (hc.strands s hs).1.trans ((hc.elder s.id u.id hparent).2.trans hjob.symm)
      rw [hreplied]
      exact next?_of_first (hturn.trans (congrArg some hsame)) rfl (strand?_put (s := woken) hu rfl)
    · rw [if_neg (show t'.id ≠ woken.id from hid)]
      exact hothers ht' hid

end

/-- A strand that has ended. -/
theorem conclude (hc : Concerted e f k (fun i => i = s.id) h) (hs : s ∈ h.strands)
    (hturn : h.turn = some s.job) {ending : Ending RunResult} (hphase : s.phase = .ready (.done ending)) :
    (h.conclude s ending).result.isSome ∨
      Concerted e f k (h.conclude s ending).Foremost (h.conclude s ending) := by
  have hfits := hc.fits_of_done hs hphase
  by_cases hresult : ∃ v, ending = .result v
  · obtain ⟨v, rfl⟩ := hresult
    exact .inl rfl
  · refine .inr ⟨hc.bound.conclude hs hphase, hc.awake.conclude ending, hc.enlisted.conclude ending, ?_,
      hc.elder, fun i run hi => ?_, ?_, hc.alone, fun run => ?_⟩
    · cases ending with
      | result v => exact absurd ⟨v, rfl⟩ hresult
      | branch reply => exact hc.strands_replied hs hphase hturn
      | detached run =>
        intro t ht
        obtain ⟨hmem, hid⟩ := List.mem_filter.1 ht
        exact hc.minds_conclude hs hmem (by simpa using hid) (by rw [hfits.1]; exact nofun)
    · exact (hc.opened i run hi).imp_left fun hlt => Nat.lt_of_lt_of_le hlt (later_conclude h s ending).runs
    · -- the strand that the host was started with ends with the result
      rw [ids_conclude]
      refine List.mem_filter.2 ⟨hc.present, ?_⟩
      simp only [bne_iff_ne, ne_eq]
      intro hmain
      rw [← hmain, hc.alone.1, hc.alone.2] at hfits
      exact hresult hfits.result
    -- one strand less comes from the run if the strand was detached by it, and then one less is in
    -- flight
    · have hcount := countP_ids_conclude hc.bound.numbered.nodup hs ending fun i => k.origin i = some run
      have hrunning := hc.running run
      rw [inFlight_conclude, hfits.finishes]
      simp only [decide_eq_true_eq] at hcount
      omega

/-- The strand whose turn it is. -/
theorem stepStrand (hc : Concerted e f k h.Foremost h) (hs : h.next? = some s) :
    (h.stepStrand s).result.isSome ∨ ∃ f k, Concerted e f k (h.stepStrand s).Foremost (h.stepStrand s) := by
  have hmem := mem_of_next? hs
  obtain ⟨code, hphase⟩ := hc.awake.ready_of_next? hs
  -- the foremost strand is the one whose turn it is
  have hmine : Concerted e f k (fun i => i = s.id) h := by
    refine hc.mono fun t _ _ _ ⟨s', hs', hid⟩ => ?_
    obtain rfl := Option.some.inj (hs.symm.trans hs')
    exact hid.symm
  have hturned : Concerted e f k (fun i => i = s.id) (h.turned s) :=
    hmine.idle (hc.bound.of_core rfl hc.bound.strands (.refl _))
      (hc.awake.turned hmem hc.bound.numbered.nodup hphase) hc.enlisted.turned hmine.strands rfl
      (Nat.le_refl _) fun _ => rfl
  cases code with
  | ask q next =>
    have hstep : h.stepStrand s = (h.turned s).perform s q next := by
      unfold Host.stepStrand
      rw [hphase]
      rfl
    rw [hstep]
    refine .inr ⟨_, _, (hturned.perform hmem (List.mem_cons_self ..) hphase).mono ?_⟩
    exact fun t ht hready _ hid => ⟨t, next?_perform (h := h.turned s) hmem rfl rfl q next ht hid hready, rfl⟩
  | done ending =>
    have hstep : h.stepStrand s = (h.turned s).conclude s ending := by
      unfold Host.stepStrand
      rw [hphase]
      rfl
    rw [hstep]
    exact (hturned.conclude hmem rfl hphase).imp_right fun hconcluded => ⟨f, k, hconcluded⟩

end Concerted

/-! ## Steps -/

/-- What may happen to a host next while it conducts: a strand goes on whose turn it is, and only when there
is none, an appointment is kept, or a signal or a cancellation comes. Whether restarts are suggested may
change at any time, and the limit on the time may be lifted. A step is labelled with the strand that goes
on. -/
inductive Steps (h : Host RunResult) : Option (Strand RunResult) → Host RunResult → Prop where
  | turn {s : Strand RunResult} (can : h.next? = some s) : Steps h (some s) (h.stepStrand s)
  | keep (idle : h.next? = none) {t : Nat} {a : Appointment RunResult} (mem : (t, a) ∈ h.appointments) :
      Steps h none (({ h with now := max h.now t }.strike t a).keep a)
  | occur (idle : h.next? = none) (o : Occurrence) : Steps h none (h.keep (.occurrence o))
  | suggest (suggests : Option Bool) (suggestAfter : Nat) : Steps h none
      { h with surroundings := ⟨h.surroundings.handler, h.surroundings.gateway, suggests,
        suggestAfter⟩ }
  | unlimited : Steps h none { h with deadline := none }

variable {who : Option (Strand RunResult)}

theorem Steps.moves (hsteps : h.Steps who h') : h.Moves who h' := by
  cases hsteps with
  | turn hs => exact .turn (mem_of_next? hs) (.inl hs)
  | keep _ ha => exact .keep ha
  | occur _ o => exact .occur o
  | suggest suggests suggestAfter => exact .suggest suggests suggestAfter
  | unlimited => exact .unlimited

theorem steps_of_advance {horizon : Option Nat} (hstep : h.advance horizon = some h') :
    h.Steps h.next? h' := by
  rcases advance_cases hstep with ⟨s, hs, rfl⟩ | ⟨hidle, t, a, ha, rfl⟩
  · exact hs ▸ .turn hs
  · rw [hidle]
    exact .keep hidle ha

/-- Fuel can be spent step by step. -/
theorem run_succ (h : Host α) (n : Nat) : h.run (n + 1) = (h.run n).run 1 := by
  induction n generalizing h with
  | zero => rfl
  | succ n ih =>
    by_cases hover : h.result.isSome = true
    · have hrun (m : Nat) : h.run (m + 1) = h := if_pos hover
      rw [hrun, hrun, hrun]
    · cases hstep : h.advance none with
      | some h' =>
        have hrun (m : Nat) : h.run (m + 1) = h'.run m := by rw [Host.run, if_neg hover, hstep]
        rw [hrun, hrun, ih]
      | none =>
        have hrun (m : Nat) : h.run (m + 1) = h := by rw [Host.run, if_neg hover, hstep]
        rw [hrun, hrun, hrun]

/-- A host that conducts takes one step after the other, and stays as it is in the end. -/
theorem exists_steps_run (h : Host RunResult) (n : Nat) :
    ∃ who, ((h.run n).result = none → (h.run n).next?.isSome → who.isSome) ∧
      (h.run n).Steps who (h.run (n + 1)) := by
  rw [run_succ]
  generalize h.run n = h
  have hstays : h.Steps none h := .suggest h.surroundings.suggests h.surroundings.suggestAfter
  rw [Host.run]
  split
  · next hover =>
    refine ⟨none, fun hnone => ?_, hstays⟩
    rw [hnone] at hover
    cases hover
  · split
    · next h' hstep => exact ⟨h.next?, fun _ => id, steps_of_advance hstep⟩
    · next hstuck =>
      refine ⟨none, fun _ hcan => ?_, hstays⟩
      obtain ⟨s, hs⟩ := Option.isSome_iff_exists.1 hcan
      rw [advance, hs] at hstuck
      cases hstuck

theorem result_of_core (hcore : h'.core = h.core) : h'.result = h.result :=
  (Grows.of_core (N := Any) (V := Any) hcore).result

theorem result_stepStrand (hresult : h.result.isSome = true) : (h.stepStrand s).result.isSome = true := by
  have hconcluded (ending : Ending RunResult) (hne : ∀ v, ending ≠ .result v) :
      ((h.turned s).conclude s ending).result = h.result :=
    (grows_conclude (N := Any) (V := Any) (h.turned s) s hne).result
  have hperformed (q : Request) (next : q.Answer → Code) :
      ((h.turned s).perform s q next).result = h.result :=
    (grows_perform (N := Any) (V := Any) (fun _ _ => trivial) (fun _ => trivial) (h.turned s) s q next
      (fun _ _ => trivial) fun _ _ _ => trivial).result
  unfold Host.stepStrand
  split
  · next ending _ =>
    cases ending with
    | result v => rfl
    | branch reply => exact (hconcluded (.branch reply) nofun).symm ▸ hresult
    | detached run => exact (hconcluded (.detached run) nofun).symm ▸ hresult
  · next q next _ => exact (hperformed q next).symm ▸ hresult
  · exact hresult

theorem result_keep (a : Appointment RunResult) (hresult : h.result.isSome = true) :
    (h.keep a).result.isSome = true := by
  cases a with
  | strand s => exact (result_of_core (core_arrive h s)).symm ▸ hresult
  | beat b => exact hresult
  | occurrence o =>
    cases o with
    | signal name payload =>
      have hdelivered := (grows_deliver (N := Any) (V := Any) (fun _ => trivial) { h with turn := none } name
        payload).result
      exact hdelivered.symm ▸ hresult
    | cancel => exact (result_of_core (core_cancel { h with turn := none } rootScope)).symm ▸ hresult
  | deadline v => rfl

/-- A result stays there, whatever happens. -/
theorem Moves.result (hmoves : h.Moves who h') (hresult : h.result.isSome = true) :
    h'.result.isSome = true := by
  cases hmoves with
  | turn => exact result_stepStrand hresult
  | @keep t a =>
    have hstruck : ({ h with now := max h.now t }.strike t a).result = h.result := by cases a <;> rfl
    exact result_keep a (hstruck.symm ▸ hresult)
  | occur o => exact result_keep (.occurrence o) hresult
  | suggest | unlimited => exact hresult

theorem result_run_of_le {m n : Nat} (hle : m ≤ n) (hresult : (h.run m).result.isSome = true) :
    (h.run n).result.isSome = true := by
  induction hle with
  | refl => exact hresult
  | @step n _ ih =>
    obtain ⟨who, -, hsteps⟩ := h.exists_steps_run n
    exact hsteps.moves.result ih

namespace Concerted

/-- One step keeps a host concerted, as long as the result is not there. -/
theorem steps (hc : Concerted e f k h.Foremost h) (hsteps : h.Steps who h') :
    h'.result.isSome ∨ ∃ f k, Concerted e f k h'.Foremost h' := by
  have hcalm {h : Host RunResult} (hc : Concerted e f k (fun _ => False) h) :
      Concerted e f k h.Foremost h := hc.mono fun _ _ _ _ => False.elim
  cases hsteps with
  | turn hs => exact hc.stepStrand hs
  | @keep hidle t a ha =>
    have hstruck : Concerted e f k (fun _ => False) ({ h with now := max h.now t }.strike t a) :=
      (hc.calm hidle).of_strands (hc.bound.strike t a) (strands_strike _ t a) (by cases a <;> rfl)
        (by cases a <;> rfl)
    exact (hstruck.keep (keeps_strike ha)).imp_right fun hkept => ⟨f, k, hcalm hkept⟩
  | occur hidle o =>
    exact ((hc.calm hidle).keep (t := 0) (a := .occurrence o) trivial).imp_right
      fun hkept => ⟨f, k, hcalm hkept⟩
  | suggest suggests suggestAfter =>
    exact .inr ⟨f, k, hc.of_strands (hc.bound.of_strands rfl rfl rfl rfl rfl
      ⟨hc.bound.around.handler, hc.bound.around.gateway⟩ hc.bound.deadline hc.bound.result) rfl rfl rfl⟩
  | unlimited =>
    exact .inr ⟨f, k, hc.of_strands (hc.bound.of_strands rfl rfl rfl rfl rfl hc.bound.around nofun
      hc.bound.result) rfl rfl rfl⟩

/-! ### Starting -/

theorem start {around : Surroundings} {input : Json} {env : Members} (wrapper : Wrapper) :
    Concerted e .blank .blank (fun _ => False)
      (Host.start e around wrapper (programRun e.program input env).run) where
  bound := bound_start _ ⟨fun _ _ _ _ => Running.result_any _, fun _ _ _ _ => Running.result_any _⟩ wrapper
    fun _ _ _ _ => trivial
  awake s hs _ := by
    obtain rfl := List.mem_singleton.1 hs
    exact ⟨_, rfl⟩
  enlisted s hs := by
    obtain rfl := List.mem_singleton.1 hs
    exact ⟨rfl, fun _ => List.mem_singleton.2 rfl⟩
  strands s hs := by
    obtain rfl := List.mem_singleton.1 hs
    exact ⟨rfl, Phase.owes_ready rfl ((hears_programRun e.program input env).map _ fun _ => ⟨rfl, rfl⟩)⟩
  elder := nofun
  opened := nofun
  present := List.mem_singleton.2 rfl
  alone := ⟨rfl, rfl⟩
  running run := by
    have hnone : (Host.start e around wrapper (programRun e.program input env).run).inFlight run = 0 := by
      rw [inFlight_eq]
      cases run <;> rfl
    rw [hnone]
    exact Nat.zero_le _

theorem withLimit (hc : Concerted e f k first h) (workflow : String) (limit : Option Duration) :
    Concerted e f k first (h.withLimit workflow limit) := by
  have hbound := hc.bound.withLimit workflow limit
  cases limit <;> exact hc.of_strands hbound rfl rfl rfl

end Concerted

/-- Every host that a run of a program comes to is concerted, as long as the result is not there. -/
theorem concerted_of_reaches {around : Surroundings} {input : Json} {env : Members}
    (hh : Reaches e around input env h) :
    h.result.isSome ∨ ∃ f k, Concerted e f k h.Foremost h := by
  -- what is put on the agenda has not come about yet
  have hlater {h : Host RunResult} (entry : Nat × Occurrence) (hc : Concerted e .blank .blank (fun _ => False) h) :
      Concerted e .blank .blank (fun _ => False) { h with agenda := h.agenda ++ [entry] } :=
    hc.of_strands (hc.bound.of_core rfl hc.bound.strands (.refl _)) rfl rfl rfl
  have hstepped {h h' : Host RunResult} {who : Option (Strand RunResult)} (hsteps : h.Steps who h')
      (hc : h.result.isSome ∨ ∃ f k, Concerted e f k h.Foremost h) :
      h'.result.isSome ∨ ∃ f k, Concerted e f k h'.Foremost h' := by
    rcases hc with hresult | ⟨f, k, hc⟩
    · exact .inl (hsteps.moves.result hresult)
    · exact hc.steps hsteps
  induction hh with
  | start wrapper signals at? workflow limit =>
    have hstart : Concerted e .blank .blank (fun _ => False)
        (Host.start e around wrapper (programRun e.program input env).run) := .start wrapper
    have hbegun := withCancellation_of (fun hc => hc.cancel rootScope) hlater
      (withSignals_of (fun _ name payload hc => hc.deliver name payload) (fun _ => hlater) hstart signals) at?
    exact .inr ⟨_, _, (hbegun.withLimit workflow limit).mono fun _ _ _ _ => False.elim⟩
  | advance _ horizon hstep ih => exact hstepped (steps_of_advance hstep) ih
  | suggest _ suggests suggestAfter ih => exact hstepped (.suggest suggests suggestAfter) ih
  | unlimited _ ih => exact hstepped .unlimited ih

/-! ## Hosts at rest -/

/-- Whether a strand in a phase waits for something that is no strand: for a handler, for its time to come
or for signals. -/
def Outside (h : Host α) : Phase α → Prop
  | .ready _ | .joining _ => False
  | .settling c _ _ => h.inFlight c.run = 0
  | _ => True

/-- When no strand can go on, the youngest one waits for something that is no strand. -/
theorem Concerted.outside (hc : Concerted e f k first h) (hidle : h.next? = none) :
    ∃ s ∈ h.strands, h.Outside s.phase := by
  obtain ⟨i, hmax⟩ := Option.isSome_iff_exists.1 (List.isSome_max?_of_mem hc.present)
  obtain ⟨hmem, hyoungest⟩ := List.max?_eq_some_iff.1 hmax
  obtain ⟨s, hs, rfl⟩ := mem_ids.1 hmem
  refine ⟨s, hs, ?_⟩
  have hwaits := hc.enlisted.waits hidle hs
  obtain ⟨-, howes⟩ := hc.strands s hs
  cases hphase : s.phase with
  | ready code =>
    rw [hphase] at hwaits
    cases hwaits
  | joining next =>
    -- a branch that is left to be heard would be younger
    rw [hphase] at howes
    obtain ⟨id, hid, hparent⟩ := List.countP_pos_iff.1 howes.1
    have hlt := (hc.elder id s.id (by simpa using hparent)).1
    have hle := hyoungest id hid
    omega
  | settling c due next =>
    -- and so would be a strand that was detached in the run
    rw [hphase] at howes
    obtain ⟨-, ⟨hopener, -⟩, -⟩ := howes
    refine Nat.eq_zero_of_not_pos fun hpos => ?_
    obtain ⟨id, hid, horigin⟩ := List.countP_pos_iff.1 (Nat.lt_of_lt_of_le hpos (hc.running c.run))
    have hlt := (hc.opened id c.run (by simpa using horigin)).2
    have hle := hyoungest id hid
    omega
  | _ => trivial

end Host

end TaskGraph

import TaskGraph.Proofs.Host.Reachable
import TaskGraph.Proofs.Host.Turns
import TaskGraph.Proofs.Restart.Pact

/-!
# Hosts that are bound by a pact

What a strand knows is so on its host: observers were told of it, and it has opened the runs
(`Lore.Holds`). What belongs to what is not written down on a host, but it is settled by what strands
asked for (`Kinship`): each run was opened by one strand, and the graph of a strand may have been
detached in a run. So the number of graphs that a run has detached is the number of strands that were
detached in it.

If every strand of a host keeps to a pact, given something that it knows, then whatever happens to the
host next keeps this up (`Host.Bound.moves`), and every host that a run of a program comes to is bound by the
pact (`Host.bound_of_reaches`).
-/

set_option autoImplicit false

namespace TaskGraph

open Running (Any Result)

variable {α : Type}

/-! ## What belongs to what -/

/-- What belongs to what on a host: the strand that has opened a run, and the run that has detached the
graph of a strand, if one has. -/
structure Kinship where
  opener : Nat → Nat
  origin : Nat → Option Nat

namespace Kinship

/-- The kinship on a host at its start. -/
def blank : Kinship := ⟨fun _ => 0, fun _ => none⟩

/-- What belongs to what after a request of a strand. -/
def after (k : Kinship) (h : Host α) (s : Strand α) : Request → Kinship
  | .fresh _ => ⟨fun run => if run = h.runs.size then s.id else k.opener run, k.origin⟩
  | .detach c .. => ⟨k.opener, fun id => if id = h.fresh then some c.run else k.origin id⟩
  | _ => k

/-- Whether what belongs to what on a host still does. -/
structure Extends (h : Host α) (k k' : Kinship) : Prop where
  opener : ∀ run < h.runs.size, k'.opener run = k.opener run
  origin : ∀ id < h.fresh, k'.origin id = k.origin id

variable {k : Kinship} {h : Host α} {s : Strand α}

theorem Extends.refl (h : Host α) (k : Kinship) : k.Extends h k := ⟨fun _ _ => rfl, fun _ _ => rfl⟩

theorem extends_after (k : Kinship) (h : Host α) (s : Strand α) (q : Request) :
    k.Extends h (k.after h s q) := by
  cases q with
  | fresh c => exact ⟨fun run hrun => if_neg (Nat.ne_of_lt hrun), fun _ _ => rfl⟩
  | detach c name input scope => exact ⟨fun _ _ => rfl, fun id hid => if_neg (Nat.ne_of_lt hid)⟩
  | _ => exact .refl h k

end Kinship

/-! ## What is known on a host -/

/-- Whether what a strand of a number knows is so. -/
structure Lore.Holds (k : Kinship) (id : Nat) (l : Lore) (h : Host α) : Prop where
  told : ∀ n ∈ l.told, ∃ t, (t, n) ∈ h.journal
  own : ∀ run ∈ l.own, run < h.runs.size ∧ k.opener run = id

namespace Lore.Holds

variable {k k' : Kinship} {id : Nat} {l : Lore} {h h' : Host α} {N : Notice → Prop}
  {V : HistoryEvent → Prop}

theorem grows (hl : l.Holds k id h) (hg : h.Grows N V h') : l.Holds k id h' where
  told n hn := by
    obtain ⟨new, hnew, -⟩ := hg.journal
    obtain ⟨t, ht⟩ := hl.told n hn
    exact ⟨t, hnew ▸ List.mem_append_right _ ht⟩
  own run hrun := (hl.own run hrun).imp_left fun hlt => Nat.lt_of_lt_of_le hlt hg.runs

theorem kin (hl : l.Holds k id h) (hk : k.Extends h k') : l.Holds k' id h where
  told := hl.told
  own run hrun := by
    obtain ⟨hlt, hopener⟩ := hl.own run hrun
    exact ⟨hlt, (hk.opener run hlt).trans hopener⟩

theorem tell (hl : l.Holds k id h) (n : Notice) : Holds k id ⟨n :: l.told, l.own⟩ (h.tell n) where
  told m hm := by
    rcases List.mem_cons.1 hm with rfl | hm
    · exact ⟨h.now, List.mem_cons_self ..⟩
    · exact (hl.told m hm).imp fun _ ht => List.mem_cons_of_mem _ ht
  own := hl.own

/-- A strand knows the run that it has opened. -/
theorem open_ (hl : l.Holds k id h) (hopener : k.opener h.runs.size = id) (c : Context) :
    Holds k id ⟨l.told, h.runs.size :: l.own⟩ (h.open_ c).2 where
  told := hl.told
  own run hrun := by
    have hsize : (h.open_ c).2.runs.size = h.runs.size + 1 := Array.size_push _
    rw [hsize]
    rcases List.mem_cons.1 hrun with rfl | hrun
    · exact ⟨Nat.lt_succ_self _, hopener⟩
    · exact (hl.own run hrun).imp_left Nat.lt_succ_of_lt

end Lore.Holds

/-! ## Strands -/

/-- Whether an answer of a host is as promised, apart from those of graphs that are entered. -/
theorem Request.within_of_served {E : Fault → Prop} (hE : ∀ f, f.ordinary = true → E f) {q : Request}
    {x : q.Answer} (h : q.Served E x) : q.Within E x := by
  have hordinary {β : Type} {x : Except Fault β} (hx : Fault.Ordinary x) : Result E Any x := by
    cases x with
    | ok b => trivial
    | error f => exact hE f (hx f rfl).1
  cases q with
  | evaluate | check => exact hordinary h
  | traverse v s locals =>
    obtain ⟨ev, rfl⟩ := h
    exact hordinary (Evaluation.ordinary_traverse v s locals ev)
  | dispatch | listen | offer | reply => exact h
  | _ => trivial

theorem Lore.after_of_ne {l : Lore} {q : Request} {x : q.Answer} (htell : ∀ n, q ≠ .tell n)
    (hfresh : ∀ c, q ≠ .fresh c) : l.after q x = l := by
  cases q with
  | tell n => exact absurd rfl (htell n)
  | fresh c => exact absurd rfl (hfresh c)
  | _ => rfl

namespace Pact

variable {p : Program} (A : Pact p)

theorem promises_of_within {q : Request} {x : q.Answer}
    (henter : ∀ c g input scope, q ≠ .enter c g input scope) (h : q.Within A.faults x) :
    A.Promises q x := by
  cases q with
  | enter c g input scope => exact absurd rfl (henter c g input scope)
  | _ => exact h

theorem ordinary (f : Fault) (hf : f.ordinary = true) : A.faults f :=
  A.leaves f (Fault.asksRestart_of_ordinary hf)

/-- How a strand may end, given the run that it was detached in. -/
def Ends (origin : Option Nat) : Ending Host.RunResult → Prop
  | .result v => A.results v
  | .branch reply => Result A.faults Any reply
  | .detached run => origin = some run

/-- Whether a strand of a host keeps to a pact, given something that it knows. -/
def Binds (k : Kinship) (h : Host Host.RunResult) (id : Nat)
    (code : Dialogue (Ending Host.RunResult)) : Prop :=
  ∃ l : Lore, l.Holds k id h ∧
    code.Abides A.law A.Promises (fun _ ending => A.Ends (k.origin id) ending) l

namespace Binds

variable {A : Pact p} {k k' : Kinship} {h h' : Host Host.RunResult} {id : Nat}
  {code : Dialogue (Ending Host.RunResult)}

/-- What a strand knows may be known on another host. -/
theorem mono (hcode : A.Binds k h id code)
    (imp : ∀ l : Lore, l.Holds k id h → l.Holds k id h') : A.Binds k h' id code :=
  hcode.imp fun l ⟨hl, habides⟩ => ⟨imp l hl, habides⟩

theorem kin (hcode : A.Binds k h id code) (hk : k.Extends h k') (hid : id < h.fresh) :
    A.Binds k' h id code := by
  obtain ⟨l, hl, habides⟩ := hcode
  rw [← hk.origin id hid] at habides
  exact ⟨l, hl.kin hk, habides⟩

end Binds

end Pact

namespace Host

variable {e : Setting} {around : Surroundings} {input : Json} {env : Members}
  (A : Pact e.program)

/-- What holds of a host whose strands keep to a pact, with what belongs to what. -/
structure Bound (k : Kinship) (h : Host RunResult) : Prop where
  setting : h.setting = e
  around : h.surroundings.Within A.faults
  strands : h.Tended A.faults fun id _ => A.Binds k h id
  journal : ∀ told ∈ h.journal, A.Tells told.2
  deadline : ∀ time v, h.deadline = some (time, v) → A.results v
  result : ∀ v, h.result = some v → A.results v
  numbered : h.Numbered
  unborn : ∀ id, h.fresh ≤ id → k.origin id = none
  counted : ∀ run, (h.ids.countP fun id => k.origin id = some run) ≤ h.inFlight run

variable {A} {k k' : Kinship} {h h' : Host RunResult} {s : Strand RunResult}

theorem tells_of_quiet (n : Notice) (hn : n.ofGraph = false) : A.Tells n := by
  cases n with
  | enter | leave | detach => cases hn
  | _ => trivial

theorem Bound.lt_fresh (hb : Bound A k h) (hs : s ∈ h.strands) : s.id < h.fresh :=
  hb.numbered.below s.id (mem_ids.2 ⟨s, hs, rfl⟩)

/-- The code of a strand that can run keeps to the pact. -/
theorem Bound.binds (hb : Bound A k h) (hs : s ∈ h.strands)
    {code : Dialogue (Ending RunResult)} (hphase : s.phase = .ready code) :
    A.Binds k h s.id code := by
  have hcode := hb.strands s hs
  rw [hphase] at hcode
  exact hcode

/-- What is asked on a host that is bound by a pact is allowed, given something that is known. -/
theorem Bound.allows (hb : Bound A k h) {q : Request} (hq : h.Asks q) :
    ∃ (l : Lore) (id : Nat), l.Holds k id h ∧ A.Allows l q := by
  obtain ⟨s, hs, next, hphase⟩ := hq
  obtain ⟨l, hl, hcode⟩ := hb.binds hs hphase
  exact ⟨l, s.id, hl, hcode.1⟩

/-- What a host only adds to stays bound, if its strands do and what is counted is right. -/
theorem Bound.grows (hb : Bound A k h) (hg : Grows A.Tells Any h h')
    (ht : h'.Tended A.faults fun id _ => A.Binds k' h' id) (hn : h'.Numbered)
    (hunborn : ∀ id, h'.fresh ≤ id → k'.origin id = none)
    (hcounted : ∀ run, (h'.ids.countP fun id => k'.origin id = some run) ≤ h'.inFlight run) :
    Bound A k' h' where
  setting := hg.setting.trans hb.setting
  around := hg.surroundings ▸ hb.around
  strands := ht
  journal told htold := by
    obtain ⟨new, hnew, htells⟩ := hg.journal
    rw [hnew] at htold
    exact (List.mem_append.1 htold).elim (htells told) (hb.journal told)
  deadline t v hv := hb.deadline t v (hg.deadline ▸ hv)
  result v hv := hb.result v (hg.result ▸ hv)
  numbered := hn
  unborn := hunborn
  counted := hcounted

/-- The same if the strands that are left keep to the pact by what they know already, and nothing is
counted differently. -/
theorem Bound.idle (hb : Bound A k h) (hg : Grows A.Tells Any h h')
    (ht : h'.Tended A.faults fun id _ => A.Binds k h id) (hids : h'.ids.Sublist h.ids)
    (hcount : ∀ run, h'.inFlight run = h.inFlight run) : Bound A k h' := by
  refine hb.grows hg (ht.mono fun _ _ _ hcode => hcode.mono fun _ hl => hl.grows hg)
    (hb.numbered.sublist hids hg.fresh)
    (fun id hid => hb.unborn id (Nat.le_trans hg.fresh hid)) fun run => ?_
  rw [hcount]
  exact Nat.le_trans hids.countP_le (hb.counted run)

theorem Bound.of_core (hb : Bound A k h) (hcore : h'.core = h.core)
    (ht : h'.Tended A.faults fun id _ => A.Binds k h id) (hids : h'.ids.Sublist h.ids) :
    Bound A k h' :=
  hb.idle (.of_core hcore) ht hids (inFlight_of_core hcore)

/-- A host with the strands, the runs and the journal of one that is bound. -/
theorem Bound.of_strands (hb : Bound A k h) (hstrands : h'.strands = h.strands)
    (hruns : h'.runs = h.runs) (hjournal : h'.journal = h.journal) (hfresh : h'.fresh = h.fresh)
    (hsetting : h'.setting = h.setting) (haround : h'.surroundings.Within A.faults)
    (hdeadline : ∀ time v, h'.deadline = some (time, v) → A.results v)
    (hresult : ∀ v, h'.result = some v → A.results v) : Bound A k h' := by
  have hids : h'.ids = h.ids := congrArg (List.map Strand.id) hstrands
  refine ⟨hsetting.trans hb.setting, haround, ?_, hjournal ▸ hb.journal, hdeadline, hresult, ?_, ?_, ?_⟩
  · refine Every.of_strands (Tended.mono hb.strands fun _ _ _ hcode => hcode.mono fun _ hl => ?_) hstrands
    exact ⟨hjournal ▸ hl.told, hruns ▸ hl.own⟩
  · exact hb.numbered.sublist (hids ▸ .refl _) (Nat.le_of_eq hfresh.symm)
  · exact hfresh ▸ hb.unborn
  · rw [hids]
    exact fun run => (inFlight_of_runs hruns run).symm ▸ hb.counted run

/-! ### Turns -/

theorem serves_of_forall {E : Fault → Prop} {G : Dialogue (Ending α) → Prop} {h : Host α}
    {q : Request} {next : q.Answer → Dialogue (Ending α)}
    (henter : ∀ c g input scope, q ≠ .enter c g input scope)
    (hnext : ∀ x, q.Served E x → G (next x)) : h.Serves e E G q next := by
  cases q with
  | fresh c => exact hnext _ trivial
  | enter c g input scope => exact absurd rfl (henter c g input scope)
  | _ => exact hnext

/-- What is known stays so, whatever a strand asks for. -/
theorem holds_perform {id : Nat} {l : Lore} (hl : l.Holds k id h) (s : Strand RunResult) (q : Request)
    (next : q.Answer → Dialogue (Ending RunResult)) : l.Holds k id (h.perform s q next) := by
  exact hl.grows (grows_perform (N := Any) (V := Any) (fun _ _ => trivial) (fun _ => trivial) h s q
    next (fun _ _ => trivial) fun _ _ _ => trivial)

/-- What a strand knows after the host's answer to a request. -/
theorem holds_after {id : Nat} {l : Lore} (hl : l.Holds k id h) {q : Request}
    (hfresh : ∀ c, q ≠ .fresh c) (next : q.Answer → Dialogue (Ending RunResult)) (x : q.Answer) :
    (l.after q x).Holds k id (h.perform s q next) := by
  by_cases htell : ∃ n, q = .tell n
  · obtain ⟨n, rfl⟩ := htell
    exact (hl.tell n).grows (N := Any) (V := Any) (.of_core rfl)
  · rw [Lore.after_of_ne (fun n heq => htell ⟨n, heq⟩) hfresh]
    exact holds_perform hl s q next

/-- The strand whose turn it is goes on in keeping with the pact. -/
theorem serves_of_binds {q : Request} {next : q.Answer → Dialogue (Ending RunResult)}
    (hcode : A.Binds k h s.id (.ask q next)) (hid : s.id < h.fresh) :
    h.Serves e A.faults (A.Binds (k.after h s q) (h.perform s q next) s.id) q next := by
  obtain ⟨l, hl, hq, hnext⟩ := hcode.kin (k.extends_after h s q) hid
  -- a run that is opened becomes known, a graph that is entered runs before the strand goes on, and to all
  -- else the host answers as it promises
  by_cases hfresh : ∃ c, q = .fresh c
  · obtain ⟨c, rfl⟩ := hfresh
    have hgrows : Grows Any Any (h.open_ c).2 (h.perform s (.fresh c) next) := .of_core rfl
    have hopened := (hl.open_ (if_pos rfl) c).grows hgrows
    exact ⟨_, hopened, hnext ⟨h.runs.size, c.scopes⟩ trivial⟩
  · by_cases henter : ∃ c g input scope, q = .enter c g input scope
    · obtain ⟨c, g, input, scope, rfl⟩ := henter
      refine ⟨l, hl.grows (N := Any) (V := Any) (.of_core rfl), ?_⟩
      exact A.abides_bind (A.bound_graph hq.2 hq.1) fun l' x hl' hx => A.abides_mono hl' (hnext x hx)
    · have hfresh (c : Context) : q ≠ .fresh c := fun heq => hfresh ⟨c, heq⟩
      have henter (c : Context) (g : Graph) (input : Json) (scope : Scope) :
          q ≠ .enter c g input scope := fun heq => henter ⟨c, g, input, scope, heq⟩
      refine serves_of_forall henter fun x hx => ⟨_, holds_after hl hfresh next x, hnext x ?_⟩
      exact A.promises_of_within henter (Request.within_of_served A.ordinary hx)

/-- A branch of a fork keeps to the pact. -/
theorem binds_forked (k : Kinship) (h : Host RunResult) (id : Nat) {c : Context} (name : String)
    {input : Json} {s : Scope} (hstarts : A.starts input s) :
    A.Binds k h id ((Restart.runGraph e.program c name input s).run.map .branch) :=
  ⟨⟨[], []⟩, ⟨nofun, nofun⟩, A.abides_bind (A.bound_runGraph name hstarts) fun _ _ _ hx => hx⟩

/-- A graph that is detached keeps to the pact. -/
theorem binds_detached {id : Nat} {c : Context} (hid : k.origin id = some c.run) {name : String}
    {input : Json} {s : Scope} (hstarts : A.starts input s)
    (htold : ∃ t, (t, .detach name input s) ∈ h.journal) :
    A.Binds k h id
      ((Restart.graphOutput e.program c name input s).run.map fun _ => .detached c.run) := by
  refine ⟨⟨[.detach name input s], []⟩, ⟨List.forall_mem_singleton.2 htold, nofun⟩, ?_⟩
  exact A.abides_bind (A.bound_graphOutput hstarts (.inr (List.mem_cons_self ..)))
    fun _ _ _ _ => hid

/-- With a turn, all strands go on in keeping with the pact, those that are added included. -/
theorem Bound.tended_perform (hb : Bound A k h) (hs : s ∈ h.strands) {q : Request}
    {next : q.Answer → Dialogue (Ending RunResult)} (hphase : s.phase = .ready (.ask q next)) :
    (h.perform s q next).Tended A.faults fun id _ =>
      A.Binds (k.after h s q) (h.perform s q next) id := by
  have hcode := hb.binds hs hphase
  have hothers : h.Tended A.faults fun id _ => A.Binds (k.after h s q) (h.perform s q next) id :=
    fun t ht => (hb.strands t ht).mono fun code hcode =>
      (hcode.kin (k.extends_after h s q) (hb.lt_fresh ht)).mono fun _ hl => holds_perform hl s q next
  refine tended_serve A.ordinary (hothers.but s.id) hb.setting hb.around ?_ ?_
    (serves_of_binds hcode (hb.lt_fresh hs))
  · rintro c graphs input scope rfl name - scopes id -
    obtain ⟨l, -, hallows, -⟩ := hcode
    exact binds_forked _ _ id name hallows
  · rintro c name input scope rfl
    obtain ⟨l, hl, ⟨-, hstarts, htold⟩, -⟩ := hcode
    exact binds_detached (if_pos rfl) hstarts ((holds_perform hl s _ next).told _ htold)

/-- A strand that may ask to detach a graph asks so in a run that there is. -/
theorem Bound.lt_size (hb : Bound A k h) (hs : s ∈ h.strands) {q : Request}
    {next : q.Answer → Dialogue (Ending RunResult)} (hphase : s.phase = .ready (.ask q next))
    {run : Nat} (hne : q.detaches run ≠ 0) : run < h.runs.size := by
  obtain ⟨l, hl, hq, -⟩ := hb.binds hs hphase
  cases q with
  | detach c name input scope =>
    rw [Request.detaches_detach] at hne
    obtain rfl : c.run = run := Decidable.byContradiction fun heq => hne (if_neg heq)
    exact (hl.own c.run hq.1).1
  | _ => exact absurd rfl hne

/-- With a turn, the number of strands that were detached in a run grows by those that the strand detaches
in it. -/
theorem Bound.countP_perform (hb : Bound A k h) {q : Request} (next : q.Answer → Dialogue (Ending RunResult))
    {new : List Nat} (ha : h.Adds (h.perform s q next) new) (hspawns : h.Spawns q new) (run : Nat) :
    ((h.perform s q next).ids.countP fun id => (k.after h s q).origin id = some run) =
      (h.ids.countP fun id => k.origin id = some run) + q.detaches run := by
  have hold : (h.ids.countP fun id => (k.after h s q).origin id = some run) =
      h.ids.countP fun id => k.origin id = some run :=
    List.countP_congr fun id hid => by rw [(k.extends_after h s q).origin id (hb.numbered.below id hid)]
  have hnew : (new.countP fun id => (k.after h s q).origin id = some run) = q.detaches run := by
    -- before the request nothing is said of the strands that it adds
    have hunborn : (new.countP fun id => k.origin id = some run) = 0 := by
      refine List.countP_eq_zero.2 fun id hid => ?_
      rw [hb.unborn id (ha.fresh id hid).1]
      exact nofun
    cases q with
    | detach c name input scope =>
      obtain rfl := hspawns
      rw [Request.detaches_detach, List.countP_singleton]
      show (if decide ((if h.fresh = h.fresh then some c.run else k.origin h.fresh) = some run) = true
        then 1 else 0) = _
      simp
    | _ => exact hunborn
  rw [ha.ids.countP_eq, List.countP_append, hold, hnew]

/-- A strand that asks for something. -/
theorem Bound.perform (hb : Bound A k h) (hs : s ∈ h.strands) {q : Request}
    {next : q.Answer → Dialogue (Ending RunResult)} (hphase : s.phase = .ready (.ask q next)) :
    Bound A (k.after h s q) (h.perform s q next) := by
  obtain ⟨new, ha, hspawns⟩ := adds_perform hb.numbered hs q next
  have ht := hb.tended_perform hs hphase
  have hfresh := (h.later_perform s q next).fresh
  have hnumbered := hb.numbered.adds ha hfresh
  -- a graph that is detached is one more in flight, and one more strand that comes from its run
  have hcounted (run : Nat) : ((h.perform s q next).ids.countP fun id =>
      (k.after h s q).origin id = some run) ≤ (h.perform s q next).inFlight run := by
    rw [hb.countP_perform next ha hspawns, inFlight_perform h s q next (hb.lt_size hs hphase)]
    exact Nat.add_le_add_right (hb.counted run) _
  have hunborn (id : Nat) (hid : (h.perform s q next).fresh ≤ id) :
      (k.after h s q).origin id = none := by
    have hborn := hb.unborn id (Nat.le_trans hfresh hid)
    cases q with
    | detach c name input scope =>
      have hnext : h.fresh + 1 ≤ id := hid
      exact (if_neg (by omega)).trans hborn
    | _ => exact hborn
  refine hb.grows (grows_perform (fun n hn => tells_of_quiet n hn) (fun _ => trivial) h s q next ?_
    fun _ _ _ => trivial) ht hnumbered hunborn hcounted
  rintro n rfl
  obtain ⟨l, -, htells, -⟩ := hb.binds hs hphase
  exact htells

/-- A strand that has ended: with a graph that a run has detached, the run has one less. -/
theorem Bound.conclude (hb : Bound A k h) (hs : s ∈ h.strands) {ending : Ending RunResult}
    (hphase : s.phase = .ready (.done ending)) : Bound A k (h.conclude s ending) := by
  obtain ⟨l, -, hends⟩ := hb.binds hs hphase
  have hends : A.Ends (k.origin s.id) ending := hends
  have hids := ids_conclude h s ending
  have hsub : (h.conclude s ending).ids.Sublist h.ids := hids ▸ List.filter_sublist
  have htended : (h.conclude s ending).Tended A.faults fun id _ => A.Binds k h id := by
    refine tended_conclude (hb.strands.but s.id) ?_
    rintro reply rfl
    exact hends
  cases ending with
  | result v =>
    have hgone : Bound A k (h.remove s.id) := hb.of_core rfl (hb.strands.but s.id).remove hsub
    refine hgone.of_strands rfl rfl rfl rfl rfl hb.around hb.deadline ?_
    rintro v' ⟨⟩
    exact hends
  | branch reply =>
    -- a reply goes to a strand, and neither runs nor the journal are told
    refine hb.idle (grows_conclude h s nofun) htended hsub fun run => ?_
    exact inFlight_conclude ..
  | detached run =>
    have hg : Grows A.Tells Any h (h.conclude s (.detached run)) := grows_conclude h s nofun
    refine hb.grows hg (htended.mono fun _ _ _ hcode => hcode.mono fun _ hl => hl.grows hg)
      (hb.numbered.sublist hsub hg.fresh) (fun id hid => hb.unborn id (Nat.le_trans hg.fresh hid))
      fun r => ?_
    -- the strand that is gone was counted for its run, so both sides lose one there
    have hcounted := hb.counted r
    have horigin : k.origin s.id = some run := hends
    rw [countP_ids_conclude hb.numbered.nodup hs (.detached run), horigin] at hcounted
    rw [inFlight_conclude, Ending.finishes_detached]
    by_cases heq : run = r
    · rw [if_pos (by simpa using heq)] at hcounted
      rw [if_pos heq]
      omega
    · rw [if_neg heq]
      omega

theorem Bound.stepStrand (hb : Bound A k h) (hs : s ∈ h.strands) :
    ∃ k', k.Extends h k' ∧ Bound A k' (h.stepStrand s) := by
  have hturned : Bound A k (h.turned s) := hb.of_core rfl hb.strands (.refl _)
  have hgone : Bound A k ((h.turned s).remove s.id) :=
    hturned.of_core rfl (hturned.strands.but s.id).remove (ids_remove .. ▸ List.filter_sublist)
  unfold Host.stepStrand
  cases hphase : s.phase with
  | ready code =>
    cases code with
    | done ending => exact ⟨k, .refl h k, hturned.conclude hs hphase⟩
    | ask q next => exact ⟨_, k.extends_after h s q, hturned.perform hs hphase⟩
  | _ => exact ⟨k, .refl h k, hgone⟩

/-! ### Appointments -/

theorem ids_giveUp (h : Host RunResult) (v : RunResult) : (h.giveUp v).ids.Sublist h.ids := by
  have hgone (ids : List Nat) (h : Host RunResult) : (ids.foldl Host.remove h).ids.Sublist h.ids := by
    induction ids generalizing h with
    | nil => exact .refl _
    | cons id ids ih => exact (ih (h.remove id)).trans (ids_remove .. ▸ List.filter_sublist)
  exact (ids_cancel (((h.strands.filter (·.job == mainJob)).map Strand.id).foldl remove h) rootScope) ▸
    hgone _ h

/-- A run that is given up comes to what its limit says. -/
theorem Bound.giveUp (hb : Bound A k h) {t : Nat} {v : RunResult}
    (hdeadline : h.deadline = some (t, v)) : Bound A k (h.giveUp v) := by
  have htended : (h.giveUp v).Tended A.faults fun id _ => A.Binds k h id :=
    Tended.giveUp (fun _ => A.ordinary _ rfl) v fun s hs _ => hb.strands s hs
  have hstopped : Bound A k (((h.strands.filter (·.job == mainJob)).map Strand.id).foldl remove h
      |>.cancel rootScope) :=
    hb.of_core ((core_cancel ..).trans (core_foldl core_remove ..)) htended (ids_giveUp h v)
  refine hstopped.of_strands rfl rfl rfl rfl rfl hstopped.around nofun ?_
  rintro v' ⟨⟩
  exact hb.deadline t v hdeadline

theorem Bound.deliver (hb : Bound A k h) (name : String) (payload : Json) :
    Bound A k (h.deliver name payload) :=
  hb.idle (grows_deliver (fun _ => trivial) h name payload) (hb.strands.deliver name payload)
    (ids_deliver h name payload ▸ .refl _) (inFlight_deliver h name payload)

theorem Bound.cancel (hb : Bound A k h) (scope : Nat) : Bound A k (h.cancel scope) :=
  hb.of_core (core_cancel ..) (hb.strands.cancel (fun _ => A.ordinary _ rfl) scope)
    (ids_cancel h scope ▸ .refl _)

theorem Bound.keep (hb : Bound A k h) {t : Nat} {a : Appointment RunResult} (ha : h.Keeps t a) :
    Bound A k (h.keep a) := by
  cases a with
  | strand s =>
    exact hb.of_core (core_arrive h s) (hb.strands.arrive (hb.strands s ha))
      (ids_arrive h s ▸ .refl _)
  | beat b =>
    refine hb.idle ((grows_record h b.context trivial).then_core rfl) hb.strands (.refl _) fun run => ?_
    exact inFlight_record ..
  | occurrence o =>
    have hturn : Bound A k { h with turn := none } := hb.of_core rfl hb.strands (.refl _)
    cases o with
    | signal name payload => exact hturn.deliver name payload
    | cancel => exact hturn.cancel rootScope
  | deadline v => exact hb.giveUp ha

/-! ### Moves -/

/-- What may happen to a host next, in whatever order and at whatever time: a strand that can go on takes
a turn, an appointment is kept, a signal or a cancellation comes, it changes whether restarts are
suggested, or the limit on the time is lifted. A move is labelled with the strand that takes a turn. -/
inductive Moves (h : Host RunResult) : Option (Strand RunResult) → Host RunResult → Prop where
  | turn {s : Strand RunResult} (mem : s ∈ h.strands)
      (can : h.next? = some s ∨ ∃ code, s.phase = .ready code) : Moves h (some s) (h.stepStrand s)
  | keep {t : Nat} {a : Appointment RunResult} (mem : (t, a) ∈ h.appointments) :
      Moves h none (({ h with now := max h.now t }.strike t a).keep a)
  | occur (o : Occurrence) : Moves h none (h.keep (.occurrence o))
  | suggest (suggests : Option Bool) (suggestAfter : Nat) : Moves h none
      { h with surroundings := ⟨h.surroundings.handler, h.surroundings.gateway, suggests,
        suggestAfter⟩ }
  | unlimited : Moves h none { h with deadline := none }

/-- A step of a host is one of the moves. -/
theorem moves_of_advance {horizon : Option Nat} (hstep : h.advance horizon = some h') :
    h.Moves h.next? h' := by
  rcases advance_cases hstep with ⟨s, hs, rfl⟩ | ⟨hnone, t, a, ha, rfl⟩
  · exact hs ▸ .turn (mem_of_next? hs) (.inl hs)
  · exact hnone ▸ .keep ha

/-- When a time has come, a host is bound by a pact as before. -/
theorem Bound.strike (hb : Bound A k h) (t : Nat) (a : Appointment RunResult) :
    Bound A k ({ h with now := max h.now t }.strike t a) :=
  hb.of_core (core_strike { h with now := max h.now t } t a)
    (Every.of_strands hb.strands (strands_strike { h with now := max h.now t } t a))
    (ids_strike { h with now := max h.now t } t a ▸ .refl _)

/-- One move keeps a host bound by a pact. -/
theorem Bound.moves (hb : Bound A k h) {who : Option (Strand RunResult)} (hmoves : h.Moves who h') :
    ∃ k', k.Extends h k' ∧ Bound A k' h' := by
  cases hmoves with
  | turn hs => exact hb.stepStrand hs
  | keep ha => exact ⟨k, .refl h k, (hb.strike _ _).keep (keeps_strike ha)⟩
  | occur o => exact ⟨k, .refl h k, hb.keep (t := 0) trivial⟩
  | suggest suggests suggestAfter =>
    exact ⟨k, .refl h k, hb.of_strands rfl rfl rfl rfl rfl ⟨hb.around.handler, hb.around.gateway⟩
      hb.deadline hb.result⟩
  | unlimited => exact ⟨k, .refl h k, hb.of_strands rfl rfl rfl rfl rfl hb.around nofun hb.result⟩

/-! ### Starting -/

section

variable (A)

theorem bound_start (hwithin : around.Within A.faults) (wrapper : Wrapper)
    (hroots : ∀ g s, e.program.graph e.program.root = .ok g →
      g.initialScope e.program.options input env = .ok s → A.roots g input s) :
    Bound A .blank (Host.start e around wrapper (programRun e.program input env).run) where
  setting := rfl
  around := hwithin
  strands := by
    intro s hs
    rw [List.mem_singleton.1 hs]
    exact ⟨⟨[], []⟩, ⟨nofun, nofun⟩,
      (A.bound_programRun hroots).bind fun _ _ hx => hx⟩
  journal _ htold := (List.not_mem_nil htold).elim
  deadline := nofun
  result := nofun
  numbered := ⟨List.pairwise_singleton _ _, fun id hid => List.mem_singleton.1 hid ▸ Nat.one_pos⟩
  unborn _ _ := rfl
  counted _ := Nat.zero_le _

end

theorem Bound.withSignals (hb : Bound A k h) (signals : List (Option Nat × String × Json)) :
    Bound A k (h.withSignals signals) :=
  withSignals_of (fun _ name payload hb => hb.deliver name payload)
    (fun _ _ hb => hb.of_core rfl hb.strands (.refl _)) hb signals

theorem Bound.withCancellation (hb : Bound A k h) (at? : Option Nat) :
    Bound A k (h.withCancellation at?) :=
  withCancellation_of (fun hb => hb.cancel rootScope)
    (fun _ hb => hb.of_core rfl hb.strands (.refl _)) hb at?

theorem Bound.withLimit (hb : Bound A k h) (workflow : String) (limit : Option Duration) :
    Bound A k (h.withLimit workflow limit) := by
  cases limit with
  | none => exact hb
  | some d =>
    refine hb.of_strands rfl rfl rfl rfl rfl hb.around ?_ hb.result
    rintro t v ⟨⟩
    exact A.failure (A.ordinary _ rfl)

variable (A)

/-- A host at the start of a run is bound by the pact. -/
theorem bound_begun (hwithin : around.Within A.faults)
    (hroots : ∀ g s, e.program.graph e.program.root = .ok g →
      g.initialScope e.program.options input env = .ok s → A.roots g input s)
    (wrapper : Wrapper) (signals : List (Option Nat × String × Json)) (at? : Option Nat)
    (workflow : String) (limit : Option Duration) :
    Bound A .blank ((((Host.start e around wrapper
      (programRun e.program input env).run).withSignals signals).withCancellation at?).withLimit
        workflow limit) :=
  (((bound_start A hwithin wrapper hroots).withSignals signals).withCancellation at?).withLimit
    workflow limit

/-- Every host that a run of a program comes to is bound by the pact. -/
theorem bound_of_reaches (hwithin : around.Within A.faults)
    (hroots : ∀ g s, e.program.graph e.program.root = .ok g →
      g.initialScope e.program.options input env = .ok s → A.roots g input s)
    {h : Host RunResult} (hh : Reaches e around input env h) : ∃ k, Bound A k h := by
  have hmoved {h h' : Host RunResult} {who : Option (Strand RunResult)} (hmoves : h.Moves who h')
      (hbound : ∃ k, Bound A k h) : ∃ k, Bound A k h' := by
    obtain ⟨k, hb⟩ := hbound
    exact (hb.moves hmoves).imp fun _ => And.right
  induction hh with
  | start wrapper signals at? workflow limit =>
    exact ⟨.blank, bound_begun A hwithin hroots wrapper signals at? workflow limit⟩
  | advance _ horizon hstep ih => exact hmoved (moves_of_advance hstep) ih
  | suggest _ suggests suggestAfter ih => exact hmoved (.suggest suggests suggestAfter) ih
  | unlimited _ ih => exact hmoved .unlimited ih

end Host

end TaskGraph

import Mathlib.Data.Set.Finite.Lattice
import Mathlib.Logic.Hydra
import TaskGraph.Proofs.Host.Tally
import TaskGraph.Proofs.Termination.Descent

/-!
# Hosts whose turns come to an end

A strand whose code ceases is given a budget: code that ceases as well, and that whatever the strand goes on
as comes next of. With a turn, the code of the strand becomes the budget of the strand itself and of
the strands that it adds, and it lies below the old budget. So in the multiset of the budgets of all strands
one is replaced by finitely many lower ones (`Host.Budgeted.stepStrand`), and everything else that may happen
to a host leaves the budgets alone or takes some away (`Host.Budgeted.keep`). Replacing so comes to an end
(`Relation.CutExpand`); hence of any moves of a host only finitely many are turns
(`Host.finite_turns_of_reaches`).
-/

set_option autoImplicit false

namespace TaskGraph

open Relation (CutExpand)
open Running (Any Result)

/-! ## Measures -/

section

variable {σ μ ι : Type} {r : μ → μ → Prop} {P : μ → σ → Prop} {step : σ → Option ι → σ → Prop}

/-- If a measure falls with the steps that have a label and stays with the others, only finitely many steps
have one. -/
theorem finite_labels (hr : WellFounded r) (idle : ∀ m s s', P m s → step s none s' → P m s')
    (label : ∀ m s i s', P m s → step s (some i) s' → ∃ m', r m' m ∧ P m' s') {m : μ}
    {states : ℕ → σ} {who : ℕ → Option ι} (hstart : P m (states 0))
    (hsteps : ∀ n, step (states n) (who n) (states (n + 1))) : {n | (who n).isSome}.Finite := by
  induction m using hr.induction generalizing states who with
  | _ m ih =>
    by_cases hsome : ∃ n, (who n).isSome
    · -- up to the first label the measure stays, and after it there is less of it
      let first := Nat.find hsome
      have hbefore : ∀ n ≤ first, P m (states n) := by
        intro n
        induction n with
        | zero => exact fun _ => hstart
        | succ n ihn =>
          intro hle
          have hnone : who n = none := Option.not_isSome_iff_eq_none.1 (Nat.find_min hsome hle)
          exact idle m _ _ (ihn (Nat.le_of_succ_le hle)) (hnone ▸ hsteps n)
      obtain ⟨i, hi⟩ := Option.isSome_iff_exists.1 (Nat.find_spec hsome)
      obtain ⟨m', hlower, hm'⟩ := label m _ i _ (hbefore first le_rfl) (hi ▸ hsteps first)
      -- the states from there on have fewer labels by induction, and all labels up to there are
      -- finitely many
      have hlater : {n | (who (first + 1 + n)).isSome}.Finite :=
        @ih m' hlower (fun n => states (first + 1 + n)) (fun n => who (first + 1 + n)) hm'
          fun n => hsteps (first + 1 + n)
      refine ((Set.finite_le_nat first).union (hlater.image fun n => first + 1 + n)).subset ?_
      intro n hn
      rcases Nat.lt_or_ge first n with hlt | hle
      · obtain ⟨k, rfl⟩ := Nat.exists_eq_add_of_le (Nat.succ_le_of_lt hlt)
        exact .inr ⟨k, hn, rfl⟩
      · exact .inl hle
    · refine Set.finite_empty.subset ?_
      exact fun n hn => hsome ⟨n, hn⟩

end

/-- One element of a multiset may be replaced by lower ones, whatever else is there. -/
theorem cutExpand_of_cons_le {α : Type} {r : α → α → Prop} {a : α} {rest t m : Multiset α}
    (hm : a ::ₘ rest ≤ m) (ht : ∀ b ∈ t, r b a) : ∃ m', CutExpand r m' m ∧ rest + t ≤ m' := by
  obtain ⟨others, rfl⟩ := Multiset.le_iff_exists_add.1 hm
  refine ⟨rest + t + others, ⟨t, a, ht, ?_⟩, Multiset.le_add_right _ _⟩
  rw [← Multiset.singleton_add]
  ac_rfl

/-! ## Budgets -/

/-- Code that ceases. -/
abbrev Ceasing (e : Setting) := { code : Code // code.Ceases e }

namespace Ceasing

variable {e : Setting}

/-- Whether code comes next of other code. -/
def Lower (a b : Ceasing e) : Prop := Dialogue.Onward e a.1 b.1

theorem lower_wellFounded : WellFounded (Lower (e := e)) :=
  ⟨fun b => InvImage.accessible Subtype.val b.2⟩

end Ceasing

/-- A pact that all programs keep if no handler asks for a restart by itself. -/
def Pact.leaving (p : Program) : Pact p :=
  { Pact.free p with
    faults f := f.asksRestart = false
    leaves _ := le_rfl (α := Prop)
    forged _ _ := trivial
    roots_forged _ _ := trivial
    failure _ := trivial }

namespace Host

variable {e : Setting} {around : Surroundings} {input : Json} {env : Members}

/-- Whether the strands of a host go on below their budgets, and these are among some budgets. -/
structure Budgeted (budget : Nat → Ceasing e) (budgets : Multiset (Ceasing e)) (h : Host RunResult) :
    Prop where
  strands : h.Tended (fun f => f.asksRestart = false) fun id _ code =>
    Dialogue.Onward e code (budget id).1
  among : (h.ids : Multiset Nat).map budget ≤ budgets

variable {budget : Nat → Ceasing e} {budgets : Multiset (Ceasing e)} {k : Kinship}
  {h h' : Host RunResult} {s : Strand RunResult}

/-- Whatever a host lets a strand go on as comes next of the code of the strand. -/
theorem serves_onward (h : Host RunResult) (q : Request) (next : q.Answer → Code) :
    h.Serves e (fun f => f.asksRestart = false) (fun code => Dialogue.Onward e code (.ask q next)) q
      next := by
  cases q with
  | fresh c => exact .answer (q := .fresh c) (fun _ _ _ _ h => nomatch h) trivial
  | enter c g input scope => exact .enter ..
  | _ => exact fun x hx => .answer (fun _ _ _ _ h => nomatch h) hx

namespace Budgeted

theorem of_strands (hb : h.Budgeted budget budgets) (hstrands : h'.strands = h.strands) :
    h'.Budgeted budget budgets where
  strands := Every.of_strands hb.strands hstrands
  among := by
    have hids : h'.ids = h.ids := congrArg (List.map Strand.id) hstrands
    exact hids ▸ hb.among

/-- Strands that are left have their budgets still. -/
theorem idle (hb : h.Budgeted budget budgets)
    (ht : h'.Tended (fun f => f.asksRestart = false) fun id _ code =>
      Dialogue.Onward e code (budget id).1)
    (hids : h'.ids.Sublist h.ids) : h'.Budgeted budget budgets :=
  ⟨ht, (Multiset.map_le_map (Multiset.coe_le.2 hids.subperm)).trans hb.among⟩

/-- The budget of a strand, and those of the others. -/
theorem split (hb : h.Budgeted budget budgets) (hs : s ∈ h.strands) :
    budget s.id ::ₘ ((h.ids.erase s.id : List Nat) : Multiset Nat).map budget ≤ budgets := by
  have hperm : (h.ids : Multiset Nat) = s.id ::ₘ ((h.ids.erase s.id : List Nat) : Multiset Nat) :=
    Multiset.coe_eq_coe.2 (List.perm_cons_erase (mem_ids.2 ⟨s, hs, rfl⟩))
  rw [← Multiset.map_cons, ← hperm]
  exact hb.among

/-- With a turn, one budget is replaced by lower ones. -/
theorem perform (hb : h.Budgeted budget budgets) (hbound : Bound (.leaving e.program) k h)
    (hs : s ∈ h.strands) {q : Request} {next : q.Answer → Code} (hphase : s.phase = .ready (.ask q next)) :
    ∃ budget' budgets', CutExpand Ceasing.Lower budgets' budgets ∧
      (h.perform s q next).Budgeted budget' budgets' := by
  have honward : Dialogue.Onward e (.ask q next) (budget s.id).1 := by
    have hcode := hb.strands s hs
    rw [hphase] at hcode
    exact hcode
  let own : Ceasing e := ⟨.ask q next, (budget s.id).2.inv honward⟩
  -- the strand and those that it adds, which have new numbers, go on below its code
  let budget' (id : Nat) : Ceasing e := if id = s.id ∨ h.fresh ≤ id then own else budget id
  have hown (id : Nat) (hid : id = s.id ∨ h.fresh ≤ id) : budget' id = own := if_pos hid
  have hkept (id : Nat) (hne : id ≠ s.id) (hlt : id < h.fresh) : budget' id = budget id :=
    if_neg (not_or_intro hne (Nat.not_le_of_lt hlt))
  have hothers : h.TendedBut (fun f => f.asksRestart = false) (fun id _ code =>
      Dialogue.Onward e code (budget' id).1) s.id := by
    intro t ht
    refine (hb.strands t ht).mono fun code hcode hne => ?_
    show Dialogue.Onward e code (budget' t.id).1
    rw [hkept t.id hne (hbound.lt_fresh ht)]
    exact hcode
  obtain ⟨new, ha, -⟩ := adds_perform hbound.numbered hs q next
  obtain ⟨budgets', hcut, hle⟩ := cutExpand_of_cons_le (r := Ceasing.Lower)
    (t := Multiset.replicate (new.length + 1) own) (hb.split hs) fun b hmem => by
      rw [Multiset.eq_of_mem_replicate hmem]
      exact honward
  refine ⟨budget', budgets', hcut, ?_, le_trans (le_of_eq ?_) hle⟩
  · refine tended_serve (fun _ => Fault.asksRestart_of_ordinary) hothers hbound.setting hbound.around
      ?_ ?_ ?_
    · rintro c graphs input scope rfl name hname scopes id hid
      rw [hown id (.inr hid)]
      exact .fork c ⟨c.run, scopes⟩ input scope next hname
    · rintro c name input scope rfl
      rw [hown h.fresh (.inr le_rfl)]
      exact .detach c name input scope next
    · rw [hown s.id (.inl rfl)]
      exact serves_onward h q next
  · have hperm : ((h.perform s q next).ids : Multiset Nat) =
        s.id ::ₘ ((h.ids.erase s.id : List Nat) : Multiset Nat) + (new : Multiset Nat) := by
      rw [Multiset.cons_add, Multiset.coe_add, Multiset.cons_coe]
      refine Multiset.coe_eq_coe.2 (ha.ids.trans ?_)
      exact (List.perm_cons_erase (mem_ids.2 ⟨s, hs, rfl⟩)).append_right new
    have hrest : ((h.ids.erase s.id : List Nat) : Multiset Nat).map budget' =
        ((h.ids.erase s.id : List Nat) : Multiset Nat).map budget := by
      refine Multiset.map_congr rfl fun id hid => hkept id ?_ ?_
      · exact ((List.Nodup.mem_erase_iff hbound.numbered.nodup).1 hid).1
      · exact hbound.numbered.below id (List.mem_of_mem_erase hid)
    have hnew : (new : Multiset Nat).map budget' = Multiset.replicate new.length own := by
      refine Multiset.eq_replicate.2 ⟨by simp, fun b hmem => ?_⟩
      obtain ⟨id, hid, rfl⟩ := Multiset.mem_map.1 hmem
      exact hown id (.inr (ha.fresh id hid).1)
    rw [hperm, Multiset.map_add, Multiset.map_cons, hrest, hnew, hown s.id (.inl rfl),
      Multiset.replicate_succ, Multiset.cons_add, Multiset.add_cons]

/-- A strand that is gone has left its budget. -/
theorem gone (hb : h.Budgeted budget budgets) (hn : h.ids.Nodup) (hs : s ∈ h.strands)
    (ht : h'.Tended (fun f => f.asksRestart = false) fun id _ code =>
      Dialogue.Onward e code (budget id).1)
    (hids : h'.ids = h.ids.filter (· != s.id)) :
    ∃ budgets', CutExpand Ceasing.Lower budgets' budgets ∧ h'.Budgeted budget budgets' := by
  obtain ⟨budgets', hcut, hle⟩ := cutExpand_of_cons_le (r := Ceasing.Lower) (t := 0) (hb.split hs)
    fun _ hmem => absurd hmem (Multiset.notMem_zero _)
  refine ⟨budgets', hcut, ht, ?_⟩
  rw [hids, ← hn.erase_eq_filter]
  simpa using hle

theorem conclude (hb : h.Budgeted budget budgets) (hbound : Bound (.leaving e.program) k h)
    (hs : s ∈ h.strands) {ending : Ending RunResult} (hphase : s.phase = .ready (.done ending)) :
    ∃ budgets', CutExpand Ceasing.Lower budgets' budgets ∧
      (h.conclude s ending).Budgeted budget budgets' := by
  refine hb.gone hbound.numbered.nodup hs (tended_conclude (hb.strands.but s.id) ?_) (ids_conclude ..)
  rintro reply rfl
  obtain ⟨_, -, hends⟩ := hbound.binds hs hphase
  exact hends

/-- With the turn of a strand, one budget is replaced by lower ones. -/
theorem stepStrand (hb : h.Budgeted budget budgets) (hbound : Bound (.leaving e.program) k h)
    (hs : s ∈ h.strands) : ∃ budget' budgets', CutExpand Ceasing.Lower budgets' budgets ∧
      (h.stepStrand s).Budgeted budget' budgets' := by
  have hturned : (h.turned s).Budgeted budget budgets := hb.of_strands rfl
  have hbound' : Bound (.leaving e.program) k (h.turned s) := hbound.of_core rfl hbound.strands (.refl _)
  unfold Host.stepStrand
  cases hphase : s.phase with
  | ready code =>
    cases code with
    | ask q next => exact hturned.perform hbound' hs hphase
    | done ending => exact ⟨budget, hturned.conclude hbound' hs hphase⟩
  | _ =>
    refine ⟨budget, hturned.gone hbound.numbered.nodup hs ?_ (ids_remove ..)⟩
    exact (Tended.but hturned.strands s.id).remove

/-! ### Appointments -/

theorem keep (hb : h.Budgeted budget budgets) {t : Nat} {a : Appointment RunResult} (ha : h.Keeps t a) :
    (h.keep a).Budgeted budget budgets := by
  cases a with
  | strand s => exact hb.idle (hb.strands.arrive (hb.strands s ha)) (ids_arrive h s ▸ .refl _)
  | beat b => exact hb.idle hb.strands (.refl _)
  | occurrence o =>
    have hturn : Budgeted budget budgets { h with turn := none } := hb.of_strands rfl
    cases o with
    | signal name payload =>
      exact hturn.idle (hturn.strands.deliver name payload)
        (ids_deliver { h with turn := none } name payload ▸ .refl _)
    | cancel =>
      exact hturn.idle (hturn.strands.cancel (fun _ => rfl) rootScope)
        (ids_cancel { h with turn := none } rootScope ▸ .refl _)
  | deadline v =>
    exact hb.idle (Tended.giveUp (fun _ => rfl) v fun s hs _ => hb.strands s hs) (ids_giveUp h v)

theorem strike (hb : h.Budgeted budget budgets) (t : Nat) (a : Appointment RunResult) :
    ({ h with now := max h.now t }.strike t a).Budgeted budget budgets :=
  hb.idle (Every.of_strands hb.strands (strands_strike { h with now := max h.now t } t a))
    (ids_strike { h with now := max h.now t } t a ▸ .refl _)

/-- Whatever happens to a host without a turn leaves the budgets alone or takes some away. -/
theorem moves (hb : h.Budgeted budget budgets) (hmoves : h.Moves none h') :
    h'.Budgeted budget budgets := by
  cases hmoves with
  | keep ha => exact (hb.strike _ _).keep (keeps_strike ha)
  | occur o => exact hb.keep (t := 0) trivial
  | suggest | unlimited => exact hb.of_strands rfl

/-! ### Starting -/

variable (hceases : ((programRun e.program input env).run.map .result).Ceases e)
include hceases

/-- The strand that a host is started with comes next of a request before it. -/
theorem start (around : Surroundings) (wrapper : Wrapper) :
    ∃ (budget : Nat → Ceasing e) (budgets : Multiset (Ceasing e)),
      (Host.start e around wrapper (programRun e.program input env).run).Budgeted budget budgets := by
  let before (code : Code) : Code := .ask (.cancelled rootContext) fun _ => code
  have honward (code : Code) : Dialogue.Onward e code (before code) :=
    @Dialogue.Onward.answer e (.cancelled rootContext) (fun _ => code) false
      (fun _ _ _ _ h => nomatch h) trivial
  refine ⟨fun _ => ⟨before _, Dialogue.ceases_ask rfl fun _ _ => hceases⟩, _, fun s hs => ?_, le_rfl⟩
  obtain rfl := List.mem_singleton.1 hs
  exact honward _

end Budgeted

theorem Budgeted.withSignals (hb : h.Budgeted budget budgets)
    (signals : List (Option Nat × String × Json)) : (h.withSignals signals).Budgeted budget budgets :=
  withSignals_of
    (fun h name payload hb => hb.idle (hb.strands.deliver name payload)
      (ids_deliver h name payload ▸ .refl _))
    (fun _ _ hb => hb.of_strands rfl) hb signals

theorem Budgeted.withCancellation (hb : h.Budgeted budget budgets) (at? : Option Nat) :
    (h.withCancellation at?).Budgeted budget budgets :=
  withCancellation_of
    (fun hb => hb.idle (hb.strands.cancel (fun _ => rfl) rootScope) (ids_cancel h rootScope ▸ .refl _))
    (fun _ hb => hb.of_strands rfl) hb at?

theorem Budgeted.withLimit (hb : h.Budgeted budget budgets) (workflow : String)
    (limit : Option Duration) : (h.withLimit workflow limit).Budgeted budget budgets := by
  cases limit <;> exact hb.of_strands rfl

/-! ## Turns -/

/-- Whether a host that keeps the pact lives within some budgets. -/
def Within (budgets : Multiset (Ceasing e)) (h : Host RunResult) : Prop :=
  (∃ k, Bound (.leaving e.program) k h) ∧ ∃ budget, h.Budgeted budget budgets

section

variable (hceases : ((programRun e.program input env).run.map .result).Ceases e)
  (hwithin : around.Within fun f => f.asksRestart = false)
include hceases hwithin

/-- The strands of a host that a run comes to have budgets, if the code of the run ceases. -/
theorem budgeted_of_reaches (hh : Reaches e around input env h) :
    ∃ budget budgets, h.Budgeted (e := e) budget budgets := by
  induction hh with
  | start wrapper signals at? workflow limit =>
    obtain ⟨budget, budgets, hb⟩ := Budgeted.start hceases around wrapper
    exact ⟨budget, budgets, ((hb.withSignals signals).withCancellation at?).withLimit workflow limit⟩
  | @advance h h' hh horizon hstep ih =>
    obtain ⟨budget, budgets, hb⟩ := ih
    rcases advance_cases hstep with ⟨s, hs, rfl⟩ | ⟨-, t, a, ha, rfl⟩
    · obtain ⟨k, hbound⟩ := bound_of_reaches (.leaving e.program) hwithin (fun _ _ _ _ => trivial) hh
      obtain ⟨budget', budgets', -, hb'⟩ := hb.stepStrand hbound (mem_of_next? hs)
      exact ⟨budget', budgets', hb'⟩
    · exact ⟨budget, budgets, hb.moves (.keep ha)⟩
  | suggest _ suggests suggestAfter ih =>
    obtain ⟨budget, budgets, hb⟩ := ih
    exact ⟨budget, budgets, hb.of_strands rfl⟩
  | unlimited _ ih =>
    obtain ⟨budget, budgets, hb⟩ := ih
    exact ⟨budget, budgets, hb.of_strands rfl⟩

/-- Whatever happens to a host that a run comes to, and in whatever order its strands take turns, only
finitely many turns are taken, if the code of the run ceases. -/
theorem finite_turns_of_reaches {hosts : ℕ → Host RunResult} {who : ℕ → Option (Strand RunResult)}
    (hh : Reaches e around input env (hosts 0)) (hmoves : ∀ n, (hosts n).Moves (who n) (hosts (n + 1))) :
    {n | (who n).isSome}.Finite := by
  obtain ⟨budget, budgets, hb⟩ := budgeted_of_reaches hceases hwithin hh
  have hbound := bound_of_reaches (.leaving e.program) hwithin (fun _ _ _ _ => trivial) hh
  have hstart : (hosts 0).Within budgets := ⟨hbound, budget, hb⟩
  refine finite_labels Ceasing.lower_wellFounded.cutExpand ?_ ?_ hstart hmoves
  · rintro budgets h h' ⟨⟨k, hbound⟩, budget, hb⟩ hmoves
    exact ⟨(hbound.moves hmoves).imp fun _ => And.right, budget, hb.moves hmoves⟩
  · rintro budgets h s h' ⟨⟨k, hbound⟩, budget, hb⟩ hmoves
    have hbound' := (hbound.moves hmoves).imp fun _ => And.right
    cases hmoves with
    | turn hs =>
      obtain ⟨budget', budgets', hcut, hb'⟩ := hb.stepStrand hbound hs
      exact ⟨budgets', hcut, hbound', budget', hb'⟩

end

end Host

end TaskGraph

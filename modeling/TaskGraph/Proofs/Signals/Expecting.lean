import TaskGraph.Proofs.Host.Awake
import TaskGraph.Proofs.Signals.Traffic

/-!
# Strands that expect signals

A strand that listens has received the payloads that it has taken, and goes on with these or with a
cancellation (`Phase.Expects`). Signals that come feed it, and what it takes by that is what it receives
besides; a cancellation wakes it with nothing more. So at any time until its next turn, a strand that
began to listen is at what its events say that it has taken (`Host.expecting_perform`,
`Host.Expecting.passes`).
-/

set_option autoImplicit false

namespace TaskGraph

open Waiting (takings takenBy takenBy_append takenBy_takings)

variable {α : Type}

/-- What a strand listens for: the context that it is in, for what of which names it waits, the first of
these that had a payload when it began, and how it goes on. -/
structure Expectation (α : Type) where
  context : Context
  mode : ListenMode
  names : List String
  early : Option String
  next : Except Fault (List (String × Json)) → Dialogue (Ending α)

/-- Whether an answer is right for a strand that has taken some payloads. It is answered with these: one
of each name, or a single one, of the name that had a payload at the beginning if any had. One that is
cancelled while it waits for a single payload has taken none. -/
def Expectation.Answered (e : Expectation α) (got : List (String × Json)) :
    Except Fault (List (String × Json)) → Prop
  | .ok xs => xs.Perm got ∧ (e.mode = .all → xs.map Prod.fst = e.names) ∧
      (e.mode ≠ .all → ∃ n ∈ e.names, xs.map Prod.fst = [n] ∧ ∀ m, e.early = some m → m = n)
  | .error f => (e.mode ≠ .all → got = []) ∧ ∃ n ∈ e.names, f = .cancelled ("signal:" ++ n)

/-- Whether a strand in a phase listens, or goes on with an answer, having taken some payloads. -/
inductive Phase.Expects (e : Expectation α) (got : List (String × Json)) : Phase α → Prop where
  | answered {x : Except Fault (List (String × Json))} (answer : e.Answered got x) :
      Expects e got (.ready (e.next x))
  | waiting {slots : List (String × Option Json)} (names : slots.map Prod.fst = e.names)
      (missing : Board.filled? slots = none) (received : (Board.received slots).Perm got)
      (single : e.mode ≠ .all → got = [] ∧ e.early = none) :
      Expects e got (.listening e.context e.mode slots e.next)

namespace Phase.Expects

variable {e : Expectation α} {got : List (String × Json)} {p : Phase α}

/-- A strand that is cancelled while it listens is told so, with the first name that it misses. -/
theorem of_interrupted (hp : p.Expects e got) {c : Context} {code : Dialogue (Ending α)}
    (hint : Host.interrupted p = some (c, code)) : (Phase.ready code).Expects e got := by
  cases hp with
  | answered => cases hint
  | waiting names missing received single =>
    obtain ⟨n, hn, hfind⟩ := Board.missing_of_filled? missing
    cases hint
    rw [hfind]
    exact .answered ⟨fun hmode => (single hmode).1, n, names ▸ hn, rfl⟩

/-- A single payload that is found is the answer. -/
theorem of_first {b : Board} {x : String × Json} {b' : Board}
    (hfirst : b.takeFirst? e.names = some (x, b')) (hmode : e.mode ≠ .all) (hearly : e.early = none) :
    (Phase.ready (e.next (.ok [x]))).Expects e [x] := by
  have hfind := Board.find?_first b e.names
  rw [hfirst] at hfind
  refine .answered ⟨.refl _, fun hall => absurd hall hmode, fun _ => ⟨x.1, ?_, rfl, fun m hm => ?_⟩⟩
  · exact List.mem_of_find?_eq_some hfind
  · cases hearly.symm.trans hm

/-- What a strand takes as it is fed is what it receives besides. -/
theorem of_receive (hp : p.Expects e got) {b b' : Board} {c : Context} {taken : List String}
    {p' : Phase α} (hreceive : Host.receive b p = some (c, taken, b', p')) :
    p'.Expects e (got ++ p.takes b) := by
  cases hp with
  | answered => cases hreceive
  | @waiting slots names missing received single =>
    obtain ⟨context, mode, ns, early, next⟩ := e
    -- one payload is enough for `one` and for `any`, and it is the first that the board has for a
    -- name
    have hsingle (hmode : mode ≠ .all) : (b.takeFirst? (slots.map Prod.fst) = none → p' =
        .listening context mode slots next) → (∀ x b', b.takeFirst? (slots.map Prod.fst) =
        some (x, b') → p' = .ready (next (.ok [x]))) →
        p'.Expects ⟨context, mode, ns, early, next⟩ (got ++ b.first (slots.map Prod.fst)) := by
      intro hnone hsome
      obtain ⟨rfl, hearly⟩ := single hmode
      rw [List.nil_append, Board.first]
      cases hfirst : b.takeFirst? (slots.map Prod.fst) with
      | none =>
        rw [hnone hfirst]
        exact .waiting names missing received fun _ => ⟨rfl, hearly⟩
      | some found =>
        obtain ⟨x, b₁⟩ := found
        rw [hsome x b₁ hfirst]
        exact of_first (e := ⟨context, mode, ns, early, next⟩) (names ▸ hfirst) hmode hearly
    cases mode with
    | all =>
      have hnames := (Board.fill_names b slots).trans names
      have hfilled := (Board.received_fill b slots).trans (received.append_right _)
      simp only [Host.receive] at hreceive
      split at hreceive <;> cases hreceive
      · next xs hxs =>
        obtain ⟨rfl, hfst⟩ := Board.eq_received_of_filled? hxs
        exact .answered ⟨hfilled, fun _ => hfst.trans hnames, fun h => absurd rfl h⟩
      · next hxs => exact .waiting hnames hxs hfilled fun h => absurd rfl h
    | one | any =>
      refine hsingle (by decide) (fun hnone => ?_) fun x b₁ hsome => ?_
      · simp only [Host.receive, hnone] at hreceive
        cases hreceive
        rfl
      · simp only [Host.receive, hsome] at hreceive
        cases hreceive
        rfl

/-- A strand that is not fed takes nothing. -/
theorem takes_eq_nil (hp : p.Expects e got) {b : Board} (hreceive : Host.receive b p = none) :
    p.takes b = [] := by
  cases hp with
  | answered => rfl
  | @waiting slots =>
    exfalso
    obtain ⟨context, mode, ns, early, next⟩ := e
    cases mode with
    | all =>
      simp only [Host.receive] at hreceive
      split at hreceive <;> cases hreceive
    | one | any =>
      simp only [Host.receive] at hreceive
      split at hreceive <;> cases hreceive

end Phase.Expects

namespace Host

/-- Whether the strand of a number, if it is there, listens or goes on with an answer, having taken some
payloads. -/
def Expecting (id : Nat) (e : Expectation α) (got : List (String × Json)) (h : Host α) : Prop :=
  h.Every fun i _ p => i = id → p.Expects e got

namespace Expecting

variable {id : Nat} {e : Expectation α} {got : List (String × Json)} {h h' : Host α} {s : Strand α}

theorem of_strands (he : h.Expecting id e got) (heq : h'.strands = h.strands) :
    h'.Expecting id e got :=
  Every.of_strands he heq

theorem cancel (he : h.Expecting id e got) (scope : Nat) : (h.cancel scope).Expecting id e got :=
  Every.cancels he scope (fun _ _ _ _ _ hp hint _ hi => (hp hi).of_interrupted hint)
    fun _ _ _ hp _ => hp

theorem looked (i : Nat) (c : Context) (due : Nat) (next : Except Fault Unit → Dialogue (Ending α))
    (hp : i = id → (Phase.settling c due next).Expects e got) :
    (h.inFlight c.run = 0 → i = id → (Phase.ready (next (.ok ()))).Expects e got) ∧
      ∀ due', i = id → (Phase.settling c due' next).Expects e got :=
  ⟨fun _ hi => (nomatch hp hi), fun _ hi => (nomatch hp hi)⟩

/-! ## Signals -/

/-- The strand is fed. -/
theorem feed (he : h.Expecting s.id e got) (hs : s.phase.Expects e got) :
    (h.feed s).Expecting s.id e (got ++ s.phase.takes h.board) := by
  refine every_feed (fun _ _ hne heq => absurd heq hne) (fun hreceive => ?_)
    fun _ _ _ _ hreceive _ => hs.of_receive hreceive
  rw [hs.takes_eq_nil hreceive, List.append_nil]
  exact he

/-- Another strand is fed. -/
theorem feed_other (he : h.Expecting id e got) (hs : s.id ≠ id) : (h.feed s).Expecting id e got :=
  Every.feed_other he hs

theorem feedAll {ss : List (Strand α)} (hnodup : (ss.map Strand.id).Nodup)
    (hss : ∀ s ∈ ss, s.id = id → s.phase.Expects e got) (he : h.Expecting id e got) :
    (ss.foldl Host.feed h).Expecting id e (got ++ takenBy id (h.feedEvents ss)) := by
  induction ss generalizing h got with
  | nil =>
    rw [feedEvents, takenBy, List.filterMap_nil, List.append_nil]
    exact he
  | cons s ss ih =>
    obtain ⟨hfresh, hnodup⟩ := List.nodup_cons.1 hnodup
    rw [feedEvents, takenBy_append, takenBy_takings, ← List.append_assoc]
    by_cases hid : s.id = id
    · subst hid
      rw [if_pos rfl]
      refine ih hnodup (fun t ht hi => absurd ?_ hfresh) (he.feed (hss s (List.mem_cons_self ..) rfl))
      exact hi ▸ List.mem_map_of_mem ht
    · rw [if_neg hid, List.append_nil]
      exact ih hnodup (fun t ht => hss t (List.mem_cons_of_mem _ ht)) (he.feed_other hid)

theorem signal (he : h.Expecting id e got) (hn : h.ids.Nodup) (name : String) (payload : Json) :
    (h.keep (.occurrence (.signal name payload))).Expecting id e
      (got ++ takenBy id (h.keepEvents (.occurrence (.signal name payload)))) := by
  have hdelivered : ({ h with turn := none, board := h.board.deliver name payload } : Host α).Expecting id
      e got := he
  have hfed := hdelivered.feedAll (Awake.nodup_inOrder hn) fun s hs => he s (mem_inOrder.1 hs)
  exact Every.lookAll (fun i _ c due next => looked i c due next) hfed

end Expecting

/-! ## Moves -/

section

variable {id : Nat} {e : Expectation RunResult} {got : List (String × Json)} {h h' : Host RunResult}
  {s : Strand RunResult} {who : Option (Strand RunResult)} {es : List Waiting.Event}

theorem Numbered.stepStrand (hn : h.Numbered) (hs : s ∈ h.strands) : (h.stepStrand s).Numbered := by
  have hturned : (h.turned s).Numbered := hn.sublist (.refl _) (Nat.le_refl _)
  have hlater := (h.later_stepStrand s).fresh
  unfold Host.stepStrand at hlater ⊢
  split at hlater
  · next ending _ =>
    refine hturned.sublist ?_ hlater
    rw [ids_conclude]
    exact List.filter_sublist
  · next q next _ =>
    obtain ⟨new, ha, -⟩ := adds_perform (h := h.turned s) hturned hs q next
    exact hturned.adds ha hlater
  · refine hturned.sublist ?_ hlater
    rw [ids_remove]
    exact List.filter_sublist

/-- No appointment brings new strands. -/
theorem ids_keep (h : Host RunResult) (a : Appointment RunResult) : (h.keep a).ids.Sublist h.ids := by
  cases a with
  | strand s => exact ids_arrive h s ▸ .refl _
  | beat b => exact .refl _
  | deadline v => exact ids_giveUp h v
  | occurrence o =>
    cases o with
    | signal name payload => exact ids_deliver { h with turn := none } name payload ▸ .refl _
    | cancel => exact ids_cancel { h with turn := none } rootScope ▸ .refl _

theorem Numbered.moves (hn : h.Numbered) (hmoves : h.Moves who h') : h'.Numbered := by
  have hlater := (later_moves hmoves).fresh
  cases hmoves with
  | turn hs => exact hn.stepStrand hs
  | @keep t a ha =>
    have hkept := ids_keep ({ h with now := max h.now t }.strike t a) a
    rw [ids_strike { h with now := max h.now t } t a] at hkept
    exact hn.sublist hkept hlater
  | occur o => exact hn.sublist (ids_keep h (.occurrence o)) hlater
  | suggest | unlimited => exact hn.sublist (.refl _) hlater

/-- The strands of a host that a run comes to have different numbers. -/
theorem Reaches.numbered {setting : Setting} {around : Surroundings} {input : Json} {env : Members}
    (hh : Reaches setting around input env h) : h.Numbered := by
  obtain ⟨t, ht⟩ := hh.tallied
  obtain ⟨k, hb⟩ := ht.bound
  exact hb.numbered

namespace Expecting

/-- A turn of another strand leaves a strand as it is, or cancels it. -/
theorem stepStrand (he : h.Expecting id e got) (hborn : id < h.fresh) (hother : s.id ≠ id) :
    (h.stepStrand s).Expecting id e got := by
  have hturned : (h.turned s).Expecting id e got := he
  unfold Host.stepStrand
  split
  · next ending _ =>
    exact every_conclude (fun _ _ _ _ _ _ hp hi => nomatch hp hi) (Every.mono hturned fun _ _ _ hp _ => hp)
  · next q next _ =>
    by_cases hstops : ∃ branches, q = .stop branches
    · obtain ⟨branches, rfl⟩ := hstops
      have hstopped : ((h.turned s).stopBranches s branches).Expecting id e got :=
        Every.stopBranches hturned branches fun _ _ _ _ _ hp hint _ hi => (hp hi).of_interrupted hint
      exact Every.goOn (Every.mono hstopped fun _ _ _ hp _ => hp) fun hi => absurd hi hother
    · exact Every.perform (h := h.turned s) (fun i _ c due next' => looked i c due next')
        (fun i _ _ hle (hi : i = id) => absurd hborn (Nat.not_lt.2 (hi ▸ hle))) hturned
        (fun _ hi => absurd hi hother) q (fun branches heq => hstops ⟨branches, heq⟩) next
  · exact Every.remove (Every.mono hturned fun _ _ _ hp _ => hp)

/-- At an appointment, a strand takes what the events say. -/
theorem keep (he : h.Expecting id e got) (hn : h.ids.Nodup) {n : Nat} {a : Appointment RunResult}
    (ha : h.Keeps n a) : (h.keep a).Expecting id e (got ++ takenBy id (h.keepEvents a)) := by
  -- only signals bring something to take
  have hquiet (hkept : (h.keep a).Expecting id e got) (hnone : h.keepEvents a = []) :
      (h.keep a).Expecting id e (got ++ takenBy id (h.keepEvents a)) := by
    rw [hnone, takenBy, List.filterMap_nil, List.append_nil]
    exact hkept
  cases a with
  | strand s =>
    refine hquiet ?_ rfl
    exact Every.arrive (fun _ _ _ _ hp hi => by cases hp hi) (fun _ _ _ _ _ hp hi => by cases hp hi)
      (fun _ _ _ _ _ _ _ hp hi => by cases hp hi) (fun i _ c due next => looked i c due next) he (he s ha)
  | beat b => exact hquiet he rfl
  | occurrence o =>
    cases o with
    | signal name payload => exact he.signal hn name payload
    | cancel => exact hquiet (Expecting.cancel (h := { h with turn := none }) he rootScope) rfl
  | deadline v =>
    have hleft (ids : List Nat) (h : Host RunResult) (he : h.Expecting id e got) :
        (ids.foldl Host.remove h).Expecting id e got := by
      induction ids generalizing h with
      | nil => exact he
      | cons i ids ih => exact ih _ (Every.remove (Every.mono he fun _ _ _ hp _ => hp))
    exact hquiet ((hleft _ h he).cancel rootScope) rfl

/-- Whatever happens without a turn of a strand, the strand takes what the events say. -/
theorem trades (he : h.Expecting id e got) (hn : h.Numbered) (hborn : id < h.fresh)
    (htrades : h.Trades who es h') (hothers : ∀ s, who = some s → s.id ≠ id) :
    h'.Expecting id e (got ++ takenBy id es) := by
  cases htrades with
  | @turn s =>
    -- the events of a turn are those of the strand whose turn it is, and that is another one
    have hother := hothers s rfl
    have hnothing : takenBy id (h.turnEvents s) = [] := by
      unfold turnEvents
      split
      · rw [takenBy_takings, if_neg hother]
      · rfl
    rw [hnothing, List.append_nil]
    exact he.stepStrand hborn hother
  | @keep t a ha =>
    refine Expecting.keep (he.of_strands (strands_strike { h with now := max h.now t } t a)) ?_
      (keeps_strike ha)
    rw [ids_strike { h with now := max h.now t } t a]
    exact hn.nodup
  | occur o => exact he.keep (n := 0) hn.nodup trivial
  | suggest | unlimited =>
    have hnothing : takenBy id [] = [] := rfl
    rw [hnothing, List.append_nil]
    exact he

theorem passes (he : h.Expecting id e got) (hn : h.Numbered) (hborn : id < h.fresh)
    (hpasses : h.Passes id es h') : h'.Expecting id e (got ++ takenBy id es) := by
  have hall : h'.Numbered ∧ id < h'.fresh ∧ h'.Expecting id e (got ++ takenBy id es) := by
    induction hpasses with
    | refl =>
      refine ⟨hn, hborn, ?_⟩
      rw [takenBy, List.filterMap_nil, List.append_nil]
      exact he
    | trade _ htrades hothers ih =>
      obtain ⟨hn, hborn, he⟩ := ih
      have hmoves := moves_iff_trades.2 ⟨_, htrades⟩
      refine ⟨hn.moves hmoves, Nat.lt_of_lt_of_le hborn (later_moves hmoves).fresh, ?_⟩
      rw [takenBy_append, ← List.append_assoc]
      exact he.trades hn hborn htrades hothers
  exact hall.2.2

end Expecting

end

/-! ## Beginning to listen -/

/-- A name that is found among those that are looked for is the first one of all. -/
theorem find?_of_polled {h : Host α} {c : Context} {names : List String} {p : String → Bool} {n : String}
    (hfind : (h.polled c names).find? p = some n) : names.find? p = some n := by
  unfold polled at hfind
  split at hfind
  · rw [← List.take_append_drop 1 names, List.find?_append, hfind]
    rfl
  · exact hfind

/-- What a strand that begins to listen expects. -/
def expectation (h : Host α) (c : Context) (mode : ListenMode) (names : List String)
    (next : Except Fault (List (String × Json)) → Dialogue (Ending α)) : Expectation α :=
  ⟨c, mode, names, names.find? fun n => h.board.queue n ≠ [], next⟩

/-- A strand that begins to listen takes what the events of its turn say. -/
theorem expecting_perform (h : Host α) (s : Strand α) (c : Context) (mode : ListenMode)
    {names : List String} (hne : names ≠ [])
    (next : Except Fault (List (String × Json)) → Dialogue (Ending α)) :
    (h.perform s (.listen c mode names) next).Expecting s.id (h.expectation c mode names next)
      (h.requestTakes (.listen c mode names)) := by
  -- only the strand that begins to listen has the number
  have hvoid (h' : Host α) (P : Phase α → Prop) : h'.Every fun i _ p => i ≠ s.id → i = s.id → P p :=
    fun _ _ hne heq => absurd heq hne
  have hblank : (names.map fun n => (n, (none : Option Json))).map Prod.fst = names := by
    rw [List.map_map]
    exact List.map_id names
  -- `one` and `any` take the first payload that is there; which name that is was decided before the
  -- turn
  have hany (hmode : mode ≠ .all) : (h.listenAny s c mode next names names).Expecting s.id
      (h.expectation c mode names next) (h.board.first (h.polled c names)) := by
    obtain ⟨h', hstrands, -, hcases⟩ := h.listenAny_cases s c mode next names names
    have hfind := Board.find?_first h.board (h.polled c names)
    have hfirst := Board.find?_first h.board names
    unfold Board.first
    rcases hcases with ⟨x, b, hfound, heq⟩ | ⟨hnone, ⟨n, hn, heq⟩ | ⟨hempty, heq⟩⟩ <;> rw [heq]
    · rw [hfound] at hfind ⊢
      have hearly := find?_of_polled hfind
      refine Every.goOn (hvoid h' _) fun _ => .answered ⟨.refl _, fun hall => absurd hall hmode, fun _ => ?_⟩
      refine ⟨x.1, List.mem_of_find?_eq_some hearly, rfl, fun m hm => ?_⟩
      exact Option.some.inj (hm.symm.trans hearly)
    · rw [hnone]
      exact Every.goOn (hvoid h' _) fun _ => .answered ⟨fun _ => rfl, n, hn, rfl⟩
    · rw [hnone]
      refine Every.wait (hvoid h' _) fun _ => ?_
      rw [hempty] at hfirst
      refine .waiting hblank (Board.filled?_blank hne) ?_ fun _ => ⟨rfl, hfirst⟩
      rw [Board.received_blank]
      exact .refl _
  cases mode with
  | one => exact hany nofun
  | any => exact hany nofun
  | all =>
    obtain ⟨h', slots, hstrands, -, rfl, hcases⟩ := h.listenAll_cases s c next names
    have hnames := (Board.fill_names h.board (names.map fun n => (n, none))).trans hblank
    have hreceived := Board.received_fill h.board (names.map fun n => (n, none))
    rw [Board.received_blank, List.nil_append] at hreceived
    show (h.listenAll s c next names).Expecting s.id _ _
    rcases hcases with ⟨xs, hxs, heq⟩ | ⟨hmissing, heq | heq⟩ <;> rw [heq]
    · obtain ⟨rfl, hfst⟩ := Board.eq_received_of_filled? hxs
      refine Every.goOn (hvoid h' _) fun _ => .answered ⟨hreceived, fun _ => hfst.trans hnames, ?_⟩
      exact fun hne => absurd rfl hne
    · obtain ⟨n, hn, hfind⟩ := Board.missing_of_filled? hmissing
      rw [hfind]
      refine Every.goOn (hvoid h' _) fun _ => .answered ⟨fun hne => absurd rfl hne, n, hnames ▸ hn, rfl⟩
    · exact Every.wait (hvoid h' _) fun _ => .waiting hnames hmissing hreceived fun hne => absurd rfl hne

end Host

end TaskGraph

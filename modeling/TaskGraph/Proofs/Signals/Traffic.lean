import TaskGraph.Proofs.Host.Interruption
import TaskGraph.Proofs.Signals.Takings

/-!
# The traffic of payloads on a host

Whatever happens to a host, payloads come to its board by signals only, and go from it only to strands
that listen: in the turn in which they begin to, and as signals come (`Host.turnEvents`,
`Host.keepEvents`). `Host.Trades` labels the moves of a host with what they do to payloads. Played on the
board, these events give the board that the host has afterwards (`Host.Trades.plays`), so nothing else
touches its queues, and a host that goes on for as long as it likes loses no payload
(`Host.Passes.plays`).
-/

set_option autoImplicit false

namespace TaskGraph

open Waiting (takings)

variable {α : Type}

/-- What a strand in a phase takes from a board. -/
def Phase.takes (b : Board) : Phase α → List (String × Json)
  | .listening _ mode slots _ => b.gather mode slots
  | _ => []

namespace Host

/-! ## What happens to payloads -/

/-- The names that a strand looks for when it begins to listen for one signal: only the first one if its
context is cancelled. -/
def polled (h : Host α) (c : Context) (names : List String) : List String :=
  if h.isCancelled c then names.take 1 else names

/-- What a strand takes in the turn in which it asks for something. -/
def requestTakes (h : Host α) : Request → List (String × Json)
  | .listen _ .all names => h.board.fillings (names.map fun n => (n, none))
  | .listen c _ names => h.board.first (h.polled c names)
  | _ => []

/-- What happens to payloads in a turn of a strand. -/
def turnEvents (h : Host α) (s : Strand α) : List Waiting.Event :=
  match s.phase with
  | .ready (.ask q _) => takings s.id (h.requestTakes q)
  | _ => []

/-- What happens to payloads as strands take what they wait for, one after the other. -/
def feedEvents (h : Host α) : List (Strand α) → List Waiting.Event
  | [] => []
  | s :: ss => takings s.id (s.phase.takes h.board) ++ (h.feed s).feedEvents ss

/-- What happens to payloads at an appointment. -/
def keepEvents (h : Host α) : Appointment α → List Waiting.Event
  | .occurrence (.signal name payload) => .delivered name payload ::
      ({ h with turn := none, board := h.board.deliver name payload } : Host α).feedEvents h.inOrder
  | _ => []

/-- Whether events, played on the board of a host, leave it with the queues of another one. -/
def Plays (h : Host α) (es : List Waiting.Event) (h' : Host α) : Prop :=
  (h.board.play es).map Board.queues = some h'.board.queues

section

variable {h h' h'' : Host α} {s : Strand α} {es es' : List Waiting.Event}

theorem plays_of_queues (heq : h'.board.queues = h.board.queues) : h.Plays [] h' :=
  congrArg some heq.symm

theorem Plays.trans (hp : h.Plays es h') (hp' : h'.Plays es' h'') : h.Plays (es ++ es') h'' := by
  obtain ⟨b, hb, hqueues⟩ := Option.map_eq_some_iff.1 hp
  unfold Plays
  rw [Board.play_append, hb, Option.bind_some, Board.play_congr hqueues]
  exact hp'

/-- Changes behind and before which the queues are the same make no difference. -/
theorem Plays.congr {k k' : Host α} (hp : h.Plays es h') (hk : k.board.queues = h.board.queues)
    (hk' : k'.board.queues = h'.board.queues) : k.Plays es k' := by
  unfold Plays
  rw [Board.play_congr hk, hk']
  exact hp

/-! ## What leaves the board alone -/

theorem board_foldl {β : Type} {f : Host α → β → Host α} (hf : ∀ h x, (f h x).board = h.board)
    (h : Host α) (xs : List β) : (xs.foldl f h).board = h.board := by
  induction xs generalizing h with
  | nil => rfl
  | cons x xs ih => exact (ih (f h x)).trans (hf h x)

theorem board_recordAll (h : Host α) (c : Context) (evs : List HistoryEvent) :
    (h.recordAll c evs).board = h.board := by
  rw [recordAll_eq]

theorem board_cancel (h : Host α) (scope : Nat) : (h.cancel scope).board = h.board := by
  refine board_foldl (fun h s => ?_) _ _
  unfold interrupt
  split
  · split <;> rfl
  · rfl

theorem board_look (h : Host α) (s : Strand α) : (h.look s).board = h.board := by
  unfold look
  split
  · split <;> rfl
  · rfl

theorem board_lookAll (h : Host α) : h.lookAll.board = h.board := board_foldl board_look ..

theorem board_conclude (h : Host α) (s : Strand α) (ending : Ending α) :
    (h.conclude s ending).board = h.board := by
  unfold conclude
  cases ending with
  | result v => rfl
  | branch reply =>
    cases s.parent with
    | none => rfl
    | some parent =>
      dsimp only
      unfold replyTo
      split
      · rfl
      · split <;> rfl
  | detached run => rfl

theorem board_arrive (h : Host α) (s : Strand α) : (h.arrive s).board = h.board := by
  unfold arrive
  split
  · rfl
  · rfl
  · rfl
  · exact board_look _ s
  · rfl

theorem board_giveUp (h : Host α) (v : α) : (h.giveUp v).board = h.board :=
  (board_cancel ..).trans (board_foldl (f := remove) (fun _ _ => rfl) h _)

theorem board_strike (h : Host α) (t : Nat) (a : Appointment α) : (h.strike t a).board = h.board := by
  cases a <;> rfl

theorem board_forkBranches (h : Host α) (s : Strand α) (c : Context) (input : Json) (scope : Scope)
    (i : Nat) (graphs : List String) :
    (h.forkBranches s c input scope i graphs).1.board = h.board := by
  induction graphs generalizing h i with
  | nil => rfl
  | cons graph graphs ih =>
    obtain ⟨branch, -, hcons⟩ := h.forkBranches_cons s c input scope i graph graphs
    rw [hcons]
    exact ih _ _

theorem Resumes.board (hresumes : h.Resumes s h') : h'.board = h.board := by
  rcases hresumes with ⟨_, _, rfl⟩ | ⟨_, -, rfl⟩ <;> rfl

/-- A strand that does not listen touches no queue in its turn. -/
theorem queues_perform (h : Host α) (s : Strand α) (q : Request)
    (hq : ∀ c mode names, q ≠ .listen c mode names) (next : q.Answer → Dialogue (Ending α)) :
    (h.perform s q next).board.queues = h.board.queues := by
  cases q with
  | listen c mode names => exact absurd rfl (hq c mode names)
  | respond id response =>
    have hlooked := board_lookAll { h with board := h.board.respond id response }
    exact (congrArg Board.queues hlooked :)
  | fork c graphs input scope =>
    exact (congrArg Board.queues (board_forkBranches h s c input scope 0 graphs) :)
  | stop branches => exact (congrArg Board.queues (board_foldl board_cancel h _) :)
  | settle c => exact congrArg Board.queues (resumes_settle h s c next).board
  | pause c d => exact congrArg Board.queues (resumes_sleep h s c d next).board
  | dispatch c r timeout =>
    show (h.attempt s c r timeout next).board.queues = _
    rcases h.attempt_cases s c r timeout next with
      ⟨f, -, heq⟩ | ⟨reply, x, -, -, heq | ⟨due, heq⟩⟩ <;> rw [heq] <;> rfl
  | offer r =>
    show (h.offered s r next).board.queues = _
    unfold offered
    dsimp only
    split
    · rfl
    · split <;> rfl
  -- a heartbeat may be started, which has no part in the board
  | beat c interval =>
    show ((h.startHeartbeat c interval).2.goOn s (next _)).board.queues = _
    unfold startHeartbeat
    dsimp only
    split <;> rfl
  | _ => rfl

/-! ## Strands that begin to listen -/

/-- A strand that begins to listen for one signal goes on with the first payload that it finds; else it is
cancelled, or it waits because there is none. -/
theorem listenAny_cases (h : Host α) (s : Strand α) (c : Context) (mode : ListenMode)
    (next : Except Fault (List (String × Json)) → Dialogue (Ending α)) (all names : List String) :
    ∃ h' : Host α, h'.strands = h.strands ∧
      h'.board = ((h.board.takeFirst? (h.polled c names)).map Prod.snd).getD h.board ∧
      ((∃ e b, h.board.takeFirst? (h.polled c names) = some (e, b) ∧
          h.listenAny s c mode next all names = h'.goOn s (next (.ok [e]))) ∨
        h.board.takeFirst? (h.polled c names) = none ∧
          ((∃ n ∈ names, h.listenAny s c mode next all names =
              h'.goOn s (next (.error (.cancelled ("signal:" ++ n))))) ∨
            h.board.takeFirst? names = none ∧ h.listenAny s c mode next all names =
              h'.wait s (.listening c mode (all.map fun n => (n, none)) next))) := by
  induction names generalizing h with
  | nil =>
    have hnone : h.board.takeFirst? (h.polled c []) = none := by
      unfold polled
      split <;> rfl
    exact ⟨h, rfl, by rw [hnone]; rfl, .inr ⟨hnone, .inr ⟨rfl, rfl⟩⟩⟩
  | cons n names ih =>
    unfold listenAny
    dsimp only
    have hboard : (h.tell (.await n)).board = h.board := rfl
    rw [hboard]
    cases htake : h.board.take? n with
    | some taken =>
      obtain ⟨p, b⟩ := taken
      have hfirst : h.board.takeFirst? (h.polled c (n :: names)) = some ((n, p), b) := by
        unfold polled
        split <;> simp [Board.takeFirst?, htake]
      exact ⟨{ h.tell (.await n) with board := b }.record c (.signalReceived n), rfl,
        by rw [hfirst]; rfl, .inl ⟨(n, p), b, hfirst, rfl⟩⟩
    | none =>
      dsimp only
      split
      · next hcancelled =>
        have hcut : h.isCancelled c = true := hcancelled
        have hnone : h.board.takeFirst? (h.polled c (n :: names)) = none := by
          unfold polled
          simp [hcut, Board.takeFirst?, htake]
        exact ⟨h.tell (.await n), rfl, by rw [hnone]; rfl,
          .inr ⟨hnone, .inl ⟨n, List.mem_cons_self .., rfl⟩⟩⟩
      · next hcancelled =>
        -- in a context that is not cancelled, the other names are looked for as well
        have hcut : h.isCancelled c = false := Bool.eq_false_iff.2 hcancelled
        have hskip (ms : List String) : h.board.takeFirst? (n :: ms) = h.board.takeFirst? ms := by
          simp [Board.takeFirst?, htake]
        have hpolled : h.board.takeFirst? (h.polled c (n :: names)) =
            h.board.takeFirst? (h.polled c names) := by
          unfold polled
          simp [hcut, hskip]
        rw [hpolled, hskip]
        obtain ⟨h', hstrands, hboard', hcases⟩ := ih (h.tell (.await n))
        refine ⟨h', hstrands, hboard', hcases.imp_right fun hnone => ⟨hnone.1, hnone.2.imp_left ?_⟩⟩
        rintro ⟨m, hm, heq⟩
        exact ⟨m, List.mem_cons_of_mem _ hm, heq⟩

/-- A strand that begins to listen for all of some signals takes what there is, and goes on if this is a
payload of each; else it is cancelled, or it waits for the rest. -/
theorem listenAll_cases (h : Host α) (s : Strand α) (c : Context)
    (next : Except Fault (List (String × Json)) → Dialogue (Ending α)) (names : List String) :
    ∃ (h' : Host α) (slots : List (String × Option Json)), h'.strands = h.strands ∧
      h'.board = (h.board.fill (names.map fun n => (n, none))).2.2 ∧
      slots = (h.board.fill (names.map fun n => (n, none))).1 ∧
      ((∃ xs, Board.filled? slots = some xs ∧ h.listenAll s c next names = h'.goOn s (next (.ok xs))) ∨
        Board.filled? slots = none ∧
          (h.listenAll s c next names = h'.goOn s (next (.error (.cancelled ("signal:" ++
              ((slots.find? fun e => e.2.isNone).map Prod.fst).getD "")))) ∨
            h.listenAll s c next names = h'.wait s (.listening c .all slots next))) := by
  -- to announce what is awaited leaves strands and board alone
  have htold (names : List String) (h : Host α) :
      (names.foldl (fun (h : Host α) n => h.tell (.await n)) h).strands = h.strands ∧
        (names.foldl (fun (h : Host α) n => h.tell (.await n)) h).board = h.board := by
    induction names generalizing h with
    | nil => exact ⟨rfl, rfl⟩
    | cons name names ih => exact ih (h.tell (.await name))
  unfold listenAll
  obtain ⟨hstrands, hboard⟩ := htold names h
  revert hstrands hboard
  generalize names.foldl (fun (h : Host α) n => h.tell (.await n)) h = told
  intro hstrands hboard
  rw [← hboard]
  dsimp only
  rcases told.board.fill (names.map fun n => (n, none)) with ⟨slots, taken, b⟩
  refine ⟨{ told with board := b }.recordAll c (taken.map .signalReceived), slots,
    ?_, board_recordAll .., rfl, ?_⟩
  · exact (strands_recordAll { told with board := b } c _).trans hstrands
  · dsimp only
    split
    · next xs hfilled => exact .inl ⟨xs, hfilled, rfl⟩
    · next missing hfilled =>
      refine .inr ⟨hfilled, ?_⟩
      split
      · exact .inl rfl
      · exact .inr rfl

/-- Whether a strand that begins to listen goes on or waits, the board is that of what it has found. -/
theorem board_listenAny (h : Host α) (s : Strand α) (c : Context) (mode : ListenMode)
    (next : Except Fault (List (String × Json)) → Dialogue (Ending α)) (all names : List String) :
    (h.listenAny s c mode next all names).board =
      ((h.board.takeFirst? (h.polled c names)).map Prod.snd).getD h.board := by
  obtain ⟨h', -, hboard, hcases⟩ := h.listenAny_cases s c mode next all names
  rw [← hboard]
  rcases hcases with ⟨_, _, -, heq⟩ | ⟨-, ⟨_, -, heq⟩ | ⟨-, heq⟩⟩ <;> rw [heq] <;> rfl

theorem board_listenAll (h : Host α) (s : Strand α) (c : Context)
    (next : Except Fault (List (String × Json)) → Dialogue (Ending α)) (names : List String) :
    (h.listenAll s c next names).board = (h.board.fill (names.map fun n => (n, none))).2.2 := by
  obtain ⟨h', slots, -, hboard, -, hcases⟩ := h.listenAll_cases s c next names
  rw [← hboard]
  rcases hcases with ⟨_, -, heq⟩ | ⟨-, heq | heq⟩ <;> rw [heq] <;> rfl

/-- A turn does to payloads what its events say. -/
theorem plays_perform (h : Host α) (s : Strand α) (q : Request)
    (next : q.Answer → Dialogue (Ending α)) :
    h.Plays (takings s.id (h.requestTakes q)) (h.perform s q next) := by
  by_cases hlisten : ∃ c mode names, q = .listen c mode names
  · obtain ⟨c, mode, names, rfl⟩ := hlisten
    have hany (mode : ListenMode) : h.Plays (takings s.id (h.board.first (h.polled c names)))
        (h.listenAny s c mode next names names) := by
      unfold Plays
      rw [Board.play_first, board_listenAny]
      rfl
    cases mode with
    | all =>
      show (h.board.play _).map Board.queues = some (h.listenAll s c next names).board.queues
      rw [requestTakes, Board.play_fill, board_listenAll]
      rfl
    | one => exact hany .one
    | any => exact hany .any
  · have hq (c : Context) (mode : ListenMode) (names : List String) : q ≠ .listen c mode names :=
      fun heq => hlisten ⟨c, mode, names, heq⟩
    have hnone : h.requestTakes q = [] := by
      cases q with
      | listen c mode names => exact absurd rfl (hq c mode names)
      | _ => rfl
    rw [hnone]
    exact plays_of_queues (queues_perform h s q hq next)

theorem plays_stepStrand (h : Host α) (s : Strand α) : h.Plays (h.turnEvents s) (h.stepStrand s) := by
  unfold turnEvents stepStrand
  split
  · next q next hphase =>
    simp only [hphase]
    exact plays_perform { h with turn := some s.job, queue := s.id :: h.queue.filter (· != s.id) } s q
      next
  · next hphase =>
    split
    · exact plays_of_queues (congrArg Board.queues (board_conclude ..))
    · next q next hask => exact absurd hask (hphase q next)
    · exact plays_of_queues rfl

/-! ## Signals -/

/-- A strand that is fed leaves the board without what it has received. -/
theorem board_feed (h : Host α) (s : Strand α) :
    (h.feed s).board = ((receive h.board s.phase).map (·.2.2.1)).getD h.board := by
  unfold feed
  cases receive h.board s.phase with
  | none => rfl
  | some r =>
    obtain ⟨c, taken, b, p⟩ := r
    have hrecorded := board_recordAll { h with board := b } c (taken.map .signalReceived)
    dsimp only
    split <;> exact hrecorded

theorem plays_feed (h : Host α) (s : Strand α) :
    h.Plays (takings s.id (s.phase.takes h.board)) (h.feed s) := by
  -- the board that the strand is fed from is the one that its takings lead to
  have htakes : ∀ r, receive h.board s.phase = r → h.board.play (takings s.id (s.phase.takes h.board)) =
      some ((r.map (·.2.2.1)).getD h.board) := by
    rintro r rfl
    cases s.phase with
    | listening c mode slots next =>
      cases mode with
      | all =>
        refine (Board.play_fill h.board s.id slots).trans ?_
        rw [receive]
        rcases h.board.fill slots with ⟨slots', taken, b⟩
        dsimp only
        split <;> rfl
      | one | any =>
        refine (Board.play_first h.board s.id _).trans ?_
        rw [receive]
        · rcases h.board.takeFirst? (slots.map Prod.fst) with _ | ⟨e, b⟩ <;> rfl
        · decide
    | _ => rfl
  unfold Plays
  rw [htakes _ rfl, board_feed]
  rfl

theorem plays_feedEvents (h : Host α) (ss : List (Strand α)) :
    h.Plays (h.feedEvents ss) (ss.foldl feed h) := by
  induction ss generalizing h with
  | nil => exact plays_of_queues rfl
  | cons s ss ih => exact (plays_feed h s).trans (ih (h.feed s))

theorem plays_keep (h : Host α) (a : Appointment α) : h.Plays (h.keepEvents a) (h.keep a) := by
  cases a with
  | strand s => exact plays_of_queues (congrArg Board.queues (board_arrive h s))
  | beat b => exact plays_of_queues rfl
  | deadline v => exact plays_of_queues (congrArg Board.queues (board_giveUp h v))
  | occurrence o =>
    cases o with
    | cancel => exact plays_of_queues (congrArg Board.queues (board_cancel { h with turn := none } rootScope))
    | signal name payload =>
      let delivered : Host α := { h with turn := none, board := h.board.deliver name payload }
      have hfed : delivered.Plays (delivered.feedEvents h.inOrder) (h.inOrder.foldl feed delivered) :=
        plays_feedEvents delivered h.inOrder
      exact hfed.congr rfl (congrArg Board.queues (board_lookAll _))

end

/-! ## Moves -/

section

variable {h h' h'' : Host RunResult} {s : Strand RunResult} {who : Option (Strand RunResult)}
  {es es' : List Waiting.Event}

/-- What may happen to a host next, and what happens to payloads by it. -/
inductive Trades (h : Host RunResult) :
    Option (Strand RunResult) → List Waiting.Event → Host RunResult → Prop where
  | turn {s : Strand RunResult} (mem : s ∈ h.strands)
      (can : h.next? = some s ∨ ∃ code, s.phase = .ready code) :
      Trades h (some s) (h.turnEvents s) (h.stepStrand s)
  | keep {t : Nat} {a : Appointment RunResult} (mem : (t, a) ∈ h.appointments) :
      Trades h none (({ h with now := max h.now t }.strike t a).keepEvents a)
        (({ h with now := max h.now t }.strike t a).keep a)
  | occur (o : Occurrence) : Trades h none (h.keepEvents (.occurrence o)) (h.keep (.occurrence o))
  | suggest (suggests : Option Bool) (suggestAfter : Nat) : Trades h none []
      { h with surroundings := ⟨h.surroundings.handler, h.surroundings.gateway, suggests,
        suggestAfter⟩ }
  | unlimited : Trades h none [] { h with deadline := none }

/-- A label on a move is no restriction of it. -/
theorem moves_iff_trades : h.Moves who h' ↔ ∃ es, h.Trades who es h' := by
  constructor
  · intro hmoves
    cases hmoves with
    | turn mem can => exact ⟨_, .turn mem can⟩
    | keep mem => exact ⟨_, .keep mem⟩
    | occur o => exact ⟨_, .occur o⟩
    | suggest suggests suggestAfter => exact ⟨_, .suggest suggests suggestAfter⟩
    | unlimited => exact ⟨_, .unlimited⟩
  · rintro ⟨es, htrades⟩
    cases htrades with
    | turn mem can => exact .turn mem can
    | keep mem => exact .keep mem
    | occur o => exact .occur o
    | suggest suggests suggestAfter => exact .suggest suggests suggestAfter
    | unlimited => exact .unlimited

/-- A move does to payloads what its events say, and nothing else. -/
theorem Trades.plays (htrades : h.Trades who es h') : h.Plays es h' := by
  cases htrades with
  | turn => exact plays_stepStrand ..
  | @keep t a mem =>
    have hboard : ({ h with now := max h.now t }.strike t a).board = h.board :=
      board_strike { h with now := max h.now t } t a
    exact (plays_keep _ a).congr (congrArg Board.queues hboard.symm) rfl
  | occur => exact plays_keep ..
  | suggest | unlimited => exact plays_of_queues rfl

/-- What may happen to a host without a turn of the strand of a number, and what happens to payloads
meanwhile. -/
inductive Passes (id : Nat) (h : Host RunResult) : List Waiting.Event → Host RunResult → Prop where
  | refl : Passes id h [] h
  | trade {h' h'' : Host RunResult} {who : Option (Strand RunResult)} {es es' : List Waiting.Event}
      (passes : Passes id h es h') (trades : h'.Trades who es' h'')
      (others : ∀ s, who = some s → s.id ≠ id) : Passes id h (es ++ es') h''

/-- What a strand waits through is labelled in the same way. -/
theorem awaits_iff_passes {id : Nat} : h.Awaits id h' ↔ ∃ es, h.Passes id es h' := by
  constructor
  · intro hawaits
    induction hawaits with
    | refl => exact ⟨[], .refl⟩
    | move _ hmoves hothers ih =>
      obtain ⟨es, hpasses⟩ := ih
      obtain ⟨es', htrades⟩ := moves_iff_trades.1 hmoves
      exact ⟨es ++ es', hpasses.trade htrades hothers⟩
  · rintro ⟨es, hpasses⟩
    induction hpasses with
    | refl => exact .refl
    | trade _ htrades hothers ih => exact ih.move (moves_iff_trades.2 ⟨_, htrades⟩) hothers

theorem Passes.plays {id : Nat} (hpasses : h.Passes id es h') : h.Plays es h' := by
  induction hpasses with
  | refl => exact plays_of_queues rfl
  | trade _ htrades _ ih => exact ih.trans htrades.plays

end

end Host

end TaskGraph

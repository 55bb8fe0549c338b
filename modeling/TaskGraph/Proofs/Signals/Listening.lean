import TaskGraph.Proofs.Json.Places
import TaskGraph.Proofs.Program.WellFormed
import TaskGraph.Proofs.Signals.Expecting

/-!
# What listeners make of signals

A listener for any of some signals takes one payload and gives it back under its name, and one that is
cancelled has taken none (`Listening.any_takes_one`). A listener for all of some signals takes one
payload of each, and gives them back as one object. An object has one value for each key, so all of them
come back if and only if the signals have different names (`Listening.all_come_back_iff`); of two
payloads that are taken under one name the first is lost (`Listening.all_loses_namesake`).

A listener with queries sets their responses and is then like one without (`Listening.run_queries`). The
hosts are those whose strands have different numbers, and a run comes to no others
(`Host.Reaches.numbered`).
-/

set_option autoImplicit false

namespace TaskGraph

open Waiting (takenBy takenBy_append takenBy_takings takings takenOf deliveredOf)

/-! ## Objects of received payloads -/

namespace Members

/-- A new key is one more entry. -/
theorem perm_insert {m : Members} {key : String} (hkey : key ∉ keys m) (value : Json) :
    (m.insert key value).Perm ((key, value) :: m) := by
  induction m with
  | nil => exact .refl _
  | cons first rest ih =>
    obtain ⟨k, v⟩ := first
    obtain ⟨hne, hrest⟩ := not_or.1 (mt List.mem_cons.2 hkey)
    unfold insert
    rw [if_neg hne]
    split
    · exact .refl _
    · exact ((ih hrest).cons (k, v)).trans (.swap ..)

theorem perm_insertAll {m : Members} {entries : List (String × Json)}
    (hnodup : (keys (entries ++ m)).Nodup) : (m.insertAll entries).Perm (entries ++ m) := by
  unfold insertAll
  induction entries generalizing m with
  | nil => exact .refl _
  | cons entry entries ih =>
    obtain ⟨k, v⟩ := entry
    obtain ⟨hkey, hrest⟩ := List.nodup_cons.1 hnodup
    have hins : (m.insert k v).Perm ((k, v) :: m) := by
      refine perm_insert (fun hmem => hkey ?_) v
      obtain ⟨e, he, heq⟩ := List.mem_map.1 hmem
      exact List.mem_map.2 ⟨e, List.mem_append_right _ he, heq⟩
    have hmoved : (entries ++ m.insert k v).Perm ((k, v) :: (entries ++ m)) :=
      (hins.append_left entries).trans List.perm_middle
    refine (ih ?_).trans hmoved
    exact (hmoved.map Prod.fst).nodup_iff.2 hnodup

theorem InOrder.nodup {m : Members} (h : m.InOrder) : (keys m).Nodup :=
  List.pairwise_map.2 (h.imp String.ne_of_lt)

/-- An object has all entries that it is made of if and only if these have different keys. -/
theorem perm_ofList_iff {entries : List (String × Json)} :
    (ofList entries).Perm entries ↔ (keys entries).Nodup := by
  constructor
  · intro hperm
    exact (hperm.map Prod.fst).nodup_iff.1 (inOrder_ofList entries).nodup
  · intro hnodup
    have hall : (insertAll [] entries).Perm (entries ++ []) := perm_insertAll (by rwa [List.append_nil])
    rwa [List.append_nil] at hall

end Members

/-! ## From one turn to the next -/

/-- What a host may come to by a turn of a strand and without another one of it, and what happens to
payloads by that. -/
def Host.Since (s : Strand Host.RunResult) (h : Host Host.RunResult) (es : List Waiting.Event)
    (h' : Host Host.RunResult) : Prop :=
  ∃ es', (h.stepStrand s).Passes s.id es' h' ∧ es = h.turnEvents s ++ es'

theorem Host.Since.plays {s : Strand Host.RunResult} {h h' : Host Host.RunResult}
    {es : List Waiting.Event} (hsince : h.Since s es h') : h.Plays es h' := by
  obtain ⟨es', hpasses, rfl⟩ := hsince
  exact (plays_stepStrand h s).trans hpasses.plays

/-- Whatever happens without a turn of the strand, it is since its turn. -/
theorem Host.Since.trade {s : Strand Host.RunResult} {h h' h'' : Host Host.RunResult}
    {es es' : List Waiting.Event} {who : Option (Strand Host.RunResult)} (hsince : h.Since s es h')
    (htrades : h'.Trades who es' h'') (hothers : ∀ t, who = some t → t.id ≠ s.id) :
    h.Since s (es ++ es') h'' := by
  obtain ⟨es₁, hpasses, rfl⟩ := hsince
  exact ⟨_, hpasses.trade htrades hothers, List.append_assoc ..⟩

/-- Of each name, what was taken and what is left is what was there and what came. -/
theorem Host.Plays.queue {h h' : Host Host.RunResult} {es : List Waiting.Event} (hplays : h.Plays es h')
    (name : String) :
    takenOf name es ++ h'.board.queue name = h.board.queue name ++ deliveredOf name es := by
  obtain ⟨b, hb, hqueues⟩ := Option.map_eq_some_iff.1 hplays
  have hqueue : h'.board.queue name = b.queue name := by
    unfold Board.queue
    rw [hqueues]
  rw [hqueue]
  exact Board.queue_of_play hb name

/-! ## Names -/

/-- The names of the signals that a listener declares, in order. -/
def Listener.awaited (l : Listener) : List String :=
  (l.events.filter fun e => e.type != .query).map Event.id

/-- A compiled listener waits for the signals that are declared. -/
theorem Compiling.awaited_of_listener {task : String} {l : Listener} {mode : ListenMode}
    {waits : List String} {queries : List Query}
    (h : listener task l = .ok (.listen mode waits queries)) : waits = l.awaited := by
  unfold listener at h
  split at h
  · cases h
  · split at h
    · cases h
    · rw [List.partition_eq_filter_filter] at h
      cases h
      rfl

namespace Listening

variable {h h' : Host Host.RunResult} {s : Strand Host.RunResult} {c : Context} {mode : ListenMode}
  {waits : List String} {scope : Scope} {k : Except Fault (Option Json) → Code}
  {es : List Waiting.Event}

/-- A listener sets the responses to its queries first. -/
theorem run_queries (c : Context) (mode : ListenMode) (waits : List String) (queries : List Query)
    (s : Scope) :
    run c mode waits queries s = registerAll c s queries >>= fun _ => run c mode waits [] s :=
  rfl

/-- A listener without names has no result. -/
theorem run_nothing (c : Context) (mode : ListenMode) (s : Scope) : run c mode [] [] s = pure none :=
  rfl

/-- How a listener goes on with what it is answered. -/
def answering (mode : ListenMode) (k : Except Fault (Option Json) → Code)
    (x : Except Fault (List (String × Json))) : Code :=
  k (x.map fun received => some (result mode received))

theorem run_bind (hne : waits ≠ []) :
    (run c mode waits [] scope).run.bind k = .ask (.listen c mode waits) (answering mode k) := by
  obtain ⟨n, ns, rfl⟩ := List.exists_cons_of_ne_nil hne
  show Dialogue.ask _ _ = _
  congr 1
  funext x
  cases x <;> rfl

/-- Since its turn, a listener listens still, or it goes on with an answer that is right for what it has
taken. -/
theorem expecting (hn : h.Numbered) (hs : s ∈ h.strands) (hne : waits ≠ [])
    (hphase : s.phase = .ready ((run c mode waits [] scope).run.bind k)) (hsince : h.Since s es h') :
    h'.Expecting s.id (h.expectation c mode waits (answering mode k)) (takenBy s.id es) := by
  obtain ⟨es', hpasses, rfl⟩ := hsince
  rw [run_bind hne] at hphase
  -- its turn is to begin to listen, and what it takes then is all that its turn does to payloads
  have hstep : h.stepStrand s = (h.turned s).perform s (.listen c mode waits) (answering mode k) := by
    unfold Host.stepStrand
    rw [hphase]
    rfl
  have htaken : takenBy s.id (h.turnEvents s) = h.requestTakes (.listen c mode waits) := by
    unfold Host.turnEvents
    rw [hphase]
    exact (takenBy_takings ..).trans (if_pos rfl)
  have hborn := hn.below s.id (Host.mem_ids.2 ⟨s, hs, rfl⟩)
  have hturn : (h.stepStrand s).Expecting s.id (h.expectation c mode waits (answering mode k))
      (takenBy s.id (h.turnEvents s)) := by
    rw [hstep, htaken]
    exact Host.expecting_perform (h.turned s) s c mode hne (answering mode k)
  rw [takenBy_append]
  exact hturn.passes (hn.stepStrand hs) (Nat.lt_of_lt_of_le hborn (h.later_stepStrand s).fresh) hpasses

/-- Ends with what a listener is answered. -/
def heard (x : Except Fault (Option Json)) : Code := .done (.branch (x.map fun v => v.getD .null))

/-- A strand that listens, and ends with what it is answered. -/
def ear (mode : ListenMode) (waits : List String) : Strand Host.RunResult :=
  ⟨0, Host.mainJob, [], none, [],
    .ready ((run Host.rootContext mode waits [] (.start .null [])).run.bind heard)⟩

/-- A host whose only strand listens. -/
def lone (mode : ListenMode) (waits : List String) : Host Host.RunResult :=
  { Host.alone (.done (.error (.cancelled ""))) with strands := [ear mode waits] }

theorem numbered_lone (mode : ListenMode) (waits : List String) : (lone mode waits).Numbered :=
  ⟨List.pairwise_singleton .., fun _ hid => List.mem_singleton.1 hid ▸ Nat.zero_lt_one⟩

/-- A host whose only strand listens is given a signal. -/
theorem since_signal (mode : ListenMode) (waits : List String) (name : String) (payload : Json) :
    (lone mode waits).Since (ear mode waits)
      ((lone mode waits).turnEvents (ear mode waits) ++
        ((lone mode waits).stepStrand (ear mode waits)).keepEvents (.occurrence (.signal name payload)))
      (((lone mode waits).stepStrand (ear mode waits)).keep (.occurrence (.signal name payload))) :=
  ⟨_, .trade .refl (.occur (.signal name payload)) nofun, by rw [List.nil_append]⟩

/-! ## Any of some signals -/

/-- A listener for any of some signals takes one payload at most. Whatever happens between its turn and
its next one: it listens still, has taken none, and there was none of its names at its turn; or it goes
on with one payload under one of its names, which is all that it has taken, which was the oldest of its
name when it was taken, and whose name is the first one of which there was a payload at its turn, if there
was any; or it is cancelled, and has taken none. Of all names, nothing else is missing on the board than
what is taken so. One that has no name to wait for has no result. -/
theorem any_takes_one (hn : h.Numbered) (hs : s ∈ h.strands) (hne : waits ≠ [])
    (hphase : s.phase = .ready ((run c .any waits [] scope).run.bind k)) (hsince : h.Since s es h') :
    (∀ queries, run c .any waits queries scope =
      registerAll c scope queries >>= fun _ => run c .any waits [] scope) ∧
    run c .any [] [] scope = pure none ∧
    (∀ name, takenOf name es ++ h'.board.queue name = h.board.queue name ++ deliveredOf name es) ∧
    ∀ s' ∈ h'.strands, s'.id = s.id →
      ((∃ slots next, s'.phase = .listening c .any slots next) ∧ takenBy s.id es = [] ∧
        ∀ m ∈ waits, h.board.queue m = []) ∨
      (∃ n ∈ waits, ∃ p, s'.phase = .ready (k (.ok (some (.obj [(n, p)])))) ∧
        takenBy s.id es = [(n, p)] ∧
        (∃ before after b rest, es = before ++ .taken s.id n p :: after ∧
          h.board.play before = some b ∧ b.queue n = p :: rest) ∧
        ∀ m, waits.find? (fun m => h.board.queue m ≠ []) = some m → m = n) ∨
      ∃ n ∈ waits, s'.phase = .ready (k (.error (.cancelled ("signal:" ++ n)))) ∧
        takenBy s.id es = [] := by
  refine ⟨fun queries => run_queries .., run_nothing .., hsince.plays.queue, fun s' hs' hid => ?_⟩
  have hexpects := expecting hn hs hne hphase hsince s' hs' hid
  generalize hp : s'.phase = p at hexpects
  cases hexpects with
  | waiting names missing received single =>
    obtain ⟨hnone, hearly⟩ := single nofun
    refine .inl ⟨⟨_, _, rfl⟩, hnone, fun m hm => ?_⟩
    exact Decidable.not_not.1 (mt decide_eq_true (List.find?_eq_none.1 hearly m hm))
  | @answered x answer =>
    cases x with
    | error f =>
      obtain ⟨hnone, n, hmem, rfl⟩ := answer
      exact .inr (.inr ⟨n, hmem, rfl, hnone nofun⟩)
    | ok xs =>
      obtain ⟨hperm, -, hsingle⟩ := answer
      obtain ⟨n, hmem, hnames, hearly⟩ := hsingle nofun
      obtain ⟨⟨n', payload⟩, rfl, rfl⟩ := List.map_eq_singleton_iff.1 hnames
      have htaken := List.perm_singleton.1 hperm.symm
      refine .inr (.inl ⟨n', hmem, payload, rfl, htaken, ?_, hearly⟩)
      -- what is taken is at the front of its queue, as the events can be played
      obtain ⟨before, after, rfl, -, -⟩ := Waiting.split_of_takenBy htaken
      obtain ⟨b, hb, -⟩ := Option.map_eq_some_iff.1 hsince.plays
      obtain ⟨b₁, rest, hbefore, hqueue⟩ := Board.front_of_play hb
      exact ⟨before, after, b₁, rest, rfl, hbefore, hqueue⟩

/-- Of two signals, the second one comes. -/
theorem any_takes_one_of_signal :
    ∃ es h', (lone .any ["a", "b"]).Since (ear .any ["a", "b"]) es h' ∧ h'.ids = [0] ∧
      takenBy 0 es = [("b", .int 5)] ∧ ∀ s' ∈ h'.strands, s'.id = 0 →
        s'.phase = .ready (heard (.ok (some (.obj [("b", .int 5)])))) := by
  have hsince := since_signal .any ["a", "b"] "b" (.int 5)
  obtain ⟨-, -, -, hafter⟩ := any_takes_one (k := heard) (numbered_lone .any ["a", "b"])
    (List.mem_singleton_self _) (show ["a", "b"] ≠ [] from nofun) rfl hsince
  refine ⟨_, _, hsince, by decide +kernel, by decide +kernel, fun s' hs' hid => ?_⟩
  rcases hafter s' hs' hid with ⟨-, hnone, -⟩ | ⟨n, -, p, hphase, htaken, -⟩ | ⟨n, -, -, hnone⟩
  · exact absurd hnone (by decide +kernel)
  · have hone : [("b", Json.int 5)] = [(n, p)] := Eq.trans (by decide +kernel) htaken
    cases hone
    exact hphase
  · exact absurd hnone (by decide +kernel)

/-! ## All of some signals -/

/-- A listener for all of some signals goes on with one payload for each signal that it declares, and
these are what it has taken. All of them come back in its result if and only if no name is declared twice.
Of all names, nothing else is missing on the board than what is taken. -/
theorem all_come_back_iff {task : String} {l : Listener} {queries : List Query}
    (hl : Compiling.listener task l = .ok (.listen .all waits queries)) (hn : h.Numbered)
    (hs : s ∈ h.strands) (hne : waits ≠ [])
    (hphase : s.phase = .ready ((run c .all waits [] scope).run.bind k)) (hsince : h.Since s es h') :
    (run c .all waits queries scope = registerAll c scope queries >>= fun _ => run c .all waits [] scope) ∧
    run c .all [] [] scope = pure none ∧
    (∀ name, takenOf name es ++ h'.board.queue name = h.board.queue name ++ deliveredOf name es) ∧
    ∀ s' ∈ h'.strands, s'.id = s.id →
      (∃ slots next, s'.phase = .listening c .all slots next) ∨
      (∃ received : List (String × Json),
        s'.phase = .ready (k (.ok (some (.obj (Members.ofList received))))) ∧
        received.map Prod.fst = l.awaited ∧ (takenBy s.id es).Perm received ∧
        ((takenBy s.id es).Perm (Members.ofList received) ↔ l.awaited.Nodup)) ∨
      ∃ n ∈ l.awaited, s'.phase = .ready (k (.error (.cancelled ("signal:" ++ n)))) := by
  obtain rfl := Compiling.awaited_of_listener hl
  refine ⟨run_queries .., run_nothing .., hsince.plays.queue, fun s' hs' hid => ?_⟩
  have hexpects := expecting hn hs hne hphase hsince s' hs' hid
  generalize hp : s'.phase = p at hexpects
  cases hexpects with
  | waiting names missing received single => exact .inl ⟨_, _, rfl⟩
  | @answered x answer =>
    cases x with
    | error f =>
      obtain ⟨-, n, hmem, rfl⟩ := answer
      exact .inr (.inr ⟨n, hmem, rfl⟩)
    | ok received =>
      obtain ⟨hperm, hall, -⟩ := answer
      have hnames : received.map Prod.fst = l.awaited := hall rfl
      refine .inr (.inl ⟨received, rfl, hnames, hperm.symm, ?_⟩)
      rw [← hnames]
      refine Iff.trans ?_ Members.perm_ofList_iff
      exact ⟨fun hback => (hperm.trans hback).symm, fun hback => hperm.symm.trans hback.symm⟩

/-- Whether a strand ends with an answer. -/
def answered : Phase Host.RunResult → Bool
  | .ready (.done (.branch (.ok _))) => true
  | _ => false

/-- Two signals with different names, both of which come, the second one first. -/
theorem all_come_back_of_pair :
    ∃ es h', (lone .all ["a", "b"]).Since (ear .all ["a", "b"]) es h' ∧ h'.ids = [0] ∧
      takenBy 0 es = [("b", .int 5), ("a", .int 7)] ∧ ∀ s' ∈ h'.strands, s'.id = 0 →
        ∃ back : Members, s'.phase = .ready (heard (.ok (some (.obj back)))) ∧
          (takenBy 0 es).Perm back := by
  have hsince := (since_signal .all ["a", "b"] "b" (.int 5)).trade (.occur (.signal "a" (.int 7))) nofun
  have hcompiled : Compiling.listener "t" ⟨none, [], [⟨"a", .signal, none⟩, ⟨"b", .update, none⟩]⟩ =
      .ok (.listen .all ["a", "b"] []) := rfl
  obtain ⟨-, -, -, hafter⟩ := all_come_back_iff (k := heard) hcompiled (numbered_lone .all ["a", "b"])
    (List.mem_singleton_self _) nofun rfl hsince
  refine ⟨_, _, hsince, by decide +kernel, by decide +kernel, fun s' hs' hid => ?_⟩
  have hanswered : answered s'.phase = true :=
    (show ∀ t ∈ _, answered (Strand.phase t) = true by decide +kernel) s' hs'
  rcases hafter s' hs' hid with ⟨slots, next, hphase⟩ | ⟨received, hphase, -, -, hback⟩ | ⟨n, -, hphase⟩
  · rw [hphase] at hanswered
    cases hanswered
  · exact ⟨_, hphase, hback.2 (by decide +kernel)⟩
  · rw [hphase] at hanswered
    cases hanswered

/-- Compiles a document whose only task listens for some signals, and runs it on a host to which some
come: its data, and what is left of one name. -/
def listened (l : Listener) (signals : List (String × Json)) (name : String) :
    Option (Option Members × List Json) :=
  (Program.compile Kinds.standard .standard
      ⟨⟨"root", none, none, none⟩, none, none, [Pair.task "t" none (.listen l)]⟩).toOption.map
    fun p =>
      let setting : Setting := ⟨p, .ofSettings .standard, CallSettings.standard.timeout⟩
      let h := Host.run 100 ((Host.start setting (.bare 0) .passThrough
        (Host.programRun p .null []).run).withSignals (signals.map fun e => (none, e.1, e.2)))
      (h.result.bind fun x => x.toOption.map fun o => o.scope.data, h.board.queue name)

/-- A listener that declares a name twice takes two payloads and gives one back. -/
theorem all_loses_namesake :
    listened ⟨none, [], [⟨"a", .signal, none⟩, ⟨"a", .signal, none⟩]⟩ [("a", .int 1), ("a", .int 2)] "a" =
      some (some [("t", .obj [("a", .int 2)])], []) := by
  decide +kernel

end Listening

end TaskGraph

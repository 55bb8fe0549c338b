import TaskGraph.Proofs.Host.Growth
import TaskGraph.Proofs.Restart.Chronicle

/-!
# The histories of a program's runs

The chapters of a ledger are what the histories of a host say of its runs as a whole
(`Host.Accounts`): the history of a chapter's run starts with its opening, its close is the only other
event about the run as a whole, and no other history has such an event.

A run is empty when its first event is written, since the strand that opened it goes on before any
other one (`Host.Upfront`).
-/

set_option autoImplicit false

namespace TaskGraph.Host

variable {α : Type} {h h' : Host α} {chapters : List Chapter}

/-! ## Accounts -/

/-- Whether the histories of a host are those that chapters tell of. -/
structure Accounts (chapters : List Chapter) (h : Host α) : Prop where
  written : ∀ ch ∈ chapters, ∃ rest, (h.history ch.run).events.toList = ch.opening :: rest ∧
    rest.filter HistoryEvent.isRunEvent = ch.close.toList
  silent : ∀ run, (∀ ch ∈ chapters, ch.run ≠ run) →
    (h.history run).events.toList.filter HistoryEvent.isRunEvent = []
  distinct : (chapters.map Chapter.run).Nodup

/-- Whether a run is there and has no events. -/
def Blank (h : Host α) (run : Nat) : Prop :=
  run < h.runs.size ∧ (h.history run).events.toList = []

/-- Only a run that there is has events. -/
theorem lt_of_history {run : Nat} (hne : (h.history run).events.toList ≠ []) :
    run < h.runs.size := by
  refine Nat.lt_of_not_le fun hle => hne ?_
  rw [history_eq, Array.getElem?_eq_none hle]
  rfl

theorem history_of_runs (heq : h'.runs = h.runs) (run : Nat) : h'.history run = h.history run := by
  unfold history
  rw [heq]

theorem Accounts.of_runs (ha : h.Accounts chapters) (heq : h'.runs = h.runs) :
    h'.Accounts chapters := by
  refine ⟨fun ch hch => ?_, fun run hrun => ?_, ha.distinct⟩
  · rw [history_of_runs heq]
    exact ha.written ch hch
  · rw [history_of_runs heq]
    exact ha.silent run hrun

theorem Blank.of_runs {run : Nat} (hb : h.Blank run) (heq : h'.runs = h.runs) : h'.Blank run :=
  ⟨heq ▸ hb.1, (history_of_runs heq run).symm ▸ hb.2⟩

/-- An event about a run as a whole is the opening or the close of the run's chapter. -/
theorem Accounts.of_mem (ha : h.Accounts chapters) {run : Nat} {ev : HistoryEvent}
    (hmem : ev ∈ (h.history run).events.toList) (hev : ev.isRunEvent = true) :
    ∃ ch ∈ chapters, ch.run = run ∧ (ev = ch.opening ∨ ch.close = some ev) := by
  by_cases hrun : ∃ ch ∈ chapters, ch.run = run
  · obtain ⟨ch, hch, rfl⟩ := hrun
    obtain ⟨rest, hrest, hclose⟩ := ha.written ch hch
    refine ⟨ch, hch, rfl, ?_⟩
    rw [hrest] at hmem
    refine (List.mem_cons.1 hmem).imp_right fun hrestmem => ?_
    have hfiltered : ev ∈ rest.filter HistoryEvent.isRunEvent := List.mem_filter.2 ⟨hrestmem, hev⟩
    rw [hclose] at hfiltered
    exact Option.mem_toList.1 hfiltered
  · have hsilent := ha.silent run fun ch hch heq => hrun ⟨ch, hch, heq⟩
    exact absurd (List.mem_filter.2 ⟨hmem, hev⟩) (by rw [hsilent]; exact List.not_mem_nil)

/-- Events that are not about a run as a whole change no accounts. -/
theorem Accounts.grows {N : Notice → Prop} (ha : h.Accounts chapters)
    (hg : Grows N (fun ev => ev.isRunEvent = false) h h') : h'.Accounts chapters := by
  have hnone {new : List HistoryEvent} (hnew : ∀ ev ∈ new, ev.isRunEvent = false) :
      new.filter HistoryEvent.isRunEvent = [] :=
    List.filter_eq_nil_iff.2 fun ev hev => by simp [hnew ev hev]
  refine ⟨fun ch hch => ?_, fun run hrun => ?_, ha.distinct⟩
  · obtain ⟨rest, hrest, hclose⟩ := ha.written ch hch
    obtain ⟨new, hhistory, hnew⟩ := hg.histories ch.run
    refine ⟨rest ++ new, by rw [hhistory, hrest, List.cons_append], ?_⟩
    rw [List.filter_append, hclose, hnone hnew, List.append_nil]
  · obtain ⟨new, hhistory, hnew⟩ := hg.histories run
    rw [hhistory, List.filter_append, ha.silent run hrun, hnone hnew, List.append_nil]

/-- A run that was just opened is blank. -/
theorem blank_open (h : Host α) (c : Context) : (h.open_ c).2.Blank h.runs.size := by
  refine ⟨by simp [Host.open_], ?_⟩
  rw [history_eq, Host.open_, Array.getElem?_push]
  simp [History.empty]

theorem history_record_of_ne {c : Context} (ev : HistoryEvent) {run : Nat} (hrun : c.run ≠ run) :
    (h.record c ev).history run = h.history run := by
  rw [history_record, if_neg fun hc => hrun hc.1]

theorem events_record {c : Context} (ev : HistoryEvent) (hsize : c.run < h.runs.size) :
    ((h.record c ev).history c.run).events.toList =
      (h.history c.run).events.toList ++ [ev] := by
  rw [history_record, if_pos ⟨rfl, hsize⟩, History.record, Array.toList_push]

variable {c : Context}

/-- The first event of a blank run opens its chapter. -/
theorem Accounts.started (ha : h.Accounts chapters) (hblank : h.Blank c.run) (ch : Chapter)
    (hrun : ch.run = c.run) (hopen : ch.close = none) :
    (h.record c ch.opening).Accounts (ch :: chapters) := by
  obtain ⟨hsize, hempty⟩ := hblank
  -- the run of an older chapter has events already, so it is not the blank one
  have hnew : ∀ ch' ∈ chapters, c.run ≠ ch'.run := by
    intro ch' hch' heq
    obtain ⟨rest, hrest, -⟩ := ha.written ch' hch'
    rw [← heq, hempty] at hrest
    cases hrest
  refine ⟨List.forall_mem_cons.2 ⟨⟨[], ?_, ?_⟩, fun ch' hch' => ?_⟩, fun run hother => ?_, ?_⟩
  · rw [hrun, events_record _ hsize, hempty]
    rfl
  · rw [hopen]
    rfl
  · rw [history_record_of_ne _ (hnew ch' hch')]
    exact ha.written ch' hch'
  · obtain ⟨hne, hrest⟩ := List.forall_mem_cons.1 hother
    rw [history_record_of_ne _ (hrun ▸ hne)]
    exact ha.silent run hrest
  · refine List.nodup_cons.2 ⟨fun hmem => ?_, ha.distinct⟩
    obtain ⟨ch', hch', heq⟩ := List.mem_map.1 hmem
    exact hnew ch' hch' (hrun.symm.trans heq.symm)

/-- An event about the run of the last chapter as a whole closes the chapter. -/
theorem Accounts.closed {ch : Chapter} (ha : h.Accounts (ch :: chapters)) (hrun : ch.run = c.run)
    (hopen : ch.close = none) {ev : HistoryEvent} (hev : ev.isRunEvent = true) :
    (h.record c ev).Accounts ({ ch with close := some ev } :: chapters) := by
  obtain ⟨⟨rest, hrest, hclose⟩, hwritten⟩ := List.forall_mem_cons.1 ha.written
  obtain ⟨hfresh, hdistinct⟩ := List.nodup_cons.1 ha.distinct
  rw [hrun] at hrest
  have hsize : c.run < h.runs.size := lt_of_history (by rw [hrest]; exact nofun)
  refine ⟨List.forall_mem_cons.2 ⟨⟨rest ++ [ev], ?_, ?_⟩, fun ch' hch' => ?_⟩, fun run hother => ?_,
    ha.distinct⟩
  · show ((h.record c ev).history ch.run).events.toList = ch.opening :: (rest ++ [ev])
    rw [hrun, events_record ev hsize, hrest, List.cons_append]
  · rw [List.filter_append, hclose, hopen]
    simp [hev]
  · rw [history_record_of_ne]
    · exact hwritten ch' hch'
    · rw [← hrun]
      intro heq
      exact hfresh (heq ▸ List.mem_map_of_mem hch')
  · obtain ⟨hne, hrest⟩ := List.forall_mem_cons.1 hother
    rw [history_record_of_ne ev (hrun ▸ hne)]
    exact ha.silent run (List.forall_mem_cons.2 ⟨hne, hrest⟩)

/-- An event that the law admits continues the accounts. -/
theorem Accounts.record {p : Program} {l : Ledger} (ha : h.Accounts l.chapters)
    (hopened : ∀ run, l.opened = some run → h.Blank run) {ev : HistoryEvent}
    (hev : l.Admits p c.run ev) : (h.record c ev).Accounts (l.note c.run ev) := by
  obtain ⟨chapters, opened⟩ := l
  cases ev with
  | runStarted entry id marker =>
    obtain ⟨hrun, rfl, -⟩ := hev
    exact ha.started (hopened _ hrun) ⟨c.run, entry, marker, none⟩ rfl rfl
  | runCompleted | runFailed | continuedAsNew =>
    obtain ⟨ch, earlier, rfl, hrun, hopen, -⟩ := hev rfl
    exact ha.closed hrun hopen rfl
  | _ => exact ha.grows (N := fun _ => True) (grows_record h c rfl)

/-! ## The strand that opened a run -/

/-- The strand that a host is started with. -/
def mainStrand : Nat := 0

/-- Whether the strand that a host is started with is the one to go on. -/
structure Upfront (h : Host α) (s : Strand α) : Prop where
  id : s.id = mainStrand
  phase : ∃ code, s.phase = .ready code
  turn : h.turn = some s.job
  queue : ∃ later, h.queue = s.id :: later
  strand : h.strand? s.id = some s

/-- The first strand in the queue goes on, if it is of the job whose turn it is. -/
theorem next?_of_first {s : Strand α} (hturn : h.turn = some s.job) {later : List Nat}
    (hqueue : h.queue = s.id :: later) (hfound : h.strand? s.id = some s) : h.next? = some s := by
  unfold Host.next? runnable
  rw [hqueue, List.filterMap_cons_some hfound]
  simp [hturn]

theorem Upfront.next? {s : Strand α} (hs : h.Upfront s) : h.next? = some s := by
  obtain ⟨later, hqueue⟩ := hs.queue
  exact next?_of_first hs.turn hqueue hs.strand

theorem Upfront.of_strands {s : Strand α} (hs : h.Upfront s) (hstrands : h'.strands = h.strands)
    (hqueue : h'.queue = h.queue) (hturn : h'.turn = h.turn) : h'.Upfront s := by
  obtain ⟨hid, hphase, hmine, hfirst, hfound⟩ := hs
  refine ⟨hid, hphase, hturn.trans hmine, hqueue ▸ hfirst, ?_⟩
  unfold Host.strand? at hfound ⊢
  rw [hstrands]
  exact hfound

/-- What a strand is replaced by is found under its number. -/
theorem strand?_put {s t : Strand α} (ht : t ∈ h.strands) (hid : t.id = s.id) :
    (h.put s).strand? s.id = some s := by
  have hsame : (fun t : Strand α => t.id == s.id) ∘ (fun t => if t.id = s.id then s else t) =
      fun t => t.id == s.id := by
    funext t
    by_cases h : t.id = s.id <;> simp [h]
  show (h.strands.map fun t => if t.id = s.id then s else t).find? (fun t => t.id == s.id) = some s
  rw [List.find?_map, hsame]
  cases hfound : h.strands.find? fun t => t.id == s.id with
  | none => exact absurd (List.find?_eq_none.1 hfound t ht) (by simp [hid])
  | some t' =>
    have ht' : t'.id = s.id := by simpa using List.find?_some hfound
    exact congrArg some (if_pos ht')

/-- A strand whose turn it is goes on before any other one. -/
theorem upfront_goOn {s : Strand α} (hs : s ∈ h.strands) (hid : s.id = mainStrand)
    (hturn : h.turn = some s.job) {later : List Nat} (hqueue : h.queue = s.id :: later)
    (code : Dialogue (Ending α)) : (h.goOn s code).Upfront { s with phase := .ready code } where
  id := hid
  phase := ⟨code, rfl⟩
  turn := hturn
  queue := ⟨later, hqueue⟩
  strand := strand?_put (s := { s with phase := .ready code }) hs rfl

end TaskGraph.Host

import TaskGraph.Host.Basic
import TaskGraph.Proofs.Signals.Waiting

/-!
# What is taken from a board

`Board.play` lets payloads come and go on a board as a list of events says, and refuses a list that takes
a payload before it is the oldest one of its name. So what a played list leaves of each queue is what was
there and what came, without what was taken (`Board.queue_of_play`), and each payload was taken from the
front (`Board.front_of_play`).

A listener takes the payloads of `Board.gather`: for all of its names what is there of those that miss one
(`Board.fillings`), or else one payload of the first name that has any (`Board.first`).
-/

set_option autoImplicit false

namespace TaskGraph

namespace Waiting

/-- What one takes, as events. -/
def takings (i : Nat) (xs : List (String × Json)) : List Event := xs.map fun e => .taken i e.1 e.2

theorem takenBy_takings (i j : Nat) (xs : List (String × Json)) :
    takenBy i (takings j xs) = if j = i then xs else [] := by
  induction xs with
  | nil => simp [takings, takenBy]
  | cons x xs ih =>
    have hcons : takings j (x :: xs) = [.taken j x.1 x.2] ++ takings j xs := rfl
    rw [hcons, takenBy_append, ih]
    by_cases hj : j = i <;> simp [takenBy, hj]

/-- Who has taken one payload has done so at some time, and took nothing before and after it. -/
theorem split_of_takenBy {i : Nat} {name : String} {payload : Json} {es : List Event}
    (h : takenBy i es = [(name, payload)]) :
    ∃ before after, es = before ++ .taken i name payload :: after ∧ takenBy i before = [] ∧
      takenBy i after = [] := by
  obtain ⟨before, e, after, rfl, hbefore, he, hafter⟩ := List.filterMap_eq_cons_iff.1 h
  refine ⟨before, after, ?_, List.filterMap_eq_nil_iff.2 hbefore, hafter⟩
  cases e with
  | delivered => cases he
  | taken j n p =>
    dsimp only at he
    split at he
    · next hj =>
      cases he
      rw [hj]
    · cases he

end Waiting

namespace Board

open Waiting (takenOf deliveredOf takings)

/-! ## Histories of a board -/

/-- The board after payloads have come and gone, if each that was taken was the oldest of its name then. -/
def play (b : Board) : List Waiting.Event → Option Board
  | [] => some b
  | .delivered name payload :: es => (b.deliver name payload).play es
  | .taken _ name payload :: es => match b.take? name with
    | some (p, b') => if p = payload then b'.play es else none
    | none => none

theorem play_append (b : Board) (es es' : List Waiting.Event) :
    b.play (es ++ es') = (b.play es).bind (·.play es') := by
  induction es generalizing b with
  | nil => rfl
  | cons e es ih =>
    cases e with
    | delivered name payload => exact ih _
    | taken i name payload =>
      simp only [List.cons_append, play]
      cases b.take? name with
      | none => rfl
      | some taken =>
        dsimp only
        split
        · exact ih _
        · rfl

theorem play_taken {b b' : Board} {name : String} {payload : Json} (i : Nat) (es : List Waiting.Event)
    (h : b.take? name = some (payload, b')) : b.play (.taken i name payload :: es) = b'.play es := by
  simp only [play, h, if_pos]

/-- The responses to queries have no part in it. -/
theorem play_responses (b : Board) (responses : List (String × Json)) (es : List Waiting.Event) :
    ({ b with responses } : Board).play es = (b.play es).map ({ · with responses }) := by
  induction es generalizing b with
  | nil => rfl
  | cons e es ih =>
    cases e with
    | delivered name payload => exact ih (b.deliver name payload)
    | taken i name payload =>
      have hqueue : ({ b with responses } : Board).queue name = b.queue name := rfl
      simp only [play, take?, hqueue]
      cases b.queue name with
      | nil => rfl
      | cons p ps =>
        dsimp only
        split
        · exact ih (b.setQueue name ps)
        · rfl

theorem play_congr {b b' : Board} (h : b.queues = b'.queues) (es : List Waiting.Event) :
    (b.play es).map queues = (b'.play es).map queues := by
  obtain ⟨queues, responses⟩ := b
  obtain ⟨queues', responses'⟩ := b'
  obtain rfl : queues = queues' := h
  rw [play_responses ⟨queues, responses⟩ responses', Option.map_map]
  rfl

/-- Of each name, what was taken and what is left is what was there and what came. -/
theorem queue_of_play {b b' : Board} {es : List Waiting.Event} (h : b.play es = some b') (name : String) :
    takenOf name es ++ b'.queue name = b.queue name ++ deliveredOf name es := by
  induction es generalizing b with
  | nil =>
    cases h
    exact (List.append_nil _).symm
  | cons e es ih =>
    cases e with
    | delivered n payload =>
      -- a payload of another name changes neither side
      have hrest := ih h
      rw [queue_deliver] at hrest
      by_cases hn : name = n
      · subst hn
        rw [if_pos rfl] at hrest
        simpa [takenOf, deliveredOf] using hrest
      · rw [if_neg hn] at hrest
        simpa [takenOf, deliveredOf, Ne.symm hn] using hrest
    | taken i n payload =>
      rw [play] at h
      cases htake : b.take? n with
      | none => simp [htake] at h
      | some taken =>
        obtain ⟨p, b₁⟩ := taken
        simp only [htake] at h
        split at h
        · next hp =>
          -- what is taken was in front on the one side, and is first on the other
          subst hp
          have hrest := ih h
          rw [queue_of_take? htake name]
          by_cases hn : name = n
          · subst hn
            rw [if_pos rfl, List.cons_append]
            simpa [takenOf, deliveredOf] using hrest
          · rw [if_neg hn]
            simpa [takenOf, deliveredOf, Ne.symm hn] using hrest
        · cases h

/-- What is taken is at the front of its queue at that time. -/
theorem front_of_play {b b' : Board} {before after : List Waiting.Event} {i : Nat} {name : String}
    {payload : Json} (h : b.play (before ++ .taken i name payload :: after) = some b') :
    ∃ b₁ rest, b.play before = some b₁ ∧ b₁.queue name = payload :: rest := by
  rw [play_append] at h
  obtain ⟨b₁, hbefore, hafter⟩ := Option.bind_eq_some_iff.1 h
  rw [play] at hafter
  cases htake : b₁.take? name with
  | none => simp [htake] at hafter
  | some taken =>
    obtain ⟨p, b₂⟩ := taken
    simp only [htake] at hafter
    split at hafter
    · next hp =>
      subst hp
      refine ⟨b₁, b₂.queue name, hbefore, ?_⟩
      rw [queue_of_take? htake name, if_pos rfl]
    · cases hafter

/-! ## What a listener takes -/

/-- The payloads that are received. -/
def received (slots : List (String × Option Json)) : List (String × Json) :=
  slots.filterMap fun e => e.2.map fun p => (e.1, p)

/-- What names without a payload are filled with. -/
def fillings (b : Board) : List (String × Option Json) → List (String × Json)
  | [] => []
  | (_, some _) :: slots => b.fillings slots
  | (n, none) :: slots => match b.take? n with
    | some (p, b) => (n, p) :: b.fillings slots
    | none => b.fillings slots

/-- A payload of the first name that has one. -/
def first (b : Board) (names : List String) : List (String × Json) :=
  ((b.takeFirst? names).map Prod.fst).toList

/-- What a listener takes, given what it has received of each name. -/
def gather (b : Board) (mode : ListenMode) (slots : List (String × Option Json)) :
    List (String × Json) :=
  match mode with
  | .all => b.fillings slots
  | .one | .any => b.first (slots.map Prod.fst)

section

variable {b b' : Board} {slots : List (String × Option Json)} {names : List String}

theorem play_fill (b : Board) (i : Nat) (slots : List (String × Option Json)) :
    b.play (takings i (b.fillings slots)) = some (b.fill slots).2.2 := by
  induction slots generalizing b with
  | nil => rfl
  | cons e slots ih =>
    match e with
    | (n, some p) => exact ih b
    | (n, none) =>
      rw [fillings, fill]
      cases htake : b.take? n with
      | none => exact ih b
      | some taken =>
        obtain ⟨p, b'⟩ := taken
        exact (play_taken i _ htake).trans (ih b')

theorem fill_names (b : Board) (slots : List (String × Option Json)) :
    (b.fill slots).1.map Prod.fst = slots.map Prod.fst := by
  induction slots generalizing b with
  | nil => rfl
  | cons e slots ih =>
    match e with
    | (n, some p) => exact congrArg (n :: ·) (ih b)
    | (n, none) =>
      rw [fill]
      cases b.take? n with
      | none => exact congrArg (n :: ·) (ih b)
      | some taken => exact congrArg (n :: ·) (ih taken.2)

/-- What was received comes to be what it was and what is taken besides. -/
theorem received_fill (b : Board) (slots : List (String × Option Json)) :
    (received (b.fill slots).1).Perm (received slots ++ b.fillings slots) := by
  induction slots generalizing b with
  | nil => exact .refl _
  | cons e slots ih =>
    match e with
    | (n, some p) => exact (ih b).cons (n, p)
    | (n, none) =>
      rw [fillings, fill]
      cases b.take? n with
      | none => exact ih b
      | some taken => exact ((ih taken.2).cons (n, taken.1)).trans List.perm_middle.symm

/-- Once every name has a payload, these are what was received, in the order of the names. -/
theorem eq_received_of_filled? {xs : List (String × Json)} (h : filled? slots = some xs) :
    xs = received slots ∧ xs.map Prod.fst = slots.map Prod.fst := by
  induction slots generalizing xs with
  | nil =>
    cases h
    exact ⟨rfl, rfl⟩
  | cons e slots ih =>
    match e with
    | (n, none) => cases h
    | (n, some p) =>
      obtain ⟨ys, hys, rfl⟩ := Option.map_eq_some_iff.1 h
      obtain ⟨rfl, hnames⟩ := ih hys
      exact ⟨rfl, congrArg (n :: ·) hnames⟩

/-- As long as not every name has a payload, one of them misses its own. -/
theorem missing_of_filled? (h : filled? slots = none) :
    ∃ n ∈ slots.map Prod.fst, slots.find? (fun e => e.2.isNone) = some (n, none) := by
  induction slots with
  | nil => cases h
  | cons e slots ih =>
    match e with
    | (n, none) => exact ⟨n, List.mem_cons_self .., rfl⟩
    | (n, some p) =>
      obtain ⟨m, hm, hfind⟩ := ih (Option.map_eq_none_iff.1 h)
      exact ⟨m, List.mem_cons_of_mem _ hm, hfind⟩

theorem received_blank (names : List String) : received (names.map fun n => (n, none)) = [] := by
  induction names with
  | nil => rfl
  | cons n names ih => exact ih

theorem filled?_blank (hne : names ≠ []) : filled? (names.map fun n => (n, none)) = none := by
  cases names with
  | nil => exact absurd rfl hne
  | cons n names => rfl

/-- The name that a payload is taken of is the first one that has any. -/
theorem find?_first (b : Board) (names : List String) :
    names.find? (fun n => b.queue n ≠ []) = (b.takeFirst? names).map (·.1.1) := by
  induction names with
  | nil => rfl
  | cons n names ih =>
    rw [takeFirst?]
    cases htake : b.take? n with
    | none => rw [List.find?_cons_of_neg (by simpa using take?_eq_none.1 htake), ih]
    | some taken =>
      rw [List.find?_cons_of_pos]
      · rfl
      · simpa using fun hnil => Option.some_ne_none _ (htake.symm.trans (take?_eq_none.2 hnil))

theorem take?_of_takeFirst? {n : String} {p : Json} (h : b.takeFirst? names = some ((n, p), b')) :
    b.take? n = some (p, b') := by
  induction names with
  | nil => cases h
  | cons m names ih =>
    rw [takeFirst?] at h
    cases htake : b.take? m with
    | none => exact ih (by simpa [htake] using h)
    | some taken =>
      simp only [htake, Option.some.injEq, Prod.mk.injEq] at h
      obtain ⟨⟨rfl, rfl⟩, rfl⟩ := h
      exact htake

theorem play_first (b : Board) (i : Nat) (names : List String) :
    b.play (takings i (b.first names)) = some (((b.takeFirst? names).map Prod.snd).getD b) := by
  rw [first]
  cases hfirst : b.takeFirst? names with
  | none => rfl
  | some taken =>
    obtain ⟨⟨n, p⟩, b'⟩ := taken
    exact play_taken i [] (take?_of_takeFirst? hfirst)

end

end Board

end TaskGraph

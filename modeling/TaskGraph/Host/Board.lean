import TaskGraph.Json.Basic

/-!
# Signal boards

A board keeps the payloads of signals in one queue for each name until they are taken, and the latest
response to each query. Taking a payload removes the oldest one of its name and touches no other queue.
-/

set_option autoImplicit false

namespace TaskGraph

/-- Queues of payloads by the name of their signal, and responses by the name of their query. -/
structure Board where
  queues : List (String × List Json)
  responses : List (String × Json)
  deriving Repr, DecidableEq

namespace Board

/-- No payloads and no responses. -/
def empty : Board := ⟨[], []⟩

/-- The payloads of a name, oldest first. -/
def queue (b : Board) (name : String) : List Json := (b.queues.lookup name).getD []

/-- Replaces the queue of a name. -/
def setQueue (b : Board) (name : String) (q : List Json) : Board :=
  { b with queues := (name, q) :: b.queues.filter (·.1 != name) }

/-- Puts a payload behind the others of its name. -/
def deliver (b : Board) (name : String) (payload : Json) : Board :=
  b.setQueue name (b.queue name ++ [payload])

/-- Takes the oldest payload of a name. -/
def take? (b : Board) (name : String) : Option (Json × Board) :=
  match b.queue name with
  | [] => none
  | p :: ps => some (p, b.setQueue name ps)

/-- The number of payloads of a name. -/
def pending (b : Board) (name : String) : Nat := (b.queue name).length

/-- Sets the response to a query. -/
def respond (b : Board) (name : String) (response : Json) : Board :=
  { b with responses := (name, response) :: b.responses.filter (·.1 != name) }

/-- The latest response to a query. -/
def response? (b : Board) (name : String) : Option Json := b.responses.lookup name

/-- Takes a payload of the first name that has one. -/
def takeFirst? (b : Board) : List String → Option ((String × Json) × Board)
  | [] => none
  | n :: ns => match b.take? n with
    | some (p, b) => some ((n, p), b)
    | none => b.takeFirst? ns

/-- Takes a payload for every name that has none yet, in order, where there is one. The names of the
payloads that were taken come along. -/
def fill (b : Board) : List (String × Option Json) → List (String × Option Json) × List String × Board
  | [] => ([], [], b)
  | (n, some p) :: slots =>
    let (slots, taken, b) := b.fill slots
    ((n, some p) :: slots, taken, b)
  | (n, none) :: slots => match b.take? n with
    | some (p, b) =>
      let (slots, taken, b) := b.fill slots
      ((n, some p) :: slots, n :: taken, b)
    | none =>
      let (slots, taken, b) := b.fill slots
      ((n, none) :: slots, taken, b)

/-- The payloads of all names, once every name has one. -/
def filled? : List (String × Option Json) → Option (List (String × Json))
  | [] => some []
  | (n, some p) :: slots => (filled? slots).map ((n, p) :: ·)
  | (_, none) :: _ => none

/-! ## Queues -/

theorem lookup_filter_ne {β : Type} {name other : String} (h : other ≠ name)
    (entries : List (String × β)) :
    (entries.filter (·.1 != name)).lookup other = entries.lookup other := by
  induction entries with
  | nil => rfl
  | cons e entries ih =>
    obtain ⟨key, payload⟩ := e
    by_cases hkey : key = name
    · have hother : (other == key) = false := by simp [hkey, h]
      rw [List.filter_cons_of_neg (by simp [hkey]), ih, List.lookup_cons, hother]
    · rw [List.filter_cons_of_pos (by simp [hkey]), List.lookup_cons, List.lookup_cons, ih]

theorem queue_setQueue (b : Board) (name other : String) (q : List Json) :
    (b.setQueue name q).queue other = if other = name then q else b.queue other := by
  unfold queue setQueue
  by_cases h : other = name
  · subst h
    simp
  · have hother : (other == name) = false := by simp [h]
    simp only [List.lookup_cons, hother, lookup_filter_ne h, if_neg h]

/-- A delivery puts the payload behind those of its name and touches no other queue. -/
theorem queue_deliver (b : Board) (name other : String) (payload : Json) :
    (b.deliver name payload).queue other =
      if other = name then b.queue name ++ [payload] else b.queue other :=
  queue_setQueue ..

theorem take?_eq_none {b : Board} {name : String} : b.take? name = none ↔ b.queue name = [] := by
  unfold take?
  cases b.queue name <;> simp

/-- What is taken is the oldest payload of its name, and no other queue is touched. -/
theorem queue_of_take? {b b' : Board} {name : String} {payload : Json}
    (h : b.take? name = some (payload, b')) (other : String) :
    b.queue other = if other = name then payload :: b'.queue name else b'.queue other := by
  unfold take? at h
  cases hq : b.queue name with
  | nil => simp [hq] at h
  | cons p ps =>
    simp only [hq, Option.some.injEq, Prod.mk.injEq] at h
    obtain ⟨rfl, rfl⟩ := h
    by_cases ho : other = name
    · subst ho
      simp [queue_setQueue, hq]
    · simp [queue_setQueue, ho]

end Board

end TaskGraph

import TaskGraph.Proofs.Graphs.Counting
import TaskGraph.Proofs.Graphs.Execution
import TaskGraph.Proofs.Json.Places

/-!
# What a loop does

A loop evaluates its source and goes over the elements that the value stands for, in order
(`Iteration.Lists`). It visits a prefix of them: to visit an element is to see that the condition is true
and to run the body once, both in the scope of the element, which is that of the loop with two names set
(`Iteration.Visit.Happens`). It ends behind the last element, or at the first one whose condition is not
true, or whose condition or body fails (`Iteration.Ends`).

`Iteration.goes_over_prefix` says that the executions of a loop are exactly these. No visit sees what
another one wrote, and the scope of the loop is left as it was.
-/

set_option autoImplicit false

namespace TaskGraph

namespace Iteration

/-! ## What is gone over -/

/-- The keys and the items of the elements that a value stands for, in order, and what is made of the
outputs for the first of them. A number of more than 64 bits stands for as many elements as the largest
one of 64 bits. -/
inductive Lists : Json → List (Json × Json) → (List Json → Json) → Prop where
  | members (m : Members) : Lists (.obj m) (m.map fun entry => (.str entry.1, entry.2))
      fun outputs => .obj ((m.map Prod.fst).zip outputs)
  | items (xs : List Json) : Lists (.arr xs) (xs.zipIdx.map fun x => (.nat x.2, x.1)) .arr
  | numbers {k : Number} {n : ℕ} (whole : k.value? = some (n : ℚ)) (fits : n < Nat.pow 2 64) :
      Lists (.num k) ((List.range n).map fun i => (.nat i, .nat i)) .arr
  | beyond {k : Number} {n : ℕ} (whole : k.value? = some (n : ℚ)) (large : Nat.pow 2 64 ≤ n) :
      Lists (.num k) ((List.range most).map fun i => (.nat i, .nat i)) .arr

/-- The values that stand for no elements, and what they are called. -/
inductive Listless : Json → String → Prop where
  | null : Listless .null "null"
  | truth (b : Bool) : Listless (.bool b) "boolean"
  | text (s : String) : Listless (.str s) "string"
  | number {k : Number} (broken : ∀ n : ℕ, k.value? ≠ some (n : ℚ)) :
      Listless (.num k) ("number " ++ k.render)

/-- A value stands for elements or for none. -/
theorem lists_or_listless (v : Json) :
    (∃ elements collect, Lists v elements collect) ∨ ∃ found, Listless v found := by
  cases v with
  | null => exact .inr ⟨_, .null⟩
  | bool b => exact .inr ⟨_, .truth b⟩
  | str s => exact .inr ⟨_, .text s⟩
  | arr xs => exact .inl ⟨_, _, .items xs⟩
  | obj m => exact .inl ⟨_, _, .members m⟩
  | num k =>
    by_cases hwhole : ∃ n : ℕ, k.value? = some (n : ℚ)
    · obtain ⟨n, hn⟩ := hwhole
      rcases Nat.lt_or_ge n (Nat.pow 2 64) with hfits | hlarge
      · exact .inl ⟨_, _, .numbers hn hfits⟩
      · exact .inl ⟨_, _, .beyond hn hlarge⟩
    · exact .inr ⟨_, .number fun n hn => hwhole ⟨n, hn⟩⟩

theorem elements_of_value (task : String) {k : Number} {n : ℕ} (h : k.value? = some (n : ℚ)) :
    elements task (.num k) = .ok (.items ((List.range (min n most)).map Json.nat)) := by
  simp only [elements, count?_of_value h]

theorem elements_of_listless (task : String) {v : Json} {found : String} (h : Listless v found) :
    elements task v = .error (.notIterable task found) := by
  cases h with
  | null | truth | text => rfl
  | @number k broken =>
    simp only [elements, count?_eq_none broken]

/-! ## One element -/

variable {e : Setting} {c : Context} {b : LoopBody} {s : Scope}

/-- Whether a condition is asked for with these requests in a scope and answered so: no condition holds
without a request, and any other one exactly if it evaluates to the boolean true. -/
inductive Asks (b : LoopBody) (s : Scope) : List Exchange → Except Fault Bool → Prop where
  | always (none : b.condition = none) : Asks b s [] (.ok true)
  | evaluates {text : String} (some : b.condition = some text) (v : Except Fault Json) :
      Asks b s [⟨.evaluate text s [], v⟩] (v.map fun w => decide (w = .bool true))

/-- An element that a loop has visited: its key and item, what was asked for its condition, what its body
did, and the output of that. -/
structure Visit where
  key : Json
  item : Json
  asked : List Exchange
  ran : List Exchange
  output : Json

namespace Visit

def element (v : Visit) : Json × Json := (v.key, v.item)

def log (v : Visit) : List Exchange := v.asked ++ v.ran

/-- Whether the condition of an element is true and its body runs to its output. -/
structure Happens (e : Setting) (c : Context) (b : LoopBody) (s : Scope) (v : Visit) : Prop where
  holds : Asks b (elementScope b s v.key v.item) v.asked (.ok true)
  runs : (Restart.runGraph e.program c b.graph s.input (elementScope b s v.key v.item)).Executes e
    v.ran (.ok v.output)

end Visit

/-- How a loop ends in front of the elements that are left, with what it still does: there are none, the
condition of the first one is not true, or its condition or its body fails. -/
inductive Ends (e : Setting) (c : Context) (b : LoopBody) (s : Scope) :
    List (Json × Json) → List Exchange → Except Fault Unit → Prop where
  | behind : Ends e c b s [] [] (.ok ())
  | stops {key item : Json} {rest : List (Json × Json)} {asked : List Exchange}
      (holds : Asks b (elementScope b s key item) asked (.ok false)) :
      Ends e c b s ((key, item) :: rest) asked (.ok ())
  | unasked {key item : Json} {rest : List (Json × Json)} {asked : List Exchange} {f : Fault}
      (fails : Asks b (elementScope b s key item) asked (.error f)) :
      Ends e c b s ((key, item) :: rest) asked (.error f)
  | fails {key item : Json} {rest : List (Json × Json)} {asked ran : List Exchange} {f : Fault}
      (holds : Asks b (elementScope b s key item) asked (.ok true))
      (runs : (Restart.runGraph e.program c b.graph s.input (elementScope b s key item)).Executes e
        ran (.error f)) :
      Ends e c b s ((key, item) :: rest) (asked ++ ran) (.error f)

theorem executes_goesOn_iff {log : List Exchange} {x : Except Fault Bool} :
    (goesOn b s).Executes e log x ↔ Asks b s log x := by
  unfold goesOn
  cases hcondition : b.condition with
  | none =>
    refine Running.executes_pure_iff.trans ?_
    constructor
    · rintro ⟨rfl, rfl⟩
      exact .always hcondition
    · intro h
      cases h with
      | always => exact ⟨rfl, rfl⟩
      | evaluates some => rw [hcondition] at some; cases some
  | some text =>
    refine Running.executes_map_iff.trans ?_
    constructor
    · rintro ⟨v, hv, rfl⟩
      obtain rfl := (Dialogue.executes_request_iff rfl).1 hv
      exact .evaluates hcondition v
    · intro h
      cases h with
      | always none => rw [hcondition] at none; cases none
      | evaluates some v =>
        obtain rfl := Option.some.inj (hcondition.symm.trans some)
        exact ⟨v, (Dialogue.executes_request_iff rfl).2 rfl, rfl⟩

/-- An element is visited, or the loop ends at it. -/
theorem executes_element_iff {key item : Json} {log : List Exchange}
    {x : Except Fault (Option Json)} :
    (element e.program c b s key item).Executes e log x ↔
      (∃ v : Visit, v.element = (key, item) ∧ v.Happens e c b s ∧ log = v.log ∧
        x = .ok (some v.output)) ∨
      ∃ ending, Ends e c b s [(key, item)] log ending ∧ x = ending.map fun _ => none := by
  unfold element
  rw [Running.executes_bind_iff]
  constructor
  · rintro ⟨asked, ran, holds, rfl, hasked, hran⟩
    rw [executes_goesOn_iff] at hasked
    -- the condition may fail or not hold, which is the end of the loop; only then is the body run
    cases holds with
    | error f =>
      obtain ⟨rfl, rfl⟩ := hran
      rw [List.append_nil]
      exact .inr ⟨.error f, .unasked hasked, rfl⟩
    | ok holds =>
      cases holds with
      | false =>
        obtain ⟨rfl, rfl⟩ := Running.executes_pure_iff.1 hran
        rw [List.append_nil]
        exact .inr ⟨.ok (), .stops hasked, rfl⟩
      | true =>
        obtain ⟨y, hy, rfl⟩ := Running.executes_map_iff.1 hran
        cases y with
        | ok output => exact .inl ⟨⟨key, item, asked, ran, output⟩, rfl, ⟨hasked, hy⟩, rfl, rfl⟩
        | error f => exact .inr ⟨.error f, .fails hasked hy, rfl⟩
  · rintro (⟨⟨key', item', asked, ran, output⟩, helement, ⟨hasked, hran⟩, rfl, rfl⟩ |
      ⟨ending, hends, rfl⟩)
    · cases helement
      exact ⟨asked, ran, .ok true, rfl, executes_goesOn_iff.2 hasked,
        Running.executes_map_iff.2 ⟨.ok output, hran, rfl⟩⟩
    · cases hends with
      | stops holds =>
        exact ⟨log, [], .ok false, (List.append_nil log).symm, executes_goesOn_iff.2 holds,
          Running.executes_pure_iff.2 ⟨rfl, rfl⟩⟩
      | unasked fails =>
        exact ⟨log, [], .error _, (List.append_nil log).symm, executes_goesOn_iff.2 fails, rfl, rfl⟩
      | fails holds runs =>
        exact ⟨_, _, .ok true, rfl, executes_goesOn_iff.2 holds,
          Running.executes_map_iff.2 ⟨.error _, runs, rfl⟩⟩

/-! ## All elements -/

/-- What a loop does with elements: it visits the first of them and ends in front of the rest. -/
def Goes (e : Setting) (c : Context) (b : LoopBody) (s : Scope) (elements : List (Json × Json))
    (log : List Exchange) (x : Except Fault (List Json)) : Prop :=
  ∃ (visits : List Visit) (rest : List (Json × Json)) (last : List Exchange)
    (ending : Except Fault Unit),
    elements = visits.map Visit.element ++ rest ∧ (∀ v ∈ visits, v.Happens e c b s) ∧
      Ends e c b s rest last ending ∧ log = visits.flatMap Visit.log ++ last ∧
      x = ending.map fun _ => visits.map Visit.output

theorem goes_nil_iff {log : List Exchange} {x : Except Fault (List Json)} :
    Goes e c b s [] log x ↔ log = [] ∧ x = .ok [] := by
  constructor
  · rintro ⟨visits, rest, last, ending, hsplit, -, hends, rfl, rfl⟩
    obtain ⟨hvisits, rfl⟩ := List.append_eq_nil_iff.1 hsplit.symm
    obtain rfl := List.map_eq_nil_iff.1 hvisits
    cases hends
    exact ⟨rfl, rfl⟩
  · rintro ⟨rfl, rfl⟩
    exact ⟨[], [], [], .ok (), rfl, nofun, .behind, rfl, rfl⟩

/-- The first element is visited, and then the rest, or the loop ends at it. -/
theorem goes_cons_iff {key item : Json} {elements : List (Json × Json)} {log : List Exchange}
    {x : Except Fault (List Json)} :
    Goes e c b s ((key, item) :: elements) log x ↔
      (∃ (v : Visit) (after : List Exchange) (y : Except Fault (List Json)),
        v.element = (key, item) ∧ v.Happens e c b s ∧ log = v.log ++ after ∧
          Goes e c b s elements after y ∧ x = y.map fun outputs => v.output :: outputs) ∨
      ∃ ending, Ends e c b s ((key, item) :: elements) log ending ∧ x = ending.map fun _ => [] := by
  constructor
  · rintro ⟨visits, rest, last, ending, hsplit, hhappen, hends, rfl, rfl⟩
    -- whether the first element is visited decides if the loop ends at it
    cases visits with
    | nil =>
      obtain rfl := hsplit
      exact .inr ⟨ending, hends, rfl⟩
    | cons v visits =>
      obtain ⟨hv, rfl⟩ := List.cons.inj hsplit
      refine .inl ⟨v, visits.flatMap Visit.log ++ last, ending.map fun _ => visits.map Visit.output,
        hv.symm, hhappen v (List.mem_cons_self ..), ?_, ?_, ?_⟩
      · exact List.append_assoc ..
      · exact ⟨visits, rest, last, ending, rfl,
          fun w hw => hhappen w (List.mem_cons_of_mem _ hw), hends, rfl, rfl⟩
      · cases ending <;> rfl
  · rintro (⟨v, after, y, hv, hhappens, rfl, ⟨visits, rest, last, ending, rfl, hhappen, hends, rfl, rfl⟩, rfl⟩ |
      ⟨ending, hends, rfl⟩)
    · refine ⟨v :: visits, rest, last, ending, ?_, ?_, hends, ?_, ?_⟩
      · rw [← hv]
        rfl
      · intro w hw
        rcases List.mem_cons.1 hw with rfl | hw
        · exact hhappens
        · exact hhappen w hw
      · exact (List.append_assoc ..).symm
      · cases ending <;> rfl
    · exact ⟨[], _, log, ending, rfl, nofun, hends, rfl, rfl⟩

/-- A loop ends at an element whatever comes behind that. -/
theorem Ends.behind_iff {key item : Json} {rest rest' : List (Json × Json)} {log : List Exchange}
    {ending : Except Fault Unit} (h : Ends e c b s ((key, item) :: rest) log ending) :
    Ends e c b s ((key, item) :: rest') log ending := by
  cases h with
  | stops holds => exact .stops holds
  | unasked fails => exact .unasked fails
  | fails holds runs => exact .fails holds runs

/-- What the first element comes to is followed by the rest of a list of elements. -/
theorem executes_over_iff {α : Type} {key item : Json} (elements : List (Json × Json))
    (shape : List Json → α) {next : Json → Running α} {done : α} {log : List Exchange}
    {x : Except Fault α} (hshape : shape [] = done)
    (hnext : ∀ v after (y : Except Fault α), (next v).Executes e after y ↔
      ∃ z, Goes e c b s elements after z ∧ y = z.map fun outputs => shape (v :: outputs)) :
    (do
      match ← element e.program c b s key item with
      | none => pure done
      | some v => next v : Running α).Executes e log x ↔
      ∃ z, Goes e c b s ((key, item) :: elements) log z ∧ x = z.map shape := by
  rw [Running.executes_bind_iff]
  constructor
  · rintro ⟨before, after, y, rfl, hbefore, hafter⟩
    rcases executes_element_iff.1 hbefore with ⟨v, hv, hhappens, rfl, rfl⟩ | ⟨ending, hends, rfl⟩
    · obtain ⟨z, hz, rfl⟩ := (hnext v.output after x).1 hafter
      refine ⟨_, goes_cons_iff.2 (.inl ⟨v, after, z, hv, hhappens, rfl, hz, rfl⟩), ?_⟩
      cases z <;> rfl
    -- behind the end of the loop nothing is done any more
    · have hlog : after = [] ∧ x = ending.map fun _ => done := by
        cases ending with
        | ok _ => exact Running.executes_pure_iff.1 hafter
        | error f => exact hafter
      obtain ⟨rfl, rfl⟩ := hlog
      rw [List.append_nil]
      refine ⟨_, goes_cons_iff.2 (.inr ⟨ending, hends.behind_iff, rfl⟩), ?_⟩
      cases ending with
      | ok _ => exact congrArg _ hshape.symm
      | error f => rfl
  · rintro ⟨z, hz, rfl⟩
    rcases goes_cons_iff.1 hz with ⟨v, after, y, hv, hhappens, rfl, hy, rfl⟩ | ⟨ending, hends, rfl⟩
    · refine ⟨v.log, after, .ok (some v.output), rfl,
        executes_element_iff.2 (.inl ⟨v, hv, hhappens, rfl, rfl⟩), (hnext v.output after _).2 ⟨y, hy, ?_⟩⟩
      cases y <;> rfl
    · refine ⟨log, [], ending.map fun _ => none, (List.append_nil log).symm,
        executes_element_iff.2 (.inr ⟨ending, hends.behind_iff, rfl⟩), ?_⟩
      cases ending with
      | ok _ => exact Running.executes_pure_iff.2 ⟨rfl, congrArg _ hshape⟩
      | error f => exact ⟨rfl, rfl⟩

theorem executes_items_iff (xs : List Json) {index : Nat} {log : List Exchange}
    {x : Except Fault (List Json)} :
    (items e.program c b s index xs).Executes e log x ↔
      Goes e c b s ((xs.zipIdx index).map fun x => (.nat x.2, x.1)) log x := by
  induction xs generalizing index log x with
  | nil => exact Running.executes_pure_iff.trans goes_nil_iff.symm
  | cons item xs ih =>
    refine (executes_over_iff ((xs.zipIdx (index + 1)).map fun x => (.nat x.2, x.1)) id rfl
      fun v after y => ?_).trans ?_
    · refine Running.executes_map_iff.trans ?_
      exact exists_congr fun z => and_congr_left fun _ => ih
    · constructor
      · rintro ⟨z, hz, rfl⟩
        cases z <;> exact hz
      · intro h
        refine ⟨x, h, ?_⟩
        cases x <;> rfl

theorem executes_entries_iff (m : Members) {log : List Exchange}
    {x : Except Fault (List (String × Json))} :
    (entries e.program c b s m).Executes e log x ↔
      ∃ z, Goes e c b s (m.map fun entry => (.str entry.1, entry.2)) log z ∧
        x = z.map fun outputs => (m.map Prod.fst).zip outputs := by
  induction m generalizing log x with
  | nil =>
    refine Running.executes_pure_iff.trans ?_
    constructor
    · rintro ⟨rfl, rfl⟩
      exact ⟨.ok [], goes_nil_iff.2 ⟨rfl, rfl⟩, rfl⟩
    · rintro ⟨z, hz, rfl⟩
      obtain ⟨rfl, rfl⟩ := goes_nil_iff.1 hz
      exact ⟨rfl, rfl⟩
  | cons entry m ih =>
    obtain ⟨key, item⟩ := entry
    refine executes_over_iff _ (fun outputs => (key :: m.map Prod.fst).zip outputs) rfl
      fun v after y => ?_
    refine Running.executes_map_iff.trans ?_
    constructor
    · rintro ⟨w, hw, rfl⟩
      obtain ⟨z, hz, rfl⟩ := ih.1 hw
      refine ⟨z, hz, ?_⟩
      cases z <;> rfl
    · rintro ⟨z, hz, rfl⟩
      refine ⟨_, ih.2 ⟨z, hz, rfl⟩, ?_⟩
      cases z <;> rfl

/-- The item of an element of a number is its index. -/
theorem executes_numbers_iff {v : Json} {count n : ℕ}
    (h : elements b.task v = .ok (.items ((List.range count).map Json.nat))) (hn : count = n)
    {log : List Exchange} {x : Except Fault Json} :
    (do
      let es ← Running.ofExcept (elements b.task v)
      overElements e.program c b s es : Running Json).Executes e log x ↔
      ∃ z, Goes e c b s ((List.range n).map fun i => (.nat i, .nat i)) log z ∧ x = z.map .arr := by
  have hzip : ((List.range n).map Json.nat).zipIdx.map (fun x => (Json.nat x.2, x.1)) =
      (List.range n).map fun i => (Json.nat i, Json.nat i) := by
    refine List.ext_getElem (by simp) fun i _ _ => ?_
    simp
  rw [h, hn, ← hzip]
  refine Running.executes_map_iff.trans ?_
  exact exists_congr fun z => and_congr_left fun _ => executes_items_iff _

/-- Elements are gone over in order, whichever kind of value they are from. -/
theorem executes_overElements_iff {v : Json} {elements : List (Json × Json)}
    {collect : List Json → Json} (h : Lists v elements collect) {log : List Exchange}
    {x : Except Fault Json} :
    (do
      let es ← Running.ofExcept (Iteration.elements b.task v)
      overElements e.program c b s es : Running Json).Executes e log x ↔
      ∃ z, Goes e c b s elements log z ∧ x = z.map collect := by
  cases h with
  | members m =>
    refine Running.executes_map_iff.trans ?_
    constructor
    · rintro ⟨w, hw, rfl⟩
      obtain ⟨z, hz, rfl⟩ := (executes_entries_iff m).1 hw
      refine ⟨z, hz, ?_⟩
      cases z <;> rfl
    · rintro ⟨z, hz, rfl⟩
      refine ⟨_, (executes_entries_iff m).2 ⟨z, hz, rfl⟩, ?_⟩
      cases z <;> rfl
  | items xs =>
    refine Running.executes_map_iff.trans ?_
    exact exists_congr fun z => and_congr_left fun _ => executes_items_iff xs
  -- a number counts as many elements as fit, so its index is cut off at the most that there may be
  | numbers whole fits =>
    have hmin := Nat.min_eq_left (b := most) (Nat.le_pred_of_lt fits)
    exact executes_numbers_iff (elements_of_value b.task whole) hmin
  | beyond whole large =>
    have hmin := Nat.min_eq_right (b := most) (Nat.le_trans (Nat.sub_le ..) large)
    exact executes_numbers_iff (elements_of_value b.task whole) hmin

/-! ## Loops -/

/-- What a loop does once its source is evaluated: it fails with what that failed with, or because the
value stands for no elements, or it goes over the elements and collects the outputs. -/
inductive Carries (e : Setting) (c : Context) (b : LoopBody) (s : Scope) :
    Except Fault Json → List Exchange → Except Fault Json → Prop where
  | unread (f : Fault) : Carries e c b s (.error f) [] (.error f)
  | refused {v : Json} {found : String} (listless : Listless v found) :
      Carries e c b s (.ok v) [] (.error (.notIterable b.task found))
  | goes {v : Json} {elements : List (Json × Json)} {collect : List Json → Json}
      {log : List Exchange} {x : Except Fault (List Json)} (lists : Lists v elements collect)
      (goes : Goes e c b s elements log x) : Carries e c b s (.ok v) log (x.map collect)

theorem executes_run_iff {source : Json} {log : List Exchange} {x : Except Fault Json} :
    (run e.program c b source s).Executes e log x ↔
      ∃ v after, log = ⟨.traverse source s [], v⟩ :: after ∧ Carries e c b s v after x := by
  unfold run
  rw [Running.executes_bind_iff]
  constructor
  · rintro ⟨before, after, v, rfl, hbefore, hafter⟩
    obtain rfl := (Dialogue.executes_request_iff rfl).1 hbefore
    refine ⟨v, after, rfl, ?_⟩
    cases v with
    | error f =>
      obtain ⟨rfl, rfl⟩ := hafter
      exact .unread f
    | ok v =>
      rcases lists_or_listless v with ⟨elements, collect, hlists⟩ | ⟨found, hlistless⟩
      · obtain ⟨z, hz, rfl⟩ := (executes_overElements_iff hlists).1 hafter
        exact .goes hlists hz
      -- a value without elements is refused where its elements are looked for
      · have hfails : (Running.ofExcept (.error (.notIterable b.task found)) >>=
            overElements e.program c b s).Executes e after x := by
          rw [← elements_of_listless b.task hlistless]
          exact hafter
        obtain ⟨rfl, rfl⟩ := Dialogue.executes_done_iff.1 hfails
        exact .refused hlistless
  · rintro ⟨v, after, rfl, hcarries⟩
    refine ⟨[_], after, v, rfl, (Dialogue.executes_request_iff rfl).2 rfl, ?_⟩
    cases hcarries with
    | unread f => exact ⟨rfl, rfl⟩
    | refused listless =>
      show (Running.ofExcept (elements b.task _) >>= overElements e.program c b s).Executes e [] _
      rw [elements_of_listless b.task listless]
      exact .done _
    | goes lists goes => exact (executes_overElements_iff lists).2 ⟨_, goes, rfl⟩

/-- The executions of a loop evaluate its source, visit the elements up to the first one whose condition is
not true, each in a scope of its own, and collect the outputs; a value that stands for no elements, or what
a condition or a body fails with, is the end of the loop. The scope of the loop is left as it was, and that
of an element is entered from it with the index and then the item set. -/
theorem goes_over_prefix (e : Setting) (c : Context) (name : String) (base : TaskBase) (input : Json)
    (spec : LoopSpec) (condition : Option String) (body : String) (s : Scope) :
    (∀ log x, (Sequence.step e c name base input (.loop spec condition body) s).Executes e log x ↔
      ∃ v after y, log = ⟨.traverse spec.source s [], v⟩ :: after ∧
        Carries e c ⟨name, spec.indexName, spec.itemName, condition, body⟩ s v after y ∧
        x = y.map fun w => (some w, s)) ∧
    (∀ key item, s.Opens
      (elementScope ⟨name, spec.indexName, spec.itemName, condition, body⟩ s key item)
      fun n => if n = spec.itemName then some item else if n = spec.indexName then some key
        else s.data.get? n) ∧
    ∀ entries elements collect, Lists (Json.object entries) elements collect →
      elements.Pairwise fun a b => ∃ k l : String, a.1 = .str k ∧ b.1 = .str l ∧ k < l := by
  refine ⟨?_, ?_, ?_⟩
  · intro log x
    rw [Sequence.step.eq_def]
    refine Running.executes_map_iff.trans ?_
    constructor
    · rintro ⟨y, hy, rfl⟩
      obtain ⟨v, after, rfl, hcarries⟩ := executes_run_iff.1 hy
      exact ⟨v, after, y, rfl, hcarries, rfl⟩
    · rintro ⟨v, after, y, rfl, hcarries, rfl⟩
      exact ⟨y, executes_run_iff.2 ⟨v, after, rfl, hcarries⟩, rfl⟩
  · intro key item
    exact (s.opens_child.setData spec.indexName key).setData spec.itemName item
  · intro entries elements collect h
    cases h
    refine List.pairwise_map.2 ?_
    exact (Members.inOrder_ofList entries).imp fun {a b} hlt => ⟨a.1, b.1, rfl, rfl, hlt⟩

end Iteration

end TaskGraph

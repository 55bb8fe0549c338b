import TaskGraph.Proofs.Congruence

/-!
# The paths of a run

`Path` describes all that a run of a graph may do with its children, as the marks that it leaves and
the way in which it ends, on hosts where nothing but the run itself asks for a restart. A run is
before a child that it may be left at, at a child that it goes through, or on its way to a marker:
these are its stages. `Sequence.ensures_path` says that the marks of a walk are a path, so that what
holds of paths, by induction, holds of runs.
-/

set_option autoImplicit false

namespace TaskGraph

open Running (Any)

/-! ## Paths -/

/-- Where a run of a list is. -/
inductive Stage where
  /-- Before a child that the run may be left at, on the way to a target if one is pending. -/
  | arriving (pending : Option String)
  /-- At a child that the run is not left at any more. -/
  | entering (pending : Option String)
  /-- On the way to a marker. -/
  | resuming (marker : String)

/-- Where a run starts. -/
def Stage.start (s : Scope) : Stage :=
  match s.marker with
  | none => .entering none
  | some m => .resuming m

/-- The marks that a run of a graph may leave from a stage on, given the children that are left with
the ordinal of the first one, and the way in which it may end. -/
inductive Path (entry : String) :
    Stage → Nat → Children → List Mark → Except Fault Scope → Prop where
  | ends {stage : Stage} {i : Nat} {children : Children} {x : Except Fault Scope}
      (leaves : Fault.Leaves x) : Path entry stage i children [] x
  | leaves {pending : Option String} {i : Nat} {child : Child Step} {rest : Children} {input : Json}
      {s : Scope} (marker : s.marker = some child.id) :
      Path entry (.arriving pending) i (child :: rest) [.left i]
        (.error (.continueAsNew entry input s))
  /-- The run is to be left, but what it has detached cannot be waited for. -/
  | stays {pending : Option String} {i : Nat} {child : Child Step} {rest : Children}
      {x : Except Fault Scope} (leaves : Fault.Leaves x) :
      Path entry (.arriving pending) i (child :: rest) [.left i] x
  | enters {pending : Option String} {i : Nat} {child : Child Step} {rest : Children}
      {ms : List Mark} {x : Except Fault Scope}
      (next : Path entry (.entering pending) i (child :: rest) ms x) :
      Path entry (.arriving pending) i (child :: rest) ms x
  | passes {target : String} {i : Nat} {child : Child Step} {rest : Children}
      {ms : List Mark} {x : Except Fault Scope} (other : child.name ≠ target)
      (next : Path entry (.arriving (some target)) (i + 1) rest ms x) :
      Path entry (.entering (some target)) i (child :: rest) ms x
  /-- The guard of a child is evaluated and does not hold, or fails. -/
  | refuses {pending : Option String} {i : Nat} {child : Child Step} {rest : Children}
      {ms : List Mark} {x : Except Fault Scope}
      (named : ∀ target, pending = some target → child.name = target)
      (next : Path entry (.arriving none) (i + 1) rest ms x) :
      Path entry (.entering pending) i (child :: rest) (.visited i :: ms) x
  | executes {pending : Option String} {i : Nat} {child : Child Step} {rest : Children}
      {ms : List Mark} {x : Except Fault Scope}
      (named : ∀ target, pending = some target → child.name = target)
      (next : Path entry (.arriving (Sequence.pendingTarget child.base.next)) (i + 1) rest ms x) :
      Path entry (.entering pending) i (child :: rest) (.visited i :: .executed i :: ms) x
  | skips {marker : String} {i : Nat} {child : Child Step} {rest : Children}
      {ms : List Mark} {x : Except Fault Scope} (other : child.id ≠ marker)
      (next : Path entry (.resuming marker) (i + 1) rest ms x) :
      Path entry (.resuming marker) i (child :: rest) ms x
  | replays {marker : String} {i : Nat} {child : Child Step} {rest : Children}
      {ms : List Mark} {x : Except Fault Scope} (other : child.id ≠ marker)
      (next : Path entry (.resuming marker) (i + 1) rest ms x) :
      Path entry (.resuming marker) i (child :: rest) (.replayed i :: ms) x
  | resumes {i : Nat} {child : Child Step} {rest : Children} {ms : List Mark}
      {x : Except Fault Scope} (next : Path entry (.entering none) i (child :: rest) ms x) :
      Path entry (.resuming child.id) i (child :: rest) ms x

namespace Path

variable {entry : String} {stage : Stage} {i : Nat} {children : Children} {ms : List Mark}

/-- A run that asks for a new one asks for a run of its own graph. -/
theorem entry_eq {entry' : String} {input : Json} {s : Scope}
    (h : Path entry stage i children ms (.error (.continueAsNew entry' input s))) :
    entry' = entry := by
  generalize hx : (Except.error (.continueAsNew entry' input s) : Except Fault Scope) = x at h
  induction h with
  -- every other end is no request for a restart
  | ends leaves | stays leaves => exact nomatch leaves _ hx.symm
  | leaves =>
    cases hx
    rfl
  | enters _ ih | passes _ _ ih | refuses _ _ ih | executes _ _ ih | skips _ _ ih | replays _ _ ih
  | resumes _ ih => exact ih hx

end Path

namespace Sequence

variable {e : Setting} {c : Context} {entry : String} {input : Json}

/-- What a walk does with a child that it goes through is on a path, if the rest of it is. -/
theorem ensures_meet (child : Child Step) (rest : Children) (i : Nat) {s : Scope}
    {pending : Option String} (hs : s.marker = none)
    (named : ∀ target, pending = some target → child.name = target)
    {go : Option String → Scope → Tracing Mark Scope}
    (hgo : ∀ pending (s' : Scope), s'.marker = none → (go pending s').Ensures Request.Honest
      fun x => Path entry (.arriving pending) (i + 1) rest x.1 x.2) :
    (meet e c marker quietly .run i (embody e c input child) s go).Ensures Request.Honest
      fun x => Path entry (.entering pending) i (child :: rest) x.1 x.2 := by
  have henact := Congruence.upholds_enact (E := fun f => f.asksRestart = false) (fun _ h => h) e c
    child.name child.base (Congruence.upholds_step (fun _ h => h) e c child.name child.base input
      child.action s)
  -- the guard, the body, and what follows; a fault of either ends the path where it occurs
  rw [meet_marker]
  refine Tracing.ensures_mark (Tracing.ensures_after (E := fun f => f.asksRestart = false)
    (P := Any) (fun _ h => h) (fun holds _ => ?_) fun f hf => ?_)
  · cases holds with
    | false => exact (hgo none s hs).mono fun x hx => .refuses named hx
    | true =>
      refine Tracing.ensures_mark (Tracing.ensures_after henact (fun t ht => ?_) fun f hf => ?_)
      · cases t with
        | stop s' => exact .executes named (.ends (Fault.leaves_ok s'))
        | next pending' s' =>
          obtain ⟨rfl, hs'⟩ := ht
          exact (hgo _ s' (hs'.trans hs)).mono fun x hx => .executes named hx
      · exact .executes named (.ends (Fault.leaves_error hf))
  · exact .refuses named (.ends (Fault.leaves_error hf))

/-- What a walk does with a child that it replays is on a path, if the rest of it is. -/
theorem ensures_meet_replay (child : Child Step) (rest : Children) (i : Nat) {s : Scope}
    {m : String} (hs : s.marker = some m) (other : child.id ≠ m)
    {go : Option String → Scope → Tracing Mark Scope}
    (hgo : ∀ s' : Scope, s'.marker = some m → (go none s').Ensures Request.Honest
      fun x => Path entry (.resuming m) (i + 1) rest x.1 x.2) :
    (meet e c marker quietly .replay i (embody e c input child) s go).Ensures Request.Honest
      fun x => Path entry (.resuming m) i (child :: rest) x.1 x.2 := by
  -- a replayed child keeps the marker, so the walk is still on its way
  have hrerun := Congruence.upholds_rerun (E := fun f => f.asksRestart = false) (fun _ h => h) e c
    (Congruence.upholds_step (fun _ h => h) e c child.name child.base input child.action s)
  rw [meet_marker]
  refine Tracing.ensures_mark (Tracing.ensures_after (E := fun f => f.asksRestart = false)
    (P := Any) (fun _ h => h) (fun holds _ => ?_) fun f hf => ?_)
  · cases holds with
    | false => exact (hgo s hs).mono fun x hx => .replays other hx
    | true =>
      refine Tracing.ensures_after hrerun (fun t ht => ?_) fun f hf => ?_
      · cases t with
        | stop s' => exact .replays other (.ends (Fault.leaves_ok s'))
        | next pending' s' =>
          obtain ⟨rfl, hs'⟩ := ht
          exact (hgo s' (hs'.trans hs)).mono fun x hx => .replays other hx
      · exact .replays other (.ends (Fault.leaves_error hf))
  · exact .replays other (.ends (Fault.leaves_error hf))

/-- The stage in which a walk without a marker is before its first child. -/
def stage (first : Bool) (pending : Option String) : Stage :=
  if first then .entering pending else .arriving pending

theorem ensures_nil (first : Bool) (pending : Option String) (i : Nat) (s : Scope) (stage : Stage) :
    (walk e c (some entry) input first pending i [] s).Ensures Request.Honest
      fun x => Path entry stage i [] x.1 x.2 := by
  cases pending with
  | none => exact .ends (Fault.leaves_ok s)
  | some target => exact .ends (Fault.leaves_error rfl)

/-- A run that is left at a child asks for a new one at that child, or ends in another fault. -/
theorem ensures_suspend (child : Child Step) (rest : Children) (i : Nat) (s : Scope)
    {pending : Option String} :
    (Tracing.of (Restart.suspend c entry child.id input s)).Ensures Request.Honest
      fun x => Path entry (.arriving pending) i (child :: rest) (.left i :: x.1) x.2 := by
  intro x _
  cases x with
  | ok => exact .leaves rfl
  | error f => exact .stays (Fault.leaves_error rfl)

section

variable (e c entry input)

/-- Once the run is not left before a child, the child is passed over or gone through. -/
theorem ensures_entering (child : Child Step) (rest : Children) (i : Nat) {s : Scope}
    (hs : s.marker = none) (pending : Option String)
    {go : Option String → Scope → Tracing Mark Scope}
    (hgo : ∀ pending (s' : Scope), s'.marker = none → (go pending s').Ensures Request.Honest
      fun x => Path entry (.arriving pending) (i + 1) rest x.1 x.2) :
    Dialogue.Ensures Request.Honest
      (fun x => Path entry (.entering pending) i (child :: rest) x.1 x.2)
      (if Passes .run pending child.name then go pending s
      else meet e c marker quietly .run i (embody e c input child) s go) := by
  cases pending with
  | none =>
    have named : ∀ target, none = some target → child.name = target := fun _ h => nomatch h
    rw [if_neg (by simp [Passes])]
    exact ensures_meet child rest i hs named hgo
  | some target =>
    by_cases hname : child.name = target
    · rw [if_neg (by simp [Passes, hname])]
      refine ensures_meet child rest i hs (fun _ h => ?_) hgo
      cases h
      exact hname
    · rw [if_pos (by simpa [Passes] using Ne.symm hname)]
      exact (hgo (some target) s hs).mono fun x hx => .passes hname hx

/-- The marks of a walk without a marker are a path. -/
theorem ensures_going (children : Children) (first : Bool) (pending : Option String) (i : Nat)
    {s : Scope} (hs : s.marker = none) :
    (walk e c (some entry) input first pending i (children.map (embody e c input)) s).Ensures
      Request.Honest fun x => Path entry (stage first pending) i children x.1 x.2 := by
  induction children generalizing first pending i s with
  | nil => exact ensures_nil ..
  | cons child rest ih =>
    have hentering := ensures_entering e c entry input child rest i hs pending
      fun pending s' hs' => ih false pending (i + 1) hs'
    rw [List.map_cons, walk_cons e c (some entry) input (resumption_going _ _ _ hs)]
    cases first with
    | true =>
      rw [leaves_first, Tracing.after_pure]
      exact hentering
    | false =>
      rw [leaves_going _ _ _ hs]
      refine Tracing.ensures_after (E := fun _ => False) (P := Any)
        (.ask fun _ _ => trivial) (fun due _ => ?_) fun _ hf => hf.elim
      -- the test comes before the pending target, so a run may be left at a child it would pass
      cases due with
      | false => exact hentering.mono fun x hx => .enters hx
      | true => exact Tracing.ensures_mark (ensures_suspend child rest i s)

/-- The marks of a walk that is on its way to a marker are a path. -/
theorem ensures_resuming (children : Children) (first : Bool) (i : Nat) {s : Scope} {m : String}
    (hs : s.marker = some m) :
    (walk e c (some entry) input first none i (children.map (embody e c input)) s).Ensures
      Request.Honest fun x => Path entry (.resuming m) i children x.1 x.2 := by
  induction children generalizing first i s with
  | nil => exact ensures_nil ..
  | cons child rest ih =>
    rw [List.map_cons]
    by_cases hid : child.id = m
    · -- the marker is taken away, and the run goes through its child
      subst hid
      rw [walk_cons e c (some entry) input (resumption_own _ _ hs), leaves_resuming e c _ _ hs,
        Tracing.after_pure]
      refine (ensures_entering e c entry input child rest i rfl none fun pending s' hs' => ?_).mono
        fun x hx => .resumes hx
      exact ensures_going e c entry input rest false pending (i + 1) hs'
    · have hresumption : Restart.resumption child.id child.replayed true s = _ :=
        resumption_other child.replayed hs (.inr hid)
      -- any other child is replayed or skipped, and the marker stays
      cases hreplayed : child.replayed with
      | true =>
        rw [walk_cons e c (some entry) input (hresumption.trans (by rw [hreplayed])),
          leaves_resuming e c _ _ hs, Tracing.after_pure]
        show (meet e c marker quietly .replay i (embody e c input child) s fun pending s =>
          walk e c (some entry) input false pending (i + 1) (rest.map (embody e c input)) s).Ensures _ _
        exact ensures_meet_replay child rest i hs hid fun s' hs' => ih false (i + 1) hs'
      | false =>
        rw [walk_cons e c (some entry) input (hresumption.trans (by rw [hreplayed])),
          leaves_resuming e c _ _ hs, Tracing.after_pure]
        exact (ih false (i + 1) hs).mono fun x hx => .skips hid hx

end

/-- The marks of a run of a graph are a path from where the run starts. -/
theorem ensures_path (children : Children) (s : Scope) :
    (walk e c (some entry) input true none 0 (children.map (embody e c input)) s).Ensures
      Request.Honest fun x => Path entry (.start s) 0 children x.1 x.2 := by
  unfold Stage.start
  cases hs : s.marker with
  | none => exact ensures_going e c entry input children true none 0 hs
  | some m => exact ensures_resuming e c entry input children true 0 hs

end Sequence

end TaskGraph

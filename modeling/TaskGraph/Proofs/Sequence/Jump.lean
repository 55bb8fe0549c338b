import TaskGraph.Proofs.Congruence
import TaskGraph.Proofs.World

/-!
# A list with flow directives is a program with jumps

A list never jumps. It goes over its children one by one, with one pending target, and passes over
every child of another name. `Sequence.jump` is the reading that a flow directive suggests: a
position, and after each child the next position, which is the one behind it or that of a later
child of the target's name. The main statement is that both visit the same children in the same
scopes and end alike, when no restart is due, nothing is cancelled, no marker is set, and the bodies
of the children set none. A body that sets a marker makes its list pass over children that jumping
visits (`Sequence.marking_breaks_agreement`).

`Dialogue.calm` is a dialogue on a host that is in that state: it has no restart due and nothing
cancelled, whatever else it answers.
-/

set_option autoImplicit false

namespace TaskGraph

open Running (Result Any)

/-! ## Hosts where nothing is due and nothing is cancelled -/

namespace Dialogue

variable {α β : Type}

/-- Answers that no restart is due and that nothing is cancelled, and leaves other requests to the
host. -/
def calm : Dialogue α → Dialogue α
  | done a => done a
  | ask (.due _ _) k => (k false).calm
  | ask (.cancelled _) k => (k false).calm
  | ask q k => ask q fun x => (k x).calm

theorem calm_bind (d : Dialogue α) (f : α → Dialogue β) :
    (d.bind f).calm = d.calm.bind fun a => (f a).calm := by
  induction d with
  | done a => rfl
  | ask q k ih => cases q <;> simp only [bind, calm, ih]

/-- Computations that go on alike after every value that a dialogue may end with are alike. -/
theorem calm_bind_congr {P : α → Prop} {d : Dialogue α} (h : d.Ensures (fun _ _ => True) P)
    {f g : α → Dialogue β} (hfg : ∀ a, P a → (f a).calm = (g a).calm) :
    (d.bind f).calm = (d.bind g).calm := by
  induction d with
  | done a => exact hfg a h
  | ask q k ih =>
    have hk : ∀ x, ((k x).bind f).calm = ((k x).bind g).calm := fun x => ih x (h x trivial)
    cases q <;> simp only [bind, calm, hk]

end Dialogue

namespace Scoped

variable {μ α β : Type}

theorem calm_marks (ms : List μ) (t : Scoped μ α) : (marks ms t).calm = marks ms t.calm :=
  Dialogue.calm_bind t _

theorem calm_after_congr (s : Scope) {γ : Type} {P : γ → Prop} {r : Running γ}
    (h : r.Upholds (fun _ _ => True) Any P) {k k' : γ → Scoped μ α}
    (hk : ∀ a, P a → (k a).calm = (k' a).calm) : (after s r k).calm = (after s r k').calm := by
  refine Dialogue.calm_bind_congr h fun x hx => ?_
  cases x with
  | ok a => exact hk a hx
  | error f => rfl

theorem calm_anyway_congr {P : Except Fault α → Scope → Prop} {t : Scoped μ α}
    (h : t.Ensures (fun _ _ => True) fun x => P x.2.1 x.2.2)
    {k k' : Except Fault α → Scope → Scoped μ β}
    (hk : ∀ x s, P x s → (k x s).calm = (k' x s).calm) : (t.anyway k).calm = (t.anyway k').calm := by
  refine Dialogue.calm_bind_congr h fun x hx => ?_
  rw [calm_marks, calm_marks, hk x.2.1 x.2.2 hx]

theorem calm_andThen_congr {P : α → Scope → Prop} {t : Scoped μ α}
    (h : t.Ensures (fun _ _ => True) fun x => ∀ a, x.2.1 = .ok a → P a x.2.2)
    {k k' : α → Scope → Scoped μ β} (hk : ∀ a s, P a s → (k a s).calm = (k' a s).calm) :
    (t.andThen k).calm = (t.andThen k').calm := by
  refine calm_anyway_congr (P := fun x s => ∀ a, x = .ok a → P a s) h fun x s hx => ?_
  cases x with
  | ok a => exact hk a s (hx a rfl)
  | error f => rfl

end Scoped

namespace Sequence

/-! ## Jumping -/

/-- The position of the first child of a name behind a position. -/
def later? (children : List (Child Body)) (i : Nat) (target : String) : Option Nat :=
  (List.range children.length).find? fun j =>
    decide (i < j) && (children[j]?.map Child.name) == some target

theorem later?_eq_some {children : List (Child Body)} {i j : Nat} {target : String} (hij : i < j)
    (hj : j < children.length) (hname : children[j].name = target)
    (hfirst : ∀ k, i < k → k < j → ∀ hk : k < children.length, children[k].name ≠ target) :
    later? children i target = some j := by
  refine List.find?_range_eq_some.2 ⟨?_, List.mem_range.2 hj, fun k hk => ?_⟩
  · simp [hij, List.getElem?_eq_getElem hj, hname]
  · have hk' : k < children.length := Nat.lt_trans hk hj
    by_cases hik : i < k
    · simp [hik, List.getElem?_eq_getElem hk', hfirst k hik hk hk']
    · simp [hik]

theorem later?_eq_none {children : List (Child Body)} {i : Nat} {target : String}
    (h : ∀ k, i < k → ∀ hk : k < children.length, children[k].name ≠ target) :
    later? children i target = none := by
  refine List.find?_eq_none.2 fun k hk => ?_
  have hk' : k < children.length := List.mem_range.1 hk
  by_cases hik : i < k
  · simp [hik, List.getElem?_eq_getElem hk', h k hik hk']
  · simp [hik]

theorem later?_lt {children : List (Child Body)} {i j : Nat} {target : String}
    (h : later? children i target = some j) : i < j ∧ j < children.length := by
  have hj := List.find?_some h
  have hmem := List.mem_of_find?_eq_some h
  simp only [Bool.and_eq_true, decide_eq_true_eq] at hj
  exact ⟨hj.1, List.mem_range.1 hmem⟩

/-- In a list with distinct names, a later child of a name is the only one. -/
theorem later?_eq_some_iff {children : List (Child Body)} (nodup : (children.map Child.name).Nodup)
    {i j : Nat} {target : String} :
    later? children i target = some j ↔
      i < j ∧ ∃ hj : j < children.length, children[j].name = target := by
  constructor
  · intro h
    obtain ⟨hij, hj⟩ := later?_lt h
    have hfound := List.find?_some h
    simp only [List.getElem?_eq_getElem hj, Option.map_some, Bool.and_eq_true, beq_iff_eq,
      Option.some.injEq] at hfound
    exact ⟨hij, hj, hfound.2⟩
  · rintro ⟨hij, hj, hname⟩
    refine later?_eq_some hij hj hname fun k _ hkj hk hk' => ?_
    have hdistinct := List.pairwise_iff_getElem.1 nodup k j (by simpa using hk) (by simpa using hj)
      hkj
    simp only [List.getElem_map] at hdistinct
    exact hdistinct (hk'.trans hname.symm)

/-- Goes on after a body when nothing is cancelled around it: one that was cancelled itself has no
value, and any other fault ends the list in the scope that the body has left. -/
def settled (s : Scope) : Except Fault (Option Json) → Scoped Mark (Option Json)
  | .ok value => .ends s value
  | .error f => if f.isCancelled then .ends s none else .fails s f

/-- Executes a child: checks its input, publishes its attributes, runs its body and records its
value and its export. The first fault ends it. -/
def perform (options : ProgramOptions) (c : Context) (child : Child Body) (s : Scope) :
    Scoped Mark Unit :=
  .after s (Running.ofExcept (checkInput options child.name child.base s)) fun _ =>
    .after s (publish c child.name child.base s) fun _ =>
      (quiet child.action s).anyway fun x s => (settled s x).andThen fun value s =>
        .after (recorded child.name value s)
          (export_ child.name child.base value (recorded child.name value s)) fun s => .ends s ()

/-- Runs a list from a position, jumping. -/
def jump (options : ProgramOptions) (c : Context) (children : List (Child Body)) (i : Nat)
    (s : Scope) : Scoped Mark Unit :=
  if h : i < children.length then
    .marks [.visited i] <|
      .after s (Running.check children[i].base.guard s [taskBinding children[i].name]) fun
        | false => jump options c children (i + 1) s
        | true => .marks [.executed i] <| (perform options c children[i] s).andThen fun _ s =>
          match children[i].base.next with
          | some .stop => .ends s ()
          | some (.target target) =>
            match hj : later? children i target with
            | some j => jump options c children j s
            | none => .fails s (.flowTargetNotFound target)
          | _ => jump options c children (i + 1) s
  else .ends s ()
termination_by children.length - i
decreasing_by
  · omega
  · have := later?_lt hj
    omega
  · omega

/-- Where jumping goes on after a turn of the child at a position. -/
def afterTurn (options : ProgramOptions) (c : Context) (children : List (Child Body)) (i : Nat) :
    Turn → Scoped Mark Unit
  | .stop s => .ends s ()
  | .next none s => jump options c children (i + 1) s
  | .next (some target) s => match later? children i target with
    | some j => jump options c children j s
    | none => .fails s (.flowTargetNotFound target)

theorem jump_of_lt {options : ProgramOptions} {c : Context} {children : List (Child Body)} {i : Nat}
    (h : i < children.length) (s : Scope) :
    jump options c children i s =
      .marks [.visited i]
        (.after s (Running.check children[i].base.guard s [taskBinding children[i].name]) fun
          | false => jump options c children (i + 1) s
          | true => .marks [.executed i] <| (perform options c children[i] s).andThen fun _ s =>
              afterTurn options c children i (.after children[i].base s)) := by
  rw [jump, dif_pos h]
  congr 2
  funext holds
  cases holds with
  | false => rfl
  | true =>
    -- with the guard true both go on with the turn after the child, and differ in how they look up
    -- its target
    refine congrArg (Scoped.marks _) (congrArg (Scoped.andThen _) (funext fun _ => funext fun s => ?_))
    unfold Turn.after
    rcases children[i].base.next with _ | (_ | _ | target)
    · rfl
    · rfl
    · rfl
    · show (match hj : later? children i target with
        | some j => jump options c children j s
        | none => Scoped.fails s (Fault.flowTargetNotFound target)) =
          afterTurn options c children i (.next (some target) s)
      unfold afterTurn
      split <;> split <;> simp_all

theorem jump_of_le {options : ProgramOptions} {c : Context} {children : List (Child Body)} {i : Nat}
    (h : children.length ≤ i) (s : Scope) : jump options c children i s = .ends s () := by
  rw [jump, dif_neg (Nat.not_lt.2 h)]

/-! ## Scanning is jumping -/

section Scanning

variable (e : Setting) (c : Context) (entry : Option String) (input : Json)

/-- Runs a list over bodies, the first of which has the given ordinal, and marks what is done. -/
def scan (first : Bool) (pending : Option String) (i : Nat) (children : List (Child Body))
    (s : Scope) : Scoped Mark Unit :=
  observed e c entry input marker quiet first pending i children s

/-- The children of a program with their steps as bodies. -/
def bodies (children : Children) : List (Child Body) :=
  children.map fun child => child.doing (Doing.body (step e c child.name child.base input child.action))

/-- A scan over the steps of a program is a run, but for the marks and for the scope of a fault. -/
theorem forget_scan (first : Bool) (pending : Option String) (i : Nat) (children : Children)
    (s : Scope) :
    ((scan e c entry input first pending i (bodies e c input children) s).valued
      fun _ s => s).forget = run e c entry input first pending children s :=
  forget_narrate e c entry input marker quiet
    (g := fun child => Doing.body (step e c child.name child.base input child.action))
    (fun _ _ _ => forget_quiet ..) first pending i s

/-- Whether a list goes on behind a body that has ended so. -/
def Lets (x : Except Fault (Option Json)) : Prop := ∀ f, x = .error f → f.isCancelled = true

/-- Whether a body sets no marker, when the list goes on behind it. -/
def Body.Markless (body : Body) : Prop :=
  ∀ s : Scope, s.marker = none →
    (body s).Ensures (fun _ _ => True) fun x => Lets x.1 → x.2.marker = none

variable {e c entry input}

theorem calm_after_leaves (first : Bool) (s : Scope) (k : Bool → Scoped Mark Unit) :
    (Scoped.after s (leaves e c entry first s) k).calm = (k false).calm := by
  unfold leaves
  split <;> rfl

/-- On a host where nothing is due, a list with a child passes over it or visits it. -/
theorem calm_scan_cons (first : Bool) (pending : Option String) (i : Nat) (child : Child Body)
    (rest : List (Child Body)) {s : Scope} (hs : s.marker = none) :
    (scan e c entry input first pending i (child :: rest) s).calm =
      if pending.any (· ≠ child.name) then (scan e c entry input false pending (i + 1) rest s).calm
      else Dialogue.calm <| Scoped.marks [.visited i] <|
        .after s (Running.check child.base.guard s [taskBinding child.name]) fun
          | false => scan e c entry input false none (i + 1) rest s
          | true => (attend e c marker quiet .run i child s).andThen fun t _ =>
              t.follow (fun s => .ends s ()) fun pending s =>
                scan e c entry input false pending (i + 1) rest s := by
  rw [scan, observed, calm_after_leaves]
  simp only [resumption_going child.id child.replayed entry.isSome hs]
  by_cases h : pending.any (· ≠ child.name)
  · rw [if_pos (show Passes .run pending child.name from .inr h), if_pos h]
    rfl
  · rw [if_neg (show ¬ Passes .run pending child.name from fun h' => h (h'.resolve_left (by decide))),
      if_neg h]
    rfl

/-- A list on the way to a target goes on at the first later child of that name. -/
theorem calm_scan_pending (children : List (Child Body)) (i : Nat) (target : String) {s : Scope}
    (hs : s.marker = none) (k : Nat) (first : Bool) (hik : i < k)
    (hpassed : ∀ j, i < j → j < k → ∀ hj : j < children.length, children[j].name ≠ target) :
    (scan e c entry input first (some target) k (children.drop k) s).calm =
      match later? children i target with
      | some j => (scan e c entry input false none j (children.drop j) s).calm
      | none => (Scoped.fails s (.flowTargetNotFound target) : Scoped Mark Unit).calm := by
  by_cases hk : k < children.length
  · rw [List.drop_eq_getElem_cons hk, calm_scan_cons _ _ _ _ _ hs]
    by_cases hname : children[k].name = target
    -- the child is the target, and a list visits it as it would with nothing pending
    · rw [later?_eq_some hik hk hname hpassed]
      simp only [List.drop_eq_getElem_cons hk]
      rw [calm_scan_cons _ none _ _ _ hs]
      simp [hname]
    · have hnext : ∀ j, i < j → j < k + 1 → ∀ hj : j < children.length,
          children[j].name ≠ target := by
        intro j hij hjk hj
        rcases Nat.lt_succ_iff_lt_or_eq.1 hjk with hlt | rfl
        · exact hpassed j hij hlt hj
        · exact hname
      -- the child is passed over, and one more name is known not to be the target's
      rw [if_pos (by simpa using Ne.symm hname)]
      exact calm_scan_pending children i target hs (k + 1) false (by omega) hnext
  · have hend : children.length ≤ k := Nat.not_lt.1 hk
    rw [List.drop_eq_nil_of_le hend,
      later?_eq_none fun j hij hj => hpassed j hij (by omega) hj]
    rfl
termination_by children.length - k

/-- When nothing is cancelled, a list makes of the outcome of a body what jumping makes of it. -/
theorem calm_after_absorb (s : Scope) (x : Except Fault (Option Json))
    (k : Option (Option Json × Scope) → Scoped Mark Unit) :
    (Scoped.after s (absorb c s (x.map fun value => (value, s))) k).calm =
      ((settled s x).andThen fun value s => k (some (value, s))).calm := by
  cases x with
  | ok value =>
    rw [settled, Scoped.andThen_ends]
    rfl
  | error f =>
    cases hf : f.isCancelled with
    | true =>
      simp only [absorb, settled, hf, Except.map, if_true, Scoped.andThen_ends]
      rfl
    | false =>
      simp only [absorb, settled, hf, Except.map, Bool.false_eq_true, if_false]
      rfl

/-- A child that is attended to is performed, and the list takes the turn behind it. -/
theorem calm_attend (i : Nat) (child : Child Body) (s : Scope) (k : Turn → Scoped Mark Unit) :
    ((attend e c marker quiet .run i child s).andThen fun t _ => k t).calm =
      (Scoped.marks [.executed i] ((perform e.program.options c child s).andThen fun _ s =>
        k (.after child.base s))).calm := by
  simp only [attend, perform, marker, prepare, depart, departing, conclude, Scoped.andThen_marks,
    Scoped.andThen_after, Scoped.andThen_anyway, Scoped.andThen_andThen, Scoped.after_bind,
    Scoped.after_pure, Scoped.andThen_ends, Scoped.marks_nil, Scoped.calm_marks, reduceCtorEq, if_false]
  refine congrArg _ (Scoped.calm_after_congr s (Running.upholds_any _) fun _ _ =>
    Scoped.calm_after_congr s (Running.upholds_any _) fun _ _ =>
      Scoped.calm_anyway_congr (P := fun _ _ => True)
        (Dialogue.ensures_of_forall _ fun _ => trivial) fun x s _ => ?_)
  refine (calm_after_absorb s x _).trans
    (congrArg _ (congrArg _ (funext fun value => funext fun s => ?_)))
  rw [Scoped.andThen_after]
  simp only [Scoped.andThen_ends]

/-- An executed child sets no marker, if its body sets none. -/
theorem ensures_perform {options : ProgramOptions} {child : Child Body} (h : child.action.Markless)
    {s : Scope} (hs : s.marker = none) :
    (perform options c child s).Ensures (fun _ _ => True) fun x =>
      ∀ a, x.2.1 = .ok a → x.2.2.marker = none := by
  refine Scoped.ensures_after (Running.upholds_any _) (fun _ _ => ?_) fun f _ => nofun
  refine Scoped.ensures_after (Running.upholds_any _) (fun _ _ => ?_) fun f _ => nofun
  -- behind the body the scope has its marker, and only its data and its output are changed
  refine Scoped.ensures_anyway (Dialogue.Ensures.map (Q := fun x => Lets x.2.1 → x.2.2.marker = none)
    (h s hs)) fun ms x s' hx => ?_
  have hexport (value : Option Json) (hs' : s'.marker = none) :
      (Scoped.after (recorded child.name value s')
        (export_ child.name child.base value (recorded child.name value s')) fun s =>
          (.ends s () : Scoped Mark Unit)).Ensures (fun _ _ => True) fun x =>
            ∀ a, x.2.1 = .ok a → x.2.2.marker = none := by
    have hrecorded : (recorded child.name value s').marker = none := by
      cases value <;> exact hs'
    refine Scoped.ensures_after (E := Any) (P := fun s => s.marker = none) ?_
      (fun s hs _ _ => hs) fun f _ => nofun
    unfold export_
    split
    · exact .pure hrecorded
    · exact .bind (Running.upholds_any _) fun _ _ => .pure hrecorded
  cases x with
  | ok value =>
    rw [settled, Scoped.andThen_ends]
    exact hexport value (hx nofun)
  | error f =>
    cases hf : f.isCancelled with
    | true =>
      simp only [settled, hf, if_true, Scoped.andThen_ends]
      exact hexport none (hx fun f' hf' => by cases hf'; exact hf)
    | false =>
      simp only [settled, hf, Bool.false_eq_true, if_false, Scoped.andThen_fails]
      exact nofun

/-- Scanning from a position visits what jumping from there visits, and ends as it does. -/
theorem calm_scan_drop {children : List (Child Body)}
    (h : ∀ child ∈ children, child.action.Markless) (i : Nat) (first : Bool) {s : Scope}
    (hs : s.marker = none) :
    (scan e c entry input first none i (children.drop i) s).calm =
      (jump e.program.options c children i s).calm := by
  by_cases hi : i < children.length
  -- both visit the child and evaluate its guard in the same scope
  · rw [List.drop_eq_getElem_cons hi, calm_scan_cons _ _ _ _ _ hs, jump_of_lt hi]
    simp only [Option.any_none, Bool.false_eq_true, if_false, Scoped.calm_marks]
    refine congrArg _ (Scoped.calm_after_congr s (Running.upholds_any _) fun holds _ => ?_)
    cases holds with
    | false => exact calm_scan_drop h (i + 1) false hs
    | true =>
      refine (calm_attend i children[i] s _).trans ?_
      rw [Scoped.calm_marks, Scoped.calm_marks]
      refine congrArg _ (Scoped.calm_andThen_congr (P := fun _ s => s.marker = none)
        (ensures_perform (h _ (List.getElem_mem hi)) hs) fun _ s' hs' => ?_)
      -- the list stops, goes on to the next child, or scans for a target
      rcases hturn : Turn.after children[i].base s' with s'' | ⟨_ | target, s''⟩
      · rfl
      · have heq : s'' = s' := by simpa [hturn, Turn.scope] using Turn.scope_after children[i].base s'
        exact calm_scan_drop h (i + 1) false (heq ▸ hs')
      · have heq : s'' = s' := by simpa [hturn, Turn.scope] using Turn.scope_after children[i].base s'
        subst heq
        refine (calm_scan_pending children i target hs' (i + 1) false (by omega) (by omega)).trans ?_
        show _ = Dialogue.calm (match later? children i target with
          | some j => jump e.program.options c children j s''
          | none => Scoped.fails s'' (.flowTargetNotFound target))
        cases hj : later? children i target with
        | none => rfl
        | some j =>
          have := later?_lt hj
          exact calm_scan_drop h j false hs'
  · have hend : children.length ≤ i := Nat.not_lt.1 hi
    rw [List.drop_eq_nil_of_le hend, jump_of_le hend]
    rfl
termination_by children.length - i

/-- A body that is a step of a program sets no marker. -/
theorem markless_bodies {children : Children} {child : Child Body}
    (h : child ∈ bodies e c input children) : child.action.Markless := by
  obtain ⟨child, -, rfl⟩ := List.mem_map.1 h
  intro s hs
  have hstep := Congruence.upholds_step (E := Any) (fun _ _ => trivial) e c child.name child.base
    input child.action s
  refine Dialogue.Ensures.map ((Dialogue.Ensures.weaken hstep fun q x _ => Request.within_any q x).mono
    fun x hx _ => ?_)
  cases x with
  | ok r => exact Eq.trans hx hs
  | error f => exact hs

/-- A list without a marker visits the children that jumping visits, in the same scopes, makes the
same requests and ends in the same scope and with the same value or fault, as long as no restart is due
and nothing is cancelled. This holds of arbitrary bodies, however they end, that set no marker when the
list goes on behind them; if the names are distinct, then the child that a flow directive leads to is
the only later one of its name. The steps of a program are such bodies, and their scan is the run of
their list. -/
theorem run_agrees_with_jump (e : Setting) (c : Context) (entry : Option String) (input : Json)
    {s : Scope} (hs : s.marker = none) :
    (∀ children : List (Child Body), (∀ child ∈ children, child.action.Markless) →
      (scan e c entry input true none 0 children s).calm =
        (jump e.program.options c children 0 s).calm) ∧
    (∀ children : List (Child Body), (children.map Child.name).Nodup → ∀ i j target,
      later? children i target = some j ↔
        i < j ∧ ∃ hj : j < children.length, children[j].name = target) ∧
    ∀ children : Children,
      (scan e c entry input true none 0 (bodies e c input children) s).calm =
        (jump e.program.options c (bodies e c input children) 0 s).calm ∧
      ((scan e c entry input true none 0 (bodies e c input children) s).valued fun _ s => s).forget =
        run e c entry input true none children s :=
  ⟨fun _ h => calm_scan_drop h 0 true hs, fun _ nodup _ _ _ => later?_eq_some_iff nodup,
    fun _ => ⟨calm_scan_drop (fun _ => markless_bodies) 0 true hs, forget_scan ..⟩⟩

end Scanning

/-- A child with a body alone. -/
def bare (id name : String) (next : Option Flow) (body : Body) : Child Body :=
  ⟨id, name, ⟨none, next, none, none, none, []⟩, false, body⟩

/-- A body that does nothing. -/
def idle : Body := fun s => .done (.ok none, s)

/-- Terms without a program. -/
def bareSetting : Setting :=
  ⟨⟨"root", [], .standard⟩, .ofSettings .standard, CallSettings.standard.timeout⟩

theorem run_agrees_with_jump_over_idle :
    (Scope.start .null []).marker = none ∧
      (∀ child ∈ [bare "a-0" "a" (some (.target "c")) idle, bare "b-1" "b" none idle,
        bare "c-2" "c" none idle], child.action.Markless) ∧
      (scan bareSetting ⟨0, [0]⟩ (some "root") .null true none 0
          [bare "a-0" "a" (some (.target "c")) idle, bare "b-1" "b" none idle, bare "c-2" "c" none idle]
          (.start .null [])).calm =
        (jump bareSetting.program.options ⟨0, [0]⟩
          [bare "a-0" "a" (some (.target "c")) idle, bare "b-1" "b" none idle, bare "c-2" "c" none idle]
          0 (.start .null [])).calm := by
  have hmarkless : ∀ child ∈ [bare "a-0" "a" (some (.target "c")) idle, bare "b-1" "b" none idle,
      bare "c-2" "c" none idle], child.action.Markless := by
    intro child hchild
    simp only [List.mem_cons, List.not_mem_nil, or_false] at hchild
    rcases hchild with rfl | rfl | rfl <;> exact fun _ hs _ => hs
  exact ⟨rfl, hmarkless,
    (run_agrees_with_jump bareSetting ⟨0, [0]⟩ (some "root") .null rfl).1 _ hmarkless⟩

/-- A body that sets a marker. -/
def marking : Body := fun s => .done (.ok none, { s with marker := some "gone" })

/-- A body that ends as one that was cancelled. -/
def revoked : Body := fun s => .done (.error (.cancelled "a"), s)

/-- The marks of a list, whether it ends without a fault, and the marker of the scope that it ends in, on
a machine where nothing is due and nothing is cancelled. -/
def ending (t : Scoped Mark Unit) : Option (List Mark × Bool × Option String) :=
  (t.play (Machine.within ⟨.calm, fun _ => false⟩ bareSetting 0) .first).1.map fun x =>
    (x.1, x.2.1.isOk, x.2.2.marker)

/-- Behind a body that sets a marker, a list skips the child that jumping visits; and a body that ends as
one that was cancelled does not end its list, although nothing is cancelled around it. -/
theorem marking_breaks_agreement :
    (Scope.start .null []).marker = none ∧
      ([bare "a-0" "a" none marking, bare "b-1" "b" none idle].map Child.name).Nodup ∧
      ending (scan bareSetting ⟨0, [0]⟩ (some "root") .null true none 0
        [bare "a-0" "a" none marking, bare "b-1" "b" none idle] (.start .null [])) =
          some ([.visited 0, .executed 0], true, some "gone") ∧
      ending (jump bareSetting.program.options ⟨0, [0]⟩
        [bare "a-0" "a" none marking, bare "b-1" "b" none idle] 0 (.start .null [])) =
          some ([.visited 0, .executed 0, .visited 1, .executed 1], true, some "gone") ∧
      revoked (.start .null []) = .done (.error (.cancelled "a"), .start .null []) ∧
      ending (scan bareSetting ⟨0, [0]⟩ (some "root") .null true none 0
        [bare "a-0" "a" none revoked, bare "b-1" "b" none idle] (.start .null [])) =
          some ([.visited 0, .executed 0, .visited 1, .executed 1], true, none) :=
  ⟨rfl, by decide, by decide +kernel, by decide +kernel, rfl, by decide +kernel⟩

end Sequence

end TaskGraph

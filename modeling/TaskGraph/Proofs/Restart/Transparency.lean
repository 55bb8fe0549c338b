import TaskGraph.Host.Run
import TaskGraph.Proofs.Restart.Agreement
import TaskGraph.Proofs.Restart.Chain

/-!
# Restarts are transparent

Of a program without jumps the chain of runs cannot be told from one straight run: it ends in the
same way, with the same scope, and has had the same effects on the world
(`Restart.restarts_transparent`).

The two are compared on a machine, where every answer is a function of the effects so far. A run
that is left before a child hands on its scope, and the next one comes to that child with the scope
unchanged (`Sequence.play_resume`); so the chain and the straight run stand at the same child again,
and from there a child less is left or a restart less (`Restart.agree_run`). The graphs that a child
runs are compared one level deeper, by induction on the depth to which graphs are entered.
-/

set_option autoImplicit false

namespace TaskGraph

open Running (Any)

/-! ## Programs without jumps -/

namespace Program

/-- The names of the graphs that may be run on their own: the root, and what the steps of such
graphs call. -/
inductive Entry (p : Program) : String → Prop where
  | root : Entry p p.root
  | called {name callee : String} {g : Graph} {child : Child Step} {inner : Step}
      (entry : Entry p name) (found : p.graph name = .ok g) (mem : child ∈ g.children)
      (inside : inner.Inside child.action) (calls : inner.Calls callee) : Entry p callee

/-- Whether the graphs that may be run on their own have no flow directive to a target, start no
graphs side by side or without waiting for them, and are not too long for their restarts. -/
structure JumpFree (p : Program) : Prop where
  unjumping : ∀ name g, p.Entry name → p.graph name = .ok g →
    ∀ child ∈ g.children, ∀ target, child.base.next ≠ some (.target target)
  alone : ∀ name g, p.Entry name → p.graph name = .ok g →
    ∀ child ∈ g.children, ∀ inner : Step, inner.Inside child.action → ¬ inner.Spawns
  short : ∀ name g, p.Entry name → p.graph name = .ok g → g.children.length ≤ Restart.limit + 1

end Program

namespace Restart

variable {β : Type}

/-! ## Chains on a machine -/

/-- What follows a run of a chain, given the number of restarts that are left. -/
def proceed (frame : Frame β) (p : Program) (c : Context) :
    Nat → Context → Except Fault Scope → Running β
  | left, inner, .ok s => frame.ends inner left s
  | 0, inner, .error (.continueAsNew ..) => frame.givesUp inner
  | left + 1, inner, .error (.continueAsNew entry input s) => do
    frame.restarts inner entry s
    let g ← Running.ofExcept (p.graph entry)
    drive frame p c left g input s
  | _, inner, .error f => frame.fails inner f

theorem drive_eq_proceed (frame : Frame β) (p : Program) (c : Context) (left : Nat) (g : Graph)
    (input : Json) (s : Scope) :
    drive frame p c left g input s = (do
      let inner ← Running.ask (.fresh c)
      frame.opens inner g s
      (Running.enter inner g input s).outcome >>= proceed frame p c left inner) := by
  rw [drive.eq_def]
  refine bind_congr fun inner => bind_congr fun _ => bind_congr fun x => ?_
  cases left with
  | zero =>
    cases x with
    | ok s => rfl
    | error f => cases f <;> rfl
  | succ left =>
    cases x with
    | ok s => rfl
    | error f => cases f <;> rfl

theorem proceed_error (frame : Frame β) (p : Program) (c : Context) (left : Nat) (inner : Context)
    {f : Fault} (hf : f.asksRestart = false) :
    proceed frame p c left inner (.error f) = frame.fails inner f := by
  cases f with
  | continueAsNew => cases hf
  | _ => cases left <;> rfl

/-- Whether a chain has no effects but those of its runs, and its results are related if its runs
end alike. -/
structure Frame.Discreet (frame : Frame β) (V : β → β → Prop) : Prop where
  opens : ∀ (m : Machine) enter c g s mo,
    (frame.opens c g s).run.play (m.replies enter) mo = (some (.ok ()), mo)
  restarts : ∀ (m : Machine) enter c entry s mo,
    (frame.restarts c entry s).run.play (m.replies enter) mo = (some (.ok ()), mo)
  ends : ∀ (m : Machine) enter enter' c c' left left' (s : Scope), s.marker = none →
    Meets m enter enter' V (frame.ends c left s) (frame.ends c' left' s)
  fails : ∀ (m : Machine) enter enter' c c' (f : Fault), f.asksRestart = false →
    Meets m enter enter' V (frame.fails c f) (frame.fails c' f)

theorem discreet_graphFrame (name : String) :
    (graphFrame name).Discreet (Both (Any : Json → Prop)) where
  opens _ _ _ _ _ _ := rfl
  restarts _ _ _ _ _ _ := rfl
  ends _ _ _ _ _ _ _ _ _ := .ofValue ⟨rfl, trivial⟩
  fails _ _ _ _ _ _ hf := .ofFault hf

/-- Whether two results of a program have the same output and the same scope, without a marker. -/
def Outcome.Same (o o' : Outcome) : Prop :=
  o.output = o'.output ∧ o.scope = o'.scope ∧ o.scope.marker = none

theorem discreet_rootFrame : rootFrame.Discreet Outcome.Same where
  opens _ _ _ _ _ _ := rfl
  restarts _ _ _ _ _ _ := rfl
  ends _ _ _ _ _ _ _ _ hs := fun _ _ hlog _ => ⟨.value ⟨rfl, rfl, hs⟩, hlog⟩
  fails _ _ _ _ _ _ hf := fun _ _ hlog _ => ⟨.fault hf, hlog⟩

variable {m : Machine}
  {enter : Context → Graph → Json → Scope → Moment → Option (Except Fault Scope) × Moment}
  {frame : Frame β} {V : β → β → Prop}

theorem play_enter (c : Context) (g : Graph) (input : Json) (s : Scope) (mo : Moment) :
    (Running.enter c g input s).run.play (m.replies enter) mo = enter c g input s mo := by
  have hreply : m.replies enter (.enter c g input s) mo = enter c g input s mo := rfl
  show Dialogue.play _ (.ask (.enter c g input s) .done) mo = _
  rw [Dialogue.play, hreply]
  rcases enter c g input s mo with ⟨_ | x, mo'⟩ <;> rfl

variable (m enter) in
/-- A chain enters its graph in a fresh run and goes on from there. -/
theorem play_drive (hframe : frame.Discreet V) (p : Program) (c : Context) (left : Nat) (g : Graph)
    (input : Json) (s : Scope) (mo : Moment) :
    ∃ inner mo₁, mo₁.log = mo.log ∧ (drive frame p c left g input s).run.play (m.replies enter) mo =
      Played.andThen (enter inner g input s mo₁)
        fun x => (proceed frame p c left inner x).run.play (m.replies enter) := by
  refine ⟨⟨mo.opened + 1, c.scopes⟩, { mo with opened := mo.opened + 1 }, rfl, ?_⟩
  rw [drive_eq_proceed, Running.play_bind]
  change Dialogue.play _ (frame.opens _ g s >>= fun _ => _ : Running β).run _ = _
  rw [Running.play_bind, hframe.opens]
  change Dialogue.play _ ((Running.enter _ g input s).outcome >>= _ : Running β).run _ = _
  rw [Running.play_outcome_bind]
  rw [play_enter]

/-- A run that asks for another of the same graph is followed by a chain with one restart less. -/
theorem play_proceed_restart (hframe : frame.Discreet V) {p : Program} (c : Context) (left : Nat)
    (inner : Context) {g : Graph} (hg : p.graph g.name = .ok g) (input : Json) (s : Scope)
    (mo : Moment) :
    (proceed frame p c (left + 1) inner (.error (.continueAsNew g.name input s))).run.play
        (m.replies enter) mo =
      (drive frame p c left g input s).run.play (m.replies enter) mo := by
  show (frame.restarts inner g.name s >>= fun _ => _ : Running β).run.play _ _ = _
  rw [Running.play_bind, hframe.restarts]
  show (Running.ofExcept (p.graph g.name) >>= fun _ => _ : Running β).run.play _ _ = _
  rw [hg]
  rfl

end Restart

/-! ## One child -/

namespace Sequence

variable {m : Machine}
  {enter : Context → Graph → Json → Scope → Moment → Option (Except Fault Scope) × Moment}
  {e : Setting} {c : Context} {s : Scope}

theorem pendingTarget_eq_none {next : Option Flow} (h : ∀ target, next ≠ some (.target target)) :
    pendingTarget next = none := by
  unfold pendingTarget
  split
  · next target => exact absurd rfl (h target)
  · rfl

/-- A run without a marker is left before a child, or goes on from the turn of the child. -/
theorem run_going (hs : s.marker = none) (entry : String) (input : Json) (first : Bool)
    (child : Child Step) (rest : Children) :
    run e c (some entry) input first none (child :: rest) s = (do
      if ← leaves e c (some entry) first s then Restart.suspend c entry child.id input s
      else
        turn e c .run (embody e c input child) s >>= Turn.follow pure fun pending s =>
          run e c (some entry) input false pending rest s) := by
  rw [run_cons]
  refine bind_congr fun leaves => ?_
  cases leaves with
  | true => rfl
  | false =>
    simp only [Bool.false_eq_true, if_false, Option.isSome_some, resumption_going _ _ _ hs]
    rw [if_neg (by simp [Passes]), visit_eq_turn]

variable (m enter e c) in
/-- Whether a run is left before a child is no effect. -/
theorem play_leaves (hs : s.marker = none) (entry : String) (first : Bool) (mo : Moment) :
    ∃ due mo₁,
      (leaves e c (some entry) first s).run.play (m.replies enter) mo = (some (.ok due), mo₁) ∧
      mo₁.log = mo.log ∧ (due = true → first = false ∧ ∃ n, m.due n = true) := by
  cases first with
  | true =>
    rw [leaves_first]
    exact ⟨false, mo, rfl, rfl, nofun⟩
  | false =>
    rw [leaves_going _ _ _ hs]
    exact ⟨m.due mo.asked, _, rfl, rfl, fun h => ⟨rfl, _, h⟩⟩

end Sequence

/-! ## A chain and a straight run -/

/-- What makes the chain of a graph transparent: its markers name one child, only quiet steps are
replayed, there are no jumps, and on machines of a depth its children meet themselves. -/
structure Graph.Smooth (m : Machine) (e : Setting) (depth : Nat) (g : Graph) : Prop where
  found : e.program.graph g.name = .ok g
  nodup : (g.children.map Child.id).Nodup
  replayable : g.children.Replayable
  lists : ∀ child ∈ g.children, child.action.Lists Children.Replayable
  unjumping : ∀ child ∈ g.children, ∀ target, child.base.next ≠ some (.target target)
  turns : ∀ child ∈ g.children, ∀ c c' input s,
    Meets m (m.entering e depth) (m.steady.entering e depth)
      (Both (Congruence.Turns s child.base.next))
      (Sequence.turn e c .run (Sequence.embody e c input child) s)
      (Sequence.turn e c' .run (Sequence.embody e c' input child) s)

namespace Restart

variable {β : Type} {m : Machine} {e : Setting} {depth : Nat} {frame : Frame β} {V : β → β → Prop}

/-- How a chain goes on from the play of a run. -/
def following (frame : Frame β) (m : Machine) (e : Setting) (depth : Nat) (c : Context) (left : Nat)
    (inner : Context) (x : Played Scope) : Played β :=
  x.andThen fun y => (proceed frame e.program c left inner y).run.play (m.within e (depth + 1))

/-- The play of the rest of a graph, without a marker. -/
def playing (m : Machine) (e : Setting) (depth : Nat) (g : Graph) (c : Context) (input : Json)
    (first : Bool) (children : Children) (s : Scope) (mo : Moment) : Played Scope :=
  (Sequence.run e c (some g.name) input first none children s).run.play (m.within e depth) mo

theorem stumbled_following {c inner : Context} {left : Nat} {x : Played Scope}
    (h : x.2.stumbled = true) : (following frame m e depth c left inner x).2.stumbled = true :=
  Played.stumbled_andThen h fun _ _ => Dialogue.stumbled_play (m.steadfast_within e (depth + 1)) _

/-- A chain whose next run is due before a child goes on at that child, with the scope and the
effects of the run that is left, unless it stumbles. -/
theorem following_suspend (hframe : frame.Discreet V) {g : Graph} (h : g.Smooth m e depth)
    {before : Children} {child : Child Step} {rest : Children}
    (hchildren : g.children = before ++ child :: rest) (c inner : Context) (left : Nat)
    (input : Json) {s : Scope} (hs : s.marker = none) (mo : Moment) :
    (following frame m e depth c (left + 1) inner
        ((Restart.suspend inner g.name child.id input s : Running Scope).run.play
          (m.within e depth) mo)).2.stumbled = true ∨
      ∃ inner₁ mo₁, mo₁.log = mo.log ∧
        following frame m e depth c (left + 1) inner
            ((Restart.suspend inner g.name child.id input s : Running Scope).run.play
              (m.within e depth) mo) =
          following frame m e depth c left inner₁
            (playing m e depth g inner₁ input true (child :: rest) s mo₁) := by
  have hsuspend : following frame m e depth c (left + 1) inner
      ((Restart.suspend inner g.name child.id input s : Running Scope).run.play
        (m.within e depth) mo) =
        (drive frame e.program c left g input { s with marker := some child.id }).run.play
          (m.within e (depth + 1)) mo :=
    play_proceed_restart hframe c left inner h.found input _ mo
  rw [hsuspend]
  obtain ⟨inner₁, mo₁, hlog₁, hdrive⟩ := play_drive m (m.entering e (depth + 1)) hframe e.program c
    left g input { s with marker := some child.id } mo
  change _ = following frame m e depth c left inner₁
    (playing m e depth g inner₁ input true g.children
      { s with marker := some child.id } mo₁) at hdrive
  rw [Machine.within, hdrive, hchildren]
  -- the next run is on its way to the child that this one is left at
  have hids : ∀ k ∈ before, k.id ≠ child.id := fun k hk =>
    Children.apart_of_split h.nodup hchildren k (List.mem_append_left _ hk)
  have hbefore : ∀ k ∈ before, k ∈ g.children := fun k hk => by simp [hchildren, hk]
  have hcleared : ({ s with marker := none } : Scope) = s := by rw [← hs]
  rcases Sequence.play_resume (m.steadfast_within e depth) e inner₁
    (s := { s with marker := some child.id }) rfl g.name input true rfl rest before hids
    (fun k hk => h.replayable k (hbefore k hk)) (fun k hk => h.lists k (hbefore k hk)) mo₁ with
    hstumbled | ⟨mo₂, hlog₂, hplay⟩
  · exact .inl (stumbled_following hstumbled)
  · refine .inr ⟨inner₁, mo₂, hlog₂.trans hlog₁, congrArg _ (hplay.trans ?_)⟩
    rw [hcleared]
    rfl

theorem following_bind {α : Type} (c inner : Context) (left : Nat) (r : Running α)
    (k : α → Running Scope) (mo : Moment) :
    following frame m e depth c left inner ((r >>= k).run.play (m.within e depth) mo) =
      Played.andThen (r.run.play (m.within e depth) mo) fun x mo =>
        following frame m e depth c left inner
          ((Running.onward k x).play (m.within e depth) mo) := by
  unfold following
  rw [Running.play_bind, Played.andThen_assoc]

/-- At the end of a graph, a chain agrees with a straight run. -/
theorem agree_end (hframe : frame.Discreet V) {g : Graph} (c c' : Context) (input : Json)
    {first first' : Bool} {left left' : Nat} {inner inner' : Context} {s : Scope} {mo mo' : Moment}
    (hs : s.marker = none) (hlog : mo.log = mo'.log) :
    Agree V
      (following frame m e depth c left inner (playing m e depth g inner input first [] s mo))
      (following frame m.steady e depth c' left' inner'
        (playing m.steady e depth g inner' input first' [] s mo')) := by
  unfold playing
  rw [Sequence.run_nil, Sequence.run_nil]
  exact hframe.ends m _ _ inner inner' left left' s hs mo mo' hlog

/-- What a run without a marker does from the turn of a child on. -/
def going (e : Setting) (g : Graph) (c : Context) (input : Json) (child : Child Step)
    (rest : Children) (s : Scope) : Running Scope :=
  Sequence.turn e c .run (Sequence.embody e c input child) s >>= Sequence.Turn.follow pure
    fun pending s => Sequence.run e c (some g.name) input false pending rest s

/-- A run without a marker is left before a child, or goes on from the turn of the child. -/
theorem following_playing {g : Graph} (c inner : Context) (left : Nat) (input : Json) (first : Bool)
    (child : Child Step) (rest : Children) {s : Scope} (hs : s.marker = none) (mo : Moment) :
    ∃ due mo₁, mo₁.log = mo.log ∧ (due = true → first = false ∧ ∃ k, m.due k = true) ∧
      following frame m e depth c left inner
          (playing m e depth g inner input first (child :: rest) s mo) =
        following frame m e depth c left inner
          ((if due then Restart.suspend inner g.name child.id input s
            else going e g inner input child rest s).run.play (m.within e depth) mo₁) := by
  obtain ⟨due, mo₁, hleaves, hlog, hdue⟩ := Sequence.play_leaves m (m.entering e depth) e inner hs
    g.name first mo
  refine ⟨due, mo₁, hlog, hdue, ?_⟩
  unfold playing
  rw [Sequence.run_going hs, following_bind]
  change Played.andThen (Dialogue.play (m.replies (m.entering e depth)) _ mo) _ = _
  rw [hleaves]
  rfl

/-- A straight run is not left before a child. -/
theorem following_steady {g : Graph} (c inner : Context) (left : Nat) (input : Json) (first : Bool)
    (child : Child Step) (rest : Children) {s : Scope} (hs : s.marker = none) (mo : Moment) :
    ∃ mo₁, mo₁.log = mo.log ∧
      following frame m.steady e depth c left inner
          (playing m.steady e depth g inner input first (child :: rest) s mo) =
        following frame m.steady e depth c left inner
          ((going e g inner input child rest s).run.play (m.steady.within e depth) mo₁) := by
  obtain ⟨due, mo₁, hlog, hdue, hplay⟩ := following_playing (m := m.steady) (e := e) c inner left
    input first child rest hs mo
  obtain rfl : due = false := by
    cases due with
    | false => rfl
    | true =>
      obtain ⟨-, k, hk⟩ := hdue rfl
      cases hk
  exact ⟨mo₁, hlog, hplay⟩

/-- From the turn of a child on, a chain agrees with a straight run if it does after the child. -/
theorem agree_going (hframe : frame.Discreet V) {g : Graph} (h : g.Smooth m e depth)
    (c c' : Context) (input : Json) {child : Child Step} (hchild : child ∈ g.children)
    {rest : Children} {left left' : Nat} {inner inner' : Context} {s : Scope} {mo mo' : Moment}
    (hs : s.marker = none) (hlog : mo.log = mo'.log)
    (hrest : ∀ (s : Scope) (mo mo' : Moment), s.marker = none → mo.log = mo'.log →
      Agree V
        (following frame m e depth c left inner
          (playing m e depth g inner input false rest s mo))
        (following frame m.steady e depth c' left' inner'
          (playing m.steady e depth g inner' input false rest s mo'))) :
    Agree V
      (following frame m e depth c left inner
        ((going e g inner input child rest s).run.play (m.within e depth) mo))
      (following frame m.steady e depth c' left' inner'
        ((going e g inner' input child rest s).run.play (m.steady.within e depth) mo')) := by
  unfold going
  rw [following_bind, following_bind]
  refine (h.turns child hchild inner inner' input s mo mo' hlog).andThen
    (fun _ _ hmo => stumbled_following
      (Dialogue.stumbled_play (m.steadfast_within e depth) _ hmo))
    (fun t t' mo₂ mo₂' ht hlog₂ => ?_) fun f mo₂ mo₂' hf hlog₂ => ?_
  · obtain ⟨rfl, ht⟩ := ht
    cases t with
    | stop s' =>
      exact hframe.ends m _ _ inner inner' left left' s' (ht.trans hs) mo₂ mo₂' hlog₂
    | next pending s' =>
      -- without a jump there is no target to carry over a restart
      obtain rfl : pending = none := by
        rcases ht.1 with rfl | rfl
        · rfl
        · exact Sequence.pendingTarget_eq_none (h.unjumping child hchild)
      exact hrest s' mo₂ mo₂' (ht.2.trans hs) hlog₂
  · -- a turn asks for no restart, so its fault ends both chains
    change Agree V
      ((proceed frame e.program c left inner (.error f)).run.play (m.within e (depth + 1)) mo₂)
      ((proceed frame e.program c' left' inner' (.error f)).run.play
        (m.steady.within e (depth + 1)) mo₂')
    rw [proceed_error frame _ _ _ _ hf, proceed_error frame _ _ _ _ hf]
    exact hframe.fails m _ _ inner inner' f hf mo₂ mo₂' hlog₂

/-- From a child on, a chain with enough restarts agrees with a straight run. -/
theorem agree_run (hframe : frame.Discreet V) {g : Graph} (h : g.Smooth m e depth) (c c' : Context)
    (input : Json) (n : Nat) {children before : Children} {first first' : Bool} {left left' : Nat}
    {inner inner' : Context} {s : Scope} {mo mo' : Moment}
    (hchildren : g.children = before ++ children) (hs : s.marker = none) (hlog : mo.log = mo'.log)
    (hleft : children.length ≤ left + first.toNat)
    (hn : 2 * children.length + (!first).toNat ≤ n) :
    Agree V
      (following frame m e depth c left inner (playing m e depth g inner input first children s mo))
      (following frame m.steady e depth c' left' inner'
        (playing m.steady e depth g inner' input first' children s mo')) := by
  -- a turn takes a child off, and a restart comes back to the same child as the first of its run
  induction n generalizing children before first first' left left' inner inner' s mo mo' with
  | zero =>
    obtain rfl : children = [] := List.length_eq_zero_iff.1 (by omega)
    exact agree_end hframe c c' input hs hlog
  | succ n ih =>
    rcases children with _ | ⟨child, rest⟩
    · exact agree_end hframe c c' input hs hlog
    have hrest : g.children = (before ++ [child]) ++ rest := by simp [hchildren]
    obtain ⟨mo₁', hlog₁', hstraight⟩ := following_steady c' inner' left' input first' child rest hs
      mo'
    obtain ⟨due, mo₁, hlog₁, hdue, hchain⟩ := following_playing c inner left input first child rest
      hs mo
    rw [hchain]
    cases due with
    | true =>
      -- the run is not the first at its child, so there is a restart left for it
      obtain ⟨rfl, -⟩ := hdue rfl
      obtain ⟨left, rfl⟩ : ∃ l, left = l + 1 := ⟨left - 1, by simp at hleft; omega⟩
      rcases following_suspend hframe h hchildren c inner left input hs mo₁ with
        hstumbled | ⟨inner₂, mo₂, hlog₂, hsuspend⟩
      · exact .of_stumbled hstumbled
      · rw [if_pos rfl, hsuspend]
        refine ih hchildren hs (hlog₂.trans (hlog₁.trans hlog)) ?_ ?_
        · simpa using hleft
        · simp only [Bool.not_true, Bool.not_false, Bool.toNat_false, Bool.toNat_true] at hn ⊢
          omega
    | false =>
      rw [if_neg Bool.false_ne_true, hstraight]
      refine agree_going hframe h c c' input (by simp [hchildren]) hs
        (hlog₁.trans (hlog.trans hlog₁'.symm)) fun s' mo₂ mo₂' hs' hlog₂ =>
          ih hrest hs' hlog₂ ?_ ?_
      · simp only [List.length_cons, Bool.toNat_false] at hleft ⊢
        have := first.toNat_le
        omega
      · simp only [List.length_cons, Bool.not_false, Bool.toNat_true] at hn ⊢
        omega

/-- The chain of a graph meets itself one level up. -/
theorem meets_drive (hframe : frame.Discreet V) {g : Graph} (h : g.Smooth m e depth)
    {left left' : Nat} (hleft : g.children.length ≤ left + 1) (c c' : Context) (input : Json)
    {s : Scope} (hs : s.marker = none) :
    Meets m (m.entering e (depth + 1)) (m.steady.entering e (depth + 1)) V
      (drive frame e.program c left g input s) (drive frame e.program c' left' g input s) := by
  intro mo mo' hlog
  obtain ⟨inner, mo₁, hlog₁, hdrive⟩ :=
    play_drive m (m.entering e (depth + 1)) hframe e.program c left g input s mo
  obtain ⟨inner', mo₁', hlog₁', hdrive'⟩ :=
    play_drive m.steady (m.steady.entering e (depth + 1)) hframe e.program c' left' g input s mo'
  rw [hdrive, hdrive']
  exact agree_run hframe h c c' input (2 * g.children.length) (List.nil_append _).symm hs
    (hlog₁.trans (hlog.trans hlog₁'.symm)) hleft (by simp)

/-- A chain on a machine that enters no graphs comes to no end. -/
theorem meets_drive_zero (hframe : frame.Discreet V) (g : Graph) (left left' : Nat) (c c' : Context)
    (input : Json) (s : Scope) :
    Meets m (m.entering e 0) (m.steady.entering e 0) V (drive frame e.program c left g input s)
      (drive frame e.program c' left' g input s) := by
  intro mo mo' hlog _
  obtain ⟨inner, mo₁, hlog₁, hdrive⟩ :=
    play_drive m (m.entering e 0) hframe e.program c left g input s mo
  obtain ⟨inner', mo₁', hlog₁', hdrive'⟩ :=
    play_drive m.steady (m.steady.entering e 0) hframe e.program c' left' g input s mo'
  rw [hdrive, hdrive']
  exact ⟨.unended, hlog₁.trans (hlog.trans hlog₁'.symm)⟩

/-! ## Programs -/

theorem result_graph (p : Program) (name : String) :
    Running.Result (fun f => f.asksRestart = false) (fun g => p.graph name = .ok g)
      (p.graph name) := by
  cases hg : p.graph name with
  | ok g => rfl
  | error f => exact (Congruence.plain_graph p name).leaves f hg

section

variable {options : ProgramOptions} {w : Workflow}
  (hp : Program.compile Kinds.standard options w = .ok e.program) (hfree : e.program.JumpFree)
  (hw : m.world.Honest)
include hp hfree hw

/-- The graphs of a program without jumps are transparent on machines of a depth, if what they run
is. -/
theorem smooth_of_entry
    (hgraph : ∀ c c' name input (s : Scope), e.program.Entry name → s.marker = none →
      Meets m (m.entering e depth) (m.steady.entering e depth) (Both Any)
        (runGraph e.program c name input s) (runGraph e.program c' name input s))
    {name : String} (hentry : e.program.Entry name) {g : Graph}
    (hg : e.program.graph name = .ok g) :
    g.Smooth m e depth := by
  have hcompiled := Program.compiled_of_compile hp g (Program.mem_of_graph hg).1
  have hreplayable {children : Children} (h : children.Compiled Kinds.standard) :
      children.Replayable := h.quiet Kinds.builtIn_standard
  refine ⟨Program.graph_of_graph hg, hcompiled.1.nodup_ids, hreplayable hcompiled.1,
    fun child hchild inner hinner => hreplayable (hcompiled.2 child hchild inner hinner),
    hfree.unjumping name g hentry hg, fun child hchild c c' input s => ?_⟩
  -- what a child may start is an entry of the program again
  let R := Meets.congruence e.program hw (m.steadfast_within e depth) e.program.Entry hgraph
  have hpermits : R.Permits child.action := by
    have halone (inner : Step) (hinner : inner.Inside child.action) : ¬ inner.Spawns :=
      hfree.alone name g hentry hg child hchild inner hinner
    refine ⟨fun inner hinner callee hcallee => ?_, fun inner hinner process hprocess callee hcallee => ?_,
      halone⟩
    · exact .called hentry hg hchild hinner (Step.calls_of_names (halone inner hinner) hcallee)
    · exact .called hentry hg hchild hinner
        (Step.calls_of_runs (halone inner hinner) hprocess hcallee)
  exact R.related_turn .run child.id child.name child.base child.replayed
    (R.related_step child.name child.base input child.action hpermits s)

omit hp hfree hw in
theorem meets_runGraph_of_drive {enter enter' : Context → Graph → Json → Scope → Moment →
      Option (Except Fault Scope) × Moment} (hreplies : (m.replies enter).Steadfast) (p : Program)
    (c c' : Context) (name : String) (input : Json) (s : Scope)
    (h : ∀ g, p.graph name = .ok g → Meets m enter enter' (Both Any)
      (drive (graphFrame name) p c limit g input s)
      (drive (graphFrame name) p c' limit g input s)) :
    Meets m enter enter' (Both Any) (runGraph p c name input s) (runGraph p c' name input s) := by
  have houtput : Meets m enter enter' (Both Any) (graphOutput p c name input s)
      (graphOutput p c' name input s) := by
    refine (Meets.ofExcept (result_graph p name)).bind hreplies fun g g' hg => ?_
    obtain ⟨rfl, hg⟩ := hg
    refine Meets.bind hreplies (Meets.record c c' _) fun _ _ _ => ?_
    rw [loop_eq_drive, loop_eq_drive]
    refine (h g hg).bind hreplies fun v v' hv => ?_
    exact Meets.bind hreplies (Meets.record c c' _) fun _ _ _ => .ofValue hv
  refine Meets.bind hreplies (Meets.tell _) fun _ _ _ =>
    houtput.outcome.bind hreplies fun x x' hx => ?_
  obtain ⟨rfl, hx⟩ := hx
  exact Meets.bind hreplies (Meets.tell _) fun _ _ _ => .ofExcept hx

/-- The graphs that a program without jumps may run meet themselves. -/
theorem meets_runGraph (depth : Nat) (c c' : Context) (name : String) (input : Json) (s : Scope)
    (hentry : e.program.Entry name) (hs : s.marker = none) :
    Meets m (m.entering e depth) (m.steady.entering e depth) (Both Any)
      (runGraph e.program c name input s) (runGraph e.program c' name input s) := by
  induction depth generalizing c c' name input s with
  | zero =>
    exact meets_runGraph_of_drive (m.steadfast_within e 0) _ c c' name input s fun g _ =>
      meets_drive_zero (discreet_graphFrame name) g limit limit c c' input s
  | succ depth ih =>
    refine meets_runGraph_of_drive (m.steadfast_within e (depth + 1)) _ c c' name input s
      fun g hg => ?_
    exact meets_drive (discreet_graphFrame name) (smooth_of_entry hp hfree hw ih hentry hg)
      (hfree.short name g hentry hg) c c' input hs

/-- A program without jumps meets itself. -/
theorem meets_programRun (depth : Nat) (input : Json) (env : Members) :
    Meets m (m.entering e depth) (m.steady.entering e depth) Outcome.Same
      (Host.programRun e.program input env) (Host.programRun e.program input env) := by
  have hreplies := m.steadfast_within e depth
  refine (Meets.ofExcept (result_graph e.program e.program.root)).bind hreplies fun g g' hg => ?_
  obtain ⟨rfl, hg⟩ := hg
  refine (Meets.ofExcept (Graph.result_initialScope (fun _ => Fault.asksRestart_of_ordinary)
    e.program.options g input env)).bind hreplies
    fun s s' hs => ?_
  obtain ⟨rfl, hs⟩ := hs
  rw [rootLoop_eq_drive]
  cases depth with
  | zero => exact meets_drive_zero discreet_rootFrame g limit limit _ _ input s
  | succ depth =>
    exact meets_drive discreet_rootFrame
      (smooth_of_entry hp hfree hw (meets_runGraph hp hfree hw depth) .root hg)
      (hfree.short e.program.root g .root hg) _ _ input hs

end

/-- Restarts are transparent: for every schedule of restarts, the chain of runs of a program without
jumps, and that of every graph that it may run, ends like the straight run in the same world, in
which no restart is ever due: with the same fault, or with the same output, and for a program with
the same final scope, without a marker. It has had the same effects on the world. The program is
compiled from a document of built-in kinds, the answers of handlers and signals are functions of the
effects before them and are no requests for restarts, and nothing that is evaluated while replaying
fails. -/
theorem restarts_transparent {options : ProgramOptions} {w : Workflow} {e : Setting}
    (hp : Program.compile Kinds.standard options w = .ok e.program) (hfree : e.program.JumpFree)
    {m : Machine} (hw : m.world.Honest) (depth : Nat) :
    (∀ input env,
      Agree Outcome.Same
        ((Host.programRun e.program input env).run.play (m.within e depth) .first)
        ((Host.programRun e.program input env).run.play (m.steady.within e depth) .first)) ∧
    ∀ name, e.program.Entry name → ∀ c input (s : Scope) (mo : Moment), s.marker = none →
      Agree Eq
        ((runGraph e.program c name input s).run.play (m.within e depth) mo)
        ((runGraph e.program c name input s).run.play (m.steady.within e depth) mo) := by
  refine ⟨fun input env => ?_, fun name hentry c input s mo hs => ?_⟩
  · exact meets_programRun hp hfree hw depth input env .first .first rfl
  · exact (meets_runGraph hp hfree hw depth c c name input s hentry hs).mono
      (fun _ _ h => h.1) mo mo rfl

theorem call_of_mem_pair {child : Child Step} (h : child ∈ Pair.graph.children) :
    child.base.next = none ∧ ∃ call timeout, child.action = .call call timeout := by
  simp only [Pair.graph, List.mem_cons, List.not_mem_nil, or_false] at h
  rcases h with rfl | rfl <;> exact ⟨rfl, _, _, rfl⟩

theorem jumpFree_pair : Pair.setting.program.JumpFree := by
  have hroot {name : String} {g : Graph} (found : Pair.setting.program.graph name = .ok g) :
      g = Pair.graph := List.mem_singleton.1 (Program.mem_of_graph found).1
  refine ⟨fun name g _ found child mem target => ?_,
    fun name g _ found child mem inner inside => ?_,
    fun name g _ found => ?_⟩
  · obtain rfl := hroot found
    rw [(call_of_mem_pair mem).1]
    exact nofun
  · obtain rfl := hroot found
    obtain ⟨-, call, timeout, haction⟩ := call_of_mem_pair mem
    rw [haction] at inside
    cases inside
    exact id
  · obtain rfl := hroot found
    decide

/-- Two calls with a restart in between. -/
theorem restarts_transparent_of_pair :
    Program.compile Kinds.standard .standard Pair.workflow = .ok Pair.setting.program ∧
      Pair.setting.program.JumpFree ∧ World.calm.Honest ∧
      Agree Outcome.Same
        ((Host.programRun Pair.setting.program .null []).run.play
          (Machine.within ⟨.calm, fun _ => true⟩ Pair.setting 1) .first)
        ((Host.programRun Pair.setting.program .null []).run.play
          ((Machine.steady ⟨.calm, fun _ => true⟩).within Pair.setting 1) .first) ∧
      ((Host.programRun Pair.setting.program .null []).run.play
        (Machine.within ⟨.calm, fun _ => true⟩ Pair.setting 1) .first).2.stumbled = false ∧
      ((Host.programRun Pair.setting.program .null []).run.play
        (Machine.within ⟨.calm, fun _ => true⟩ Pair.setting 1) .first).1.map
          (·.toOption.map Outcome.restarts) = some (some 1) :=
  ⟨Pair.compiled, jumpFree_pair, World.honest_calm,
    (restarts_transparent Pair.compiled jumpFree_pair World.honest_calm 1).1 .null [],
    by decide +kernel, by decide +kernel⟩

/-- A machine on which the first call is answered with a request for a restart at a child that there
is not. -/
def straying : Machine :=
  ⟨.forging "x" "root" { Scope.start .null [] with marker := some "gone" }, fun _ => false⟩

/-- After such an answer the last run passes over every child and ends on its way to the marker. -/
theorem forged_marker_remains :
    Program.compile Kinds.standard .standard Pair.workflow = .ok Pair.setting.program ∧
      Pair.setting.program.JumpFree ∧
      ¬ Agree Outcome.Same
        ((Host.programRun Pair.setting.program .null []).run.play (straying.within Pair.setting 1)
          .first)
        ((Host.programRun Pair.setting.program .null []).run.play
          (straying.steady.within Pair.setting 1) .first) := by
  refine ⟨Pair.compiled, jumpFree_pair, fun h => ?_⟩
  obtain ⟨halike, -⟩ := h (by decide +kernel)
  have hmarker : ((Host.programRun Pair.setting.program .null []).run.play
      (straying.within Pair.setting 1) .first).1.map (·.toOption.map (·.scope.marker)) =
        some (some (some "gone")) := by decide +kernel
  revert halike hmarker
  generalize (Dialogue.play (straying.within Pair.setting 1) _ _).1 = x
  generalize (Dialogue.play (straying.steady.within Pair.setting 1) _ _).1 = x'
  intro halike hmarker
  cases halike with
  | unended => cases hmarker
  | fault => cases hmarker
  | value related =>
    have hgone := Option.some_inj.1 (Option.some_inj.1 hmarker)
    exact nomatch related.2.2.symm.trans hgone

end Restart

end TaskGraph

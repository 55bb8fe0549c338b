import TaskGraph.Program.Compiling
import TaskGraph.Proofs.Program.Steps

/-!
# What compiling guarantees

Every list of a compiled program, nested lists included, has distinct names, and the identifier of
each child is made of its name and its ordinal (`Children.Compiled`). So no two children of a list
share an identifier, and a marker names one child. If the kinds of the program are built in, only
nested lists and listeners to queries are replayed. And a compiled program is closed: every name that
one of its steps refers to is that of a graph (`Children.Closed`).

The proof follows the recursion of the compiler: `Compiling.Yields` says what a step of compiling
returns, and that what it adds to the registration is sound, where a name may be noted before the
graph of that name is met.
-/

set_option autoImplicit false

namespace TaskGraph

/-! ## Identifiers -/

theorem Decimal.natText_injective {m n : Nat} (h : Decimal.natText m = Decimal.natText n) :
    m = n := by
  have hdigits : Nat.toDigits 10 m = Nat.toDigits 10 n := by
    rw [← Nat.toList_repr, ← Nat.toList_repr]
    exact congrArg String.toList h
  rw [← Nat.ofDigitChars_ten_toDigits (n := m), hdigits, Nat.ofDigitChars_ten_toDigits]

/-- The last digits of an identifier are its ordinal. -/
theorem Naming.digits_of_childId (name : String) (ordinal : Nat) :
    (Naming.childId name ordinal).toList.reverse.takeWhile Char.isDigit =
      (Decimal.natText ordinal).toList.reverse := by
  have hdigits : ∀ c ∈ (Decimal.natText ordinal).toList.reverse, c.isDigit := by
    intro c hc
    refine Nat.isDigit_of_mem_toDigits (n := ordinal) (b := 10) (by omega) (by omega) ?_
    rw [← Nat.toList_repr]
    exact List.mem_reverse.1 hc
  unfold childId
  simp only [String.toList_append, List.reverse_append]
  rw [List.takeWhile_append_of_pos hdigits]
  simp

/-- Children with the same identifier have the same ordinal. -/
theorem Naming.ordinal_of_childId {a b : String} {i j : Nat}
    (h : Naming.childId a i = Naming.childId b j) : i = j := by
  have hi := digits_of_childId a i
  rw [h, digits_of_childId b j] at hi
  exact Decimal.natText_injective (String.toList_injective (List.reverse_inj.1 hi)).symm

/-! ## Lists -/

/-- Whether the kinds that a program may use are all built in. -/
def Kinds.BuiltIn (kinds : Kinds) : Prop :=
  ∀ tag kind, kinds.find? tag = some kind → kind = .builtIn

/-- What compiling guarantees about a list. -/
structure Children.Compiled (kinds : Kinds) (children : Children) : Prop where
  nodup : (children.map Child.name).Nodup
  ids : children.map Child.id =
    (children.map Child.name).mapIdx fun ordinal name => Naming.childId name ordinal
  quiet : kinds.BuiltIn → ∀ child ∈ children, child.replayed = true → child.action.Quiet

/-- Whether a property holds of a list and of every list nested in it. -/
def Children.Everywhere (P : Children → Prop) (children : Children) : Prop :=
  P children ∧ ∀ child ∈ children, child.action.Lists P

/-- What compiling guarantees about a graph. -/
def Graph.Compiled (kinds : Kinds) (g : Graph) : Prop :=
  g.children.Everywhere (Children.Compiled kinds)

theorem Step.lists_block {P : Children → Prop} {children : Children}
    (h : children.Everywhere P) : (Step.block children).Lists P := by
  intro inner hinner
  cases hinner with
  | self => exact h.1
  | block mem inside => exact h.2 _ mem inner inside

/-- Only a nested list has lists inside it. -/
theorem Step.lists_of_ne {P : Children → Prop} {step : Step}
    (h : ∀ children, step ≠ .block children) :
    step.Lists P := by
  intro inner hinner
  cases hinner with
  | self => exact absurd rfl (h inner)
  | block => exact absurd rfl (h _)

/-! ## Registrations -/

namespace Registration

/-- Whether a registration has all that another one has. -/
structure Grows (r r' : Registration) : Prop where
  graphs : r.graphs ⊆ r'.graphs
  references : r.references ⊆ r'.references

theorem Grows.refl (r : Registration) : r.Grows r := ⟨List.Subset.refl _, List.Subset.refl _⟩

theorem Grows.trans {r r' r'' : Registration} (h : r.Grows r') (h' : r'.Grows r'') : r.Grows r'' :=
  ⟨List.Subset.trans h.graphs h'.graphs, List.Subset.trans h.references h'.references⟩

/-- Whether a name is registered. -/
def Has (r : Registration) (name : String) : Prop := ∃ g ∈ r.graphs, g.name = name

theorem Has.grows {r r' : Registration} {name : String} (h : r.Has name) (hr : r.Grows r') :
    r'.Has name :=
  h.imp fun _ hg => hg.imp_left fun hmem => hr.graphs hmem

/-- Whether a name is registered, or noted as one that has to be. -/
def Expects (r : Registration) (name : String) : Prop :=
  r.Has name ∨ ∃ task, (task, name) ∈ r.references

theorem Expects.grows {r r' : Registration} {name : String} (h : r.Expects name)
    (hr : r.Grows r') : r'.Expects name :=
  h.imp (fun hhas => hhas.grows hr) fun ⟨task, htask⟩ => ⟨task, hr.references htask⟩

end Registration

/-- Whether a registration has what the step of a task refers to: the names of graphs, noted if they are
neither registered nor compiled along with the step, and, for a nested list, the list itself under the
name of the task. -/
structure Step.Settled (r : Registration) (task : String) (step : Step) : Prop where
  named : ∀ name, step.Names name → r.Expects name
  built : ∀ name, step.Builds name → r.Has name
  nested : ∀ list, step = .block list → (⟨task, list, none⟩ : Graph) ∈ r.graphs

theorem Step.Settled.grows {r r' : Registration} {task : String} {step : Step}
    (h : step.Settled r task) (hr : r.Grows r') : step.Settled r' task where
  named name hname := (h.named name hname).grows hr
  built name hname := (h.built name hname).grows hr
  nested list hlist := hr.graphs (h.nested list hlist)

/-- A step that may refer to graphs, and that is no list. -/
theorem Step.settled_of_names {r : Registration} {task : String} {step : Step}
    (hnames : ∀ name, step.Names name → r.Expects name)
    (hbuilds : ∀ name, step.Builds name → r.Has name) (hblock : ∀ list, step ≠ .block list) :
    step.Settled r task :=
  ⟨hnames, hbuilds, fun list hlist => absurd hlist (hblock list)⟩

/-- A step that refers to nothing. -/
theorem Step.settled_of_nothing {r : Registration} {task : String} {step : Step}
    (hnames : ∀ name, ¬ step.Names name) (hblock : ∀ list, step ≠ .block list) :
    step.Settled r task :=
  settled_of_names (fun name hname => absurd hname (hnames name))
    (fun name hname => absurd (names_of_builds hname) (hnames name)) hblock

/-- What is known of a list by the time that a registration is there. -/
structure Children.Sound (kinds : Kinds) (r : Registration) (children : Children) : Prop
    extends children.Compiled kinds where
  settled : ∀ child ∈ children, child.action.Settled r child.name

theorem Children.Sound.grows {kinds : Kinds} {r r' : Registration} {children : Children}
    (h : children.Sound kinds r) (hr : r.Grows r') : children.Sound kinds r' :=
  ⟨h.toCompiled, fun child hchild => (h.settled child hchild).grows hr⟩

theorem Step.Lists.mono {P P' : Children → Prop} {step : Step} (h : step.Lists P)
    (imp : ∀ children, P children → P' children) : step.Lists P' :=
  fun children hinside => imp children (h children hinside)

theorem Children.Everywhere.mono {P P' : Children → Prop} {children : Children}
    (h : children.Everywhere P) (imp : ∀ children, P children → P' children) :
    children.Everywhere P' :=
  ⟨imp children h.1, fun child hchild => (h.2 child hchild).mono imp⟩

/-- What is known of a registration. -/
structure Registration.Sound (kinds : Kinds) (r : Registration) : Prop where
  nodup : (r.graphs.map Graph.name).Nodup
  graphs : ∀ g ∈ r.graphs, g.children.Everywhere (Children.Sound kinds r)
  /-- A graph is registered after what is compiled along with its children. -/
  ordered : ∀ before g after, r.graphs = before ++ g :: after →
    g.children.Everywhere (Children.Sound kinds ⟨before, r.references⟩)

theorem Registration.Sound.empty (kinds : Kinds) : Registration.empty.Sound kinds := by
  refine ⟨List.nodup_nil, fun _ hg => (List.not_mem_nil hg).elim, fun before _ _ hsplit => ?_⟩
  cases before <;> cases hsplit

/-! ## Compiling -/

namespace Compiling

variable {α β : Type} {kinds : Kinds} {r : Registration} {Q : Registration → α → Prop}
  {R : Registration → β → Prop}

/-- Whether a step of compiling, from a registration on, adds to it what is sound and returns a value
with a property. -/
def Yields (kinds : Kinds) (r : Registration) (Q : Registration → α → Prop)
    (compiling : Compiling α) : Prop :=
  r.Sound kinds → r.Grows (Compiling.run compiling r).2 ∧
    (Compiling.run compiling r).2.Sound kinds ∧
    ∀ a, (Compiling.run compiling r).1 = .ok a → Q (Compiling.run compiling r).2 a

theorem yields_pure {a : α} (h : Q r a) : Yields kinds r Q (pure a) := by
  intro hr
  refine ⟨.refl r, hr, fun b hb => ?_⟩
  cases hb
  exact h

theorem yields_lift {x : Except Fault α} (h : ∀ a, x = .ok a → Q r a) :
    Yields kinds r Q (liftM x : Compiling α) :=
  fun hr => ⟨.refl r, hr, h⟩

theorem yields_throw {f : Fault} : Yields kinds r Q (throw f) := by
  intro hr
  exact ⟨.refl r, hr, fun b hb => nomatch hb⟩

/-- A step behind another one is taken if that succeeds, from what that has registered on. -/
theorem run_bind (compiling : Compiling α) (k : α → Compiling β) (r : Registration) :
    Compiling.run (compiling >>= k) r = match Compiling.run compiling r with
      | (.ok a, r) => Compiling.run (k a) r
      | (.error f, r) => (.error f, r) := by
  show (ExceptT.bind compiling k : Compiling β) r = _
  -- the state of the compiler is kept by a fault, so the registration is known in both cases
  unfold ExceptT.bind ExceptT.mk Compiling.run
  show (match compiling r with | (x, r) => ExceptT.bindCont k x r) = _
  rcases compiling r with ⟨_ | a, r⟩ <;> rfl

/-- A step that goes on as another one and succeeds, by the steps that it is made of. -/
theorem ok_of_bind {c : Compiling α} {k : α → Compiling β} {r r' : Registration} {b : β}
    (h : run (c >>= k) r = (.ok b, r')) :
    ∃ a mid, run c r = (.ok a, mid) ∧ run (k a) mid = (.ok b, r') := by
  rw [run_bind] at h
  rcases hc : run c r with ⟨f | a, mid⟩
  · rw [hc] at h
    cases h
  · rw [hc] at h
    exact ⟨a, mid, rfl, h⟩

theorem yields_bind {compiling : Compiling α} {k : α → Compiling β}
    (h : Yields kinds r Q compiling)
    (hk : ∀ r' a, r.Grows r' → Q r' a → Yields kinds r' R (k a)) :
    Yields kinds r R (compiling >>= k) := by
  intro hr
  obtain ⟨hgrows, hsound, hvalue⟩ := h hr
  rw [run_bind]
  rcases hx : Compiling.run compiling r with ⟨f | a, r'⟩
  · rw [hx] at hgrows hsound
    exact ⟨hgrows, hsound, fun b hb => nomatch hb⟩
  · rw [hx] at hgrows hsound hvalue
    obtain ⟨hgrows', hsound', hvalue'⟩ := hk r' a hgrows (hvalue a rfl) hsound
    exact ⟨hgrows.trans hgrows', hsound', hvalue'⟩

theorem Yields.mono {Q' : Registration → α → Prop} {compiling : Compiling α}
    (h : Yields kinds r Q compiling) (imp : ∀ r' a, r.Grows r' → Q r' a → Q' r' a) :
    Yields kinds r Q' compiling := by
  intro hr
  obtain ⟨hgrows, hsound, hvalue⟩ := h hr
  exact ⟨hgrows, hsound, fun a ha => imp _ a hgrows (hvalue a ha)⟩

/-- What a registration has becomes more when a sound graph of a new name is added. -/
theorem yields_register {g : Graph} (h : g.children.Everywhere (Children.Sound kinds r)) :
    Yields kinds r (fun r' _ => g ∈ r'.graphs) (register g) := by
  intro hr
  unfold register Compiling.run
  dsimp only
  split
  · exact ⟨.refl r, hr, fun _ hx => nomatch hx⟩
  · next hfind =>
    -- the name is free, since a graph of this name would have been found
    have hnew : ∀ g' ∈ r.graphs, g'.name ≠ g.name := by
      intro g' hg'
      simpa using List.find?_eq_none.1 hfind g' hg'
    have hgrows : r.Grows ⟨r.graphs ++ [g], r.references⟩ :=
      ⟨List.subset_append_left .., List.Subset.refl _⟩
    refine ⟨hgrows, ⟨?_, fun g' hg' => ?_, fun before g' after hsplit => ?_⟩,
      fun _ _ => List.mem_append_right _ (List.mem_singleton.2 rfl)⟩
    · rw [List.map_append]
      refine List.nodup_append.2 ⟨hr.nodup, by simp, fun name hname name' hname' => ?_⟩
      obtain ⟨g', hg', rfl⟩ := List.mem_map.1 hname
      rw [List.mem_singleton.1 hname']
      exact hnew g' hg'
    · have hg'' : g'.children.Everywhere (Children.Sound kinds r) := by
        rcases List.mem_append.1 hg' with hold | hadded
        · exact hr.graphs g' hold
        · rw [List.mem_singleton.1 hadded]
          exact h
      exact hg''.mono fun _ hlist => hlist.grows hgrows
    · -- the graph that is added is the last one
      rcases List.eq_nil_or_concat after with rfl | ⟨init, last, rfl⟩
      · obtain ⟨rfl, hlast⟩ := List.append_inj' hsplit rfl
        cases hlast
        exact h
      · have hinit : r.graphs = before ++ g' :: init := by
          have hsplit' : r.graphs ++ [g] = (before ++ g' :: init) ++ [last] := by simpa using hsplit
          exact (List.append_inj' hsplit' rfl).1
        exact hr.ordered before g' init hinit

theorem yields_require (task graph : String) :
    Yields kinds r (fun r' _ => r'.Expects graph) (require task graph) := by
  intro hr
  have hgrows : r.Grows ⟨r.graphs, r.references ++ [(task, graph)]⟩ :=
    ⟨List.Subset.refl _, List.subset_append_left ..⟩
  refine ⟨hgrows, ⟨hr.nodup, fun g hg => (hr.graphs g hg).mono fun _ h => h.grows hgrows, ?_⟩, ?_⟩
  · exact fun before g after hsplit => (hr.ordered before g after hsplit).mono fun _ h =>
      h.grows ⟨List.Subset.refl _, List.subset_append_left ..⟩
  · exact fun _ _ => .inr ⟨task, List.mem_append_right _ (by simp)⟩

theorem yields_forM {γ : Type} (xs : List γ) {f : γ → Compiling Unit} {P : Registration → γ → Prop}
    (hP : ∀ r r' x, Registration.Grows r r' → P r x → P r' x)
    (h : ∀ r x, Yields kinds r (fun r' _ => P r' x) (f x)) :
    Yields kinds r (fun r' _ => ∀ x ∈ xs, P r' x) (xs.forM f) := by
  induction xs generalizing r with
  | nil => exact yields_pure nofun
  | cons x xs ih =>
    refine yields_bind (h r x) fun r' _ _ hx => ih.mono fun r'' _ hgrows hxs => ?_
    exact List.forall_mem_cons.2 ⟨hP r' r'' x hgrows hx, hxs⟩

/-! ## Distinct names -/

/-- A list of names holds no name twice, nor one that was seen before. -/
theorem repeated?_eq_none {seen names : List String} :
    repeated? seen names = none ↔ names.Nodup ∧ ∀ name ∈ names, name ∉ seen := by
  induction names generalizing seen with
  | nil => simp [repeated?]
  | cons name names ih =>
    unfold repeated?
    by_cases hseen : name ∈ seen
    · simp [hseen]
    · rw [if_neg (by simpa using hseen), ih, List.nodup_cons, List.forall_mem_cons]
      constructor
      · rintro ⟨hnodup, hfresh⟩
        exact ⟨⟨fun hmem => hfresh name hmem (List.mem_cons_self ..), hnodup⟩, hseen,
          fun other hmem hold => hfresh other hmem (List.mem_cons_of_mem _ hold)⟩
      · rintro ⟨⟨hnew, hnodup⟩, -, hfresh⟩
        refine ⟨hnodup, fun other hmem hold => ?_⟩
        rcases List.mem_cons.1 hold with rfl | hold
        · exact hnew hmem
        · exact hfresh other hmem hold

theorem nodup_of_distinct {graph : String} {names : List String}
    (h : distinct graph names = .ok ()) : names.Nodup := by
  unfold distinct at h
  cases hrepeated : repeated? [] names with
  | none => exact (repeated?_eq_none.1 hrepeated).1
  | some name =>
    rw [hrepeated] at h
    cases h

/-! ## Tasks -/

/-- What compiling a task makes of it. -/
structure Fits (kinds : Kinds) (r : Registration) (ordinal : Nat) (name : String)
    (child : Child Step) : Prop where
  called : child.name = name
  id : child.id = Naming.childId name ordinal
  quiet : kinds.BuiltIn → child.replayed = true → child.action.Quiet
  settled : child.action.Settled r name
  lists : child.action.Lists (Children.Sound kinds r)

theorem Fits.grows {kinds : Kinds} {r r' : Registration} {ordinal : Nat} {name : String}
    {child : Child Step} (h : Fits kinds r ordinal name child) (hr : r.Grows r') :
    Fits kinds r' ordinal name child :=
  { h with
    settled := h.settled.grows hr
    lists := h.lists.mono fun _ hlist => hlist.grows hr }

/-- What compiling the tasks of a list makes of them. -/
structure Listed (kinds : Kinds) (r : Registration) (ordinal : Nat) (names : List String)
    (children : Children) : Prop where
  called : children.map Child.name = names
  ids : children.map Child.id = names.mapIdx fun i name => Naming.childId name (ordinal + i)
  quiet : kinds.BuiltIn → ∀ child ∈ children, child.replayed = true → child.action.Quiet
  settled : ∀ child ∈ children, child.action.Settled r child.name
  lists : ∀ child ∈ children, child.action.Lists (Children.Sound kinds r)

theorem Listed.nil (kinds : Kinds) (r : Registration) (ordinal : Nat) :
    Listed kinds r ordinal [] [] :=
  ⟨rfl, rfl, fun _ _ h => (List.not_mem_nil h).elim, fun _ h => (List.not_mem_nil h).elim,
    fun _ h => (List.not_mem_nil h).elim⟩

theorem Listed.cons {kinds : Kinds} {r : Registration} {ordinal : Nat} {name : String}
    {names : List String} {child : Child Step} {children : Children}
    (h : Fits kinds r ordinal name child) (hs : Listed kinds r (ordinal + 1) names children) :
    Listed kinds r ordinal (name :: names) (child :: children) where
  called := by rw [List.map_cons, h.called, hs.called]
  ids := by
    rw [List.map_cons, h.id, hs.ids, List.mapIdx_cons]
    simp only [Nat.add_zero, Nat.add_assoc, Nat.add_comm 1]
  quiet hkinds := List.forall_mem_cons.2 ⟨h.quiet hkinds, hs.quiet hkinds⟩
  settled := List.forall_mem_cons.2 ⟨h.called ▸ h.settled, hs.settled⟩
  lists := List.forall_mem_cons.2 ⟨h.lists, hs.lists⟩

/-- A list whose tasks are compiled well is compiled well if its names are distinct. -/
theorem Listed.everywhere {kinds : Kinds} {r : Registration} {names : List String}
    {children : Children} (h : Listed kinds r 0 names children) (nodup : names.Nodup) :
    children.Everywhere (Children.Sound kinds r) := by
  refine ⟨⟨⟨by rw [h.called]; exact nodup, ?_, h.quiet⟩, h.settled⟩, h.lists⟩
  rw [h.ids, h.called]
  simp

variable (kinds)

theorem yields_listed {graph : String} {names : List String} {compiling : Compiling Children}
    (h : ∀ r, Yields kinds r (fun r' => Listed kinds r' 0 names) compiling) (r : Registration) :
    Yields kinds r (fun r' => Children.Everywhere (Children.Sound kinds r'))
      (listed graph names compiling) :=
  yields_bind (Q := fun _ _ => names.Nodup) (yields_lift fun _ hx => nodup_of_distinct hx)
    fun r' _ _ nodup => (h r').mono fun _ _ _ hlisted => hlisted.everywhere nodup

theorem yields_registered {graph : String} {names : List String} {compiling : Compiling Children}
    (h : ∀ r, Yields kinds r (fun r' => Listed kinds r' 0 names) compiling) (r : Registration) :
    Yields kinds r (fun r' cs => cs.Everywhere (Children.Sound kinds r') ∧
      (⟨graph, cs, none⟩ : Graph) ∈ r'.graphs) (registered graph names compiling) :=
  yields_bind (yields_listed kinds h r) fun _ cs _ hcs =>
    yields_bind (yields_register (g := ⟨graph, cs, none⟩) hcs) fun _ _ hgrows hmem =>
      yields_pure ⟨hcs.mono fun _ hlist => hlist.grows hgrows, hmem⟩

/-- A name that a list is registered under. -/
theorem yields_named {graph : String} {names : List String} {compiling : Compiling Children}
    (h : ∀ r, Yields kinds r (fun r' => Listed kinds r' 0 names) compiling) (r : Registration) :
    Yields kinds r (fun r' _ => r'.Has graph) (registered graph names compiling) :=
  (yields_registered kinds h r).mono fun _ _ _ hcs => ⟨_, hcs.2, rfl⟩

theorem yields_unlessEmpty {graph : String} {tasks : TaskList} {compiling : Compiling Children}
    (h : ∀ r, Yields kinds r (fun r' _ => r'.Has graph) compiling) (r : Registration) :
    Yields kinds r (fun r' result => ∀ name, result = some name → r'.Has name)
      (unlessEmpty graph tasks compiling) := by
  unfold unlessEmpty
  split
  · exact yields_pure nofun
  · refine yields_bind (h r) fun _ _ _ hgraph => yields_pure fun name hname => ?_
    cases hname
    exact hgraph

/-- A listener to queries alone waits for nothing. -/
theorem quiet_of_listener {task : String} {l : Listener} {step : Step}
    (h : listener task l = .ok step) (hqueries : l.onlyQueries = true) : step.Quiet := by
  unfold listener at h
  split at h
  · cases h
  · split at h
    · cases h
    · simp only [Listener.onlyQueries, Bool.and_eq_true, List.all_eq_true] at hqueries
      simp only [List.partition_eq_filter_filter, Except.ok.injEq] at h
      rw [← h, Step.Quiet, List.map_eq_nil_iff, List.filter_eq_nil_iff]
      intro event hevent
      simp [hqueries.2 event hevent]

theorem listen_of_listener {task : String} {l : Listener} {step : Step}
    (h : listener task l = .ok step) : ∃ mode waits queries, step = .listen mode waits queries := by
  unfold listener at h
  split at h
  · cases h
  · split at h
    · cases h
    · cases h
      exact ⟨_, _, _, rfl⟩

/-- The kind of a task is one of the kinds of the program. -/
theorem kind_of_builder {name : String} {action : Action} {kind : TaskKind} {replayed : Bool}
    (h : kinds.builder name action = .ok (kind, replayed)) :
    kinds.find? action.tag = some kind := by
  unfold Kinds.builder at h
  cases hfind : kinds.find? action.tag with
  | none =>
    rw [hfind] at h
    cases h
  | some found =>
    rw [hfind] at h
    cases found with
    | custom =>
      cases h
      rfl
    | builtIn =>
      split at h
      · cases h
      · next heq => cases heq
      · cases h
      · cases h
        rfl

theorem replayed_of_builder {name : String} {action : Action} {replayed : Bool}
    (h : kinds.builder name action = .ok (.builtIn, replayed)) : replayed = action.replayed := by
  unfold Kinds.builder at h
  split at h
  · cases h
  · cases h
  · cases h
  · cases h
    rfl

/-- What compiling makes of what a task does: the lists inside it and what it refers to are sound,
and it is quiet if it is to be replayed. -/
structure Built (kinds : Kinds) (r : Registration) (task : String) (replayed : Bool) (step : Step) :
    Prop where
  lists : step.Lists (Children.Sound kinds r)
  settled : step.Settled r task
  quiet : replayed = true → step.Quiet

/-- A step that is no list and is not replayed. -/
theorem Built.of_named {r : Registration} {task : String} {step : Step}
    (hblock : ∀ list, step ≠ .block list) (hnames : ∀ name, step.Names name → r.Expects name)
    (hbuilds : ∀ name, step.Builds name → r.Has name) : Built kinds r task false step :=
  ⟨Step.lists_of_ne hblock, Step.settled_of_names hnames hbuilds hblock, nofun⟩

/-- The same for a step whose graphs are all compiled along with it. -/
theorem Built.of_built {r : Registration} {task : String} {step : Step}
    (hblock : ∀ list, step ≠ .block list) (hall : ∀ name, step.Names name → step.Builds name)
    (hbuilds : ∀ name, step.Builds name → r.Has name) : Built kinds r task false step :=
  .of_named kinds hblock (fun name hname => .inl (hbuilds name (hall name hname))) hbuilds

/-- A step that refers to nothing and is not replayed. -/
theorem Built.of_nothing {r : Registration} {task : String} {step : Step}
    (hblock : ∀ list, step ≠ .block list) (hnames : ∀ name, ¬ step.Names name) :
    Built kinds r task false step :=
  .of_named kinds hblock (fun name hname => absurd hname (hnames name)) fun name hname =>
    absurd (Step.names_of_builds hname) (hnames name)

theorem yields_switch (task : String) (cases : List SwitchCase) (r : Registration) :
    Yields kinds r (fun r' => Built kinds r' task false) (switch task cases) := by
  unfold switch
  split
  · exact yields_throw
  · refine yields_bind (Q := fun r' _ => ∀ case ∈ cases, ∀ name,
      case.next = some (.target name) → r'.Expects name) ?_ fun r' _ _ hcases => ?_
    · refine yields_forM cases (P := fun r' case => ∀ name,
        case.next = some (.target name) → r'.Expects name)
        (fun _ _ _ hgrows h name hname => (h name hname).grows hgrows) fun r case => ?_
      split
      · next graph hgraph =>
        refine (yields_require task graph).mono fun _ _ _ hexpects name hname => ?_
        obtain rfl : graph = name := by simpa [hgraph] using hname
        exact hexpects
      · next hother => exact yields_pure fun name hname => absurd hname (hother name)
    · refine yields_pure (.of_named kinds nofun (fun name hname => ?_) fun _ hname => hname.elim)
      obtain ⟨case, hcase, hnext⟩ := hname
      exact hcases case hcase name hnext

theorem yields_checkRun (task : String) (run : ProcessRun) (r : Registration) :
    Yields kinds r (fun r' _ => ∀ process, run.process = .workflow process →
      Evaluation.isExpression process.name = false → r'.Expects process.name)
      (checkRun task run) := by
  unfold checkRun
  split
  · next process hprocess =>
    split
    · exact yields_throw
    · split
      · next hexpression =>
        refine yields_pure fun process' hprocess' hliteral => ?_
        obtain rfl : process = process' := by simpa [hprocess] using hprocess'
        exact absurd hexpression (by simp [hliteral])
      · refine (yields_require task process.name).mono fun _ _ _ hexpects process' hprocess' _ => ?_
        obtain rfl : process = process' := by simpa [hprocess] using hprocess'
        exact hexpects
  · next hother => exact yields_lift fun _ _ process hprocess => absurd hprocess (hother process)

mutual

theorem yields_child (graph : String) (siblings : List String) (ordinal : Nat) :
    (task : Task) → (r : Registration) → Yields kinds r
      (fun r' => Fits kinds r' ordinal task.name) (child kinds graph siblings ordinal task)
  | ⟨name, base, action⟩, r => by
    rw [child.eq_def]
    refine yields_bind (Q := fun _ _ => True) (yields_lift fun _ _ => trivial) fun r' _ _ _ => ?_
    refine yields_bind (Q := fun _ x => kinds.builder name action = .ok x)
      (yields_lift fun _ h => h) fun r' ⟨kind, replayed⟩ _ hbuilder => ?_
    -- only the quietness of a replayed child depends on the kinds being built in
    cases kind with
    | builtIn =>
      refine yields_bind (yields_step graph name base action r') fun r' step _ hstep =>
        yields_pure ⟨rfl, rfl, fun _ hreplayed => hstep.quiet ?_, hstep.settled, hstep.lists⟩
      rw [← replayed_of_builder kinds hbuilder]
      exact hreplayed
    | custom replayedKind =>
      have hbuilt : Built kinds r' name false (.custom action.structureBody) :=
        .of_nothing kinds nofun fun _ => id
      refine yields_pure ⟨rfl, rfl, fun hkinds => ?_, hbuilt.settled, hbuilt.lists⟩
      exact nomatch hkinds _ _ (kind_of_builder kinds hbuilder)

/-- The step of a task has lists inside it that are compiled well, and it is quiet if the task is to
be replayed. -/
theorem yields_step (graph name : String) (base : TaskBase) :
    (action : Action) → (r : Registration) → Yields kinds r
      (fun r' => Built kinds r' name action.replayed) (step kinds graph name base action)
  | .block tasks, r => by
    rw [step.eq_def]
    refine yields_bind
      (yields_registered kinds (yields_children name (names tasks) 0 tasks) r)
      fun r' cs _ hcs => yields_pure
        ⟨Step.lists_block hcs.1, ⟨fun _ h => h.elim, fun _ h => h.elim, ?_⟩, fun _ => trivial⟩
    rintro list ⟨⟩
    exact hcs.2
  | .loop spec condition body, r => by
    rw [step.eq_def]
    refine yields_bind (yields_named kinds (yields_children _ (names body) 0 body) r)
      fun r' _ _ hbody => yields_pure (.of_built kinds nofun (fun _ => id) fun name hname => ?_)
    exact hname ▸ hbody
  | .fork compete tasks, r => by
    rw [step.eq_def]
    refine yields_bind (yields_branches graph name tasks r) fun r' bs _ hbs =>
      yields_pure (.of_built kinds nofun (fun _ => id) fun name hname => ?_)
    obtain ⟨branch, hbranch, rfl⟩ := hname
    exact hbs branch hbranch
  | .switch cases, r => by
    rw [step.eq_def]
    exact yields_switch kinds name cases r
  | .attempt body binding handler, r => by
    rw [step.eq_def]
    refine yields_bind (yields_unlessEmpty kinds
        (yields_named kinds (yields_children _ (names body) 0 body)) r) fun r' _ _ hbody =>
      yields_bind (yields_unlessEmpty kinds
        (yields_named kinds (yields_children _ (names handler) 0 handler)) r')
        fun r'' _ hgrows hhandler => yields_pure (.of_built kinds nofun (fun _ => id) fun name hname => ?_)
    -- the body was registered before the handler was, and is still there
    rcases hname with hname | hname
    · exact (hbody name hname).grows hgrows
    · exact hhandler name hname
  | .call call, r => by
    rw [step.eq_def]
    exact yields_bind (Q := fun _ _ => True) (yields_lift fun _ _ => trivial) fun r' _ _ _ =>
      yields_bind (Q := fun _ _ => True) (yields_lift fun _ _ => trivial) fun r' _ _ _ =>
      yields_pure (.of_nothing kinds nofun fun _ => id)
  | .run run, r => by
    rw [step.eq_def]
    refine yields_bind (yields_checkRun kinds name run r) fun r' _ _ hrun =>
      yields_bind (Q := fun _ _ => True) (yields_lift fun _ _ => trivial) fun r'' _ hgrows _ =>
      yields_pure (.of_named kinds nofun (fun name hname => ?_) fun _ hname => hname.elim)
    -- only a name that is given literally is checked, and only such a name is a reference
    obtain ⟨process, hprocess, hliteral, rfl⟩ := hname
    exact (hrun process hprocess hliteral).grows hgrows
  | .wait d, r => by
    rw [step.eq_def]
    exact yields_bind (Q := fun _ _ => True) (yields_lift fun _ _ => trivial) fun r' _ _ _ =>
      yields_pure (.of_nothing kinds nofun fun _ => id)
  | .raise error, r => by
    rw [step.eq_def]
    exact yields_pure (.of_nothing kinds nofun fun _ => id)
  | .listen l, r => by
    rw [step.eq_def]
    refine yields_lift fun step hstep => ?_
    obtain ⟨mode, waits, queries, rfl⟩ := listen_of_listener hstep
    exact ⟨Step.lists_of_ne nofun, Step.settled_of_nothing (fun _ => id) nofun,
      quiet_of_listener hstep⟩
  | .assign value, r => by
    rw [step.eq_def]
    exact yields_pure (.of_nothing kinds nofun fun _ => id)
  | .custom _ body, r => by
    rw [step.eq_def]
    exact yields_pure (.of_nothing kinds nofun fun _ => id)

theorem yields_children (graph : String) (siblings : List String) (ordinal : Nat) :
    (tasks : List Task) → (r : Registration) → Yields kinds r
      (fun r' => Listed kinds r' ordinal (names tasks)) (children kinds graph siblings ordinal tasks)
  | [], r => by
    rw [children.eq_def]
    exact yields_pure (Listed.nil kinds r ordinal)
  | task :: tasks, r => by
    rw [children.eq_def]
    exact yields_bind (yields_child graph siblings ordinal task r) fun r' _ _ hc =>
      yields_bind (yields_children graph siblings (ordinal + 1) tasks r') fun r'' _ hgrows hcs =>
        yields_pure (Listed.cons (hc.grows hgrows) hcs)

theorem yields_branches (graph fork : String) :
    (tasks : List Task) → (r : Registration) → Yields kinds r
      (fun r' bs => ∀ branch ∈ bs, r'.Has branch.graph) (branches kinds graph fork tasks)
  | [], r => by
    rw [branches.eq_def]
    exact yields_pure nofun
  | ⟨name, base, action⟩ :: tasks, r => by
    rw [branches.eq_def]
    have hrest (r : Registration) (hgraph : r.Has (Naming.graphName "fork" graph fork (some name))) :
        Yields kinds r (fun r' bs => ∀ branch ∈ bs, r'.Has branch.graph) (do
          let bs ← branches kinds graph fork tasks
          pure (⟨name, Naming.graphName "fork" graph fork (some name)⟩ :: bs)) :=
      yields_bind (yields_branches graph fork tasks r) fun r' bs hgrows hbs =>
        yields_pure (List.forall_mem_cons.2 ⟨hgraph.grows hgrows, hbs⟩)
    -- a branch that is a block is a graph of its tasks, any other one is a graph of one task
    cases action with
    | block list =>
      exact yields_bind (yields_named kinds (yields_children _ (names list) 0 list) r)
        fun r' _ _ hgraph => hrest r' hgraph
    | _ =>
      refine yields_bind (yields_named kinds (fun r => ?_) r) fun r' _ _ hgraph => hrest r' hgraph
      exact yields_bind (yields_child _ [name] 0 ⟨name, base, _⟩ r) fun r' _ _ hc =>
        yields_pure (Listed.cons hc (Listed.nil kinds r' 1))

end

/-- What is known of a compiled program: what compiling has registered is sound, and all that is
noted is registered. -/
structure Closes (kinds : Kinds) (r : Registration) (p : Program) : Prop where
  graphs : p.graphs = r.graphs
  root : ∃ g ∈ r.graphs, g.name = p.root
  noted : ∀ task name, (task, name) ∈ r.references → ∃ g ∈ r.graphs, g.name = name

theorem yields_closed (r : Registration) :
    Yields kinds r (fun r' _ => ∀ task name, (task, name) ∈ r'.references →
      ∃ g ∈ r'.graphs, g.name = name) closed := by
  intro hr
  unfold closed Compiling.run
  dsimp only
  split
  · exact ⟨.refl r, hr, fun _ hx => nomatch hx⟩
  · next hunknown =>
    refine ⟨.refl r, hr, fun _ _ task name hnoted => ?_⟩
    -- no use is one of a graph that is not registered
    have hfind := List.find?_eq_none.1 hunknown (task, name) hnoted
    cases hg : Graph.find? r.graphs name with
    | none => simp [hg] at hfind
    | some g => exact ⟨g, List.mem_of_find?_eq_some hg, by simpa using List.find?_some hg⟩

theorem yields_workflow (options : ProgramOptions) (w : Workflow) (r : Registration) :
    Yields kinds r (fun r' => Closes kinds r') (workflow kinds options w) := by
  refine yields_bind (Q := fun _ _ => True) (yields_lift fun _ _ => trivial) fun r _ _ _ => ?_
  refine yields_bind (Q := fun r' cs => cs.Everywhere (Children.Sound kinds r'))
    (yields_listed kinds (yields_children kinds w.name (names w.tasks) 0 w.tasks) r)
    fun r cs _ hcs => ?_
  refine yields_bind (yields_register (g := ⟨w.name, cs, w.schema?⟩) hcs) fun r _ _ hroot => ?_
  refine yields_bind (yields_closed kinds r) fun r' _ hgrows hnoted => ?_
  intro hr'
  refine ⟨.refl r', hr', fun p hp => ?_⟩
  cases hp
  exact ⟨rfl, ⟨_, hgrows.graphs hroot, rfl⟩, hnoted⟩

end Compiling

/-! ## Programs -/

namespace Program

/-- A compiled program is what a sound registration has. -/
theorem closes_of_compile {kinds : Kinds} {options : ProgramOptions} {w : Workflow} {p : Program}
    (h : Program.compile kinds options w = .ok p) :
    ∃ r : Registration, r.Sound kinds ∧ Compiling.Closes kinds r p := by
  obtain ⟨-, hsound, hvalue⟩ := Compiling.yields_workflow kinds options w .empty (.empty kinds)
  exact ⟨_, hsound, hvalue p h⟩

/-- Every graph of a compiled program is compiled well. -/
theorem compiled_of_compile {kinds : Kinds} {options : ProgramOptions} {w : Workflow} {p : Program}
    (h : Program.compile kinds options w = .ok p) : ∀ g ∈ p.graphs, g.Compiled kinds := by
  obtain ⟨r, hsound, hcloses⟩ := closes_of_compile h
  rw [hcloses.graphs]
  exact fun g hg => (hsound.graphs g hg).mono fun _ hlist => hlist.toCompiled

theorem mem_of_graph {p : Program} {name : String} {g : Graph} (h : p.graph name = .ok g) :
    g ∈ p.graphs ∧ g.name = name := by
  unfold Program.graph Graph.find? at h
  split at h
  · next found hfound =>
    cases h
    exact ⟨List.mem_of_find?_eq_some hfound, by simpa using List.find?_some hfound⟩
  · cases h

/-- With distinct names, every graph is the one of its name. -/
theorem find?_of_mem {graphs : List Graph} (nodup : (graphs.map Graph.name).Nodup) {g : Graph}
    (hg : g ∈ graphs) : Graph.find? graphs g.name = some g := by
  unfold Graph.find?
  induction graphs with
  | nil => exact (List.not_mem_nil hg).elim
  | cons other graphs ih =>
    obtain ⟨hfresh, hrest⟩ := List.nodup_cons.1 nodup
    rcases List.mem_cons.1 hg with rfl | hmem
    · exact List.find?_cons_of_pos (by simp)
    · have hname : other.name ≠ g.name := by
        intro hname
        exact hfresh (hname ▸ List.mem_map_of_mem hmem)
      rw [List.find?_cons_of_neg (by simpa using hname)]
      exact ih hrest hmem

/-- A graph that is found under a name is found under its own. -/
theorem graph_of_graph {p : Program} {name : String} {g : Graph} (h : p.graph name = .ok g) :
    p.graph g.name = .ok g := by
  rw [(mem_of_graph h).2]
  exact h

end Program

/-- Whether all that the steps of a list refer to by name are graphs of a program, and nested lists
are graphs under the names of their tasks. -/
structure Children.Closed (p : Program) (children : Children) : Prop where
  named : ∀ child ∈ children, ∀ name, child.action.Names name →
    ∃ g, p.graph name = .ok g ∧ g.name = name
  nested : ∀ child ∈ children, ∀ list, child.action = .block list →
    p.graph child.name = .ok ⟨child.name, list, none⟩

/-- Whether all lists of a program are closed, nested lists included. -/
structure Program.Closed (p : Program) : Prop where
  root : ∃ g, p.graph p.root = .ok g ∧ g.name = p.root
  unique : ∀ g ∈ p.graphs, p.graph g.name = .ok g
  lists : ∀ g ∈ p.graphs, g.children.Everywhere (Children.Closed p)

/-- A compiled program is closed. -/
theorem Program.closed_of_compile {kinds : Kinds} {options : ProgramOptions} {w : Workflow}
    {p : Program} (h : Program.compile kinds options w = .ok p) : p.Closed := by
  obtain ⟨r, hsound, hcloses⟩ := closes_of_compile h
  have hmem : ∀ g ∈ r.graphs, p.graph g.name = .ok g := by
    intro g hg
    unfold graph
    rw [hcloses.graphs, find?_of_mem hsound.nodup hg]
  have hnamed : ∀ name, (∃ g ∈ r.graphs, g.name = name) →
      ∃ g, p.graph name = .ok g ∧ g.name = name := by
    rintro name ⟨g, hg, rfl⟩
    exact ⟨g, hmem g hg, rfl⟩
  refine ⟨hnamed _ hcloses.root, fun g hg => hmem g (hcloses.graphs ▸ hg), fun g hg => ?_⟩
  refine (hsound.graphs g (hcloses.graphs ▸ hg)).mono fun list hlist => ⟨?_, ?_⟩
  · intro child hchild name hname
    -- a name that was only noted has been found when the program was closed
    rcases (hlist.settled child hchild).named name hname with hregistered | ⟨task, hnoted⟩
    · exact hnamed name hregistered
    · exact hnamed name (hcloses.noted task name hnoted)
  · intro child hchild inner hinner
    exact hmem _ ((hlist.settled child hchild).nested inner hinner)

/-- No two children of a compiled list share an identifier. -/
theorem Children.Compiled.nodup_ids {kinds : Kinds} {children : Children}
    (h : children.Compiled kinds) : (children.map Child.id).Nodup := by
  rw [h.ids]
  refine List.pairwise_iff_getElem.2 fun i j hi hj hij heq => ?_
  simp only [List.getElem_mapIdx] at heq
  exact absurd (Naming.ordinal_of_childId heq) (Nat.ne_of_lt hij)

/-- With distinct identifiers, a child is told apart from those before it and behind it. -/
theorem Children.apart_of_split {children before rest : Children} {child : Child Step}
    (nodup : (children.map Child.id).Nodup) (hsplit : children = before ++ child :: rest) :
    ∀ other ∈ before ++ rest, other.id ≠ child.id := by
  intro other hother hid
  rw [hsplit, List.map_append, List.map_cons] at nodup
  obtain ⟨-, hlater, hapart⟩ := List.nodup_append.1 nodup
  rcases List.mem_append.1 hother with hmem | hmem
  · exact hapart other.id (List.mem_map_of_mem hmem) child.id (by simp) hid
  · exact (List.nodup_cons.1 hlater).1 (hid ▸ List.mem_map_of_mem hmem)

theorem Kinds.builtIn_standard : Kinds.standard.BuiltIn := by
  have hentries : ∀ e ∈ Kinds.standard.entries, e.2 = .builtIn := by decide +kernel
  intro tag kind h
  obtain ⟨l₁, l₂, hl, -⟩ := List.lookup_eq_some_iff.1 h
  exact hentries (tag, kind) (by rw [hl]; simp)

end TaskGraph

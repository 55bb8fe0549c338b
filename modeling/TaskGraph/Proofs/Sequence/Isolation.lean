import TaskGraph.Proofs.Sequence.Deeds
import TaskGraph.Proofs.World

/-!
# What a list leaves in its scope

`Sequence.ensures_trace` is what the deeds of a run tell, however its requests are answered. Every body
gets the input of the run, in a scope with the input and the environment that the run began with, and
unless it is replayed this input is not refused. From its beginning to its end a run has changed its
scope only where a deed explains it (`Sequence.Explains`).

`Sequence.changes_are_explained` reads this as the isolation of scopes: only nested lists, assignments
and forks work on the scope of their list, and whatever else a task runs is seen in it by its value
alone.
-/

set_option autoImplicit false

namespace TaskGraph

open Running (Any)

namespace Sequence

/-! ## What deeds tell -/

/-- Whether a deed may write an entry of the data of its scope. -/
def Deed.Writes (key : String) : Deed → Prop
  | .starts r child _ _ => r ≠ .replay ∧ child.name = key
  | .assigns v => ∃ m, v = .obj m ∧ key ∈ Members.keys m
  | .merges values => ∃ m, .obj m ∈ values ∧ key ∈ Members.keys m

/-- Whether a deed may write the output of its scope. -/
def Deed.Exports : Deed → Prop
  | .starts r child _ _ => r ≠ .replay ∧ child.base.exported.isSome = true
  | .assigns _ | .merges _ => False

/-- Whether a scope has become another one by these deeds: input and environment are the same, and
whatever has changed is written by one of them. -/
structure Explains (ds : List Deed) (s s' : Scope) : Prop where
  input : s'.input = s.input
  env : s'.env = s.env
  data : ∀ key, s'.data.get? key ≠ s.data.get? key → ∃ d ∈ ds, d.Writes key
  output : s'.output ≠ s.output → ∃ d ∈ ds, d.Exports

namespace Explains

variable {ds ds' : List Deed} {s s₁ s₂ : Scope}

theorem refl (ds : List Deed) (s : Scope) : Explains ds s s :=
  ⟨rfl, rfl, fun _ h => absurd rfl h, fun h => absurd rfl h⟩

theorem mono (h : Explains ds s s₁) (hds : ds ⊆ ds') : Explains ds' s s₁ where
  input := h.input
  env := h.env
  data key hkey := (h.data key hkey).imp fun _ hd => ⟨hds hd.1, hd.2⟩
  output hout := (h.output hout).imp fun _ hd => ⟨hds hd.1, hd.2⟩

theorem trans (h : Explains ds s s₁) (h' : Explains ds s₁ s₂) : Explains ds s s₂ where
  input := h'.input.trans h.input
  env := h'.env.trans h.env
  data key hkey := by
    by_cases hstep : s₂.data.get? key = s₁.data.get? key
    · exact h.data key (hstep ▸ hkey)
    · exact h'.data key hstep
  output hout := by
    by_cases hstep : s₂.output = s₁.output
    · exact h.output (hstep ▸ hout)
    · exact h'.output hstep

end Explains

theorem explains_mergeData {d : Deed} {v : Json}
    (hd : ∀ m key, v = .obj m → key ∈ Members.keys m → d.Writes key) (s : Scope) :
    Explains [d] s (s.mergeData v) := by
  cases v with
  | obj m =>
    refine ⟨rfl, rfl, fun key hkey => ⟨d, List.mem_singleton_self d, ?_⟩, fun h => absurd rfl h⟩
    by_cases hmem : key ∈ Members.keys m
    · exact hd m key rfl hmem
    · exact absurd (Members.get?_insertAll_of_not_mem s.data hmem) hkey
  | _ => exact .refl _ s

theorem explains_mergeValues (s : Scope) (values : List (Option Json)) :
    Explains [.merges (values.map fun v => v.getD .null)] s (Forking.mergeValues s values) := by
  unfold Forking.mergeValues
  -- the deed is that of all values throughout, so it is named before the induction on them
  generalize hd : Deed.merges (values.map fun v => v.getD .null) = d
  have hwrites : ∀ v ∈ values, ∀ m key, v.getD .null = .obj m → key ∈ Members.keys m →
      d.Writes key := by
    rintro v hv m key hm hkey
    subst hd
    exact ⟨m, hm ▸ List.mem_map_of_mem hv, hkey⟩
  clear hd
  induction values generalizing s with
  | nil => exact .refl _ s
  | cons v values ih =>
    exact (explains_mergeData (hwrites v (List.mem_cons_self ..)) s).trans
      (ih _ fun v hv => hwrites v (List.mem_cons_of_mem _ hv))

/-- The value of a child is recorded under its name. -/
theorem explains_recorded {r : Resumption} (hr : r ≠ .replay) (child : Child Step) (input : Json)
    (s₀ s : Scope) (value : Option Json) :
    Explains [.starts r child input s₀] s (recorded child.name value s) := by
  cases value with
  | none => exact .refl _ s
  | some v =>
    refine ⟨rfl, rfl, fun key hkey => ⟨_, List.mem_singleton_self _, ?_⟩, fun h => absurd rfl h⟩
    by_cases hname : key = child.name
    · exact ⟨hr, hname.symm⟩
    · exact absurd (Members.get?_insert_of_ne s.data hname v) hkey

/-! ## Accounts of runs -/

/-- Whether a deed is right for a run with an input that began in a scope: a body gets this input, in a
scope with this input and environment, and unless it is replayed its input is not refused; and what
forks merge are values of a kind. -/
def Deed.Proper (options : ProgramOptions) (V : Json → Prop) (input : Json) (s : Scope) : Deed → Prop
  | .starts r child input' s' => input' = input ∧ s'.input = s.input ∧ s'.env = s.env ∧
    (r ≠ .replay → checkInput options child.name child.base s' = .ok ())
  | .assigns _ => True
  | .merges values => ∀ v ∈ values, v = .null ∨ V v

/-- Whether the deeds of a run with an input that began in a scope are right, and explain the scope
that it ended in, if it did. -/
structure Account {α : Type} (options : ProgramOptions) (V : Json → Prop) (input : Json) (s : Scope)
    (after : α → Scope) (x : List Deed × Except Fault α) : Prop where
  proper : ∀ d ∈ x.1, d.Proper options V input s
  explains : ∀ a, x.2 = .ok a → Explains x.1 s (after a)

section

variable {α β : Type} {options : ProgramOptions} {V : Json → Prop} {input : Json} {s s₁ : Scope}
  {after : α → Scope} {ds : List Deed}

theorem Deed.Proper.of_explains {d : Deed} (hs : Explains ds s s₁)
    (h : d.Proper options V input s₁) : d.Proper options V input s := by
  cases d with
  | starts r child input' s' =>
    exact ⟨h.1, h.2.1.trans hs.input, h.2.2.1.trans hs.env, h.2.2.2⟩
  | assigns | merges => exact h

theorem Account.fault (s : Scope) (after : α → Scope) (f : Fault) :
    Account options V input s after ([], .error f) where
  proper _ hd := (List.not_mem_nil hd).elim
  explains _ ha := by cases ha

theorem Account.done (s : Scope) {a : α} (ha : after a = s) :
    Account options V input s after ([], .ok a) where
  proper _ hd := (List.not_mem_nil hd).elim
  explains b hb := by
    cases hb
    exact ha ▸ .refl _ _

/-- What comes after deeds that explain the scope it begins in. -/
theorem Account.append (hproper : ∀ d ∈ ds, d.Proper options V input s) (hs : Explains ds s s₁)
    {x : List Deed × Except Fault α} (hx : Account options V input s₁ after x) :
    Account options V input s after (ds ++ x.1, x.2) where
  proper d hd := (List.mem_append.1 hd).elim (hproper d) fun hd => (hx.proper d hd).of_explains hs
  explains a ha := (hs.mono (List.subset_append_left ..)).trans
    ((hx.explains a ha).mono (List.subset_append_right ..))

end

/-! ## Branches -/

/-- The promise that the values of branches are of a kind. -/
def Replying (V : Json → Prop) : Dialogue.Promise
  | .reply, x => ∀ v, x.2 = .ok v → V v
  | _, _ => True

/-- Whether the values that a join has noted are of a kind. -/
def Notes (V : Json → Prop) (j : Join) : Prop := ∀ v, some v ∈ j.values → V v

section

variable {V : Json → Prop}

theorem notes_start (compete : Bool) (branches : Nat) : Notes V (Join.start compete branches) :=
  fun _ hv => nomatch List.eq_of_mem_replicate hv

theorem notes_reply {j : Join} (h : Notes V j) (branch : Nat) {x : Except Fault Json}
    (hx : ∀ v, x = .ok v → V v) : Notes V (j.reply branch x).1 := by
  -- an outcome notes one value at most, and nothing once the join has settled
  have houtcome (j : Join) (hj : Notes V j) : Notes V (j.outcome branch x) := by
    cases x with
    | ok v =>
      show Notes V (j.value branch v)
      unfold Join.value
      split
      · exact hj
      · intro w hw
        rcases List.mem_or_eq_of_mem_set hw with hw | hw
        · exact hj w hw
        · cases hw
          exact hx v rfl
    | error f =>
      show Notes V (j.fault f)
      unfold Join.fault
      split <;> exact hj
  have hj := houtcome { j with replied := j.replied.set branch true } h
  unfold Join.reply
  dsimp only
  split <;> exact hj

theorem upholds_collect (left : Nat) {j : Join} (hj : Notes V j) :
    (Forking.collect left j).Upholds (Replying V) Any (Notes V) := by
  induction left generalizing j with
  | zero => exact .pure hj
  | succ left ih =>
    refine .bind (.ask (q := .reply) fun _ hx => hx) fun ⟨branch, outcome⟩ houtcome => ?_
    have hreply := notes_reply hj branch houtcome
    show Running.Upholds (Replying V) Any (Notes V)
      (if (j.reply branch outcome).2.isEmpty then _ else _)
    split
    · exact ih hreply
    · exact .bind (Running.upholds_any _) fun _ _ => ih hreply

/-- What a verdict merges is null or of the kind of the values that were noted. -/
theorem Notes.merged {j : Join} (h : Notes V j) : ∀ v ∈ j.verdict.merged, v = .null ∨ V v := by
  have hgetD (o : Option Json) (ho : ∀ v, o = some v → V v) : o.getD .null = .null ∨ V (o.getD .null) := by
    cases o with
    | none => exact .inl rfl
    | some v => exact .inr (ho v rfl)
  unfold Join.verdict
  split
  · next branch _ =>
    intro v hv
    rw [List.mem_singleton.1 hv]
    exact hgetD _ fun v hv => h v (List.mem_of_getElem? (Option.join_eq_some_iff.1 hv))
  · exact nofun
  · exact nofun
  · intro v hv
    obtain ⟨o, ho, rfl⟩ := List.mem_map.1 hv
    exact hgetD o fun v hv => h v (hv ▸ ho)

end

/-! ## The account of a run -/

section

variable {e : Setting} {c : Context} {promise : Dialogue.Promise} {s : Scope}

/-- A task that has a value alone leaves its scope as it was. -/
theorem upholds_value {α : Type} (r : Running α) (value : α → Option Json) :
    (do
      let a ← r
      pure (value a, s) : Running (Option Json × Scope)).Upholds promise Any fun x => x.2 = s :=
  .bind (Running.upholds_any r) fun _ _ => .pure rfl

theorem upholds_leaving (name : String) (base : TaskBase) (input : Json) {action : Step}
    (h : action.Shares = false) :
    (step e c name base input action s).Upholds promise Any fun x => x.2 = s := by
  cases action with
  | block | fork | assign => cases h
  | raise error =>
    rw [step.eq_def]
    exact .bind (Running.upholds_any _) fun _ _ => .throw trivial
  | _ =>
    rw [step.eq_def]
    exact upholds_value _ _

/-- A body runs only on an input that is not refused, unless it is replayed. -/
theorem upholds_prepare {A : Type} (r : Resumption) (child : Child A) :
    (prepare e c r child s).Upholds promise Any fun _ =>
      r ≠ .replay → checkInput e.program.options child.name child.base s = .ok () := by
  unfold prepare
  split
  · next hreplay => exact .pure fun hne => absurd hreplay hne
  · cases hcheck : checkInput e.program.options child.name child.base s with
    | error f =>
      exact .bind (.ofExcept (P := fun _ => False) trivial) fun _ h => h.elim
    | ok _ =>
      refine .bind (Running.upholds_any _) fun _ _ => ?_
      exact (Running.upholds_any _).mono fun _ _ _ => rfl

/-- A child that was cancelled leaves its scope as it was. -/
theorem upholds_absorb (x : Except Fault (Option Json × Scope)) :
    (absorb c s x).Upholds promise Any fun y => ∀ z, y = some z → x = .ok z ∨ z = (none, s) := by
  cases x with
  | ok z =>
    refine .pure fun z' hz' => ?_
    cases hz'
    exact .inl rfl
  | error f =>
    unfold absorb
    dsimp only
    split
    · refine .bind (Running.upholds_any _) fun cancelled _ => ?_
      split
      · exact .pure nofun
      · refine .pure fun z hz => ?_
        cases hz
        exact .inr rfl
    · exact .throw trivial

/-- What a child leaves is its value under its name, and its export. -/
theorem upholds_depart {A : Type} (input : Json) (r : Resumption) (child : Child Step) (action : A)
    (s₀ : Scope) (value : Option Json) :
    (depart r (child.doing action) value s).Upholds promise Any fun t =>
      Explains [.starts r child input s₀] s t.scope := by
  unfold depart
  split
  · exact .pure (.refl _ s)
  · next hr =>
    -- the value is explained by the start of the child, and what is exported on top of it as well
    have hrecorded := explains_recorded hr child input s₀ s value
    refine .bind (P := Explains [.starts r child input s₀] s) ?_ fun s' hs' => .pure ?_
    · unfold export_
      cases hexport : child.base.exported with
      | none =>
        simp only [Child.doing, hexport]
        exact .pure hrecorded
      | some v =>
        simp only [Child.doing, hexport]
        refine .bind (Running.upholds_any _) fun output _ => .pure (hrecorded.trans ?_)
        refine ⟨rfl, rfl, fun _ h => absurd rfl h, fun _ => ⟨_, List.mem_singleton_self _, ?_⟩⟩
        exact ⟨hr, Option.isSome_iff_exists.2 ⟨v, hexport⟩⟩
    · unfold Turn.after
      split <;> exact hs'

/-- A fork merges what its verdict says. -/
theorem upholds_conclude (task : String) (branches : List Branch) (verdict : Join.Verdict) :
    (Forking.conclude c task branches s verdict).Upholds promise Any fun x =>
      Explains [.merges verdict.merged] s x.2 := by
  cases verdict with
  | won v =>
    have hwrites (m : Members) (key : String) (hm : v = .obj m) (hkey : key ∈ Members.keys m) :
        (Deed.merges [v]).Writes key :=
      ⟨m, hm ▸ List.mem_singleton_self v, hkey⟩
    exact .pure (explains_mergeData hwrites s)
  | joined values => exact .pure (explains_mergeValues s values)
  | failed f => exact .throw trivial
  | stopped =>
    refine .bind (Running.upholds_any _) fun cancelled _ => ?_
    split
    · exact .throw trivial
    · exact .pure (.refl _ s)

variable {V : Json → Prop}

/-- The account of a child whose guard holds, given that of its body. -/
theorem ensures_undergo (input : Json) (r : Resumption) (i : Nat) (child : Child Step)
    {body : Scope → Tracing Deed (Option Json × Scope)}
    (hbody : (body s).Ensures promise (Account e.program.options V input s Prod.snd)) :
    (undergo e c (deeds input) (fun a => telling a.2) r i (child.doing (child.action, body)) s).Ensures
      promise (Account e.program.options V input s Turn.scope) := by
  rw [undergo_telling e c (deeds input) Prod.snd]
  refine Tracing.ensures_after (upholds_prepare r _) (fun _ hcheck => ?_)
    fun f _ => .fault s Turn.scope f
  have hstart : Deed.Proper e.program.options V input s (.starts r child input s) :=
    ⟨rfl, rfl, rfl, hcheck⟩
  refine Tracing.ensures_mark (Tracing.ensures_anyway hbody fun ds x hx => ?_)
  have hproper : ∀ d ∈ .starts r child input s :: ds, d.Proper e.program.options V input s :=
    List.forall_mem_cons.2 ⟨hstart, hx.proper⟩
  -- what follows begins in a scope that the deeds so far explain
  have happend {s' : Scope} (hs' : Explains (.starts r child input s :: ds) s s')
      {x : List Deed × Except Fault Turn}
      (hx : Account e.program.options V input s' Turn.scope x) :
      Account e.program.options V input s Turn.scope
        (.starts r child input s :: (ds ++ x.1), x.2) :=
    hx.append hproper hs'
  refine Tracing.ensures_after (upholds_absorb x) (fun y hy => ?_)
    fun f _ => happend (.refl _ s) (.fault s Turn.scope f)
  cases y with
  | none => exact happend (.refl _ s) (.done s rfl)
  | some z =>
    obtain ⟨value, s₁⟩ := z
    have hs₁ : Explains ds s s₁ := by
      rcases hy _ rfl with rfl | heq
      · exact hx.explains _ rfl
      · cases heq
        exact .refl _ s
    have hleft {s' : Scope} (hs' : Explains [.starts r child input s] s₁ s') :
        Explains (.starts r child input s :: ds) s s' :=
      (hs₁.mono (List.subset_cons_self ..)).trans (hs'.mono (by simp))
    exact Tracing.ensures_after (upholds_depart input r child _ s value)
      (fun t ht => happend (hleft ht) (.done t.scope rfl))
      fun f _ => happend (hleft (.refl _ s₁)) (.fault s₁ Turn.scope f)

variable (e c V)

/-- What is found of a scope before a child is found of it after its marker was taken away. -/
theorem account_resumed (childId : String) (replayed owns : Bool) {options : ProgramOptions}
    {input : Json} {x : List Deed × Except Fault Scope}
    (h : Account options V input (Restart.resumption childId replayed owns s).2 id x) :
    Account options V input s id x := by
  have hs : Explains [] s (Restart.resumption childId replayed owns s).2 := by
    unfold Restart.resumption
    split
    · exact .refl _ s
    · split
      · exact ⟨rfl, rfl, fun _ h => absurd rfl h, fun h => absurd rfl h⟩
      · exact .refl _ s
  exact h.append (fun _ hd => (List.not_mem_nil hd).elim) hs

/-- The account of a list, however its requests are answered, given those of its steps. -/
theorem ensures_tell (entry : Option String) (input : Json) {children : Children}
    (h : ∀ child ∈ children, ∀ s,
      (traceStep e c child.name child.base input child.action s).Ensures (Replying V)
        (Account e.program.options V input s Prod.snd))
    (first : Bool) (pending : Option String) (i : Nat) (s : Scope) :
    (tell e c entry input first pending i (traced e c input children) s).Ensures (Replying V)
      (Account e.program.options V input s id) := by
  rw [traced_eq_map]
  induction children generalizing first pending i s with
  | nil =>
    cases pending with
    | none => exact .done s rfl
    | some target => exact .fault s id _
  | cons child rest ih =>
    have hrest (pending : Option String) (s' : Scope) :=
      ih (fun child hchild => h child (List.mem_cons_of_mem _ hchild)) false pending (i + 1) s'
    rcases hx : Restart.resumption child.id child.replayed entry.isSome s with ⟨r, s'⟩
    rw [List.map_cons, tell, narrate_cons e c entry input (deeds input) _ (child.doing _) hx]
    refine Tracing.ensures_after (Running.upholds_any _) (fun leaves _ => ?_)
      fun f _ => .fault s _ f
    cases leaves with
    | true =>
      -- a list that is left does not end in a scope
      refine Tracing.ensures_of (E := Any) (R := fun _ => False) ?_ (fun _ h => h.elim)
        fun f _ => .fault s _ f
      refine .bind (Running.upholds_any _) fun x _ => ?_
      cases x <;> exact .throw trivial
    | false =>
      refine Dialogue.Ensures.mono ?_ fun x hx' =>
        account_resumed V child.id child.replayed entry.isSome (hx ▸ hx')
      dsimp only
      split
      · exact hrest pending s'
      · refine Tracing.ensures_after (Running.upholds_any _) (fun holds _ => ?_)
          fun f _ => .fault s' _ f
        cases holds with
        | false => exact hrest none s'
        | true =>
          refine Tracing.ensures_andThen (ensures_undergo input r i child
            (h child (List.mem_cons_self ..) s')) (fun ds t ht => ?_)
            fun ds f hf => ⟨hf.proper, nofun⟩
          cases t with
          | stop s'' =>
            exact (Account.done s'' rfl).append ht.proper (ht.explains _ rfl)
          | next pending s'' =>
            exact (hrest pending s'').mono fun x hx => hx.append ht.proper (ht.explains _ rfl)

mutual

theorem ensures_traced (input : Json) : (children : Children) → ∀ child ∈ children, ∀ s,
    (traceStep e c child.name child.base input child.action s).Ensures (Replying V)
      (Account e.program.options V input s Prod.snd)
  | [], _, h, _ => nomatch h
  | ⟨id, name, base, replayed, action⟩ :: rest, child, h, s => by
    rcases List.mem_cons.1 h with rfl | h
    · exact ensures_traceStep name base input action s
    · exact ensures_traced input rest child h s

/-- The account of a step. -/
theorem ensures_traceStep (name : String) (base : TaskBase) (input : Json) :
    (action : Step) → (s : Scope) →
      (traceStep e c name base input action s).Ensures (Replying V)
        (Account e.program.options V input s Prod.snd)
  | .block children, s => by
    rw [traceStep.eq_def]
    refine Tracing.ensures_andThen
      (ensures_tell e c V none input (ensures_traced input children) true none 0 s)
      (fun ds s' hx => ?_) fun ds f hx => ⟨hx.proper, nofun⟩
    have hdone : Account e.program.options V input s' Prod.snd ([], .ok (s'.output, s')) :=
      .done s' rfl
    exact hdone.append hx.proper (hx.explains s' rfl)
  | .fork compete branches, s => by
    rw [traceStep.eq_def]
    refine Tracing.ensures_after (P := Notes V) (E := Any)
      (.bind (Running.upholds_any _) fun _ _ => upholds_collect _ (notes_start compete _))
      (fun j hj => ?_) fun f _ => .fault s _ f
    -- a fork has merged what its branches came to, which are replies to it
    have hproper : ∀ d ∈ [Deed.merges j.verdict.merged], d.Proper e.program.options V input s :=
      List.forall_mem_singleton.2 hj.merged
    refine Tracing.ensures_mark (Tracing.ensures_of (E := Any) (upholds_conclude ..)
      (fun x hx => ?_) fun f _ => (Account.fault s Prod.snd f).append hproper (.refl _ s))
    have hdone : Account e.program.options V input x.2 Prod.snd ([], .ok x) := .done x.2 rfl
    exact hdone.append hproper hx
  | .assign value, s => by
    rw [traceStep.eq_def]
    refine Tracing.ensures_after (Running.upholds_any _) (fun v _ => ?_) fun f _ => .fault s _ f
    refine ⟨List.forall_mem_singleton.2 trivial, fun x hx => ?_⟩
    cases hx
    have hwrites (m : Members) (key : String) (hm : v = .obj m) (hkey : key ∈ Members.keys m) :
        (Deed.assigns v).Writes key :=
      ⟨m, hm, hkey⟩
    exact explains_mergeData hwrites s
  | .loop .., s | .switch _, s | .attempt .., s | .call .., s | .run .., s | .wait _, s
  | .raise _, s | .listen .., s | .custom _, s => by
    refine Tracing.ensures_of (upholds_leaving name base input rfl) (fun x hx => .done _ ?_)
      fun f _ => .fault s _ f
    exact hx

end

/-- The account of a run of a list, however its requests are answered. -/
theorem ensures_trace (entry : Option String) (input : Json) (first : Bool)
    (pending : Option String) (children : Children) (s : Scope) :
    (trace e c entry input first pending children s).Ensures (Replying V)
      (Account e.program.options V input s id) :=
  ensures_tell e c V entry input (ensures_traced e c V input children) first pending 0 s

/-- The account of a run of a list, whatever branches reply with. -/
theorem ensures_trace_any (entry : Option String) (input : Json) (first : Bool)
    (pending : Option String) (children : Children) (s : Scope) :
    (trace e c entry input first pending children s).Ensures (fun _ _ => True)
      (Account e.program.options (fun _ => True) input s id) := by
  refine (ensures_trace e c (fun _ => True) entry input first pending children s).weaken
    fun q x _ => ?_
  cases q with
  | reply => exact fun _ _ => trivial
  | _ => trivial

end

/-! ## A nested list -/

namespace Nested

/-- A list with a list in it that assigns an entry of the data. -/
def children : Children :=
  [⟨"outer-0", "outer", ⟨none, none, none, none, none, []⟩, false,
    .block [⟨"put-0", "put", ⟨none, none, none, none, none, []⟩, false,
      .assign (.obj [("key", .bool true)])⟩]⟩]

/-- A machine on which no branch replies. -/
def machine : Machine := ⟨.calm, fun _ => false⟩

theorem replying_machine {q : Request} {mo mo' : Moment} {x : q.Answer}
    (hx : machine.within Pair.setting 0 q mo = (some x, mo')) : Replying (fun _ => False) q x := by
  cases q with
  | reply => cases hx
  | _ => trivial

/-- The deeds of the list and the scope that it ends in. -/
def outcome : Option (List Deed × Except Fault Scope) :=
  ((trace Pair.setting ⟨0, []⟩ none .null true none children (.start .null [])).play
    (machine.within Pair.setting 0) .first).1

theorem ended : outcome.map (fun x => x.2.toOption.map Scope.data) =
    some (some [("key", .bool true), ("put", .obj [("key", .bool true)])]) := by
  decide +kernel

end Nested

/-! ## Isolation -/

/-- The isolation of scopes. If a list ends in a scope, then each entry of the data that differs from
before is under the name of a child that was executed in the list or in one nested in it, or under a
key of an object that an assignment in them came to, or of one that a branch of a fork in them replied
with and the fork merged; and the output differs only if an executed child declares an export. What a
loop, a switch, a `try`, a process or a detached graph runs is seen by the value of its task alone: the
task hands on the very scope that it was given. -/
theorem changes_are_explained (e : Setting) (c : Context) (entry : Option String) (input : Json)
    (first : Bool) (pending : Option String) (children : Children) (s : Scope) (V : Json → Prop) :
    (trace e c entry input first pending children s).forget =
        run e c entry input first pending children s ∧
      (trace e c entry input first pending children s).Ensures (Replying V) (fun x =>
        ∀ s', x.2 = .ok s' →
          (∀ key, s'.data.get? key ≠ s.data.get? key →
            (∃ r child input' s₀, .starts r child input' s₀ ∈ x.1 ∧ r ≠ .replay ∧ child.name = key) ∨
            (∃ m, .assigns (.obj m) ∈ x.1 ∧ key ∈ Members.keys m) ∨
            ∃ values m, .merges values ∈ x.1 ∧ .obj m ∈ values ∧ V (.obj m) ∧
              key ∈ Members.keys m) ∧
          (s'.output ≠ s.output → ∃ r child input' s₀, .starts r child input' s₀ ∈ x.1 ∧
            r ≠ .replay ∧ child.base.exported.isSome = true)) ∧
      ∀ (name : String) (base : TaskBase) (action : Step), action.Shares = false →
        (step e c name base input action s).Upholds (fun _ _ => True) Any fun x => x.2 = s := by
  refine ⟨forget_trace .., (ensures_trace e c V entry input first pending children s).mono
    fun x hx s' hs' => ⟨fun key hkey => ?_, fun hout => ?_⟩,
    fun name base action h => upholds_leaving name base input h⟩
  · obtain ⟨d, hd, hwrites⟩ := (hx.explains s' hs').data key hkey
    cases d with
    | starts r child input' s₀ => exact .inl ⟨r, child, input', s₀, hd, hwrites⟩
    | assigns v =>
      obtain ⟨m, rfl, hmem⟩ := hwrites
      exact .inr (.inl ⟨m, hd, hmem⟩)
    | merges values =>
      obtain ⟨m, hm, hmem⟩ := hwrites
      exact .inr (.inr ⟨values, m, hd, hm, (hx.proper _ hd _ hm).resolve_left nofun, hmem⟩)
  · obtain ⟨d, hd, hexports⟩ := (hx.explains s' hs').output hout
    cases d with
    | starts r child input' s₀ => exact ⟨r, child, input', s₀, hd, hexports⟩
    | assigns | merges => exact hexports.elim

/-- An entry that a nested list assigns is in the data after the list around it, and no branch has replied
with it; a `try` around a graph leaves the scope as it was. -/
theorem changes_are_explained_of_nested :
    ∃ ds s', Nested.outcome = some (ds, .ok s') ∧
      s'.data.get? "key" = some (.bool true) ∧
      ((∃ r child input s₀, .starts r child input s₀ ∈ ds ∧ r ≠ .replay ∧ child.name = "key") ∨
        ∃ m, .assigns (.obj m) ∈ ds ∧ "key" ∈ Members.keys m) ∧
      (step Pair.setting ⟨0, []⟩ "try" ⟨none, none, none, none, none, []⟩ .null
        (.attempt (some "root") none "error") (.start .null [])).Upholds (fun _ _ => True) Any
          fun x => x.2 = .start .null [] := by
  obtain ⟨-, hensures, hleaves⟩ := changes_are_explained Pair.setting ⟨0, []⟩ none .null true none
    Nested.children (.start .null []) fun _ => False
  obtain ⟨⟨ds, x⟩, hx, hdata⟩ := Option.map_eq_some_iff.1 Nested.ended
  cases x with
  | error f => cases hdata
  | ok s' =>
    have hdata : s'.data = [("key", .bool true), ("put", .obj [("key", .bool true)])] :=
      Option.some.inj hdata
    have hkey : s'.data.get? "key" = some (.bool true) := by rw [hdata]; rfl
    refine ⟨ds, s', hx, hkey, ?_, hleaves _ _ _ rfl⟩
    have hchanged : s'.data.get? "key" ≠ (Scope.start .null []).data.get? "key" := by
      rw [hkey]
      exact nofun
    have hexplained := hensures.play (fun _ _ _ _ => Nested.replying_machine)
      (Prod.ext hx rfl) s' rfl
    rcases hexplained.1 "key" hchanged with hstarts | hassigns | ⟨_, _, -, -, hfalse, -⟩
    · exact .inl hstarts
    · exact .inr hassigns
    · exact hfalse.elim

end Sequence

end TaskGraph

import TaskGraph.Proofs.Restart.Traceless
import TaskGraph.Proofs.World

/-!
# Replays on a machine

Played on a machine, a run that is on its way to a marker asks nothing of the world until it comes to
the child of the marker, unless a guard or the response to a query fails. So the run either stumbles,
or comes to that child with the scope and the effects that it started with (`Sequence.play_resume`).
-/

set_option autoImplicit false

namespace TaskGraph

/-! ## Plays of computations -/

/-- How the play of a computation ends: with an outcome, if it comes to one, and at a moment. -/
abbrev Played (α : Type) := Option (Except Fault α) × Moment

namespace Played

variable {α β γ : Type}

/-- Goes on from an outcome. -/
def andThen (x : Played α) (k : Except Fault α → Moment → Played β) : Played β :=
  match x with
  | (some y, mo) => k y mo
  | (none, mo) => (none, mo)

theorem andThen_assoc (x : Played α) (f : Except Fault α → Moment → Played β)
    (k : Except Fault β → Moment → Played γ) :
    (x.andThen f).andThen k = x.andThen fun y mo => (f y mo).andThen k := by
  rcases x with ⟨_ | y, mo⟩ <;> rfl

/-- What goes on from a stumble has stumbled, if it forgets none. -/
theorem stumbled_andThen {x : Played α} {k : Except Fault α → Moment → Played β}
    (h : x.2.stumbled = true) (hk : ∀ y mo, mo.stumbled = true → (k y mo).2.stumbled = true) :
    (x.andThen k).2.stumbled = true := by
  rcases x with ⟨_ | y, mo⟩
  · exact h
  · exact hk y mo h

end Played

namespace Running

variable {α β : Type} {replies : Replies}

theorem play_bind (r : Running α) (k : α → Running β) (mo : Moment) :
    (r >>= k).run.play replies mo =
      Played.andThen (r.run.play replies mo) fun x => (onward k x).play replies := by
  rw [run_bind, Dialogue.play_bind]
  rcases r.run.play replies mo with ⟨_ | x, mo'⟩ <;> rfl

theorem play_outcome (r : Running α) (mo : Moment) :
    r.outcome.run.play replies mo =
      Played.andThen (r.run.play replies mo) fun x mo => (some (.ok x), mo) := by
  rw [run_outcome, Dialogue.map_eq_bind, Dialogue.play_bind]
  rcases r.run.play replies mo with ⟨_ | x, mo'⟩ <;> rfl

theorem play_outcome_bind (r : Running α) (k : Except Fault α → Running β) (mo : Moment) :
    (r.outcome >>= k).run.play replies mo =
      Played.andThen (r.run.play replies mo) fun x => (k x).run.play replies := by
  rw [run_outcome_bind, Dialogue.play_bind]
  rcases r.run.play replies mo with ⟨_ | x, mo'⟩ <;> rfl

end Running

/-! ## Stumbling -/

/-- Whether a stumble is never forgotten. -/
def Replies.Steadfast (replies : Replies) : Prop :=
  ∀ q mo, mo.stumbled = true → (replies q mo).2.stumbled = true

theorem Dialogue.stumbled_play {α : Type} {replies : Replies} (h : replies.Steadfast)
    (d : Dialogue α) {mo : Moment} (hmo : mo.stumbled = true) :
    (d.play replies mo).2.stumbled = true := by
  induction d generalizing mo with
  | done a => exact hmo
  | ask q k ih =>
    have hq := h q mo hmo
    unfold Dialogue.play
    rcases hx : replies q mo with ⟨_ | x, mo'⟩
    · rwa [hx] at hq
    · rw [hx] at hq
      exact ih x hq

theorem Moment.stumbled_judge {α : Type} {mo : Moment} (h : mo.stumbled = true) (s : Scope)
    (x : Except Fault α) : (mo.judge s x).stumbled = true := by
  cases x with
  | ok a => exact h
  | error f => simp [Moment.judge, h]

namespace Machine

theorem steadfast_replies {m : Machine}
    {enter : Context → Graph → Json → Scope → Moment → Option (Except Fault Scope) × Moment}
    (h : ∀ c g input s mo, mo.stumbled = true → (enter c g input s mo).2.stumbled = true) :
    (m.replies enter).Steadfast := by
  intro q mo hmo
  cases q with
  | evaluate | traverse | check => exact Moment.stumbled_judge hmo _ _
  | enter c g input s => exact h c g input s mo hmo
  | tell notice => cases notice <;> exact hmo
  | _ => exact hmo

theorem stumbled_entering (m : Machine) (e : Setting) (depth : Nat) (c : Context) (g : Graph)
    (input : Json) (s : Scope) (mo : Moment) (h : mo.stumbled = true) :
    (m.entering e depth c g input s mo).2.stumbled = true := by
  induction depth generalizing c g input s mo with
  | zero => exact h
  | succ depth ih => exact Dialogue.stumbled_play (steadfast_replies ih) _ h

theorem steadfast_within (m : Machine) (e : Setting) (depth : Nat) : (m.within e depth).Steadfast :=
  steadfast_replies (stumbled_entering m e depth)

end Machine

/-! ## Without a trace -/

section

variable {m : Machine}
  {enter : Context → Graph → Json → Scope → Moment → Option (Except Fault Scope) × Moment}
  {s : Scope} {marker : String}

/-- What fails in a scope on its way to a marker is a stumble. -/
theorem Moment.stumbled_judge_error (hs : s.marker = some marker) (mo : Moment) {α : Type}
    (f : Fault) : (mo.judge s (.error f : Except Fault α)).stumbled = true := by
  simp [Moment.judge, Scope.isResuming, hs]

/-- A request of a replay leaves the effects as they are. If an evaluation fails, it is a stumble. -/
theorem Machine.replies_traceless (hs : s.marker = some marker) {queries : Query → Prop}
    {c : Context} {q : Request} (hq : q.Traceless queries c s) (mo : Moment) :
    ∃ x mo', m.replies enter q mo = (some x, mo') ∧ mo'.log = mo.log ∧
      (mo'.stumbled = true ∨ Request.Within (fun _ => False) q x) := by
  -- what is evaluated on the way to a marker is judged: a failure there is noted as a stumble
  have hjudged {α : Type} (x : Except Fault α) :
      (mo.judge s x).stumbled = true ∨ Running.Result (fun _ => False) Running.Any x := by
    cases x with
    | ok a => exact .inr trivial
    | error f => exact .inl (Moment.stumbled_judge_error hs mo f)
  cases q with
  | check guard s' locals =>
    obtain rfl : s' = s := hq
    exact ⟨_, _, rfl, Moment.log_judge .., hjudged _⟩
  | traverse v s' locals =>
    obtain rfl : s' = s := hq.1
    exact ⟨_, _, rfl, Moment.log_judge .., hjudged _⟩
  | cancelled c' => exact ⟨false, mo, rfl, rfl, .inr trivial⟩
  | respond id v => exact ⟨(), mo, rfl, rfl, .inr trivial⟩
  | record c' ev => exact ⟨(), mo, rfl, rfl, .inr trivial⟩
  | tell notice =>
    cases notice with
    | query id v => exact ⟨(), mo, rfl, rfl, .inr trivial⟩
    | _ => exact hq.elim
  | _ => exact hq.elim

/-- A dialogue that makes only requests of a replay until it goes on as another one stumbles, or goes
on as that one with the effects that it started with. -/
theorem Dialogue.Until.play (hreplies : (m.replies enter).Steadfast) (hs : s.marker = some marker)
    {queries : Query → Prop} {c : Context} {d target : Dialogue (Except Fault Scope)}
    (h : d.Until (Request.Traceless queries c s) (Request.Within fun _ => False)
      (Sequence.Strays (fun _ => False) s) target) (mo : Moment) :
    (d.play (m.replies enter) mo).2.stumbled = true ∨
      ∃ mo', mo'.log = mo.log ∧ d.play (m.replies enter) mo = target.play (m.replies enter) mo' := by
  induction d generalizing mo with
  | done x =>
    rcases h with rfl | hstrays
    · exact .inr ⟨mo, rfl, rfl⟩
    · -- with no faults at evaluations, a replay does not end before its target
      cases x with
      | error f => exact hstrays.elim
      | ok s' =>
        obtain ⟨-, f, hf, -⟩ := hstrays
        exact hf.elim
  | ask q k ih =>
    rcases h with rfl | ⟨hq, hk⟩
    · exact .inr ⟨mo, rfl, rfl⟩
    · obtain ⟨x, mo', hx, hlog, hanswer⟩ :
        ∃ x mo', m.replies enter q mo = (some x, mo') ∧ _ := Machine.replies_traceless hs hq mo
      have hplay : (ask q k).play (m.replies enter) mo = (k x).play (m.replies enter) mo' := by
        rw [Dialogue.play, hx]
      rw [hplay]
      -- after a stumble nothing is claimed any more; otherwise the answer is as promised, and the
      -- replay goes on
      rcases hanswer with hstumbled | hpromise
      · exact .inl (Dialogue.stumbled_play hreplies _ hstumbled)
      · rcases ih x (hk x hpromise) mo' with hstumbled | ⟨mo'', hlog', hplay'⟩
        · exact .inl hstumbled
        · exact .inr ⟨mo'', hlog'.trans hlog, hplay'⟩

end

namespace Sequence

/-- At the child of its marker, a run goes on as one that starts there without a marker. -/
theorem run_at_marker {e : Setting} {c : Context} (entry : String) (input : Json) (first : Bool)
    (child : Child Step) (rest : Children) {s : Scope} (hs : s.marker = some child.id) :
    run e c (some entry) input first none (child :: rest) s =
      run e c (some entry) input true none (child :: rest) { s with marker := none } := by
  rw [run_cons, run_cons, leaves_resuming e c _ _ hs, leaves_first]
  simp only [pure_bind, Bool.false_eq_true, if_false, Option.isSome_some, resumption_own _ _ hs,
    resumption_going child.id child.replayed true (s := { s with marker := none }) rfl]

/-- A run on its way to a marker stumbles, or comes to the child of the marker with the scope and
the effects that it started with. -/
theorem play_resume {m : Machine}
    {enter : Context → Graph → Json → Scope → Moment → Option (Except Fault Scope) × Moment}
    (hreplies : (m.replies enter).Steadfast) (e : Setting) (c : Context) {s : Scope}
    {marker : String} (hs : s.marker = some marker) (entry : String) (input : Json) (first : Bool)
    {child : Child Step} (hmarker : marker = child.id) (rest before : Children)
    (hids : ∀ k ∈ before, k.id ≠ child.id) (hreplayable : before.Replayable)
    (hlists : ∀ k ∈ before, k.action.Lists Children.Replayable) (mo : Moment) :
    ((run e c (some entry) input first none (before ++ child :: rest) s).run.play (m.replies enter)
        mo).2.stumbled = true ∨
      ∃ mo', mo'.log = mo.log ∧
        (run e c (some entry) input first none (before ++ child :: rest) s).run.play
            (m.replies enter) mo =
          (run e c (some entry) input true none (child :: rest) { s with marker := none }).run.play
            (m.replies enter) mo' := by
  subst hmarker
  rw [← run_at_marker entry input true child rest hs]
  have huntil := until_rest e c (fun _ => False) hs entry input first
    before (child :: rest) hids hreplayable hlists fun _ _ _ _ => trivial
  exact huntil.play hreplies hs mo

end Sequence

end TaskGraph

import TaskGraph.Proofs.Evaluation.Traversal

/-!
# The names that expressions use

An expression sees of its document the members that it names and nothing else: where two documents
agree on these, it has the same value in both, or the same error (`Expr.eval_congr`). So what is
laid over a scope for one evaluation makes a difference only to the expressions that name it
(`Evaluation.same_traverse`).
-/

set_option autoImplicit false

namespace TaskGraph

/-- Whether two objects have the same members under some names. -/
def Members.AgreeOn (names : List String) (d d' : Members) : Prop :=
  ∀ n ∈ names, d.get? n = d'.get? n

theorem Members.agreeOn_append {xs ys : List String} {d d' : Members} :
    AgreeOn (xs ++ ys) d d' ↔ AgreeOn xs d d' ∧ AgreeOn ys d d' :=
  List.forall_mem_append

namespace Expr

mutual

/-- The names that an expression uses. -/
def names : Expr → List String
  | .ident s => [s]
  | .array items => namesItems items
  | .object members => namesMembers members
  | .member subject _ => names subject
  | .index subject key => names subject ++ names key
  | .filter subject _ _ right => names subject ++ names right
  | .binary _ left right => names left ++ names right
  | .transform subject _ args => names subject ++ namesItems args
  | .choice condition yes no => names condition ++ (names yes ++ names no)
  | .null | .bool _ | .number _ | .text _ => []

/-- The names that a list of expressions uses. -/
def namesItems : List Expr → List String
  | [] => []
  | e :: es => names e ++ namesItems es

/-- The names that the members of an object expression use. -/
def namesMembers : List (String × Expr) → List String
  | [] => []
  | (_, e) :: es => names e ++ namesMembers es

end

variable (fresh : List Nat → String) {d d' : Members}

mutual

/-- An expression has the same value in two documents that agree on the names that it uses. -/
theorem eval_congr (at_ : List Nat) : (e : Expr) → d.AgreeOn e.names d' →
    eval fresh d at_ e = eval fresh d' at_ e
  | .null, _ | .bool _, _ | .number _, _ | .text _, _ => by
    simp only [eval]
  | .ident s, h => by
    simp only [eval, h s (List.mem_singleton.2 rfl)]
  | .array items, h => by
    simp only [eval, evalItems_congr at_ 0 items h]
  | .object members, h => by
    simp only [eval, evalMembers_congr at_ 0 [] members h]
  | .member subject field, h => by
    simp only [eval, eval_congr (0 :: at_) subject h]
  | .index subject key, h => by
    obtain ⟨hsubject, hkey⟩ := Members.agreeOn_append.1 h
    simp only [eval, eval_congr (0 :: at_) subject hsubject, eval_congr (1 :: at_) key hkey]
  | .filter subject field op right, h => by
    obtain ⟨hsubject, hright⟩ := Members.agreeOn_append.1 h
    simp only [eval, eval_congr (0 :: at_) subject hsubject, eval_congr (1 :: at_) right hright]
  | .binary op left right, h => by
    obtain ⟨hleft, hright⟩ := Members.agreeOn_append.1 h
    have hl := eval_congr (0 :: at_) left hleft
    have hr := eval_congr (1 :: at_) right hright
    -- the two logical operators have equations of their own
    cases op <;> simp only [eval, hl, hr]
  | .transform subject name args, h => by
    obtain ⟨hsubject, hargs⟩ := Members.agreeOn_append.1 h
    simp only [eval, eval_congr (0 :: at_) subject hsubject, evalItems_congr at_ 1 args hargs]
  | .choice condition yes no, h => by
    obtain ⟨hcondition, h⟩ := Members.agreeOn_append.1 h
    obtain ⟨hyes, hno⟩ := Members.agreeOn_append.1 h
    simp only [eval, eval_congr (0 :: at_) condition hcondition, eval_congr (1 :: at_) yes hyes,
      eval_congr (2 :: at_) no hno]

theorem evalItems_congr (at_ : List Nat) (i : Nat) : (es : List Expr) →
    d.AgreeOn (namesItems es) d' → evalItems fresh d at_ i es = evalItems fresh d' at_ i es
  | [], _ => rfl
  | e :: es, h => by
    obtain ⟨he, hes⟩ := Members.agreeOn_append.1 h
    simp only [evalItems, eval_congr (i :: at_) e he, evalItems_congr at_ (i + 1) es hes]

theorem evalMembers_congr (at_ : List Nat) (i : Nat) (done : Members) :
    (es : List (String × Expr)) → d.AgreeOn (namesMembers es) d' →
      evalMembers fresh d at_ i done es = evalMembers fresh d' at_ i done es
  | [], _ => rfl
  | (k, e) :: es, h => by
    obtain ⟨he, hes⟩ := Members.agreeOn_append.1 h
    simp only [evalMembers, eval_congr (i :: at_) e he,
      evalMembers_congr at_ (i + 1) (done.insert k _) es hes]

end

end Expr

namespace Evaluation

/-! ## Texts and structures -/

/-- The names that the expression in a text uses, if there is one that can be read. -/
def namesIn (raw : String) : List String :=
  match body? raw with
  | none => []
  | some text => match Expr.parse? text with
    | none => []
    | some e => e.names

mutual

/-- The names that the expressions inside a value use. -/
def names : Json → List String
  | .str s => namesIn s
  | .arr xs => namesItems xs
  | .obj m => namesMembers m
  | .null | .bool _ | .num _ => []

/-- The names that the expressions inside items use. -/
def namesItems : List Json → List String
  | [] => []
  | x :: xs => names x ++ namesItems xs

/-- The names that the expressions inside members use. -/
def namesMembers : List (String × Json) → List String
  | [] => []
  | (_, x) :: m => names x ++ namesMembers m

end

/-! ## Evaluations that come to the same -/

variable {α β : Type} {d d' : Members}

/-- Whether two computations come to the same with the engine of the expression language, which
they keep. -/
def Same (c c' : Evaluating α) : Prop :=
  ∀ ev : Evaluator, ev.engine = engine → ev.run c = ev.run c' ∧ (ev.run c).2.engine = engine

theorem Same.pure (a : α) : Same (pure a : Evaluating α) (pure a) := fun _ h => ⟨rfl, h⟩

theorem Same.bind {c c' : Evaluating α} {k k' : α → Evaluating β} (h : Same c c')
    (hk : ∀ a, Same (k a) (k' a)) : Same (c >>= k) (c' >>= k') := by
  intro ev hev
  obtain ⟨hrun, hengine⟩ := h ev hev
  rw [run_bind, run_bind, ← hrun]
  rcases hx : ev.run c with ⟨f | a, ev'⟩
  · rw [hx] at hengine
    exact ⟨rfl, hengine⟩
  · rw [hx] at hengine
    exact hk a ev' hengine

theorem same_evaluateIn {raw : String} (h : d.AgreeOn (namesIn raw) d') :
    Same (evaluateIn d raw) (evaluateIn d' raw) := by
  unfold evaluateIn
  unfold namesIn at h
  cases hbody : body? raw with
  | none => exact .pure _
  | some text =>
    rw [hbody] at h
    -- a text that cannot be read fails in the same way in any document
    have hengine (seed : Nat) : engine seed text d = engine seed text d' := by
      unfold engine
      cases hparsed : Expr.parse? text with
      | none => rfl
      | some e =>
        simp only [hparsed] at h
        simp only [Expr.eval_congr (identifier seed) [] e h]
    rintro ⟨_, wrapper, count⟩ rfl
    have hrun : runEngine engine count raw text d = runEngine engine count raw text d' := by
      unfold runEngine
      rw [hengine]
    show evaluateBody raw text d _ = evaluateBody raw text d' _ ∧ (evaluateBody raw text d _).2.engine = _
    unfold evaluateBody
    simp only [hrun]
    exact ⟨trivial, by split <;> rfl⟩

mutual

theorem same_traverseIn : (v : Json) → d.AgreeOn (names v) d' →
    Same (traverseIn d v) (traverseIn d' v)
  | .str _, h => same_evaluateIn h
  | .arr xs, h => .bind (same_traverseItems xs h) fun _ => .pure _
  | .obj m, h => .bind (same_traverseMembers m h) fun _ => .pure _
  | .null, _ | .bool _, _ | .num _, _ => .pure _

theorem same_traverseItems : (xs : List Json) → d.AgreeOn (namesItems xs) d' →
    Same (traverseItems d xs) (traverseItems d' xs)
  | [], _ => .pure _
  | x :: xs, h => by
    obtain ⟨hx, hxs⟩ := Members.agreeOn_append.1 h
    exact .bind (same_traverseIn x hx) fun _ => .bind (same_traverseItems xs hxs) fun _ => .pure _

theorem same_traverseMembers : (m : List (String × Json)) → d.AgreeOn (namesMembers m) d' →
    Same (traverseMembers d m) (traverseMembers d' m)
  | [], _ => .pure _
  | (_, x) :: m, h => by
    obtain ⟨hx, hm⟩ := Members.agreeOn_append.1 h
    exact .bind (same_traverseIn x hx) fun _ => .bind (same_traverseMembers m hm) fun _ => .pure _

end

/-- What is laid over a scope makes no difference to a value that does not name it. -/
theorem same_traverse {v : Json} {locals locals' : Locals} (s : Scope)
    (h : ∀ n ∈ names v, n ∉ Members.keys locals ∧ n ∉ Members.keys locals') :
    Same (traverse v s locals) (traverse v s locals') := by
  rw [traverse_eq_traverseIn, traverse_eq_traverseIn]
  refine same_traverseIn v fun n hn => ?_
  unfold Scope.document
  rw [Members.get?_insertAll_of_not_mem _ (h n hn).1, Members.get?_insertAll_of_not_mem _ (h n hn).2]

end Evaluation

end TaskGraph

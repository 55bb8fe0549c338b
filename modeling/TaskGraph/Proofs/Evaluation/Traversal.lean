import TaskGraph.Proofs.Json.Places
import TaskGraph.Proofs.World

/-!
# Evaluating what is inside a value

A traversal of a value consults the expressions inside it (`Evaluation.expressions`), once each and in
the order of a walk, against the one document that the scope gives, and ends with the first of them
that fails (`Evaluation.Consults`). To consult an expression is to call the wrapper once; an expression
without a body fails and calls nothing. If none fails, the result is the value with each expression
replaced by what it was answered with, and everything else as it was (`Evaluation.Fills`). An
answer is put in its place as it is: nothing that an expression evaluates to is consulted.

The walk through an object goes by its keys, since these are in order. A value without expressions comes
back unchanged, and the wrapper is not called.
-/

set_option autoImplicit false

namespace TaskGraph

open Json (Turn Place)

/-- One call of the wrapper, for the body of an expression and a document. -/
def Evaluator.call (e : Evaluator) (document : Members) (raw text : String) :
    Except Fault Json × Evaluator :=
  let (answer, wrapper) :=
    e.wrapper.wrap fun _ => Evaluation.runEngine e.engine e.count raw text document
  (answer, { e with wrapper := wrapper, count := e.count + 1 })

namespace Evaluation

/-! ## Expressions inside a value -/

/-- Puts a turn in front of the places of expressions. -/
def behind (t : Turn) (es : List (Place × String)) : List (Place × String) :=
  es.map fun e => (t :: e.1, e.2)

mutual

/-- The expressions inside a value with their places, in the order of a walk. -/
def expressions : Json → List (Place × String)
  | .str s => if isExpression s then [([], s)] else []
  | .arr xs => expressionsItems 0 xs
  | .obj m => expressionsMembers 0 m
  | _ => []

/-- The expressions inside the items from a position on. -/
def expressionsItems (i : Nat) : List Json → List (Place × String)
  | [] => []
  | x :: xs => behind (.item i) (expressions x) ++ expressionsItems (i + 1) xs

/-- The expressions inside the members from a position on. -/
def expressionsMembers (i : Nat) : List (String × Json) → List (Place × String)
  | [] => []
  | (k, x) :: m => behind (.member i k) (expressions x) ++ expressionsMembers (i + 1) m

end

/-- The expressions inside some parts. -/
def expressionsParts (ps : List (Turn × Json)) : List (Place × String) :=
  ps.flatMap fun part => behind part.1 (expressions part.2)

theorem expressionsParts_cons (t : Turn) (x : Json) (ps : List (Turn × Json)) :
    expressionsParts ((t, x) :: ps) = behind t (expressions x) ++ expressionsParts ps :=
  List.flatMap_cons

theorem expressionsItems_eq (i : Nat) (xs : List Json) :
    expressionsItems i xs = expressionsParts (Json.itemParts i xs) := by
  induction xs generalizing i with
  | nil => rfl
  | cons x xs ih => rw [expressionsItems, Json.itemParts, expressionsParts_cons, ih]

theorem expressionsMembers_eq (i : Nat) (m : Members) :
    expressionsMembers i m = expressionsParts (Json.memberParts i m) := by
  induction m generalizing i with
  | nil => rfl
  | cons entry m ih =>
    obtain ⟨k, x⟩ := entry
    rw [expressionsMembers, Json.memberParts, expressionsParts_cons, ih]

/-- The expressions inside a value that is no text are those inside its parts, one part after the other. -/
theorem expressions_eq_parts {v : Json} (h : ∀ s, v ≠ .str s) :
    expressions v = expressionsParts v.parts := by
  cases v with
  | str s => exact absurd rfl (h s)
  | arr xs => exact expressionsItems_eq 0 xs
  | obj m => exact expressionsMembers_eq 0 m
  | _ => rfl

theorem mem_behind {t : Turn} {es : List (Place × String)} {p : Place} {raw : String} :
    (p, raw) ∈ behind t es ↔ ∃ q, p = t :: q ∧ (q, raw) ∈ es := by
  unfold behind
  rw [List.mem_map]
  constructor
  · rintro ⟨⟨q, s⟩, hmem, heq⟩
    cases heq
    exact ⟨q, rfl, hmem⟩
  · rintro ⟨q, rfl, hmem⟩
    exact ⟨(q, raw), hmem, rfl⟩

theorem mem_expressionsParts {ps : List (Turn × Json)} {p : Place} {raw : String} :
    (p, raw) ∈ expressionsParts ps ↔
      ∃ t x q, p = t :: q ∧ (t, x) ∈ ps ∧ (q, raw) ∈ expressions x := by
  unfold expressionsParts
  rw [List.mem_flatMap]
  constructor
  · rintro ⟨⟨t, x⟩, hx, hmem⟩
    obtain ⟨q, rfl, hq⟩ := mem_behind.1 hmem
    exact ⟨t, x, q, rfl, hx, hq⟩
  · rintro ⟨t, x, q, rfl, hx, hq⟩
    exact ⟨(t, x), hx, mem_behind.2 ⟨q, rfl, hq⟩⟩

theorem mem_expressions_str {s raw : String} {p : Place} :
    (p, raw) ∈ expressions (.str s) ↔ p = [] ∧ raw = s ∧ isExpression s = true := by
  rw [expressions]
  cases isExpression s <;> simp

/-- The expressions inside a value are the texts in it that are expressions, wherever they are. -/
theorem mem_expressions {v : Json} {p : Place} {raw : String} :
    (p, raw) ∈ expressions v ↔ v.at? p = some (.str raw) ∧ isExpression raw = true := by
  induction p generalizing v with
  | nil =>
    by_cases hv : ∃ s, v = .str s
    · obtain ⟨s, rfl⟩ := hv
      rw [mem_expressions_str]
      simp only [Json.at?_nil, Option.some.injEq, Json.str.injEq, true_and]
      constructor
      · rintro ⟨rfl, hraw⟩
        exact ⟨rfl, hraw⟩
      · rintro ⟨rfl, hraw⟩
        exact ⟨rfl, hraw⟩
    -- no expression inside the parts of a value is where the value itself is
    · have hstr : ∀ s, v ≠ .str s := fun s hs => hv ⟨s, hs⟩
      rw [expressions_eq_parts hstr, mem_expressionsParts]
      constructor
      · rintro ⟨t, x, q, hp, -⟩
        cases hp
      · rintro ⟨hat, -⟩
        cases hat
        exact absurd rfl (hstr raw)
  | cons t p ih =>
    rw [Json.at?_cons_eq_some_iff]
    by_cases hv : ∃ s, v = .str s
    · obtain ⟨s, rfl⟩ := hv
      simp [mem_expressions_str, Json.parts]
    · rw [expressions_eq_parts fun s hs => hv ⟨s, hs⟩, mem_expressionsParts]
      constructor
      · rintro ⟨t', x, q, hp, hx, hq⟩
        cases hp
        exact ⟨⟨x, hx, (ih.1 hq).1⟩, (ih.1 hq).2⟩
      · rintro ⟨⟨x, hx, hat⟩, hraw⟩
        exact ⟨t, x, p, rfl, hx, ih.2 ⟨hat, hraw⟩⟩

/-- A value has no expression inside it if no text inside it is one. -/
theorem expressions_eq_nil_iff {v : Json} :
    expressions v = [] ↔ ∀ p raw, v.at? p = some (.str raw) → isExpression raw = false := by
  rw [List.eq_nil_iff_forall_not_mem]
  constructor
  · intro h p raw hat
    exact Bool.eq_false_iff.2 fun hraw => h (p, raw) (mem_expressions.2 ⟨hat, hraw⟩)
  · rintro h ⟨p, raw⟩ hmem
    obtain ⟨hat, hraw⟩ := mem_expressions.1 hmem
    rw [h p raw hat] at hraw
    cases hraw

/-- The expressions inside some parts stand in a relation if those of each part do, and those of a part and
of a later one. -/
theorem pairwise_expressionsParts {R : Place → Place → Prop} {ps : List (Turn × Json)}
    (within : ∀ t x, (t, x) ∈ ps → (expressions x).Pairwise fun a b => R (t :: a.1) (t :: b.1))
    (across : ps.Pairwise fun a b => ∀ p q, R (a.1 :: p) (b.1 :: q)) :
    (expressionsParts ps).Pairwise fun a b => R a.1 b.1 := by
  rw [expressionsParts, List.pairwise_flatMap]
  constructor
  · rintro ⟨t, x⟩ hx
    exact List.pairwise_map.2 (within t x hx)
  · refine across.imp ?_
    rintro ⟨t, x⟩ ⟨t', y⟩ hR ⟨p, raw⟩ hp ⟨q, raw'⟩ hq
    obtain ⟨p', rfl, -⟩ := mem_behind.1 hp
    obtain ⟨q', rfl, -⟩ := mem_behind.1 hq
    exact hR p' q'

theorem pairwise_expressions_str (R : Place → Place → Prop) (s : String) :
    (expressions (.str s)).Pairwise fun a b => R a.1 b.1 := by
  rw [expressions]
  split
  · exact List.pairwise_singleton ..
  · exact List.Pairwise.nil

/-- No two expressions inside a value are at the same place. -/
theorem nodup_places (v : Json) : (expressions v).Pairwise fun a b => a.1 ≠ b.1 := by
  induction v using Json.induction_parts with
  | step v ih =>
    by_cases hv : ∃ s, v = .str s
    · obtain ⟨s, rfl⟩ := hv
      exact pairwise_expressions_str _ s
    · rw [expressions_eq_parts fun s hs => hv ⟨s, hs⟩]
      refine pairwise_expressionsParts (fun t x hx => (ih t x hx).imp ?_)
        (v.pairwise_ne_parts.imp ?_)
      · intro a b hne heq
        exact hne (List.cons.inj heq).2
      · intro a b hne p q heq
        exact hne (List.cons.inj heq).1

/-- If the members of all objects are in key order, each expression comes before those that follow it in a
walk. -/
theorem pairwise_before (v : Json) (h : v.InOrder) :
    (expressions v).Pairwise fun a b => Place.Before a.1 b.1 := by
  induction v using Json.induction_parts with
  | step v ih =>
    by_cases hv : ∃ s, v = .str s
    · obtain ⟨s, rfl⟩ := hv
      exact pairwise_expressions_str _ s
    · rw [expressions_eq_parts fun s hs => hv ⟨s, hs⟩]
      refine pairwise_expressionsParts (fun t x hx => (ih t x hx (h.part hx)).imp .within)
        (h.parts.imp ?_)
      intro a b hbefore p q
      exact .turn hbefore

/-! ## Values without expressions -/

mutual

theorem containsExpression_eq : ∀ v : Json, containsExpression v = !(expressions v).isEmpty
  | .str s => by
    rw [containsExpression, expressions]
    cases isExpression s <;> rfl
  | .arr xs => by
    rw [containsExpression, expressions]
    exact containsExpressionItems_eq 0 xs
  | .obj m => by
    rw [containsExpression, expressions]
    exact containsExpressionMembers_eq 0 m
  | .null | .bool _ | .num _ => rfl

theorem containsExpressionItems_eq (i : Nat) :
    ∀ xs : List Json, containsExpressionItems xs = !(expressionsItems i xs).isEmpty
  | [] => rfl
  | x :: xs => by
    rw [containsExpressionItems, expressionsItems, containsExpression_eq x,
      containsExpressionItems_eq (i + 1) xs]
    cases expressions x <;> rfl

theorem containsExpressionMembers_eq (i : Nat) :
    ∀ m : List (String × Json), containsExpressionMembers m = !(expressionsMembers i m).isEmpty
  | [] => rfl
  | (k, x) :: m => by
    rw [containsExpressionMembers, expressionsMembers, containsExpression_eq x,
      containsExpressionMembers_eq (i + 1) m]
    cases expressions x <;> rfl

end

mutual

theorem traverseIn_of_free (document : Members) :
    ∀ v : Json, containsExpression v = false → traverseIn document v = pure v
  | .str s, h => by
    rw [containsExpression] at h
    rw [traverseIn, evaluateIn_literal document h]
  | .arr xs, h => by
    rw [containsExpression] at h
    rw [traverseIn, traverseItems_of_free document xs h, pure_bind]
  | .obj m, h => by
    rw [containsExpression] at h
    rw [traverseIn, traverseMembers_of_free document m h, pure_bind]
  | .null, _ | .bool _, _ | .num _, _ => by
    simp only [traverseIn]

theorem traverseItems_of_free (document : Members) :
    ∀ xs : List Json, containsExpressionItems xs = false → traverseItems document xs = pure xs
  | [], _ => by
    rw [traverseItems]
  | x :: xs, h => by
    rw [containsExpressionItems, Bool.or_eq_false_iff] at h
    rw [traverseItems, traverseIn_of_free document x h.1, pure_bind,
      traverseItems_of_free document xs h.2, pure_bind]

theorem traverseMembers_of_free (document : Members) :
    ∀ m : List (String × Json), containsExpressionMembers m = false →
      traverseMembers document m = pure m
  | [], _ => by
    rw [traverseMembers]
  | (k, x) :: m, h => by
    rw [containsExpressionMembers, Bool.or_eq_false_iff] at h
    rw [traverseMembers, traverseIn_of_free document x h.1, pure_bind,
      traverseMembers_of_free document m h.2, pure_bind]

end

/-- Whether it looks for expressions first makes no difference to what a traversal does. -/
theorem traverse_eq_traverseIn (v : Json) (s : Scope) (locals : Locals) :
    traverse v s locals = traverseIn (s.document locals) v := by
  unfold traverse
  split
  · rfl
  · next h => exact (traverseIn_of_free _ v (Bool.eq_false_iff.2 h)).symm

/-! ## Consulting expressions -/

/-- Whether an evaluator, asked for some expressions one after the other, calls the wrapper for these, comes
to these answers or to a fault, and is another one after it. -/
inductive Consults (document : Members) :
    Evaluator → List String → List String → Except Fault (List Json) → Evaluator → Prop where
  | nil (e : Evaluator) : Consults document e [] [] (.ok []) e
  /-- An expression without a body fails without a call. -/
  | blank {e : Evaluator} {raw : String} (raws : List String) (body : body? raw = some "") :
      Consults document e (raw :: raws) []
        (.error (.expressionFailed raw "expression produced no result")) e
  /-- What is behind a call that fails is not consulted. -/
  | failed {e e' : Evaluator} {raw text : String} {f : Fault} (raws : List String)
      (body : body? raw = some text) (filled : text ≠ "")
      (call : e.call document raw text = (.error f, e')) :
      Consults document e (raw :: raws) [raw] (.error f) e'
  | answered {e e' e'' : Evaluator} {raw text : String} {w : Json} {raws calls : List String}
      {x : Except Fault (List Json)} (body : body? raw = some text) (filled : text ≠ "")
      (call : e.call document raw text = (.ok w, e'))
      (rest : Consults document e' raws calls x e'') :
      Consults document e (raw :: raws) (raw :: calls) (x.map (w :: ·)) e''

namespace Consults

variable {document : Members} {e e' e'' : Evaluator} {raws raws' calls calls' : List String}

/-- The wrapper is called for the first of the expressions, once for each, and for all of them if none
fails. -/
theorem calls_of {x : Except Fault (List Json)} (h : Consults document e raws calls x e') :
    calls <+: raws ∧ e'.count = e.count + calls.length ∧
      ∀ ws, x = .ok ws → calls = raws ∧ ws.length = raws.length := by
  induction h with
  | nil e =>
    refine ⟨List.prefix_refl [], rfl, fun ws hws => ?_⟩
    cases hws
    exact ⟨rfl, rfl⟩
  -- an empty expression fails before the wrapper is called
  | blank raws body => exact ⟨List.nil_prefix, rfl, fun ws hws => nomatch hws⟩
  -- the call that fails is counted, and is the last one
  | failed raws body filled call =>
    rw [Evaluator.call] at call
    obtain ⟨-, rfl⟩ := Prod.mk.inj call
    exact ⟨List.prefix_append [_] raws, rfl, fun ws hws => nomatch hws⟩
  | @answered e e₁ e₂ raw text w raws calls x body filled call rest ih =>
    obtain ⟨hfirst, hcount, hall⟩ := ih
    rw [Evaluator.call] at call
    obtain ⟨-, rfl⟩ := Prod.mk.inj call
    refine ⟨(List.prefix_cons_inj raw).2 hfirst, ?_, fun ws hws => ?_⟩
    · have hcalled : e₂.count = e.count + 1 + calls.length := hcount
      rw [List.length_cons]
      omega
    · cases x with
      | error f => cases hws
      | ok vs =>
        cases hws
        obtain ⟨rfl, hlength⟩ := hall vs rfl
        exact ⟨rfl, congrArg Nat.succ hlength⟩

theorem append {ws : List Json} {x : Except Fault (List Json)}
    (h : Consults document e raws calls (.ok ws) e') (h' : Consults document e' raws' calls' x e'') :
    Consults document e (raws ++ raws') (calls ++ calls') (x.map (ws ++ ·)) e'' := by
  generalize hy : Except.ok ws = y at h
  induction h generalizing ws with
  | nil e =>
    cases hy
    cases x <;> exact h'
  | blank raws body => cases hy
  | failed raws body filled call => cases hy
  | @answered e e₁ e₂ raw text w raws calls y body filled call rest ih =>
    cases y with
    | error f => cases hy
    | ok vs =>
      cases hy
      have hrest := Consults.answered body filled call (ih h' rfl)
      cases x <;> exact hrest

theorem stop {f : Fault} (h : Consults document e raws calls (.error f) e') (raws' : List String) :
    Consults document e (raws ++ raws') calls (.error f) e' := by
  generalize hy : Except.error f = y at h
  induction h with
  | nil e => cases hy
  | blank raws body =>
    cases hy
    exact .blank _ body
  | failed raws body filled call =>
    cases hy
    exact .failed _ body filled call
  | @answered e e₁ e₂ raw text w raws calls y body filled call rest ih =>
    cases y with
    | ok vs => cases hy
    | error f' =>
      cases hy
      exact .answered (x := .error f) body filled call (ih rfl)

end Consults

/-- What a computation comes to if the answers to some expressions are put into its value. -/
inductive Puts {α : Type} (put : List Json → α → Prop) :
    Except Fault (List Json) → Except Fault α → Prop where
  | failed (f : Fault) : Puts put (.error f) (.error f)
  | answered {ws : List Json} {a : α} (h : put ws a) : Puts put (.ok ws) (.ok a)

theorem Puts.imp {α : Type} {put put' : List Json → α → Prop} {x : Except Fault (List Json)}
    {r : Except Fault α} (h : Puts put x r) (himp : ∀ ws a, put ws a → put' ws a) :
    Puts put' x r := by
  cases h with
  | failed f => exact .failed f
  | answered hput => exact .answered (himp _ _ hput)

/-- Whether an evaluator consults some expressions, and the outcome is made of the answers. -/
def Traverses {α : Type} (document : Members) (e : Evaluator) (raws : List String)
    (put : List Json → α → Prop) (r : Except Fault α × Evaluator) : Prop :=
  ∃ calls x, Consults document e raws calls x r.2 ∧ Puts put x r.1

namespace Traverses

variable {α β : Type} {document : Members} {e : Evaluator} {raws raws' : List String}

theorem pure {put : List Json → α → Prop} {a : α} (h : put [] a) :
    Traverses document e [] put (e.run (Pure.pure a)) :=
  ⟨[], .ok [], .nil e, .answered h⟩

/-- What comes next consults its expressions after those before it, with the evaluator as it is then. -/
theorem bind {put : List Json → α → Prop} {put' : List Json → β → Prop} {c : Evaluating α}
    {k : α → Evaluating β} (h : Traverses document e raws put (e.run c))
    (hk : ∀ ws a e', put ws a →
      Traverses document e' raws' (fun ws' b => put' (ws ++ ws') b) (e'.run (k a))) :
    Traverses document e (raws ++ raws') put' (e.run (c >>= k)) := by
  obtain ⟨calls, x, hconsults, hputs⟩ := h
  rw [run_bind]
  rcases hc : e.run c with ⟨y, e'⟩
  rw [hc] at hconsults hputs
  cases hputs with
  | failed f => exact ⟨calls, .error f, hconsults.stop raws', .failed f⟩
  | @answered ws a hput =>
    obtain ⟨calls', x', hconsults', hputs'⟩ := hk ws a e' hput
    refine ⟨calls ++ calls', x'.map (ws ++ ·), hconsults.append hconsults', ?_⟩
    dsimp only
    generalize (e'.run (k a)).1 = y' at hputs'
    cases hputs' with
    | failed f => exact .failed f
    | answered hput' => exact .answered hput'

theorem map {put : List Json → α → Prop} {put' : List Json → β → Prop} {c : Evaluating α}
    {f : α → β} (h : Traverses document e raws put (e.run c))
    (hf : ∀ ws a, put ws a → put' ws (f a)) :
    Traverses document e raws put' (e.run (do let a ← c; Pure.pure (f a))) := by
  have hbind : Traverses document e (raws ++ []) put' (e.run (do let a ← c; Pure.pure (f a))) :=
    h.bind fun ws a e' hput => .pure (by rw [List.append_nil]; exact hf ws a hput)
  rwa [List.append_nil] at hbind

end Traverses

theorem traverses_evaluateBody (document : Members) (e : Evaluator) {raw text : String}
    (hbody : body? raw = some text) :
    Traverses document e [raw] (fun ws w => ws = [w]) (e.run (evaluateBody raw text document)) := by
  have hrun : e.run (evaluateBody raw text document) =
      if text = "" then (.error (.expressionFailed raw "expression produced no result"), e)
      else e.call document raw text := rfl
  rw [hrun]
  split
  · next htext =>
    subst htext
    exact ⟨[], _, .blank [] hbody, .failed _⟩
  · next htext =>
    rcases hcall : e.call document raw text with ⟨f | w, e'⟩
    · exact ⟨[raw], _, .failed [] hbody htext hcall, .failed f⟩
    · exact ⟨[raw], _, .answered hbody htext hcall (.nil e'), .answered rfl⟩

/-! ## Putting answers in place -/

/-- Whether a value is what another one becomes if answers take the places of its expressions. -/
structure Fills (v : Json) (ws : List Json) (w : Json) : Prop where
  length : ws.length = (expressions v).length
  /-- Each answer is where its expression was. -/
  answer : ∀ p raw a, ((p, raw), a) ∈ (expressions v).zip ws → w.at? p = some a
  /-- Whatever is no expression is where it was, with the parts it had. -/
  kept : ∀ p u, v.at? p = some u → (∀ raw, u = .str raw → isExpression raw = false) →
    ∃ u', w.at? p = some u' ∧ u.Matches u'

/-- Whether parts are filled one after the other. -/
inductive FillsParts : List (Turn × Json) → List Json → List (Turn × Json) → Prop where
  | nil : FillsParts [] [] []
  | cons {t : Turn} {x y : Json} {ps qs : List (Turn × Json)} {ws ws' : List Json}
      (first : Fills x ws y) (rest : FillsParts ps ws' qs) :
      FillsParts ((t, x) :: ps) (ws ++ ws') ((t, y) :: qs)

theorem mem_zip_behind {t : Turn} {es : List (Place × String)} {ws : List Json} {p : Place}
    {raw : String} {a : Json} :
    ((p, raw), a) ∈ (behind t es).zip ws ↔ ∃ q, p = t :: q ∧ ((q, raw), a) ∈ es.zip ws := by
  unfold behind
  rw [List.zip_map_left, List.mem_map]
  constructor
  · rintro ⟨⟨⟨q, s⟩, b⟩, hmem, heq⟩
    cases heq
    exact ⟨q, rfl, hmem⟩
  · rintro ⟨q, rfl, hmem⟩
    exact ⟨((q, raw), a), hmem, rfl⟩

namespace FillsParts

variable {ps qs : List (Turn × Json)} {ws : List Json}

theorem length_answers (h : FillsParts ps ws qs) : ws.length = (expressionsParts ps).length := by
  induction h with
  | nil => rfl
  | cons first rest ih =>
    rw [expressionsParts_cons, List.length_append, List.length_append, ih, first.length, behind,
      List.length_map]

theorem part (h : FillsParts ps ws qs) {t : Turn} {x : Json} (hx : (t, x) ∈ ps) :
    ∃ y ws', (t, y) ∈ qs ∧ Fills x ws' y := by
  induction h with
  | nil => cases hx
  | cons first rest ih =>
    rcases List.mem_cons.1 hx with heq | hx
    · cases heq
      exact ⟨_, _, List.mem_cons_self, first⟩
    · obtain ⟨y, ws', hy, hfills⟩ := ih hx
      exact ⟨y, ws', List.mem_cons_of_mem _ hy, hfills⟩

theorem answer (h : FillsParts ps ws qs) {p : Place} {raw : String} {a : Json}
    (hmem : ((p, raw), a) ∈ (expressionsParts ps).zip ws) :
    ∃ t y q, p = t :: q ∧ (t, y) ∈ qs ∧ y.at? q = some a := by
  induction h with
  | nil => cases hmem
  | cons first rest ih =>
    -- the first part has as many answers as expressions, so the lists split at the same place
    rw [expressionsParts_cons, List.zip_append (by rw [behind, List.length_map, first.length]),
      List.mem_append] at hmem
    rcases hmem with hmem | hmem
    · obtain ⟨q, rfl, hq⟩ := mem_zip_behind.1 hmem
      exact ⟨_, _, q, rfl, List.mem_cons_self, first.answer q raw a hq⟩
    · obtain ⟨t, y, q, hp, hy, hq⟩ := ih hmem
      exact ⟨t, y, q, hp, List.mem_cons_of_mem _ hy, hq⟩

/-- A value is filled if its parts are, and the turns to them stay. -/
theorem fills {v w : Json} (hstr : ∀ s, v ≠ .str s) (hmatches : v.Matches w)
    (h : FillsParts v.parts ws w.parts) : Fills v ws w where
  length := by rw [expressions_eq_parts hstr, h.length_answers]
  answer p raw a hmem := by
    rw [expressions_eq_parts hstr] at hmem
    obtain ⟨t, y, q, rfl, hy, hq⟩ := h.answer hmem
    exact Json.at?_cons_eq_some_iff.2 ⟨y, hy, hq⟩
  kept p u hat hplain := by
    cases p with
    | nil =>
      cases hat
      exact ⟨w, rfl, hmatches⟩
    | cons t q =>
      obtain ⟨x, hx, hat⟩ := Json.at?_cons_eq_some_iff.1 hat
      obtain ⟨y, ws', hy, hfills⟩ := h.part hx
      obtain ⟨u', hat', hmatches'⟩ := hfills.kept q u hat hplain
      exact ⟨u', Json.at?_cons_eq_some_iff.2 ⟨y, hy, hat'⟩, hmatches'⟩

end FillsParts

theorem Fills.plain {s : String} (h : isExpression s = false) : Fills (.str s) [] (.str s) where
  length := by simp [expressions, h]
  answer p raw a hmem := by simp at hmem
  kept p u hat _ := ⟨u, hat, Json.matches_refl u⟩

theorem Fills.expression {s : String} (h : isExpression s = true) (a : Json) :
    Fills (.str s) [a] a where
  length := by simp [expressions, h]
  answer p raw b hmem := by
    simp only [expressions, h, if_true, List.zip_cons_cons, List.zip_nil_left,
      List.mem_singleton] at hmem
    cases hmem
    rfl
  kept p u hat hplain := by
    cases p with
    | nil =>
      cases hat
      rw [hplain s rfl] at h
      cases h
    -- inside a text there is nothing that could be kept
    | cons t q =>
      obtain ⟨x, hx, -⟩ := Json.at?_cons_eq_some_iff.1 hat
      cases hx

/-! ## Traversing -/

/-- The texts of the expressions inside some parts. -/
theorem texts_cons (t : Turn) (x : Json) (ps : List (Turn × Json)) :
    (expressionsParts ((t, x) :: ps)).map Prod.snd =
      (expressions x).map Prod.snd ++ (expressionsParts ps).map Prod.snd := by
  rw [expressionsParts_cons, List.map_append, behind, List.map_map]
  rfl

theorem traverses_evaluateIn (document : Members) (e : Evaluator) (s : String) :
    Traverses document e ((expressions (.str s)).map Prod.snd) (Fills (.str s))
      (e.run (evaluateIn document s)) := by
  cases hbody : body? s with
  | none =>
    have hs : isExpression s = false := by rw [isExpression, hbody]; rfl
    have hnone : expressions (.str s) = [] := by rw [expressions, hs]; rfl
    rw [hnone, evaluateIn_literal document hs]
    exact .pure (.plain hs)
  | some text =>
    have hs : isExpression s = true := by rw [isExpression, hbody]; rfl
    have hone : expressions (.str s) = [([], s)] := by rw [expressions, hs]; rfl
    rw [hone, evaluateIn, hbody]
    obtain ⟨calls, x, hconsults, hputs⟩ := traverses_evaluateBody document e hbody
    refine ⟨calls, x, hconsults, hputs.imp ?_⟩
    rintro ws a rfl
    exact .expression hs a

section Parts

variable {document : Members}

theorem traverses_items (xs : List Json) (i : Nat)
    (h : ∀ x ∈ xs, ∀ e, Traverses document e ((expressions x).map Prod.snd) (Fills x)
      (e.run (traverseIn document x))) (e : Evaluator) :
    Traverses document e ((expressionsParts (Json.itemParts i xs)).map Prod.snd)
      (fun ws ys => FillsParts (Json.itemParts i xs) ws (Json.itemParts i ys) ∧
        xs.length = ys.length)
      (e.run (traverseItems document xs)) := by
  -- the later items are consulted by whatever evaluator the first one leaves behind
  induction xs generalizing i e with
  | nil => exact .pure ⟨.nil, rfl⟩
  | cons x xs ih =>
    rw [Json.itemParts, texts_cons, traverseItems]
    refine (h x List.mem_cons_self e).bind fun ws y e' hfirst => ?_
    refine (ih (i + 1) (fun z hz => h z (List.mem_cons_of_mem _ hz)) e').map fun ws' ys hrest => ?_
    exact ⟨.cons hfirst hrest.1, congrArg Nat.succ hrest.2⟩

theorem traverses_members (m : Members) (i : Nat)
    (h : ∀ x ∈ m, ∀ e, Traverses document e ((expressions x.2).map Prod.snd) (Fills x.2)
      (e.run (traverseIn document x.2))) (e : Evaluator) :
    Traverses document e ((expressionsParts (Json.memberParts i m)).map Prod.snd)
      (fun ws n => FillsParts (Json.memberParts i m) ws (Json.memberParts i n) ∧
        Members.keys m = Members.keys n)
      (e.run (traverseMembers document m)) := by
  induction m generalizing i e with
  | nil => exact .pure ⟨.nil, rfl⟩
  | cons entry m ih =>
    obtain ⟨k, x⟩ := entry
    rw [Json.memberParts, texts_cons, traverseMembers]
    refine (h (k, x) List.mem_cons_self e).bind fun ws y e' hfirst => ?_
    refine (ih (i + 1) (fun z hz => h z (List.mem_cons_of_mem _ hz)) e').map fun ws' n hrest => ?_
    exact ⟨.cons hfirst hrest.1, congrArg (k :: ·) hrest.2⟩

end Parts

theorem traverses_traverseIn (document : Members) (v : Json) (e : Evaluator) :
    Traverses document e ((expressions v).map Prod.snd) (Fills v)
      (e.run (traverseIn document v)) := by
  induction v using Json.induction_parts generalizing e with
  | step v ih =>
    cases v with
    | str s =>
      rw [traverseIn]
      exact traverses_evaluateIn document e s
    -- the expressions inside the items, and what they are replaced with, come in the order of the
    -- items
    | arr xs =>
      rw [traverseIn, expressions, expressionsItems_eq]
      refine (traverses_items xs 0 (fun x hx => ?_) e).map fun ws ys h => ?_
      · obtain ⟨j, hj⟩ := List.getElem?_of_mem hx
        exact ih _ x (Json.mem_itemParts.2 ⟨j, rfl, hj⟩)
      · exact h.1.fills (fun s => nofun) h.2
    | obj m =>
      rw [traverseIn, expressions, expressionsMembers_eq]
      refine (traverses_members m 0 (fun x hx => ?_) e).map fun ws n h => ?_
      · obtain ⟨j, hj⟩ := List.getElem?_of_mem hx
        exact ih _ x.2 (Json.mem_memberParts.2 ⟨j, x.1, rfl, hj⟩)
      · exact h.1.fills (fun s => nofun) h.2
    | _ => exact .pure (FillsParts.fills (fun s => nofun) rfl .nil)

theorem traverse_of_expressions_eq_nil {v : Json} (h : expressions v = []) (s : Scope)
    (locals : Locals) : traverse v s locals = pure v := by
  have hfree : containsExpression v = false := by rw [containsExpression_eq, h]; rfl
  rw [traverse_eq_traverseIn, traverseIn_of_free _ v hfree]

/-- A traversal of a value leaves it as it is, and calls nothing, if no text inside it is an expression. In
general it consults the expressions inside the value, one for each text that is one, in the order of a walk
and against the document of the scope; it fails with the first that fails, and otherwise gives the value
with the answers, as they are, in the places of the expressions. The wrapper is called once for
each expression up to the first that fails. -/
theorem traverse_consults_expressions (v : Json) (s : Scope) (locals : Locals) (e : Evaluator) :
    ((∀ p raw, v.at? p = some (.str raw) → isExpression raw = false) →
      e.run (traverse v s locals) = (.ok v, e) ∧
        e.run (traverseIn (s.document locals) v) = (.ok v, e)) ∧
    (∃ calls x,
      Consults (s.document locals) e ((expressions v).map Prod.snd) calls x
        (e.run (traverse v s locals)).2 ∧
      Puts (Fills v) x (e.run (traverse v s locals)).1 ∧
      calls <+: (expressions v).map Prod.snd ∧
      (e.run (traverse v s locals)).2.count = e.count + calls.length ∧
      ∀ ws, x = .ok ws → calls = (expressions v).map Prod.snd) ∧
    (∀ p raw, (p, raw) ∈ expressions v ↔ v.at? p = some (.str raw) ∧ isExpression raw = true) ∧
    ((expressions v).Pairwise fun a b => a.1 ≠ b.1) ∧
    (v.InOrder → (expressions v).Pairwise fun a b => Place.Before a.1 b.1) := by
  refine ⟨fun hplain => ?_, ?_, fun p raw => mem_expressions, nodup_places v, pairwise_before v⟩
  · have hpure := traverse_of_expressions_eq_nil (expressions_eq_nil_iff.2 hplain) s locals
    rw [← traverse_eq_traverseIn, hpure]
    exact ⟨rfl, rfl⟩
  · rw [traverse_eq_traverseIn]
    obtain ⟨calls, x, hconsults, hputs⟩ := traverses_traverseIn (s.document locals) v e
    obtain ⟨hfirst, hcount, hall⟩ := hconsults.calls_of
    exact ⟨calls, x, hconsults, hputs, hfirst, hcount, fun ws hws => (hall ws hws).1⟩

/-- A value with a text, an expression and a number. -/
def mixed : Json :=
  .obj [("a", .str "plain"), ("b", .arr [.str "$\x7b data.text \x7d", .nat 1])]

theorem inOrder_mixed : mixed.InOrder := by
  refine Json.inOrder_of_parts (fun m hm => ?_) fun t x hx => ?_
  · cases hm
    exact List.pairwise_pair.2 (by decide)
  · rcases List.mem_cons.1 hx with heq | hx
    · cases heq
      exact Json.inOrder_of_parts nofun nofun
    · rcases List.mem_singleton.1 hx
      refine Json.inOrder_of_parts nofun fun t x hx => ?_
      rcases List.mem_cons.1 hx with heq | hx
      · cases heq
        exact Json.inOrder_of_parts nofun nofun
      · rcases List.mem_singleton.1 hx
        exact Json.inOrder_of_parts nofun nofun

/-- An expression whose value is written as an expression: the value is put in its place and not evaluated
again, and the wrapper is called once. -/
theorem traverse_consults_expressions_of_mixed :
    let s := (Scope.start .null []).setData "text" (.str "$\x7b 1 \x7d")
    let e : Evaluator := ⟨engine, .passThrough, 0⟩
    e.run (traverse (.str "plain") s []) = (.ok (.str "plain"), e) ∧
      (expressions mixed).Pairwise (fun a b => Place.Before a.1 b.1) ∧
      (∃ calls, (e.run (traverse mixed s [])).2.count = e.count + calls.length ∧
        calls = ["$\x7b data.text \x7d"]) ∧
      (e.run (traverse mixed s [])).1.toOption =
        some (.obj [("a", .str "plain"), ("b", .arr [.str "$\x7b 1 \x7d", .nat 1])]) := by
  intro s e
  have hplain : expressions (.str "plain") = [] := by decide +kernel
  have hvalue : (e.run (traverse mixed s [])).1.toOption =
      some (.obj [("a", .str "plain"), ("b", .arr [.str "$\x7b 1 \x7d", .nat 1])]) := by
    decide +kernel
  obtain ⟨-, ⟨calls, x, -, hputs, -, hcount, hall⟩, -, -, horder⟩ :=
    traverse_consults_expressions mixed s [] e
  refine ⟨((traverse_consults_expressions _ s [] e).1 (expressions_eq_nil_iff.1 hplain)).1,
    horder inOrder_mixed, ⟨calls, hcount, ?_⟩, hvalue⟩
  generalize (e.run (traverse mixed s [])).1 = y at hputs hvalue
  cases hputs with
  | failed f => cases hvalue
  | answered hput => exact (hall _ rfl).trans (by decide +kernel)

end Evaluation

end TaskGraph

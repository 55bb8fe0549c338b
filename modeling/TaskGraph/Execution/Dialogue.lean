import TaskGraph.Execution.Request

/-!
# Dialogues

A dialogue is a computation that talks to its host: it is done with a value, or it makes a request and
goes on with the answer. Any host can conduct it, so what holds of a dialogue holds on every host.
-/

set_option autoImplicit false

namespace TaskGraph

/-- A computation that makes requests. -/
inductive Dialogue (α : Type) where
  | done (value : α)
  | ask (request : Request) (next : request.Answer → Dialogue α)

namespace Dialogue

variable {α β γ : Type}

/-- Goes on with the value of a dialogue. -/
def bind : Dialogue α → (α → Dialogue β) → Dialogue β
  | done a, f => f a
  | ask q k, f => ask q fun a => (k a).bind f

/-- Changes the value of a dialogue. -/
def map (f : α → β) (d : Dialogue α) : Dialogue β := d.bind fun a => done (f a)

instance : Monad Dialogue where
  pure := done
  bind := bind

/-- Makes one request. -/
def request (q : Request) : Dialogue q.Answer := ask q done

@[simp] theorem bind_done (d : Dialogue α) : d.bind done = d := by
  induction d with
  | done a => rfl
  | ask q k ih => simp only [bind]; congr; funext a; exact ih a

theorem bind_assoc (d : Dialogue α) (f : α → Dialogue β) (g : β → Dialogue γ) :
    (d.bind f).bind g = d.bind fun a => (f a).bind g := by
  induction d with
  | done a => rfl
  | ask q k ih => simp only [bind]; congr; funext a; exact ih a

instance : LawfulMonad Dialogue :=
  LawfulMonad.mk' Dialogue (fun d => bind_done d) (fun _ _ => rfl) (fun d f g => bind_assoc d f g)

end Dialogue

/-- A dialogue that may end in a fault. -/
abbrev Running (α : Type) := ExceptT Fault Dialogue α

namespace Running

variable {α : Type}

/-- Makes a request whose answer is a value. -/
def ask (q : Request) : Running q.Answer := ExceptT.lift (Dialogue.request q)

/-- The outcome of a dialogue, fault or value. -/
def outcome (r : Running α) : Running (Except Fault α) := ExceptT.lift r.run

/-- A value or a fault that is there already. -/
def ofExcept (r : Except Fault α) : Running α := ExceptT.mk (.done r)

/-! ## Requests by name -/

/-- Evaluates a text. -/
def evaluate (text : String) (scope : Scope) (locals : Locals) : Running Json :=
  ExceptT.mk (Dialogue.request (.evaluate text scope locals))

/-- Evaluates every text inside a value. -/
def traverse (value : Json) (scope : Scope) (locals : Locals) : Running Json :=
  ExceptT.mk (Dialogue.request (.traverse value scope locals))

/-- Checks a guard. -/
def check (guard : Option String) (scope : Scope) (locals : Locals) : Running Bool :=
  ExceptT.mk (Dialogue.request (.check guard scope locals))

/-- Runs a graph once. -/
def enter (c : Context) (g : Graph) (input : Json) (scope : Scope) : Running Scope :=
  ExceptT.mk (Dialogue.request (.enter c g input scope))

/-- Makes one attempt at a call. -/
def dispatch (c : Context) (r : CallRequest) (timeout : Duration) : Running Json :=
  ExceptT.mk (Dialogue.request (.dispatch c r timeout))

/-- Waits for signals. -/
def listen (c : Context) (mode : ListenMode) (signals : List String) : Running (List (String × Json)) :=
  ExceptT.mk (Dialogue.request (.listen c mode signals))

/-- Waits for detached graphs. -/
def settle (c : Context) : Running Unit := ExceptT.mk (Dialogue.request (.settle c))

/-- Whether the context is cancelled. -/
def cancelled (c : Context) : Running Bool := ask (.cancelled c)

/-- Writes to the history. -/
def record (c : Context) (e : HistoryEvent) : Running Unit := ask (.record c e)

/-- Tells observers. -/
def tell (n : Notice) : Running Unit := ask (.tell n)

/-- Waits; false when the context was cancelled. -/
def pause (c : Context) (d : Duration) : Running Bool := ask (.pause c d)

end Running

end TaskGraph

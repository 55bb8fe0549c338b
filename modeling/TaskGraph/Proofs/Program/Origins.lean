import Mathlib.Data.List.Nodup
import TaskGraph.Proofs.Program.WellFormed

/-!
# Where graphs come from

A graph is the document or a nested list, and has its name, or it is made for a part of a task in another
graph (`Origin`), and its name is put together from the names of these, with underscores between them.
Such a name can be read back if the names of the tasks and branches that graphs are made for are without
underscores: the kind of the part is up to the first one, and the task and the branch are behind the last
ones. So different origins have different names (`Origin.name_inj`), unless a graph was given a name that is
made for another one as well.

That the origins of the graphs of a document are all different is an induction on its tasks. Graphs made in
different siblings are told apart by the part that they are made for right inside the list of these, and
graphs with names of their own, and what is in them, by these names (`Origin.Spread`).
-/

set_option autoImplicit false

namespace TaskGraph

open Compiling (names)

/-! ## Texts with underscores -/

namespace Naming

/-- What is in front of the first underscore of a text is read back. -/
theorem first_inj {x x' y y' : List Char} (hx : '_' ∉ x) (hx' : '_' ∉ x')
    (h : x ++ '_' :: y = x' ++ '_' :: y') : x = x' ∧ y = y' := by
  induction x generalizing x' with
  | nil =>
    cases x' with
    | nil => exact ⟨rfl, (List.cons.inj h).2⟩
    | cons c x' =>
      obtain ⟨rfl, -⟩ := List.cons.inj h
      exact absurd (List.mem_cons_self ..) hx'
  | cons c x ih =>
    cases x' with
    | nil =>
      obtain ⟨rfl, -⟩ := List.cons.inj h
      exact absurd (List.mem_cons_self ..) hx
    | cons c' x' =>
      obtain ⟨rfl, hrest⟩ := List.cons.inj h
      obtain ⟨rfl, rfl⟩ := ih (mt (List.mem_cons_of_mem c) hx) (mt (List.mem_cons_of_mem c) hx') hrest
      exact ⟨rfl, rfl⟩

/-- What is behind the last underscore of a text is read back. -/
theorem last_inj {x x' y y' : List Char} (hy : '_' ∉ y) (hy' : '_' ∉ y')
    (h : x ++ '_' :: y = x' ++ '_' :: y') : x = x' ∧ y = y' := by
  have hreverse : y.reverse ++ '_' :: x.reverse = y'.reverse ++ '_' :: x'.reverse := by
    simpa using congrArg List.reverse h
  obtain ⟨hyy, hxx⟩ := first_inj (mt List.mem_reverse.1 hy) (mt List.mem_reverse.1 hy') hreverse
  exact ⟨List.reverse_inj.1 hxx, List.reverse_inj.1 hyy⟩

theorem toList_graphName (kind parent task : String) (key : Option String) :
    (graphName kind parent task key).toList = kind.toList ++ '_' :: (parent.toList ++
      '_' :: (task.toList ++ match key with
        | some key => '_' :: key.toList
        | none => [])) := by
  unfold graphName
  cases key <;> simp

/-- What the name of a graph is put together from is read back, unless there are underscores in the name
of the task or of the branch; the graph around it may have any name. -/
theorem graphName_inj {kind kind' parent parent' task task' : String} {key key' : Option String}
    (hkind : '_' ∉ kind.toList) (hkind' : '_' ∉ kind'.toList) (htask : '_' ∉ task.toList)
    (htask' : '_' ∉ task'.toList) (hkey : ∀ k ∈ key, '_' ∉ k.toList) (hkey' : ∀ k ∈ key', '_' ∉ k.toList)
    (hsame : kind = kind' → key.isSome = key'.isSome)
    (h : graphName kind parent task key = graphName kind' parent' task' key') :
    kind = kind' ∧ parent = parent' ∧ task = task' ∧ key = key' := by
  have htext := congrArg String.toList h
  rw [toList_graphName, toList_graphName] at htext
  obtain ⟨hkinds, hrest⟩ := first_inj hkind hkind' htext
  obtain rfl := String.toList_injective hkinds
  have hsame := hsame rfl
  -- the name is taken apart from behind: the key, if there is one, then the task, and the rest is
  -- the graph around it
  cases key with
  | none =>
    cases key' with
    | some k' => cases hsame
    | none =>
      obtain ⟨hparents, htasks⟩ := last_inj htask htask' (by simpa using hrest)
      exact ⟨rfl, String.toList_injective hparents, String.toList_injective htasks, rfl⟩
  | some k =>
    cases key' with
    | none => cases hsame
    | some k' =>
      have hrest' : (parent.toList ++ '_' :: task.toList) ++ '_' :: k.toList =
          (parent'.toList ++ '_' :: task'.toList) ++ '_' :: k'.toList := by
        simpa using hrest
      obtain ⟨hfronts, hkeys⟩ := last_inj (hkey k rfl) (hkey' k' rfl) hrest'
      obtain ⟨hparents, htasks⟩ := last_inj htask htask' hfronts
      exact ⟨rfl, String.toList_injective hparents, String.toList_injective htasks,
        congrArg some (String.toList_injective hkeys)⟩

end Naming

/-! ## Origins -/

namespace Origin

/-- A part of a task that a graph is made for. -/
inductive Part where
  | loop (task : String)
  | branch (task key : String)
  | tried (task : String)
  | caught (task : String)
  deriving Repr, DecidableEq

namespace Part

def kind : Part → String
  | loop _ => "for"
  | branch .. => "fork"
  | tried _ => "try"
  | caught _ => "catch"

def task : Part → String
  | loop task | branch task _ | tried task | caught task => task

def key : Part → Option String
  | branch _ key => some key
  | _ => none

/-- Whether neither the task nor the branch has an underscore in its name. -/
def Plain (p : Part) : Prop := '_' ∉ p.task.toList ∧ ∀ key ∈ p.key, '_' ∉ key.toList

instance (p : Part) : Decidable p.Plain := inferInstanceAs (Decidable (_ ∧ _))

end Part

end Origin

/-- Where a graph comes from: it is named in the document, or made for a part of a task in another graph. -/
inductive Origin where
  | named (name : String)
  | made (part : Origin.Part) (around : Origin)
  deriving Repr, DecidableEq

namespace Origin

/-- The name that the graph of an origin is registered under. -/
def name : Origin → String
  | named name => name
  | made part around => Naming.graphName part.kind around.name part.task part.key

/-- The name that is given in the document, if one is. -/
def given? : Origin → Option String
  | named name => some name
  | made .. => none

/-- Whether there are no underscores in the names of the task and the branch that a graph is made for. -/
def Plain : Origin → Prop
  | named _ => True
  | made part _ => part.Plain

instance : (o : Origin) → Decidable o.Plain
  | named _ => .isTrue trivial
  | made part _ => inferInstanceAs (Decidable part.Plain)

/-! ### Names that are read back -/

namespace Part

theorem kind_plain (p : Part) : '_' ∉ p.kind.toList := by
  cases p with
  | loop => exact (by decide : '_' ∉ "for".toList)
  | branch => exact (by decide : '_' ∉ "fork".toList)
  | tried => exact (by decide : '_' ∉ "try".toList)
  | caught => exact (by decide : '_' ∉ "catch".toList)

/-- A part is known by its kind, its task and its key. -/
theorem ext_iff {p q : Part} : p = q ↔ p.kind = q.kind ∧ p.task = q.task ∧ p.key = q.key := by
  constructor
  · rintro rfl
    exact ⟨rfl, rfl, rfl⟩
  · cases p <;> cases q <;> simp [kind, task, key]

/-- Only branches have keys. -/
theorem isSome_key_of_kind {p q : Part} (h : p.kind = q.kind) : p.key.isSome = q.key.isSome := by
  cases p <;> cases q <;> simp_all [kind, key]

end Part

/-- The part that a graph is made for and the name of the graph around it are read back. -/
theorem made_inj {part part' : Part} {around around' : Origin} (hplain : part.Plain)
    (hplain' : part'.Plain) (h : (made part around).name = (made part' around').name) :
    part = part' ∧ around.name = around'.name := by
  obtain ⟨hkind, haround, htask, hkey⟩ := Naming.graphName_inj part.kind_plain part'.kind_plain hplain.1
    hplain'.1 hplain.2 hplain'.2 Part.isSome_key_of_kind h
  exact ⟨Part.ext_iff.2 ⟨hkind, htask, hkey⟩, haround⟩

/-- The origins around a graph, that of the graph itself first. -/
def chain : Origin → List Origin
  | named name => [named name]
  | made part around => made part around :: around.chain

/-- The name that is given to the outermost graph around a graph. -/
def root : Origin → String
  | named name => name
  | made _ around => around.root

theorem self_mem_chain (o : Origin) : o ∈ o.chain := by
  cases o <;> exact List.mem_cons_self ..

theorem root_of_mem_chain {o q : Origin} (h : o ∈ q.chain) : o.root = q.root := by
  induction q with
  | named name =>
    rw [List.mem_singleton.1 h]
  | made part around ih =>
    rcases List.mem_cons.1 h with rfl | h
    · rfl
    · exact ih h

theorem mem_chain_of_made {part : Part} {o q : Origin} (h : made part o ∈ q.chain) : o ∈ q.chain := by
  induction q with
  | named name => cases List.mem_singleton.1 h
  | made part' around ih =>
    rcases List.mem_cons.1 h with heq | h
    · cases heq
      exact List.mem_cons_of_mem _ o.self_mem_chain
    · exact List.mem_cons_of_mem _ (ih h)

/-- A graph is not around itself. -/
theorem length_chain_le {o q : Origin} (h : o ∈ q.chain) : o.chain.length ≤ q.chain.length := by
  induction q with
  | named name =>
    obtain rfl := List.mem_singleton.1 h
    exact Nat.le_refl _
  | made part around ih =>
    rcases List.mem_cons.1 h with rfl | h
    · exact Nat.le_refl _
    · exact Nat.le_succ_of_le (ih h)

/-- Of two graphs made right inside another one, only one is around a graph. -/
theorem part_of_mem_chain {part part' : Part} {o q : Origin} (h : made part o ∈ q.chain)
    (h' : made part' o ∈ q.chain) : part = part' := by
  induction q with
  | named name => cases List.mem_singleton.1 h
  | made part'' around ih =>
    rcases List.mem_cons.1 h with heq | hmem
    · cases heq
      rcases List.mem_cons.1 h' with heq' | hmem'
      · cases heq'
        rfl
      · exact absurd (length_chain_le hmem') (Nat.not_succ_le_self _)
    · rcases List.mem_cons.1 h' with heq' | hmem'
      · cases heq'
        exact absurd (length_chain_le hmem) (Nat.not_succ_le_self _)
      · exact ih hmem hmem'

end Origin

/-! ## The origins of the graphs of a document -/

namespace Task

open Origin

mutual

/-- The origins of the graphs that are compiled along with a task, in the order of `Task.lists`. -/
def origins (around : Origin) (name : String) : Action → List Origin
  | .block tasks => innerOrigins (.named name) tasks ++ [.named name]
  | .loop _ _ body =>
    let loop := made (.loop name) around
    innerOrigins loop body ++ [loop]
  | .fork _ tasks => branchOrigins around name tasks
  | .attempt body _ handler =>
    let attempted := made (.tried name) around
    let handling := made (.caught name) around
    (if body.isEmpty then [] else innerOrigins attempted body ++ [attempted]) ++
      if handler.isEmpty then [] else innerOrigins handling handler ++ [handling]
  | _ => []

/-- The origins of the graphs that are compiled along with the tasks of a list. -/
def innerOrigins (around : Origin) : List Task → List Origin
  | [] => []
  | ⟨name, _, action⟩ :: tasks => origins around name action ++ innerOrigins around tasks

/-- The origins of the branches of a fork and of the graphs that are compiled along with them. -/
def branchOrigins (around : Origin) (fork : String) : List Task → List Origin
  | [] => []
  | ⟨name, _, action⟩ :: tasks =>
    let branch := made (.branch fork name) around
    (match action with
      | .block list => innerOrigins branch list ++ [branch]
      | action => origins branch name action ++ [branch]) ++
      branchOrigins around fork tasks

end

mutual

theorem map_name_origins (around : Origin) (name : String) : (action : Action) →
    (origins around name action).map Origin.name = (lists around.name name action).map Prod.fst
  | .block tasks => by
    rw [origins.eq_def, lists.eq_def]
    simp only [List.map_append, map_name_innerOrigins (.named name) tasks]
    rfl
  | .loop _ _ body => by
    rw [origins.eq_def, lists.eq_def]
    simp only [List.map_append, map_name_innerOrigins (made (.loop name) around) body]
    rfl
  | .fork _ tasks => by
    rw [origins.eq_def, lists.eq_def]
    exact map_name_branchOrigins around name tasks
  | .attempt body _ handler => by
    -- the body and the handler are named alike, and an empty one is left out on both sides
    have hpart (part : Part) (tasks : TaskList)
        (htasks : (innerOrigins (made part around) tasks).map Origin.name =
          (inner (made part around).name tasks).map Prod.fst) :
        (if tasks.isEmpty then [] else innerOrigins (made part around) tasks ++ [made part around]).map
            Origin.name =
          (if tasks.isEmpty then [] else inner (made part around).name tasks ++
            [((made part around).name, tasks)]).map Prod.fst := by
      split
      · rfl
      · simp [htasks]
    rw [origins.eq_def, lists.eq_def]
    dsimp only
    rw [List.map_append, List.map_append,
      hpart (.tried name) body (map_name_innerOrigins (made (.tried name) around) body),
      hpart (.caught name) handler (map_name_innerOrigins (made (.caught name) around) handler)]
    rfl
  | .switch _ | .call _ | .run _ | .wait _ | .raise _ | .listen _ | .assign _ | .custom .. => by
    rw [origins.eq_def, lists.eq_def]
    rfl

theorem map_name_innerOrigins (around : Origin) : (tasks : List Task) →
    (innerOrigins around tasks).map Origin.name = (inner around.name tasks).map Prod.fst
  | [] => by
    rw [innerOrigins.eq_def, inner.eq_def]
    rfl
  | ⟨name, _, action⟩ :: tasks => by
    rw [innerOrigins.eq_def, inner.eq_def]
    simp only [List.map_append, map_name_origins around name action, map_name_innerOrigins around tasks]

theorem map_name_branchOrigins (around : Origin) (fork : String) : (tasks : List Task) →
    (branchOrigins around fork tasks).map Origin.name = (branches around.name fork tasks).map Prod.fst
  | [] => by
    rw [branchOrigins.eq_def, branches.eq_def]
    rfl
  | ⟨name, base, action⟩ :: tasks => by
    have hbranch : (made (.branch fork name) around).name =
        Naming.graphName "fork" around.name fork (some name) := rfl
    rw [branchOrigins.eq_def, branches.eq_def]
    simp only [List.map_append, map_name_branchOrigins around fork tasks]
    congr 1
    cases action with
    | block list =>
      simp only [List.map_append, map_name_innerOrigins (made (.branch fork name) around) list, hbranch]
      rfl
    | _ =>
      simp only [List.map_append, map_name_origins (made (.branch fork name) around) name, hbranch]
      rfl

end

end Task

/-! ## All origins are different -/

/-- Whether the branches of a fork have different names. -/
def Action.BranchesApart : Action → Prop
  | .fork _ branches => (names branches).Nodup
  | _ => True

instance : (action : Action) → Decidable action.BranchesApart
  | .fork _ branches => inferInstanceAs (Decidable (names branches).Nodup)
  | .block _ | .loop .. | .switch _ | .attempt .. | .call _ | .run _ | .wait _ | .raise _ | .listen _
  | .assign _ | .custom .. => .isTrue trivial

/-- Whether siblings have different names: the tasks of a list, and the branches of a fork. -/
def SiblingsApart (lists : List (String × TaskList)) : Prop :=
  ∀ e ∈ lists, (names e.2).Nodup ∧ ∀ task ∈ e.2, task.action.BranchesApart

theorem siblingsApart_append {lists lists' : List (String × TaskList)} :
    SiblingsApart (lists ++ lists') ↔ SiblingsApart lists ∧ SiblingsApart lists' :=
  List.forall_mem_append

theorem siblingsApart_concat {lists : List (String × TaskList)} {graph : String} {tasks : TaskList} :
    SiblingsApart (lists ++ [(graph, tasks)]) ↔
      SiblingsApart lists ∧ (names tasks).Nodup ∧ ∀ task ∈ tasks, task.action.BranchesApart := by
  rw [siblingsApart_append]
  simp [SiblingsApart]

namespace Origin

/-- The names among some origins that are given in the document. -/
def givens (os : List Origin) : List String := os.filterMap given?

theorem mem_givens {os : List Origin} {n : String} : n ∈ givens os ↔ named n ∈ os := by
  unfold givens
  rw [List.mem_filterMap]
  constructor
  · rintro ⟨o, ho, hgiven⟩
    cases o with
    | named name =>
      cases hgiven
      exact ho
    | made => cases hgiven
  · exact fun h => ⟨named n, h, rfl⟩

theorem givens_append (os os' : List Origin) : givens (os ++ os') = givens os ++ givens os' :=
  List.filterMap_append ..

/-- What is known of origins in a list, which is that of a graph: they are different, each stands in a graph
that is named among them or in one that is made for one of some parts, right inside the list, and the graph
around each one is that of the list or among them. -/
structure Spread (around : Origin) (parts : Part → Prop) (os : List Origin) : Prop where
  nodup : os.Nodup
  inside : ∀ q ∈ os, q.root ∈ givens os ∨ ∃ part, parts part ∧ made part around ∈ q.chain
  closed : ∀ part o, made part o ∈ os → o = around ∨ o ∈ os

namespace Spread

variable {around : Origin} {parts parts' : Part → Prop} {os os' : List Origin}

theorem nil : Spread around parts [] := ⟨List.nodup_nil, nofun, nofun⟩

theorem mono (h : Spread around parts os) (imp : ∀ part, parts part → parts' part) :
    Spread around parts' os where
  nodup := h.nodup
  inside q hq := (h.inside q hq).imp_right fun ⟨part, hpart, hmem⟩ => ⟨part, imp part hpart, hmem⟩
  closed := h.closed

/-- Origins for different parts are different, if the names that are given are. -/
theorem append (h : Spread around parts os) (h' : Spread around parts' os')
    (hparts : ∀ part, parts part → ¬ parts' part) (hgivens : (givens (os ++ os')).Nodup)
    (hroot : around.root ∉ givens (os ++ os')) :
    Spread around (fun part => parts part ∨ parts' part) (os ++ os') := by
  rw [givens_append] at hgivens hroot
  obtain ⟨hout, hout'⟩ := not_or.1 (mt List.mem_append.2 hroot)
  refine ⟨List.nodup_append.2 ⟨h.nodup, h'.nodup, fun q hq q' hq' heq => ?_⟩, fun q hq => ?_, ?_⟩
  · subst heq
    -- an origin in both is under a given name in both, or in one of them only, or under a part of
    -- each
    rcases h.inside q hq with hgiven | ⟨part, hpart, hmem⟩
    · rcases h'.inside q hq' with hgiven' | ⟨part', -, hmem'⟩
      · exact (List.nodup_append.1 hgivens).2.2 _ hgiven _ hgiven' rfl
      · -- one of them stands in a graph with a name of its own, the other one does not
        rw [← root_of_mem_chain hmem'] at hgiven
        exact hout hgiven
    · rcases h'.inside q hq' with hgiven' | ⟨part', hpart', hmem'⟩
      · rw [← root_of_mem_chain hmem] at hgiven'
        exact hout' hgiven'
      · exact hparts part hpart (part_of_mem_chain hmem hmem' ▸ hpart')
  · rw [givens_append]
    rcases List.mem_append.1 hq with hq | hq
    · exact (h.inside q hq).imp (List.mem_append_left _) fun ⟨part, hpart, hmem⟩ =>
        ⟨part, .inl hpart, hmem⟩
    · exact (h'.inside q hq).imp (List.mem_append_right _) fun ⟨part, hpart, hmem⟩ =>
        ⟨part, .inr hpart, hmem⟩
  · intro part o ho
    rcases List.mem_append.1 ho with ho | ho
    · exact (h.closed part o ho).imp_right (List.mem_append_left _)
    · exact (h'.closed part o ho).imp_right (List.mem_append_right _)

/-- A list that has a name of its own, in any graph. -/
theorem named {name : String} (h : Spread (named name) parts os)
    (hgivens : (givens (os ++ [.named name])).Nodup) :
    Spread around parts' (os ++ [.named name]) := by
  rw [givens_append] at hgivens
  have hnew : name ∉ givens os := fun hmem =>
    (List.nodup_append.1 hgivens).2.2 _ hmem _ (List.mem_singleton.2 rfl) rfl
  refine ⟨List.nodup_append.2 ⟨h.nodup, List.nodup_singleton _, fun q hq q' hq' heq => ?_⟩,
    fun q hq => .inl ?_, ?_⟩
  · subst heq
    rw [List.mem_singleton.1 hq'] at hq
    exact hnew (mem_givens.2 hq)
  · rw [givens_append]
    rcases List.mem_append.1 hq with hq | hq
    · rcases h.inside q hq with hgiven | ⟨part, -, hmem⟩
      · exact List.mem_append_left _ hgiven
      · exact List.mem_append_right _ (List.mem_singleton.2 (root_of_mem_chain hmem).symm)
    · rw [List.mem_singleton.1 hq]
      exact List.mem_append_right _ (List.mem_singleton.2 rfl)
  · intro part o ho
    rcases List.mem_append.1 ho with ho | ho
    · rcases h.closed part o ho with rfl | hmem
      · exact .inr (List.mem_append_right _ (List.mem_singleton.2 rfl))
      · exact .inr (List.mem_append_left _ hmem)
    · cases List.mem_singleton.1 ho

/-- A list that is made for a part. -/
theorem made {part : Part} (h : Spread (made part around) parts os) (hroot : around.root ∉ givens os) :
    Spread around (· = part) (os ++ [.made part around]) := by
  refine ⟨List.nodup_append.2 ⟨h.nodup, List.nodup_singleton _, fun q hq q' hq' heq => ?_⟩,
    fun q hq => ?_, ?_⟩
  · subst heq
    rw [List.mem_singleton.1 hq'] at hq
    -- an origin inside the part is longer than the part itself
    rcases h.inside _ hq with hgiven | ⟨part', -, hmem⟩
    · exact hroot hgiven
    · exact absurd (length_chain_le hmem) (Nat.not_succ_le_self _)
  · rw [givens_append]
    rcases List.mem_append.1 hq with hq | hq
    · rcases h.inside q hq with hgiven | ⟨part', -, hmem⟩
      · exact .inl (List.mem_append_left _ hgiven)
      · exact .inr ⟨part, rfl, mem_chain_of_made hmem⟩
    · rw [List.mem_singleton.1 hq]
      exact .inr ⟨part, rfl, self_mem_chain _⟩
  · intro part' o ho
    rcases List.mem_append.1 ho with ho | ho
    · rcases h.closed part' o ho with rfl | hmem
      · exact .inr (List.mem_append_right _ (List.mem_singleton.2 rfl))
      · exact .inr (List.mem_append_left _ hmem)
    · cases List.mem_singleton.1 ho
      exact .inl rfl

end Spread

end Origin

namespace Task

open Origin

theorem nodup_givens_left {os os' : List Origin} (h : (givens (os ++ os')).Nodup) : (givens os).Nodup := by
  rw [givens_append] at h
  exact (List.nodup_append.1 h).1

theorem nodup_givens_right {os os' : List Origin} (h : (givens (os ++ os')).Nodup) :
    (givens os').Nodup := by
  rw [givens_append] at h
  exact (List.nodup_append.1 h).2.1

theorem notMem_givens_append {os os' : List Origin} {n : String} :
    n ∉ givens (os ++ os') ↔ n ∉ givens os ∧ n ∉ givens os' := by
  rw [givens_append, List.mem_append, not_or]

section

variable {around : Origin} {part : Part} {parts : Part → Prop} {tasks : TaskList}
  {lists : List (String × TaskList)} {graph : String} {os : List Origin}
  (h : (names tasks).Nodup → (∀ task ∈ tasks, task.action.BranchesApart) → SiblingsApart lists →
    (givens os).Nodup → around.root ∉ givens os → Spread (made part around) parts os)
include h

/-- A list that is made for a part, with the lists inside it. -/
theorem spread_made (hsiblings : SiblingsApart (lists ++ [(graph, tasks)]))
    (hgivens : (givens (os ++ [made part around])).Nodup)
    (hroot : around.root ∉ givens (os ++ [made part around])) :
    Spread around (· = part) (os ++ [made part around]) := by
  obtain ⟨hinner, hnames, hbranches⟩ := siblingsApart_concat.1 hsiblings
  have hout := (notMem_givens_append.1 hroot).1
  exact .made (h hnames hbranches hinner (nodup_givens_left hgivens) hout) hout

/-- The same where an empty list is left out. -/
theorem spread_unlessEmpty
    (hsiblings : SiblingsApart (if tasks.isEmpty then [] else lists ++ [(graph, tasks)]))
    (hgivens : (givens (if tasks.isEmpty then [] else os ++ [made part around])).Nodup)
    (hroot : around.root ∉ givens (if tasks.isEmpty then [] else os ++ [made part around])) :
    Spread around (· = part) (if tasks.isEmpty then [] else os ++ [made part around]) := by
  split
  · exact .nil
  · next hfilled =>
    rw [if_neg hfilled] at hsiblings hgivens hroot
    exact spread_made h hsiblings hgivens hroot

end

mutual

theorem spread_origins (around : Origin) (name : String) : (action : Action) →
    SiblingsApart (lists around.name name action) → action.BranchesApart →
    (givens (origins around name action)).Nodup → around.root ∉ givens (origins around name action) →
      Spread around (fun part => part.task = name) (origins around name action)
  | .block tasks, hsiblings, _, hgivens, _ => by
    rw [lists.eq_def] at hsiblings
    rw [origins.eq_def] at hgivens ⊢
    obtain ⟨hinner, hnames, hbranches⟩ := siblingsApart_concat.1 hsiblings
    refine .named (spread_innerOrigins (.named name) tasks hnames hbranches hinner
      (nodup_givens_left hgivens) fun hmem => ?_) hgivens
    rw [givens_append] at hgivens
    exact (List.nodup_append.1 hgivens).2.2 _ hmem _ (List.mem_singleton.2 rfl) rfl
  | .loop _ _ body, hsiblings, _, hgivens, hroot => by
    rw [lists.eq_def] at hsiblings
    rw [origins.eq_def] at hgivens hroot ⊢
    refine (spread_made (spread_innerOrigins (made (.loop name) around) body) hsiblings hgivens
      hroot).mono ?_
    rintro part rfl
    rfl
  | .fork _ tasks, hsiblings, hbranches, hgivens, hroot => by
    rw [lists.eq_def] at hsiblings
    rw [origins.eq_def] at hgivens hroot ⊢
    refine (spread_branchOrigins around name tasks hbranches hsiblings hgivens hroot).mono ?_
    rintro part ⟨key, -, rfl⟩
    rfl
  | .attempt body _ handler, hsiblings, _, hgivens, hroot => by
    rw [lists.eq_def] at hsiblings
    rw [origins.eq_def] at hgivens hroot ⊢
    obtain ⟨hbody, hhandler⟩ := siblingsApart_append.1 hsiblings
    obtain ⟨hbodyRoot, hhandlerRoot⟩ := notMem_givens_append.1 hroot
    -- the body and the handler are made for different parts of the task
    have htried := spread_unlessEmpty (spread_innerOrigins (made (.tried name) around) body) hbody
      (nodup_givens_left hgivens) hbodyRoot
    have hcaught := spread_unlessEmpty (spread_innerOrigins (made (.caught name) around) handler)
      hhandler (nodup_givens_right hgivens) hhandlerRoot
    refine (Spread.append htried hcaught ?_ hgivens hroot).mono ?_
    · rintro part rfl hpart
      cases hpart
    · rintro part (rfl | rfl) <;> rfl
  | .switch _, _, _, _, _ | .call _, _, _, _, _ | .run _, _, _, _, _ | .wait _, _, _, _, _
  | .raise _, _, _, _, _ | .listen _, _, _, _, _ | .assign _, _, _, _, _ | .custom .., _, _, _, _ => by
    rw [origins.eq_def]
    exact .nil

theorem spread_innerOrigins (around : Origin) : (tasks : List Task) → (names tasks).Nodup →
    (∀ task ∈ tasks, task.action.BranchesApart) → SiblingsApart (inner around.name tasks) →
    (givens (innerOrigins around tasks)).Nodup → around.root ∉ givens (innerOrigins around tasks) →
      Spread around (fun part => part.task ∈ names tasks) (innerOrigins around tasks)
  | [], _, _, _, _, _ => by
    rw [innerOrigins.eq_def]
    exact .nil
  | ⟨name, base, action⟩ :: tasks, hnames, hbranches, hsiblings, hgivens, hroot => by
    rw [inner.eq_def] at hsiblings
    rw [innerOrigins.eq_def] at hgivens hroot ⊢
    obtain ⟨hfirst, hrest⟩ := siblingsApart_append.1 hsiblings
    obtain ⟨hnew, hnames⟩ := List.nodup_cons.1 hnames
    obtain ⟨hbranch, hbranches⟩ := List.forall_mem_cons.1 hbranches
    obtain ⟨hout, hout'⟩ := notMem_givens_append.1 hroot
    refine (Spread.append
      (spread_origins around name action hfirst hbranch (nodup_givens_left hgivens) hout)
      (spread_innerOrigins around tasks hnames hbranches hrest (nodup_givens_right hgivens) hout')
      ?_ hgivens hroot).mono ?_
    · rintro part rfl hmem
      exact hnew hmem
    · rintro part (rfl | hmem)
      · exact List.mem_cons_self ..
      · exact List.mem_cons_of_mem _ hmem

theorem spread_branchOrigins (around : Origin) (fork : String) : (tasks : List Task) →
    (names tasks).Nodup → SiblingsApart (branches around.name fork tasks) →
    (givens (branchOrigins around fork tasks)).Nodup →
    around.root ∉ givens (branchOrigins around fork tasks) →
      Spread around (fun part => ∃ key ∈ names tasks, part = .branch fork key)
        (branchOrigins around fork tasks)
  | [], _, _, _, _ => by
    rw [branchOrigins.eq_def]
    exact .nil
  | ⟨name, base, action⟩ :: tasks, hnames, hsiblings, hgivens, hroot => by
    rw [branches.eq_def] at hsiblings
    rw [branchOrigins.eq_def] at hgivens hroot ⊢
    obtain ⟨hfirst, hrest⟩ := siblingsApart_append.1 hsiblings
    obtain ⟨hnew, hnames⟩ := List.nodup_cons.1 hnames
    have hgivensFirst := nodup_givens_left hgivens
    obtain ⟨hroot', hout'⟩ := notMem_givens_append.1 hroot
    refine (Spread.append (show Spread around (· = .branch fork name) _ from ?_)
      (spread_branchOrigins around fork tasks hnames hrest (nodup_givens_right hgivens) hout')
      ?_ hgivens hroot).mono ?_
    · -- a branch that is a nested list is that list, any other one is a list of one task
      cases action with
      | block list =>
        exact spread_made (spread_innerOrigins (made (.branch fork name) around) list) hfirst
          hgivensFirst hroot'
      | _ =>
        exact spread_made (fun _ hbranches hinner => spread_origins (made (.branch fork name) around)
          name _ hinner (hbranches _ (List.mem_singleton.2 rfl))) hfirst hgivensFirst hroot'
    · rintro part rfl ⟨key, hkey, heq⟩
      cases heq
      exact hnew hkey
    · rintro part (rfl | ⟨key, hkey, rfl⟩)
      · exact ⟨name, List.mem_cons_self .., rfl⟩
      · exact ⟨key, List.mem_cons_of_mem _ hkey, rfl⟩

end

end Task

/-! ## Origins that are known by their names -/

namespace Origin

/-- Origins are known by their names if no name is made with an underscore in a task or a branch, and none
that is given is made as well. -/
theorem name_inj {os : List Origin} (hclosed : ∀ part o, made part o ∈ os → o ∈ os)
    (hplain : ∀ o ∈ os, o.Plain)
    (hfresh : ∀ n, named n ∈ os → ∀ part o, made part o ∈ os → (made part o).name ≠ n) {p q : Origin}
    (hp : p ∈ os) (hq : q ∈ os) (h : p.name = q.name) : p = q := by
  induction p generalizing q with
  | named n =>
    cases q with
    | named n' => exact congrArg named h
    | made part o => exact absurd h.symm (hfresh n hp part o hq)
  | made part o ih =>
    cases q with
    | named n' => exact absurd h (hfresh n' hq part o hp)
    | made part' o' =>
      obtain ⟨rfl, haround⟩ := made_inj (hplain _ hp) (hplain _ hq) h
      rw [ih (hclosed part o hp) (hclosed part o' hq) haround]

end Origin

end TaskGraph

import TaskGraph.Host.Conduct

/-!
# The branches of a fork on a host

A host runs each branch of a fork in a cancellation scope of its own, which the strand of the fork
keeps under the number of the branch (`Host.branch_of_forkBranches`). To stop branches is to cancel
these scopes, and no others (`Host.mem_cancelled_stop`).
-/

set_option autoImplicit false

namespace TaskGraph

namespace Host

variable {α : Type}

/-! ## Starting branches -/

/-- To start branches takes no strand away. -/
theorem mem_strands_forkBranches {st strand : Strand α} {c : Context} {input : Json} {scope : Scope}
    {graphs : List String} {h : Host α} (hmem : strand ∈ h.strands) (i : Nat) :
    strand ∈ (h.forkBranches st c input scope i graphs).1.strands := by
  induction graphs generalizing h i with
  | nil => exact hmem
  | cons graph graphs ih =>
    rw [forkBranches]
    exact ih (List.mem_append_left _ hmem) (i + 1)

/-- Each branch of a fork is a strand of its own, in the scope the fork has under its number. -/
theorem branch_of_forkBranches {st : Strand α} {c : Context} {input : Json} {scope : Scope}
    {graphs : List String} {graph : String} {k : Nat} (hk : graphs[k]? = some graph) (h : Host α)
    (i : Nat) :
    ∃ id, (h.forkBranches st c input scope i graphs).2[k]? = some id ∧
      ∃ branch ∈ (h.forkBranches st c input scope i graphs).1.strands,
        branch.parent = some st.id ∧ branch.path = st.path ++ [i + k] ∧
        branch.phase = .ready ((Restart.runGraph h.setting.program
          { c with scopes := id :: c.scopes } graph input scope).run.map .branch) := by
  induction graphs generalizing h i k with
  | nil => simp at hk
  | cons g graphs ih =>
    rw [forkBranches]
    cases k with
    -- the branch is spawned first, and the branches after it leave it there
    | zero =>
      obtain rfl : g = graph := by simpa using hk
      let inner : Context := { c with scopes := (h.fresh + 1) :: c.scopes }
      let code : Dialogue (Ending α) :=
        (Restart.runGraph h.setting.program inner g input scope).run.map .branch
      refine ⟨h.fresh + 1, rfl, ⟨h.fresh, st.job, st.path ++ [i], some st.id, [], .ready code⟩,
        mem_strands_forkBranches ?_ (i + 1), rfl, rfl, rfl⟩
      exact List.mem_append_right _ (List.mem_singleton.2 rfl)
    | succ k =>
      obtain ⟨id, hid, branch, hbranch, hparent, hpath, hphase⟩ := ih (k := k) (by simpa using hk)
        ({ h with fresh := h.fresh + 2 }.spawn _) (i + 1)
      refine ⟨id, hid, branch, hbranch, hparent, ?_, hphase⟩
      rw [hpath, Nat.add_right_comm, Nat.add_assoc]

/-! ## Stopping branches -/

/-- To interrupt strands is to cancel nothing further. -/
theorem cancelled_interrupts (ss : List (Strand α)) (h : Host α) :
    (ss.foldl interrupt h).cancelled = h.cancelled := by
  induction ss generalizing h with
  | nil => rfl
  | cons st ss ih =>
    rw [List.foldl_cons, ih]
    unfold interrupt
    split
    · split <;> rfl
    · rfl

theorem cancelled_cancel (h : Host α) (scope : Nat) :
    (h.cancel scope).cancelled = scope :: h.cancelled := by
  unfold cancel
  rw [cancelled_interrupts]

theorem mem_cancelled_cancels (scopes : List Nat) (h : Host α) (scope : Nat) :
    scope ∈ (scopes.foldl cancel h).cancelled ↔ scope ∈ h.cancelled ∨ scope ∈ scopes := by
  induction scopes generalizing h with
  | nil => simp
  | cons a scopes ih =>
    rw [List.foldl_cons, ih, cancelled_cancel]
    simp only [List.mem_cons]
    rw [or_assoc, or_left_comm]

/-- A host that stops branches cancels their scopes and no others. -/
theorem mem_cancelled_stop (h : Host α) (st : Strand α) (branches : List Nat)
    (next : Unit → Dialogue (Ending α)) (scope : Nat) :
    scope ∈ (h.perform st (.stop branches) next).cancelled ↔
      scope ∈ h.cancelled ∨ ∃ b ∈ branches, st.branches[b]? = some scope := by
  show scope ∈ ((branches.filterMap fun b => st.branches[b]?).foldl cancel h).cancelled ↔ _
  rw [mem_cancelled_cancels, List.mem_filterMap]

end Host

end TaskGraph

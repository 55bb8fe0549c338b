import TaskGraph.Json.Basic

/-!
# Places in values

A place is the way from a value to one of the values inside it, turn by turn (`Json.at?`). A turn to a
member has the position of the member and its key, so two values have the same turns only if they agree
on the keys and on the number of items (`Json.Matches`). A walk through a value that goes into each part
before the next one comes by the places in the order `Place.Before`: items in their order and members in
the order of their keys.

The members of an object are in key order if each key comes before all that follow it
(`Members.InOrder`); whatever `Members.insert` makes is.
-/

set_option autoImplicit false

namespace TaskGraph

/-! ## Key order -/

namespace Members

/-- Whether each key comes before all that follow it. -/
def InOrder (m : Members) : Prop := m.Pairwise fun a b => a.1 < b.1

theorem mem_insert {m : Members} {key : String} {value : Json} {entry : String × Json}
    (h : entry ∈ m.insert key value) : entry = (key, value) ∨ entry ∈ m := by
  induction m with
  | nil => exact .inl (List.mem_singleton.1 h)
  | cons first rest ih =>
    obtain ⟨k, v⟩ := first
    unfold insert at h
    split at h
    · exact (List.mem_cons.1 h).imp_right (List.mem_cons_of_mem _)
    · split at h
      · exact List.mem_cons.1 h
      · rcases List.mem_cons.1 h with rfl | h
        · exact .inr (List.mem_cons_self ..)
        · exact (ih h).imp_right (List.mem_cons_of_mem _)

theorem InOrder.insert {m : Members} (h : m.InOrder) (key : String) (value : Json) :
    (m.insert key value).InOrder := by
  induction m with
  | nil => exact List.pairwise_singleton ..
  | cons first rest ih =>
    obtain ⟨k, v⟩ := first
    obtain ⟨hfirst, hrest⟩ := List.pairwise_cons.1 h
    unfold Members.insert
    split
    · next hkey =>
      subst hkey
      exact List.pairwise_cons.2 ⟨hfirst, hrest⟩
    · next hne =>
      split
      · next hlt =>
        -- the new member comes first, and all others are behind the one that was first
        refine List.pairwise_cons.2 ⟨fun entry hentry => ?_, h⟩
        rcases List.mem_cons.1 hentry with rfl | hentry
        · exact hlt
        · exact String.lt_trans hlt (hfirst entry hentry)
      · next hnot =>
        refine List.pairwise_cons.2 ⟨fun entry hentry => ?_, ih hrest⟩
        rcases mem_insert hentry with rfl | hentry
        · exact Std.lt_of_le_of_ne (Std.not_lt.1 hnot) (Ne.symm hne)
        · exact hfirst entry hentry

/-- Members that are made of a list of entries are in key order. -/
theorem inOrder_ofList (entries : List (String × Json)) : (ofList entries).InOrder := by
  have hfold : ∀ m : Members, m.InOrder → (m.insertAll entries).InOrder := by
    unfold insertAll
    induction entries with
    | nil => exact fun m hm => hm
    | cons entry entries ih => exact fun m hm => ih _ (hm.insert entry.1 entry.2)
  exact hfold [] List.Pairwise.nil

end Members

namespace Json

/-! ## Parts -/

/-- A turn from a value to one of its parts: to an item, or to the member at a position with its key. -/
inductive Turn where
  | item (i : Nat)
  | member (i : Nat) (key : String)
  deriving Repr, DecidableEq

/-- Whether a part comes before another one: by position for items and by key for members. -/
inductive Turn.Before : Turn → Turn → Prop where
  | items {i j : Nat} (lt : i < j) : Before (.item i) (.item j)
  | members {i j : Nat} {k l : String} (lt : k < l) : Before (.member i k) (.member j l)

theorem Turn.Before.ne {t t' : Turn} (h : t.Before t') : t ≠ t' := by
  rintro rfl
  cases h with
  | items lt => exact Nat.lt_irrefl _ lt
  | members lt => exact String.lt_irrefl _ lt

/-- The part of a value that a turn leads to. -/
def part? : Json → Turn → Option Json
  | .arr xs, .item i => xs[i]?
  | .obj m, .member i key => (m[i]?).bind fun e => if e.1 = key then some e.2 else none
  | _, _ => none

/-- The items from a position on, with the turns to them. -/
def itemParts (i : Nat) : List Json → List (Turn × Json)
  | [] => []
  | x :: xs => (.item i, x) :: itemParts (i + 1) xs

/-- The members from a position on, with the turns to them. -/
def memberParts (i : Nat) : Members → List (Turn × Json)
  | [] => []
  | (k, x) :: m => (.member i k, x) :: memberParts (i + 1) m

/-- The parts of a value with the turns to them. -/
def parts : Json → List (Turn × Json)
  | .arr xs => itemParts 0 xs
  | .obj m => memberParts 0 m
  | _ => []

theorem mem_itemParts {i : Nat} {xs : List Json} {t : Turn} {x : Json} :
    (t, x) ∈ itemParts i xs ↔ ∃ j, t = .item (i + j) ∧ xs[j]? = some x := by
  induction xs generalizing i with
  | nil => simp [itemParts]
  | cons y xs ih =>
    rw [itemParts, List.mem_cons, ih]
    constructor
    · rintro (h | ⟨j, rfl, hj⟩)
      · cases h
        exact ⟨0, rfl, rfl⟩
      · exact ⟨j + 1, by rw [Nat.add_right_comm, Nat.add_assoc], hj⟩
    · rintro ⟨j, rfl, hj⟩
      cases j with
      | zero =>
        cases hj
        exact .inl rfl
      | succ j => exact .inr ⟨j, by rw [Nat.add_right_comm, Nat.add_assoc], hj⟩

theorem mem_memberParts {i : Nat} {m : Members} {t : Turn} {x : Json} :
    (t, x) ∈ memberParts i m ↔ ∃ j key, t = .member (i + j) key ∧ m[j]? = some (key, x) := by
  induction m generalizing i with
  | nil => simp [memberParts]
  | cons entry m ih =>
    obtain ⟨k, y⟩ := entry
    rw [memberParts, List.mem_cons, ih]
    constructor
    · rintro (h | ⟨j, key, rfl, hj⟩)
      · cases h
        exact ⟨0, k, rfl, rfl⟩
      · exact ⟨j + 1, key, by rw [Nat.add_right_comm, Nat.add_assoc], hj⟩
    · rintro ⟨j, key, rfl, hj⟩
      cases j with
      | zero =>
        cases hj
        exact .inl rfl
      | succ j => exact .inr ⟨j, key, by rw [Nat.add_right_comm, Nat.add_assoc], hj⟩

/-- A turn leads to a part exactly if this is among the parts. -/
theorem part?_eq_some_iff {v : Json} {t : Turn} {x : Json} :
    v.part? t = some x ↔ (t, x) ∈ v.parts := by
  cases v with
  | arr xs =>
    rw [parts, mem_itemParts]
    cases t with
    | item i => simp [part?]
    | member i key => simp [part?]
  | obj m =>
    rw [parts, mem_memberParts]
    cases t with
    | item i => simp [part?]
    | member i key =>
      simp only [part?, Option.bind_eq_some_iff, Nat.zero_add]
      constructor
      -- a turn into an object has to name the key that stands at its position
      · rintro ⟨⟨k, y⟩, hy, hx⟩
        split at hx
        · next hk =>
          cases hx
          exact ⟨i, key, rfl, by rw [hy, ← hk]⟩
        · cases hx
      · rintro ⟨j, k, ht, hx⟩
        cases ht
        exact ⟨(key, x), hx, if_pos rfl⟩
  | _ => simp [part?, parts]

theorem pairwise_itemParts (i : Nat) (xs : List Json) :
    (itemParts i xs).Pairwise fun a b => a.1.Before b.1 := by
  induction xs generalizing i with
  | nil => exact List.Pairwise.nil
  | cons x xs ih =>
    rw [itemParts, List.pairwise_cons]
    refine ⟨?_, ih (i + 1)⟩
    rintro ⟨t, y⟩ hmem
    obtain ⟨j, rfl, -⟩ := mem_itemParts.1 hmem
    exact .items (by omega)

theorem pairwise_ne_memberParts (i : Nat) (m : Members) :
    (memberParts i m).Pairwise fun a b => a.1 ≠ b.1 := by
  induction m generalizing i with
  | nil => exact List.Pairwise.nil
  | cons entry m ih =>
    rw [memberParts, List.pairwise_cons]
    refine ⟨?_, ih (i + 1)⟩
    rintro ⟨t, y⟩ hmem heq
    obtain ⟨j, key, rfl, -⟩ := mem_memberParts.1 hmem
    obtain ⟨hposition, -⟩ := Turn.member.inj heq
    omega

theorem pairwise_memberParts (i : Nat) {m : Members} (h : m.InOrder) :
    (memberParts i m).Pairwise fun a b => a.1.Before b.1 := by
  induction m generalizing i with
  | nil => exact List.Pairwise.nil
  | cons entry m ih =>
    obtain ⟨hfirst, hrest⟩ := List.pairwise_cons.1 h
    rw [memberParts, List.pairwise_cons]
    refine ⟨?_, ih (i + 1) hrest⟩
    rintro ⟨t, y⟩ hmem
    obtain ⟨j, key, rfl, hj⟩ := mem_memberParts.1 hmem
    exact .members (hfirst (key, y) (List.mem_of_getElem? hj))

/-- No two parts of a value have the same turn. -/
theorem pairwise_ne_parts (v : Json) : v.parts.Pairwise fun a b => a.1 ≠ b.1 := by
  cases v with
  | arr xs => exact (pairwise_itemParts 0 xs).imp Turn.Before.ne
  | obj m => exact pairwise_ne_memberParts 0 m
  | _ => exact List.Pairwise.nil

theorem sizeOf_lt_of_mem_parts {v x : Json} {t : Turn} (h : (t, x) ∈ v.parts) :
    sizeOf x < sizeOf v := by
  cases v with
  | arr xs =>
    obtain ⟨j, -, hj⟩ := mem_itemParts.1 h
    have hlt := List.sizeOf_lt_of_mem (List.mem_of_getElem? hj)
    simp only [Json.arr.sizeOf_spec]
    omega
  | obj m =>
    obtain ⟨j, key, -, hj⟩ := mem_memberParts.1 h
    have hlt := List.sizeOf_lt_of_mem (List.mem_of_getElem? hj)
    simp only [Prod.mk.sizeOf_spec, Json.obj.sizeOf_spec] at hlt ⊢
    omega
  | _ => cases h

/-- What holds of a value whenever it holds of its parts holds of every value. -/
theorem induction_parts {P : Json → Prop} (step : ∀ v, (∀ t x, (t, x) ∈ v.parts → P x) → P v)
    (v : Json) : P v :=
  step v fun _ x hx =>
    have := sizeOf_lt_of_mem_parts hx
    induction_parts step x
termination_by sizeOf v

/-! ## Places -/

/-- The way from a value to one inside it. -/
abbrev Place := List Turn

/-- What is at a place in a value. -/
def at? (v : Json) : Place → Option Json
  | [] => some v
  | t :: p => (v.part? t).bind fun x => x.at? p

@[simp] theorem at?_nil (v : Json) : v.at? [] = some v := rfl

theorem at?_cons_eq_some_iff {v u : Json} {t : Turn} {p : Place} :
    v.at? (t :: p) = some u ↔ ∃ x, (t, x) ∈ v.parts ∧ x.at? p = some u := by
  simp only [at?, Option.bind_eq_some_iff, part?_eq_some_iff]

/-- Whether a place comes before another one in a walk through a value. -/
inductive Place.Before : Place → Place → Prop where
  | turn {t t' : Turn} {p q : Place} (before : t.Before t') : Before (t :: p) (t' :: q)
  | within {t : Turn} {p q : Place} (before : Before p q) : Before (t :: p) (t :: q)

/-- Whether every object inside a value has its members in key order. -/
def InOrder (v : Json) : Prop :=
  ∀ (p : Place) (m : Members), v.at? p = some (.obj m) → m.InOrder

theorem InOrder.part {v x : Json} (h : v.InOrder) {t : Turn} (hx : (t, x) ∈ v.parts) :
    x.InOrder := by
  intro p m hm
  exact h (t :: p) m (at?_cons_eq_some_iff.2 ⟨x, hx, hm⟩)

theorem inOrder_of_parts {v : Json} (own : ∀ m : Members, v = .obj m → m.InOrder)
    (hparts : ∀ t x, (t, x) ∈ v.parts → x.InOrder) : v.InOrder := by
  intro p m hm
  cases p with
  | nil =>
    cases hm
    exact own m rfl
  | cons t p =>
    obtain ⟨x, hx, hm⟩ := at?_cons_eq_some_iff.1 hm
    exact hparts t x hx p m hm

/-- The parts of a value come one after the other if its members are in key order. -/
theorem InOrder.parts {v : Json} (h : v.InOrder) : v.parts.Pairwise fun a b => a.1.Before b.1 := by
  cases v with
  | arr xs => exact pairwise_itemParts 0 xs
  | obj m => exact pairwise_memberParts 0 (h [] m rfl)
  | _ => exact List.Pairwise.nil

/-- Whether two values have the same turns; values that can have none have to be the same. -/
def Matches : Json → Json → Prop
  | .arr xs, .arr ys => xs.length = ys.length
  | .obj m, .obj n => Members.keys m = Members.keys n
  | v, w => v = w

theorem matches_refl (v : Json) : v.Matches v := by
  cases v <;> rfl

end Json

end TaskGraph

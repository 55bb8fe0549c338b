/-!
# JSON values

A value is a tree. A number is an integer or a binary64 number, and the two stay apart: `2` and
`2.0` are different values. The members of an object are kept in key order, one per key, by
`Members.insert`; the order of code points is the order of the encoded bytes.
-/

set_option autoImplicit false

namespace TaskGraph

/-- A number of a JSON value. -/
inductive Number where
  | int (n : Int)
  | float (x : Float)
  deriving Repr, DecidableEq, Inhabited

/-- A JSON value. -/
inductive Json where
  | null
  | bool (b : Bool)
  | num (n : Number)
  | str (s : String)
  | arr (items : List Json)
  | obj (members : List (String × Json))
  deriving Repr, Inhabited

/-- The members of an object. -/
abbrev Members := List (String × Json)

namespace Json

/-! ## Decidable equality -/

mutual

/-- Equality of values is decided part by part. -/
def decEq : (a b : Json) → Decidable (a = b)
  | .null, .null => .isTrue rfl
  | .bool a, .bool b => if h : a = b then .isTrue (h ▸ rfl) else .isFalse fun e => h (by cases e; rfl)
  | .num a, .num b => if h : a = b then .isTrue (h ▸ rfl) else .isFalse fun e => h (by cases e; rfl)
  | .str a, .str b => if h : a = b then .isTrue (h ▸ rfl) else .isFalse fun e => h (by cases e; rfl)
  | .arr a, .arr b => match decEqItems a b with
    | .isTrue h => .isTrue (h ▸ rfl)
    | .isFalse h => .isFalse fun e => h (by cases e; rfl)
  | .obj a, .obj b => match decEqMembers a b with
    | .isTrue h => .isTrue (h ▸ rfl)
    | .isFalse h => .isFalse fun e => h (by cases e; rfl)
  | .null, .bool _ | .null, .num _ | .null, .str _ | .null, .arr _ | .null, .obj _
  | .bool _, .null | .bool _, .num _ | .bool _, .str _ | .bool _, .arr _ | .bool _, .obj _
  | .num _, .null | .num _, .bool _ | .num _, .str _ | .num _, .arr _ | .num _, .obj _
  | .str _, .null | .str _, .bool _ | .str _, .num _ | .str _, .arr _ | .str _, .obj _
  | .arr _, .null | .arr _, .bool _ | .arr _, .num _ | .arr _, .str _ | .arr _, .obj _
  | .obj _, .null | .obj _, .bool _ | .obj _, .num _ | .obj _, .str _ | .obj _, .arr _ =>
    .isFalse (by intro e; cases e)

/-- Equality of lists of values. -/
def decEqItems : (a b : List Json) → Decidable (a = b)
  | [], [] => .isTrue rfl
  | [], _ :: _ | _ :: _, [] => .isFalse (by intro e; cases e)
  | a :: as, b :: bs => match decEq a b with
    | .isFalse h => .isFalse fun e => h (by cases e; rfl)
    | .isTrue h => match decEqItems as bs with
      | .isFalse hs => .isFalse fun e => hs (by cases e; rfl)
      | .isTrue hs => .isTrue (h ▸ hs ▸ rfl)

/-- Equality of lists of members. -/
def decEqMembers : (a b : List (String × Json)) → Decidable (a = b)
  | [], [] => .isTrue rfl
  | [], _ :: _ | _ :: _, [] => .isFalse (by intro e; cases e)
  | (k, a) :: as, (l, b) :: bs =>
    if hk : k = l then
      match decEq a b with
      | .isFalse h => .isFalse fun e => h (by cases e; rfl)
      | .isTrue h => match decEqMembers as bs with
        | .isFalse hs => .isFalse fun e => hs (by cases e; rfl)
        | .isTrue hs => .isTrue (hk ▸ h ▸ hs ▸ rfl)
    else .isFalse fun e => hk (by cases e; rfl)

end

instance : DecidableEq Json := decEq

end Json

/-! ## Members -/

namespace Members

/-- The value of a key. -/
def get? (m : Members) (key : String) : Option Json := m.lookup key

/-- Whether a key is present. -/
def contains (m : Members) (key : String) : Bool := (m.get? key).isSome

/-- Sets the value of a key, at its place in key order. -/
def insert : Members → String → Json → Members
  | [], key, value => [(key, value)]
  | (k, v) :: rest, key, value =>
    if key = k then (key, value) :: rest
    else if key < k then (key, value) :: (k, v) :: rest
    else (k, v) :: insert rest key value

/-- Sets the values of several keys in turn. -/
def insertAll (m : Members) (entries : List (String × Json)) : Members :=
  entries.foldl (fun m (k, v) => m.insert k v) m

/-- Removes a key. -/
def erase (m : Members) (key : String) : Members := m.filter (·.1 != key)

/-- The members given by a list, the last value of a key winning. -/
def ofList (entries : List (String × Json)) : Members := insertAll [] entries

/-- The keys in order. -/
def keys (m : Members) : List String := m.map (·.1)

theorem get?_insert_self (m : Members) (key : String) (value : Json) :
    (m.insert key value).get? key = some value := by
  induction m with
  | nil => simp [insert, get?]
  | cons e rest ih =>
    obtain ⟨k, v⟩ := e
    by_cases hk : key = k
    · simp [insert, get?, hk]
    · by_cases hlt : key < k
      · simp [insert, get?, hk, hlt]
      · simpa [insert, get?, hk, hlt, List.lookup_cons, beq_false_of_ne hk] using ih

theorem get?_insert_of_ne (m : Members) {key other : String} (h : other ≠ key) (value : Json) :
    (m.insert key value).get? other = m.get? other := by
  induction m with
  | nil => simp [insert, get?, List.lookup_cons, beq_false_of_ne h]
  | cons e rest ih =>
    obtain ⟨k, v⟩ := e
    unfold insert
    split
    · next hk =>
      subst hk
      simp [get?, List.lookup_cons, beq_false_of_ne h]
    · split
      · simp [get?, List.lookup_cons, beq_false_of_ne h]
      · simp only [get?, List.lookup_cons] at ih ⊢
        rw [ih]

theorem get?_insertAll_of_not_mem (m : Members) {entries : List (String × Json)} {key : String}
    (h : key ∉ keys entries) : (m.insertAll entries).get? key = m.get? key := by
  unfold insertAll
  induction entries generalizing m with
  | nil => rfl
  | cons e rest ih =>
    obtain ⟨hne, hrest⟩ := not_or.1 (mt List.mem_cons.2 h)
    exact (ih _ hrest).trans (get?_insert_of_ne m hne e.2)

end Members

namespace Json

/-! ## Constructors and views -/

/-- An integer. -/
def int (n : Int) : Json := .num (.int n)

/-- A natural number. -/
def nat (n : Nat) : Json := .num (.int n)

/-- A binary64 number. -/
def float (x : Float) : Json := .num (.float x)

/-- A binary64 number that a computation produced: one that is not finite is written as null. -/
def ofFloat (x : Float) : Json := if x.isFinite then .float x else .null

/-- An array of texts. -/
def strings (xs : List String) : Json := .arr (xs.map .str)

/-- An object with the given members, put into key order. -/
def object (entries : List (String × Json)) : Json := .obj (Members.ofList entries)

/-- A text, or null when there is none. -/
def optStr : Option String → Json
  | none => .null
  | some s => .str s

/-- A member of an object. -/
def get? : Json → String → Option Json
  | .obj m, key => Members.get? m key
  | _, _ => none

/-- An item of an array. -/
def item? : Json → Nat → Option Json
  | .arr xs, i => xs[i]?
  | _, _ => none

/-- The word for the kind of a value. -/
def kind : Json → String
  | .null => "null"
  | .bool _ => "boolean"
  | .num _ => "number"
  | .str _ => "string"
  | .arr _ => "array"
  | .obj _ => "object"

end Json

/-! ## Equality by value -/

/-- Equality of numbers of one kind; the two zeros are equal. -/
def Number.same : Number → Number → Bool
  | .int a, .int b => a == b
  | .float a, .float b => a == b
  | _, _ => false

namespace Json

mutual

/-- Equality of values that takes the two zeros for one number. -/
def same : Json → Json → Bool
  | .null, .null => true
  | .bool a, .bool b => a == b
  | .num a, .num b => a.same b
  | .str a, .str b => a == b
  | .arr a, .arr b => sameItems a b
  | .obj a, .obj b => sameMembers a b
  | _, _ => false

/-- Equality of lists of values, item by item. -/
def sameItems : List Json → List Json → Bool
  | [], [] => true
  | a :: as, b :: bs => same a b && sameItems as bs
  | _, _ => false

/-- Equality of lists of members, in order. -/
def sameMembers : List (String × Json) → List (String × Json) → Bool
  | [], [] => true
  | (k, a) :: as, (l, b) :: bs => k == l && same a b && sameMembers as bs
  | _, _ => false

end

end Json

/-- A number as binary64. -/
def Number.toFloat : Number → Float
  | .int n => Float.ofInt n
  | .float x => x

end TaskGraph

import TaskGraph.Decode

/-!
# What readers give

A description of fields gives records with a property if each of its fields is read to something with the
property that this one asks for, whether the record is read by name or by position (`Fields.Gives`). An
object is read to a record if each field is, from the value that stands at its key or, where the key is
absent, as its default (`named_and`, `named_present`, `named_absent`).
-/

set_option autoImplicit false

namespace TaskGraph

namespace Members

/-- Entries with different keys hide what was at their keys. -/
theorem get?_insertAll (m : Members) {entries : Members} (h : (keys entries).Nodup) (key : String) :
    (m.insertAll entries).get? key = (get? entries key).or (m.get? key) := by
  induction entries generalizing m with
  | nil => rfl
  | cons entry entries ih =>
    obtain ⟨k, v⟩ := entry
    obtain ⟨hk, hentries⟩ := List.nodup_cons.1 h
    by_cases hkey : key = k
    · subst hkey
      have hinsert : (m.insertAll ((key, v) :: entries)).get? key = some v :=
        (get?_insertAll_of_not_mem _ hk).trans (get?_insert_self ..)
      rw [hinsert]
      simp [get?]
    · have hinsert : (m.insertAll ((k, v) :: entries)).get? key =
          (get? entries key).or ((m.insert k v).get? key) := ih _ hentries
      rw [hinsert, get?_insert_of_ne _ hkey]
      simp [get?, List.lookup_cons, beq_false_of_ne hkey]

theorem get?_ofList {entries : Members} (h : (keys entries).Nodup) (key : String) :
    (ofList entries).get? key = get? entries key := by
  rw [ofList, get?_insertAll [] h]
  cases get? entries key <;> rfl

end Members

namespace Decode

variable {α β : Type}

theorem bind_eq_ok {x : Except String α} {f : α → Except String β} {b : β} :
    x >>= f = .ok b ↔ ∃ a, x = .ok a ∧ f a = .ok b := by
  cases x with
  | error e => simp [bind, Except.bind]
  | ok a => simp [bind, Except.bind]

theorem map_eq_ok {x : Except String α} {f : α → β} {b : β} :
    x.map f = .ok b ↔ ∃ a, x = .ok a ∧ f a = b := by
  cases x with
  | error e => simp [Except.map]
  | ok a => simp [Except.map]

theorem mapError_eq_ok {x : Except String α} {f : String → String} {a : α} :
    x.mapError f = .ok a ↔ x = .ok a := by
  cases x with
  | error e => exact ⟨nofun, nofun⟩
  | ok b => exact Iff.rfl

/-! ## Single values -/

theorem items_value (xs : List Json) : items value xs = .ok xs := by
  induction xs with
  | nil => rfl
  | cons x xs ih =>
    rw [items, ih]
    rfl

theorem sequence_value (xs : List Json) : sequence value (.arr xs) = .ok xs := items_value xs

theorem optional_of_ne_null (d : Decoder α) {v : Json} (h : v ≠ .null) :
    optional d v = (d v).map some := by
  cases v with
  | null => exact absurd rfl h
  | _ => rfl

/-- What is read as an optional value is not null. -/
theorem optional_value_ne_null {v : Json} : optional value v ≠ .ok (some .null) := by
  cases v <;> simp [optional, value, Except.map]

theorem natural_nat {bits n : Nat} (h : n < Nat.pow 2 bits) : natural bits (.nat n) = .ok n := by
  show (if n < Nat.pow 2 bits then _ else _) = _
  exact if_pos h

theorem lt_of_natural {bits n : Nat} {v : Json} (h : natural bits v = .ok n) : n < Nat.pow 2 bits := by
  unfold natural at h
  split at h
  · split at h
    · next hlt =>
      cases h
      exact hlt
    · cases h
  · cases h
  · cases h

theorem of_optional {d : Decoder α} {P : α → Prop} (hd : ∀ v a, d v = .ok a → P a) {v : Json}
    {o : Option α} (h : optional d v = .ok o) : ∀ a, o = some a → P a := by
  rintro a rfl
  by_cases hv : v = .null
  · subst hv
    cases h
  · rw [optional_of_ne_null d hv, map_eq_ok] at h
    obtain ⟨b, hb, hsome⟩ := h
    cases hsome
    exact hd v _ hb

/-! ## Records -/

namespace Fields

/-- Whether whatever a description of fields is read to has a property. -/
structure Gives (f : Fields α) (P : α → Prop) : Prop where
  named : ∀ m a, f.named m = .ok a → P a
  positional : ∀ expected i xs a rest, f.positional expected i xs = .ok (a, rest) → P a

theorem gives_none {a : α} {P : α → Prop} (h : P a) : (none a).Gives P where
  named m b hb := by
    cases hb
    exact h
  positional expected i xs b rest hb := by
    cases hb
    exact h

theorem gives_any (f : Fields α) : f.Gives fun _ => True where
  named _ _ _ := trivial
  positional _ _ _ _ _ _ := trivial

theorem Gives.and {f : Fields (α → β)} {a : Fields α} {P : β → Prop} {Q : α → Prop}
    (hf : f.Gives fun g => ∀ x, Q x → P (g x)) (ha : a.Gives Q) : (f.and a).Gives P where
  named m b hb := by
    unfold Fields.and both at hb
    dsimp only at hb
    -- both are read, and their errors put together, before anything is returned
    cases hg : f.named m with
    | error e =>
      rw [hg] at hb
      cases hx : a.named m <;> rw [hx] at hb <;> cases hb
    | ok g =>
      rw [hg] at hb
      cases hx : a.named m with
      | error e =>
        rw [hx] at hb
        cases hb
      | ok x =>
        rw [hx] at hb
        cases hb
        exact hf.named m g hg x (ha.named m x hx)
  positional expected i xs b rest hb := by
    obtain ⟨⟨g, i', xs'⟩, hg, hb⟩ := bind_eq_ok.1 hb
    obtain ⟨⟨x, i'', xs''⟩, hx, hb⟩ := bind_eq_ok.1 hb
    cases hb
    exact hf.positional expected i xs g _ hg x (ha.positional expected i' xs' x _ hx)

theorem gives_field {key : String} {d : Decoder α} {absent absentItem : Option α} {P : α → Prop}
    (hd : ∀ v a, d v = .ok a → P a) (habsent : ∀ a, absent = some a → P a)
    (hitem : ∀ a, absentItem = some a → P a) : (field key d absent absentItem).Gives P where
  named m a ha := by
    unfold field at ha
    dsimp only at ha
    split at ha
    · split at ha
      · next hx =>
        cases ha
        exact hd _ a hx
      · cases ha
    · split at ha
      · cases ha
        exact habsent a rfl
      · cases ha
  positional expected i xs a rest ha := by
    unfold field at ha
    dsimp only at ha
    cases xs with
    | cons x xs =>
      obtain ⟨b, hb, heq⟩ := map_eq_ok.1 ha
      cases heq
      exact hd x _ hb
    -- behind the end of a sequence a field has the value of an item that is absent
    | nil =>
      dsimp only at ha
      split at ha
      · cases ha
        exact hitem a rfl
      · cases ha

theorem gives_withDefault {key : String} {d : Decoder α} {default : α} {P : α → Prop}
    (hd : ∀ v a, d v = .ok a → P a) (hdefault : P default) : (withDefault key d default).Gives P :=
  gives_field hd (fun _ ha => Option.some.inj ha ▸ hdefault) fun _ ha => Option.some.inj ha ▸ hdefault

theorem gives_maybe {key : String} {d : Decoder α} {P : α → Prop} (hd : ∀ v a, d v = .ok a → P a) :
    (maybe key d).Gives fun o => ∀ a, o = some a → P a :=
  gives_withDefault (fun _ _ h => of_optional hd h) nofun

theorem named_and {f : Fields (α → β)} {a : Fields α} {m : Members} {g : α → β} {x : α}
    (hf : f.named m = .ok g) (ha : a.named m = .ok x) : (f.and a).named m = .ok (g x) := by
  unfold Fields.and both
  dsimp only
  rw [hf, ha]

theorem named_present {key : String} {d : Decoder α} {absent absentItem : Option α} {m : Members}
    {v : Json} {a : α} (hv : m.get? key = some v) (ha : d v = .ok a) :
    (field key d absent absentItem).named m = .ok a := by
  unfold field
  dsimp only
  rw [hv]
  dsimp only
  rw [ha]

theorem named_absent {key : String} {d : Decoder α} {default : α} {m : Members}
    (h : m.get? key = Option.none) : (withDefault key d default).named m = .ok default := by
  unfold withDefault field
  dsimp only
  rw [h]

theorem named_needed {key : String} {d : Decoder α} {m : Members} {v : Json} {a : α}
    (hv : m.get? key = some v) (ha : d v = .ok a) : (needed key d).named m = .ok a :=
  named_present hv ha

theorem named_withDefault {key : String} {d : Decoder α} {default : α} {m : Members} {v : Json}
    {a : α} (hv : m.get? key = some v) (ha : d v = .ok a) :
    (withDefault key d default).named m = .ok a :=
  named_present hv ha

/-- A value that is not null is read by the reader of an optional field. -/
theorem named_maybe {key : String} {d : Decoder α} {m : Members} {v : Json} {a : α}
    (hv : m.get? key = some v) (hne : v ≠ .null) (ha : d v = .ok a) :
    (maybe key d).named m = .ok (some a) := by
  have hsome : optional d v = .ok (some a) := by
    rw [optional_of_ne_null d hne, ha]
    rfl
  exact named_withDefault hv hsome

theorem named_maybe_null {key : String} {d : Decoder α} {m : Members}
    (hv : m.get? key = some .null) : (maybe key d).named m = .ok Option.none := by
  have hnull : optional d .null = .ok Option.none := rfl
  exact named_withDefault hv hnull

theorem named_maybe_absent {key : String} {d : Decoder α} {m : Members}
    (hv : m.get? key = Option.none) : (maybe key d).named m = .ok Option.none :=
  named_absent hv

end Fields

theorem Fields.Gives.recordWith {surplus : Nat → Nat → String} {name : String} {f : Fields α}
    {P : α → Prop} (h : f.Gives P) {v : Json} {a : α}
    (ha : Decode.recordWith surplus name f v = .ok a) : P a := by
  unfold Decode.recordWith at ha
  split at ha
  · next m =>
    unfold namedRecord at ha
    split at ha
    · next hb =>
      cases ha
      exact h.named m a hb
    · cases ha
  · next xs =>
    obtain ⟨⟨b, used, rest⟩, hb, ha⟩ := bind_eq_ok.1 ha
    dsimp only at ha
    split at ha
    · cases ha
      exact h.positional _ _ _ _ _ hb
    · cases ha
  · cases ha

theorem Fields.Gives.record {name : String} {f : Fields α} {P : α → Prop} (h : f.Gives P) {v : Json}
    {a : α} (ha : Decode.record name f v = .ok a) : P a :=
  h.recordWith ha

theorem Fields.Gives.chosenRecord {name : String} {f : Fields α} {P : α → Prop} (h : f.Gives P)
    {v : Json} {a : α} (ha : Decode.chosenRecord name f v = .ok a) : P a :=
  h.recordWith ha

/-- An object is read to a record by its fields. -/
theorem namedRecord_of_named {f : Fields α} {m : Members} {a : α} (h : f.named m = .ok a) :
    namedRecord f m = .ok a := by
  unfold namedRecord
  rw [h]

end Decode

end TaskGraph

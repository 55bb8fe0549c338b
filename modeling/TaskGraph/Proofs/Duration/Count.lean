import Mathlib.Tactic.NormNum
import Mathlib.Tactic.Ring
import TaskGraph.Document.Duration

/-!
# What digits stand for

The digits of a component are read one after the other, and the reading fails at the first character
that is no ASCII digit or as soon as the count exceeds 64 bits. So a count is read if and only if all
of its characters are ASCII digits and its value fits (`IsoDuration.countFrom_eq_ok`).

Seconds are read through binary64. Whole seconds below `2 ^ 53` come out exactly: the number next to
them is themselves (`Decimal.nearest_of_lt`), and so they are a whole number of nanoseconds
(`IsoDuration.fractionNanos_of_lt`).
-/

set_option autoImplicit false

namespace TaskGraph

/-! ## Whole numbers in binary64 -/

namespace Decimal

theorem roundDiv_mul {den : Nat} (h : 0 < den) (n : Nat) : roundDiv (n * den) den = n := by
  unfold roundDiv
  rw [Nat.mul_div_cancel n h, Nat.mul_mod_left]
  simp [h]

theorem roundAt_neg (n e : Nat) : roundAt n 1 (-(e : Int)) = n * 2 ^ e := by
  unfold roundAt
  split
  · next hle =>
    -- an exponent that is not negative is zero here
    obtain rfl : e = 0 := by omega
    simpa using roundDiv_mul Nat.one_pos n
  · have hexp : (- -(e : Int)).toNat = e := by omega
    rw [hexp]
    have hround := roundDiv_mul Nat.one_pos (n * 2 ^ e)
    rwa [Nat.mul_one] at hround

theorem roundAt_exact (n e : Nat) : roundAt (n * 2 ^ e) 1 (e : Int) = n := by
  unfold roundAt
  rw [if_pos (Int.natCast_nonneg e), Int.toNat_natCast, Nat.one_mul]
  exact roundDiv_mul (Nat.two_pow_pos e) n

/-- A whole number of at most 53 bits has a quotient of 53 bits once it is shifted. -/
theorem exponentOf_of_lt {n : Nat} (hpos : n ≠ 0) (hlt : n < 2 ^ 53) :
    exponentOf n 1 = -((52 - Nat.log2 n : Nat) : Int) := by
  have hlog : Nat.log2 n < 53 := (Nat.log2_lt hpos).2 hlt
  have hself : 2 ^ Nat.log2 n ≤ n := Nat.log2_self_le hpos
  have hguess : ((Nat.log2 n : Int) - Nat.log2 1 - 52) = -((52 - Nat.log2 n : Nat) : Int) := by
    have hone : Nat.log2 1 = 0 := by decide
    rw [hone]
    omega
  unfold exponentOf
  simp only [hguess]
  -- the guess is right: shifted by it, the number has 53 bits already
  have hfits : (if (0 : Int) ≤ -((52 - Nat.log2 n : Nat) : Int) then
      n ≥ 1 * Nat.pow 2 ((-((52 - Nat.log2 n : Nat) : Int)).toNat + 52)
      else n * Nat.pow 2 (- -((52 - Nat.log2 n : Nat) : Int)).toNat ≥ 1 * Nat.pow 2 52) := by
    split
    · next hle =>
      have hfull : Nat.log2 n = 52 := by omega
      have hexp : (-((52 - Nat.log2 n : Nat) : Int)).toNat + 52 = 52 := by omega
      rw [hexp, Nat.one_mul]
      rw [hfull] at hself
      exact hself
    · have hexp : (- -((52 - Nat.log2 n : Nat) : Int)).toNat = 52 - Nat.log2 n := by omega
      rw [hexp, Nat.one_mul]
      calc 2 ^ 52 = 2 ^ Nat.log2 n * 2 ^ (52 - Nat.log2 n) := by
            rw [← Nat.pow_add, Nat.add_sub_cancel' (by omega)]
        _ ≤ n * 2 ^ (52 - Nat.log2 n) := Nat.mul_le_mul_right _ hself
  rw [if_pos hfits]
  omega

/-- A whole number below `2 ^ 53` is the number next to itself. -/
theorem nearest_of_lt {n : Nat} (hlt : n < 2 ^ 53) :
    ∃ e : Nat, nearest n 1 = some (n * 2 ^ e, -(e : Int)) := by
  unfold nearest
  by_cases hzero : n = 0
  · exact ⟨0, by simp [hzero]⟩
  · refine ⟨52 - Nat.log2 n, ?_⟩
    have hlog : Nat.log2 n < 53 := (Nat.log2_lt hzero).2 hlt
    have hupper : n < 2 ^ (Nat.log2 n + 1) := Nat.lt_log2_self
    have hbits : n * 2 ^ (52 - Nat.log2 n) < 2 ^ 53 := by
      calc n * 2 ^ (52 - Nat.log2 n) < 2 ^ (Nat.log2 n + 1) * 2 ^ (52 - Nat.log2 n) :=
            Nat.mul_lt_mul_of_pos_right hupper (Nat.two_pow_pos _)
        _ = 2 ^ 53 := by
            rw [← Nat.pow_add]
            congr 1
            omega
    rw [if_neg hzero, exponentOf_of_lt hzero hlt]
    have hne : ¬n * 2 ^ (52 - Nat.log2 n) = Nat.pow 2 53 := Nat.ne_of_lt hbits
    simp only [roundAt_neg, if_neg hne]
    exact if_neg (by omega)

end Decimal

namespace IsoDuration

theorem fractionNanos_of_lt {n : Nat} (hlt : n < 2 ^ 53) :
    fractionNanos n 0 = some (n * 1000000000) := by
  obtain ⟨e, hnearest⟩ := Decimal.nearest_of_lt hlt
  have hnanos : Decimal.roundAt (n * 2 ^ e * 1000000000) 1 (e : Int) = n * 1000000000 := by
    rw [Nat.mul_right_comm]
    exact Decimal.roundAt_exact _ e
  have hfits : n * 2 ^ e * Nat.pow 2 (-(e : Int)).toNat < Nat.pow 2 64 * Nat.pow 2 (e : Int).toNat := by
    have hexp : (-(e : Int)).toNat = 0 := by omega
    rw [hexp, Int.toNat_natCast]
    have hone : n * 2 ^ e * Nat.pow 2 0 = n * 2 ^ e := Nat.mul_one _
    rw [hone]
    refine Nat.mul_lt_mul_of_pos_right ?_ (Nat.two_pow_pos e)
    exact Nat.lt_trans hlt (by norm_num)
  unfold fractionNanos
  have hplaces : Nat.pow 10 0 = 1 := rfl
  rw [hplaces, hnearest]
  simp only [Int.neg_neg, hnanos, if_pos hfits]

/-! ## Digits -/

/-- Whether characters are the digits `0` to `9`. -/
def Ascii (cs : List Char) : Prop := ∀ c ∈ cs, '0' ≤ c ∧ c ≤ '9'

/-- The number that ASCII digits stand for. -/
def value (cs : List Char) : Nat := Nat.ofDigitChars 10 cs 0

/-- The number that a component stands for, zero when it is absent. -/
def amount (component : Option (List Char)) : Nat := (component.map value).getD 0

theorem digit?_eq_some {c : Char} (h : '0' ≤ c ∧ c ≤ '9') : digit? c = some (c.toNat - '0'.toNat) :=
  if_pos h

theorem digit?_eq_none {c : Char} (h : ¬('0' ≤ c ∧ c ≤ '9')) : digit? c = none := if_neg h

theorem ascii_cons {c : Char} {cs : List Char} :
    Ascii (c :: cs) ↔ ('0' ≤ c ∧ c ≤ '9') ∧ Ascii cs :=
  List.forall_mem_cons

/-- Every digit makes the number that was read before it part of a larger one. -/
theorem le_ofDigitChars (n : Nat) (cs : List Char) : n ≤ Nat.ofDigitChars 10 cs n := by
  induction cs generalizing n with
  | nil => simp
  | cons c cs ih =>
    rw [Nat.ofDigitChars_cons]
    exact Nat.le_trans (by omega) (ih _)

/-- A count is read if all of its characters are ASCII digits and it fits 64 bits. -/
theorem countFrom_eq_ok {n m : Nat} {cs : List Char} (hn : n ≤ Duration.maxSecs) :
    countFrom n cs = .ok m ↔
      Ascii cs ∧ Nat.ofDigitChars 10 cs n = m ∧ m ≤ Duration.maxSecs := by
  induction cs generalizing n with
  | nil =>
    simp only [countFrom, Except.ok.injEq, Nat.ofDigitChars_nil]
    constructor
    · rintro rfl
      exact ⟨nofun, rfl, hn⟩
    · exact fun h => h.2.1
  | cons c cs ih =>
    rw [countFrom, ascii_cons, Nat.ofDigitChars_cons]
    by_cases hc : '0' ≤ c ∧ c ≤ '9'
    · rw [digit?_eq_some hc]
      have hstep : 10 * n + (c.toNat - '0'.toNat) = n * 10 + (c.toNat - '0'.toNat) := by ring
      rw [hstep]
      dsimp only
      split
      · next hle => rw [ih hle, and_iff_right hc]
      · next hgt =>
        -- the count grows with every digit, so it does not fit at the end either
        refine ⟨nofun, fun ⟨_, hm, hle⟩ => absurd ?_ hgt⟩
        exact Nat.le_trans (hm ▸ le_ofDigitChars _ cs) hle
    · rw [digit?_eq_none hc]
      exact ⟨nofun, fun h => absurd h.1.1 hc⟩

/-- The count of a component: it is absent, or it has ASCII digits whose value fits 64 bits. -/
theorem count_eq_ok {component : Option (List Char)} {n : Nat} :
    count component = .ok n ↔
      (∀ cs, component = some cs → Ascii cs) ∧ amount component = n ∧ n ≤ Duration.maxSecs := by
  cases component with
  | none =>
    simp only [count, Except.ok.injEq]
    constructor
    · rintro rfl
      exact ⟨nofun, rfl, Nat.zero_le _⟩
    · exact fun h => h.2.1
  | some cs =>
    have hcount : count (some cs) = .ok n ↔ countFrom 0 cs = .ok n := by
      simp only [count]
      cases countFrom 0 cs <;> simp
    rw [hcount, countFrom_eq_ok (Nat.zero_le _)]
    simp [amount, value]

/-- Reading goes on from what was read before, and fails at the first character that is no ASCII digit. -/
theorem natural?_foldl {cs : List Char} {start : Option Nat} {n : Nat} :
    cs.foldl (fun n c => match n, digit? c with
      | some n, some d => some (n * 10 + d)
      | _, _ => none) start = some n ↔
      ∃ m, start = some m ∧ Ascii cs ∧ Nat.ofDigitChars 10 cs m = n := by
  induction cs generalizing start with
  | nil => simp [Ascii]
  | cons c cs ih =>
    rw [List.foldl_cons, ih]
    simp only [ascii_cons, Nat.ofDigitChars_cons]
    -- once a character was no digit, nothing is read any more
    cases start with
    | none =>
      constructor
      · rintro ⟨_, h, -⟩
        cases h
      · rintro ⟨_, h, -⟩
        cases h
    | some m =>
      simp only [Option.some.injEq, exists_eq_left']
      by_cases hc : '0' ≤ c ∧ c ≤ '9'
      · have hstep : 10 * m + (c.toNat - '0'.toNat) = m * 10 + (c.toNat - '0'.toNat) := by ring
        rw [digit?_eq_some hc, and_iff_right hc, hstep]
        simp only [Option.some.injEq, exists_eq_left']
      · rw [digit?_eq_none hc]
        constructor
        · rintro ⟨_, h, -⟩
          cases h
        · exact fun h => absurd h.1.1 hc

/-- Digits stand for a natural number if all of them are ASCII digits. -/
theorem natural?_eq_some {cs : List Char} {n : Nat} :
    natural? cs = some n ↔ Ascii cs ∧ value cs = n := by
  have hfold : natural? cs = some n ↔ _ := natural?_foldl
  rw [hfold]
  simp only [Option.some.injEq, exists_eq_left', value]

/-- Whole seconds below `2 ^ 53` are read exactly if all of their characters are ASCII digits. -/
theorem secondsNanos_whole {cs : List Char} (hlt : Ascii cs → value cs < 2 ^ 53) {nanos : Nat} :
    secondsNanos (some (cs, [])) = .ok nanos ↔ Ascii cs ∧ value cs * 1000000000 = nanos := by
  unfold secondsNanos
  simp only [List.append_nil]
  cases hnatural : natural? cs with
  | none =>
    refine ⟨nofun, fun ⟨hascii, _⟩ => ?_⟩
    rw [natural?_eq_some.2 ⟨hascii, rfl⟩] at hnatural
    cases hnatural
  | some n =>
    obtain ⟨hascii, rfl⟩ := natural?_eq_some.1 hnatural
    have hnanos := fractionNanos_of_lt (hlt hascii)
    simp only [List.length_nil, hnanos, Except.ok.injEq, and_iff_right hascii]

end IsoDuration

end TaskGraph

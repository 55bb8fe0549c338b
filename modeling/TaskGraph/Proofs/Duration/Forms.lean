import TaskGraph.Decimal.Layout
import TaskGraph.Proofs.Duration.Iso

/-!
# The two forms of a duration

An object of counts stops at the largest number of seconds wherever a product or a sum exceeds it.
Stopping on the way is stopping at the end, as no step makes a number smaller
(`InlineDuration.seconds_saturate`), so the object reaches its limit at the same counts at which the ISO
form is refused. Milliseconds are added last, and stop at the longest duration
(`InlineDuration.toNanos_toDuration`).
-/

set_option autoImplicit false

namespace TaskGraph

/-! ## Numbers as digits -/

namespace IsoDuration

theorem ascii_natText (n : Nat) : Ascii (Decimal.natText n).toList := by
  intro c hc
  have hdigits : c ∈ Nat.toDigits 10 n := Nat.toList_repr (n := n) ▸ hc
  have hdigit := Nat.isDigit_of_mem_toDigits (by omega) (by omega) hdigits
  simp only [Char.isDigit, Bool.and_eq_true, decide_eq_true_eq] at hdigit
  exact ⟨hdigit.1, hdigit.2⟩

theorem value_natText (n : Nat) : value (Decimal.natText n).toList = n := by
  have hdigits : (Decimal.natText n).toList = Nat.toDigits 10 n := Nat.toList_repr
  rw [value, hdigits, Nat.ofDigitChars_ten_toDigits]

theorem natText_ne_nil (n : Nat) : (Decimal.natText n).toList ≠ [] := by
  have hdigits : (Decimal.natText n).toList = Nat.toDigits 10 n := Nat.toList_repr
  rw [hdigits]
  exact Nat.toDigits_ne_nil

end IsoDuration

/-! ## Sums that stop -/

namespace Duration

theorem toNanos_ofMillis (n : Nat) : (ofMillis n).toNanos = n * 1000000 := by
  calc n / 1000 * 1000000000 + n % 1000 * 1000000
      = (n / 1000 * 1000 + n % 1000) * 1000000 := by ring
    _ = n * 1000000 := by rw [Nat.div_add_mod']

theorem toNanos_longest : longest.toNanos = (maxSecs + 1) * 1000000000 - 1 := by decide

/-- The whole seconds of a number of nanoseconds fit if it is at most the longest duration. -/
theorem ofNanos?_eq (n : Nat) :
    ofNanos? n = if n ≤ longest.toNanos then some (ofNanos n) else none := by
  have hfits : (ofNanos n).secs ≤ maxSecs ↔ n ≤ longest.toNanos := by
    have hdiv : n / 1000000000 < maxSecs + 1 ↔ n < (maxSecs + 1) * 1000000000 :=
      Nat.div_lt_iff_lt_mul (by decide)
    rw [toNanos_longest]
    simp only [ofNanos]
    omega
  exact if_congr hfits rfl rfl

/-- A sum is the exact one, or the longest duration where that does not fit. -/
theorem addSaturating_eq (a b : Duration) :
    a.addSaturating b =
      if a.toNanos + b.toNanos ≤ longest.toNanos then ofNanos (a.toNanos + b.toNanos) else longest := by
  rw [addSaturating, add?, ofNanos?_eq]
  split <;> rfl

theorem toNanos_addSaturating (a b : Duration) :
    (a.addSaturating b).toNanos = min longest.toNanos (a.toNanos + b.toNanos) := by
  rw [addSaturating_eq]
  split
  · next hle => rw [toNanos_ofNanos, Nat.min_eq_right hle]
  · next hgt => rw [Nat.min_eq_left (Nat.le_of_not_le hgt)]

/-- A sum of durations is one: its seconds fit, and its nanoseconds are less than a second. -/
theorem addSaturating_wellFormed (a b : Duration) :
    (a.addSaturating b).secs ≤ maxSecs ∧ (a.addSaturating b).nanos < 1000000000 := by
  rw [addSaturating, add?, ofNanos?]
  split
  · next hle => exact ⟨hle, Nat.mod_lt _ (by decide)⟩
  · exact ⟨Nat.le_refl _, by decide⟩

/-- Durations of as many nanoseconds are the same. -/
theorem eq_of_toNanos {a b : Duration} (ha : a.nanos < 1000000000) (hb : b.nanos < 1000000000)
    (h : a.toNanos = b.toNanos) : a = b := by
  obtain ⟨as, an⟩ := a
  obtain ⟨bs, bn⟩ := b
  simp only [toNanos] at ha hb h
  obtain rfl : as = bs := by omega
  obtain rfl : an = bn := by omega
  rfl

end Duration

namespace InlineDuration

/-- The seconds that the counts stand for, their milliseconds aside. -/
def total (d : InlineDuration) : Nat := 86400 * d.days + 3600 * d.hours + 60 * d.minutes + d.seconds

/-- The counts in the ISO form, their milliseconds aside. -/
def iso (d : InlineDuration) : String :=
  "P" ++ Decimal.natText d.days ++ "DT" ++ Decimal.natText d.hours ++ "H" ++
    Decimal.natText d.minutes ++ "M" ++ Decimal.natText d.seconds ++ "S"

/-- Stopping at each product and each sum is stopping at the end. -/
theorem seconds_saturate (d : InlineDuration) :
    addSecs (addSecs (addSecs d.seconds (mulSecs d.minutes 60)) (mulSecs d.hours 3600))
      (mulSecs d.days 86400) = min Duration.maxSecs d.total := by
  simp only [addSecs, mulSecs, total]
  generalize Duration.maxSecs = limit
  omega

/-- The milliseconds are added to the seconds, up to the longest duration. -/
theorem toNanos_toDuration (d : InlineDuration) :
    d.toDuration.toNanos = min Duration.longest.toNanos
      (min Duration.maxSecs d.total * 1000000000 + d.milliseconds * 1000000) := by
  rw [toDuration, Duration.toNanos_addSaturating, seconds_saturate, Duration.toNanos_ofMillis,
    Duration.toNanos_whole]

theorem toDuration_wellFormed (d : InlineDuration) :
    d.toDuration.secs ≤ Duration.maxSecs ∧ d.toDuration.nanos < 1000000000 :=
  Duration.addSaturating_wellFormed _ _

/-- Without milliseconds, the duration is the total of the counts, or the largest number of seconds. -/
theorem toDuration_whole (d : InlineDuration) (h : d.milliseconds = 0) :
    d.toDuration = ⟨min Duration.maxSecs d.total, 0⟩ := by
  refine Duration.eq_of_toNanos d.toDuration_wellFormed.2 (Nat.zero_lt_succ _) ?_
  have hle : min Duration.maxSecs d.total ≤ Duration.maxSecs := Nat.min_le_left _ _
  rw [toNanos_toDuration, h, Duration.toNanos_longest, Duration.toNanos_whole]
  omega

/-! ## The ISO form of counts -/

/-- The counts as groups of digits. -/
def groups (d : InlineDuration) : IsoDuration.Groups :=
  ⟨some (Decimal.natText d.days).toList, some (Decimal.natText d.hours).toList,
    some (Decimal.natText d.minutes).toList, some (Decimal.natText d.seconds).toList⟩

theorem groups_proper (d : InlineDuration) : d.groups.Proper := by
  have hdigits (n : Nat) : ∀ ds, some (Decimal.natText n).toList = some ds →
      ds ≠ [] ∧ IsoDuration.Ascii ds := by
    intro ds hds
    cases hds
    exact ⟨IsoDuration.natText_ne_nil n, IsoDuration.ascii_natText n⟩
  refine ⟨IsoDuration.Groups.forall_mem_all.2 ?_, _, List.mem_cons_self, nofun⟩
  exact ⟨hdigits d.days, hdigits d.hours, hdigits d.minutes, hdigits d.seconds⟩

theorem groups_total (d : InlineDuration) : d.groups.total = d.total := by
  simp only [IsoDuration.Groups.total, groups, IsoDuration.amount, Option.map_some, Option.getD_some,
    IsoDuration.value_natText, total]

theorem groups_text (d : InlineDuration) : d.iso.toList = d.groups.text := by
  have hne : d.groups.time ≠ [] := by
    simp [IsoDuration.Groups.time, groups, IsoDuration.group]
  rw [IsoDuration.Groups.text, if_neg hne]
  simp [iso, groups, IsoDuration.Groups.time, IsoDuration.group]

/-- No blank stands at the ends of the ISO form. -/
theorem trim_iso (d : InlineDuration) : Text.trim d.iso = d.iso := by
  have hfront : ∃ cs, d.iso.toList = 'P' :: cs := ⟨_, d.groups_text⟩
  have hback : ∃ cs, d.iso.toList = cs ++ ['S'] := by
    refine ⟨("P" ++ Decimal.natText d.days ++ "DT" ++ Decimal.natText d.hours ++ "H" ++
      Decimal.natText d.minutes ++ "M" ++ Decimal.natText d.seconds).toList, ?_⟩
    rw [iso, String.toList_append]
    rfl
  have hstart : Text.trimStart d.iso.toList = d.iso.toList := by
    obtain ⟨cs, hcs⟩ := hfront
    rw [hcs]
    exact List.dropWhile_cons_of_neg (by decide)
  have hend : Text.trimEnd d.iso.toList = d.iso.toList := by
    obtain ⟨cs, hcs⟩ := hback
    rw [Text.trimEnd, hcs, List.reverse_append, List.reverse_singleton, List.singleton_append,
      List.dropWhile_cons_of_neg (by decide)]
    simp
  rw [Text.trim, hstart, hend, String.ofList_toList]

/-- The seconds of the ISO form are those of the counts. -/
theorem wholeSeconds_iso (d : InlineDuration) (h : d.seconds < 2 ^ 53) :
    IsoDuration.WholeSeconds (Text.trim d.iso).toList := by
  intro c hwrites whole fraction hseconds
  rw [trim_iso, groups_text] at hwrites
  -- a text writes the components of one reading only
  have hcomponents := IsoDuration.components?_eq_some.2 hwrites
  rw [IsoDuration.components?_eq_some.2 d.groups_proper.text_writes.1, Option.some.injEq] at hcomponents
  subst hcomponents
  cases hseconds
  exact ⟨rfl, fun _ => by rwa [IsoDuration.value_natText]⟩

/-- The two forms agree. Where the total of the counts fits, both stand for it. Where it does not, the ISO
form is refused, and the object stands for the largest number of seconds. Milliseconds are added to the
object up to the longest duration, so more of them never make it shorter. -/
theorem forms_agree (d : InlineDuration) :
    (d.seconds < 2 ^ 53 →
      (d.total ≤ Duration.maxSecs →
        IsoDuration.parse d.iso = .ok ⟨d.total, 0⟩ ∧
          { d with milliseconds := 0 }.toDuration = ⟨d.total, 0⟩) ∧
      (Duration.maxSecs < d.total →
        (∃ reason, IsoDuration.parse d.iso = .error (.invalidDuration d.iso reason)) ∧
          { d with milliseconds := 0 }.toDuration = ⟨Duration.maxSecs, 0⟩)) ∧
    (d.toDuration.secs ≤ Duration.maxSecs ∧ d.toDuration.nanos < 1000000000) ∧
    d.toDuration.toNanos = min Duration.longest.toNanos
      ({ d with milliseconds := 0 }.toDuration.toNanos + d.milliseconds * 1000000) ∧
    ∀ more, d.toDuration.toNanos ≤
      { d with milliseconds := d.milliseconds + more }.toDuration.toNanos := by
  have hwhole : { d with milliseconds := 0 }.toDuration = ⟨min Duration.maxSecs d.total, 0⟩ :=
    toDuration_whole _ rfl
  refine ⟨fun hseconds => ⟨fun hfits => ⟨?_, ?_⟩, fun hexceeds => ⟨?_, ?_⟩⟩, d.toDuration_wellFormed,
    ?_, fun more => ?_⟩
  · refine (IsoDuration.parse_whole (d.wholeSeconds_iso hseconds)).2
      ⟨d.groups, d.groups_proper, ?_, ?_, ?_⟩
    · rw [trim_iso, groups_text]
    · rwa [groups_total]
    · rw [groups_total]
  · rw [hwhole, Nat.min_eq_right hfits]
  · refine IsoDuration.parse_invalid fun t ht => ?_
    obtain ⟨g, hg, htext, hle, -⟩ :=
      (IsoDuration.parse_whole (d.wholeSeconds_iso hseconds)).1 ht
    -- the text is that of the counts only
    rw [trim_iso, groups_text] at htext
    obtain rfl := d.groups_proper.eq_of_text hg htext
    rw [groups_total] at hle
    omega
  · rw [hwhole, Nat.min_eq_left (Nat.le_of_lt hexceeds)]
  · rw [toNanos_toDuration, hwhole, Duration.toNanos_whole]
  · rw [toNanos_toDuration, toNanos_toDuration]
    have htotal : { d with milliseconds := d.milliseconds + more }.total = d.total := rfl
    rw [htotal]
    dsimp only
    omega

theorem forms_agree_on_both_sides :
    IsoDuration.parse (InlineDuration.iso ⟨1, 2, 3, 4, 5⟩) = .ok ⟨93784, 0⟩ ∧
      (∃ reason, IsoDuration.parse (InlineDuration.iso ⟨Duration.maxSecs, 0, 0, 4, 0⟩) =
        .error (.invalidDuration (InlineDuration.iso ⟨Duration.maxSecs, 0, 0, 4, 0⟩) reason)) := by
  have hfits := ((forms_agree ⟨1, 2, 3, 4, 5⟩).1 (by decide)).1 (by decide)
  have hexceeds := ((forms_agree ⟨Duration.maxSecs, 0, 0, 4, 0⟩).1 (by decide)).2 (by decide)
  exact ⟨hfits.1, hexceeds.1⟩

end InlineDuration

end TaskGraph

import TaskGraph.Proofs.Document.Reading
import TaskGraph.Proofs.Duration.Count

/-!
# The texts that stand for a duration

`IsoDuration.Components.Writes` is the pattern of a duration: groups of digits, each before its letter,
those of a time after a `T`. The reader cuts a text into the components that it writes, and refuses
what writes none (`IsoDuration.components?_eq_some`); a letter that comes up twice in the pattern is
told by what stands before it.

Of what fits the pattern, a text stands for a duration if it is `P[dD][T[hH][mM][sS]]`, with a
component, with one behind the `T`, and with a total that fits (`IsoDuration.parse_whole`).
-/

set_option autoImplicit false

namespace TaskGraph

namespace IsoDuration

/-! ## The pattern -/

/-- A group of digits before its letter, if it is there. -/
def group (letter : Char) : Option (List Char) → List Char
  | none => []
  | some ds => ds ++ [letter]

/-- Seconds, perhaps with a fraction, before their letter, if they are there. -/
def secondsGroup : Option (List Char × List Char) → List Char
  | none => []
  | some (whole, []) => whole ++ ['S']
  | some (whole, f :: fs) => whole ++ '.' :: (f :: fs ++ ['S'])

/-- Whether characters are digits, of any script. -/
def AllDigits (cs : List Char) : Prop := ∀ c ∈ cs, Text.isDigit c = true

/-- Whether there are digits in a group that is there. -/
def Grouped (component : Option (List Char)) : Prop :=
  ∀ ds, component = some ds → ds ≠ [] ∧ AllDigits ds

/-- Whether there are digits in seconds that are there; a fraction may be empty. -/
def GroupedSeconds (component : Option (List Char × List Char)) : Prop :=
  ∀ whole fraction, component = some (whole, fraction) →
    whole ≠ [] ∧ AllDigits whole ∧ AllDigits fraction

namespace Components

/-- The components of a date. -/
def date (c : Components) : List Char := group 'Y' c.years ++ (group 'M' c.months ++ group 'D' c.days)

/-- The components of a time. -/
def time (c : Components) : List Char :=
  group 'H' c.hours ++ (group 'M' c.minutes ++ secondsGroup c.seconds)

/-- Whether all components that are there have digits. -/
structure Filled (c : Components) : Prop where
  years : Grouped c.years
  months : Grouped c.months
  days : Grouped c.days
  hours : Grouped c.hours
  minutes : Grouped c.minutes
  seconds : GroupedSeconds c.seconds

/-- Whether a text writes components: those of a date, and behind a `T` those of a time. -/
def Writes (c : Components) (cs : List Char) : Prop :=
  c.Filled ∧ (cs = 'P' :: c.date ∧ c.time = [] ∨ cs = 'P' :: (c.date ++ 'T' :: c.time))

end Components

/-! ## Single components -/

theorem Ascii.allDigits {cs : List Char} (h : Ascii cs) : AllDigits cs := by
  intro c hc
  obtain ⟨hlow, hhigh⟩ := h c hc
  have hrange : (48, 57) ∈ Text.digitRanges := by simp [Text.digitRanges]
  refine List.any_eq_true.2 ⟨(48, 57), hrange, ?_⟩
  rw [Bool.and_eq_true, decide_eq_true_iff, decide_eq_true_iff]
  exact ⟨UInt32.le_iff_toNat_le.1 (Char.le_def.1 hlow), UInt32.le_iff_toNat_le.1 (Char.le_def.1 hhigh)⟩

theorem allDigits_takeWhile (cs : List Char) : AllDigits (cs.takeWhile Text.isDigit) :=
  fun c hc => List.all_eq_true.1 List.all_takeWhile c hc

theorem takeWhile_digits {ds : List Char} (hds : AllDigits ds) {l : Char}
    (hl : Text.isDigit l = false) (rest : List Char) :
    (ds ++ l :: rest).takeWhile Text.isDigit = ds ∧
      (ds ++ l :: rest).dropWhile Text.isDigit = l :: rest := by
  rw [List.takeWhile_append_of_pos hds, List.dropWhile_append_of_pos hds]
  simp [hl]

/-- Digits before a character that is none are a component if there are some, and the character is its
letter. -/
theorem component_stop (letter : Char) {ds : List Char} (hds : AllDigits ds) {l : Char}
    (hl : Text.isDigit l = false) (rest : List Char) :
    component letter (ds ++ l :: rest) =
      if ds ≠ [] ∧ l = letter then (some ds, rest) else (none, ds ++ l :: rest) := by
  obtain ⟨htake, hdrop⟩ := takeWhile_digits hds hl rest
  unfold component
  simp only [htake, hdrop]
  cases ds with
  | nil => simp
  | cons d ds => by_cases hletter : l = letter <;> simp [hletter]

theorem component_nil (letter : Char) : component letter [] = (none, []) := rfl

/-- A component that is there is read, and nothing is read where none is. -/
theorem component_group {letter : Char} (hletter : Text.isDigit letter = false)
    {o : Option (List Char)} (ho : Grouped o) {rest : List Char}
    (hrest : component letter rest = (none, rest)) :
    component letter (group letter o ++ rest) = (o, rest) := by
  cases o with
  | none => exact hrest
  | some ds =>
    obtain ⟨hne, hds⟩ := ho ds rfl
    have hstop := component_stop letter hds hletter rest
    rw [if_pos ⟨hne, rfl⟩] at hstop
    rw [group, List.append_assoc]
    exact hstop

/-- A group with another letter is no component. -/
theorem component_skip {letter l : Char} (hl : Text.isDigit l = false) (hne : l ≠ letter)
    {o : Option (List Char)} (ho : Grouped o) {rest : List Char}
    (hrest : component letter rest = (none, rest)) :
    component letter (group l o ++ rest) = (none, group l o ++ rest) := by
  cases o with
  | none => exact hrest
  | some ds =>
    have hstop := component_stop letter (ho ds rfl).2 hl rest
    rw [if_neg fun h => hne h.2] at hstop
    rw [group, List.append_assoc]
    exact hstop

theorem component_seconds {letter : Char} (hpoint : '.' ≠ letter) (hS : 'S' ≠ letter)
    {o : Option (List Char × List Char)} (ho : GroupedSeconds o) :
    component letter (secondsGroup o) = (none, secondsGroup o) := by
  match o, ho with
  | none, _ => rfl
  | some (whole, []), ho =>
    have hstop := component_stop letter (ho whole [] rfl).2.1 (l := 'S') (by decide) []
    rwa [if_neg fun h => hS h.2] at hstop
  | some (whole, f :: fs), ho =>
    have hstop := component_stop letter (ho whole (f :: fs) rfl).2.1 (l := '.') (by decide)
      (f :: fs ++ ['S'])
    rwa [if_neg fun h => hpoint h.2] at hstop

/-- What is read as a component was written as one. -/
theorem eq_of_component {letter : Char} {cs rest : List Char} {o : Option (List Char)}
    (h : component letter cs = (o, rest)) : cs = group letter o ++ rest ∧ Grouped o := by
  have hsplit : cs.takeWhile Text.isDigit ++ cs.dropWhile Text.isDigit = cs :=
    List.takeWhile_append_dropWhile
  have hdigits : AllDigits (cs.takeWhile Text.isDigit) := allDigits_takeWhile _
  revert h hsplit hdigits
  unfold component
  generalize cs.takeWhile Text.isDigit = ds
  generalize cs.dropWhile Text.isDigit = tail
  intro h hsplit hdigits
  have hnone : (none, cs) = (o, rest) → cs = group letter o ++ rest ∧ Grouped o := by
    intro h
    cases h
    exact ⟨rfl, nofun⟩
  -- digits are read only if there are some, and their letter follows
  match ds, tail with
  | [], _ => exact hnone h
  | d :: ds, [] => exact hnone h
  | d :: ds, c :: tail =>
    dsimp only at h
    split at h
    · next hletter =>
      cases h
      subst hletter
      refine ⟨?_, fun ds' heq => ?_⟩
      · rw [← hsplit, group, List.append_assoc]
        rfl
      · cases heq
        exact ⟨List.cons_ne_nil _ _, hdigits⟩
    · exact hnone h

/-! ## Seconds -/

theorem secondsComponent_group {o : Option (List Char × List Char)} (ho : GroupedSeconds o) :
    secondsComponent (secondsGroup o) = (o, []) := by
  match o, ho with
  | none, _ => rfl
  | some (whole, []), ho =>
    obtain ⟨hne, hwhole, -⟩ := ho whole [] rfl
    obtain ⟨htake, hdrop⟩ := takeWhile_digits hwhole (l := 'S') (by decide) []
    obtain ⟨d, ds, rfl⟩ := List.exists_cons_of_ne_nil hne
    unfold secondsComponent secondsGroup
    simp only [htake, hdrop]
  | some (whole, f :: fs), ho =>
    obtain ⟨hne, hwhole, hfraction⟩ := ho whole (f :: fs) rfl
    obtain ⟨htake, hdrop⟩ := takeWhile_digits hwhole (l := '.') (by decide) (f :: fs ++ ['S'])
    obtain ⟨htake', hdrop'⟩ := takeWhile_digits hfraction (l := 'S') (by decide) []
    obtain ⟨d, ds, rfl⟩ := List.exists_cons_of_ne_nil hne
    unfold secondsComponent secondsGroup
    simp only [htake, hdrop, htake', hdrop']

/-- What is read as seconds was written as such. -/
theorem eq_of_secondsComponent {cs rest : List Char} {o : Option (List Char × List Char)}
    (h : secondsComponent cs = (o, rest)) :
    cs = secondsGroup o ++ rest ∧ GroupedSeconds o := by
  have hsplit : cs.takeWhile Text.isDigit ++ cs.dropWhile Text.isDigit = cs :=
    List.takeWhile_append_dropWhile
  have hdigits : AllDigits (cs.takeWhile Text.isDigit) := allDigits_takeWhile _
  have hnone : (none, cs) = (o, rest) → cs = secondsGroup o ++ rest ∧ GroupedSeconds o := by
    intro h
    cases h
    exact ⟨rfl, nofun⟩
  unfold secondsComponent at h
  dsimp only at h
  split at h
  · next d ds tail htake hdrop =>
    -- behind a point, the fraction is cut in the same way
    have hsplit' : tail.takeWhile Text.isDigit ++ tail.dropWhile Text.isDigit = tail :=
      List.takeWhile_append_dropWhile
    have hdigits' : AllDigits (tail.takeWhile Text.isDigit) := allDigits_takeWhile _
    rw [htake, hdrop] at hsplit
    rw [htake] at hdigits
    split at h
    · next f fs rest' htake' hdrop' =>
      rw [htake, htake'] at h
      cases h
      rw [htake', hdrop'] at hsplit'
      rw [htake'] at hdigits'
      refine ⟨?_, fun whole fraction heq => ?_⟩
      · rw [← hsplit, ← hsplit']
        simp [secondsGroup]
      · cases heq
        exact ⟨List.cons_ne_nil _ _, hdigits, hdigits'⟩
    · exact hnone h
  · next d ds tail htake hdrop =>
    rw [htake] at h
    cases h
    rw [htake, hdrop] at hsplit
    rw [htake] at hdigits
    refine ⟨?_, fun whole fraction heq => ?_⟩
    · rw [← hsplit]
      simp [secondsGroup]
    · cases heq
      exact ⟨List.cons_ne_nil _ _, hdigits, nofun⟩
  · exact hnone h

/-! ## All components -/

/-- The components of a date are read in front of what begins with none of them. -/
theorem date_read {c : Components} (hc : c.Filled) {rest : List Char}
    (hrest : ∀ letter, component letter rest = (none, rest)) :
    component 'Y' (c.date ++ rest) = (c.years, group 'M' c.months ++ (group 'D' c.days ++ rest)) ∧
      component 'M' (group 'M' c.months ++ (group 'D' c.days ++ rest)) =
        (c.months, group 'D' c.days ++ rest) ∧
      component 'D' (group 'D' c.days ++ rest) = (c.days, rest) := by
  refine ⟨?_, ?_, component_group (by decide) hc.days (hrest _)⟩
  · rw [Components.date, List.append_assoc, List.append_assoc]
    refine component_group (by decide) hc.years ?_
    exact component_skip (by decide) (by decide) hc.months
      (component_skip (by decide) (by decide) hc.days (hrest _))
  · exact component_group (by decide) hc.months
      (component_skip (by decide) (by decide) hc.days (hrest _))

/-- The components of a time are read up to the end. -/
theorem time_read {c : Components} (hc : c.Filled) :
    component 'H' c.time = (c.hours, group 'M' c.minutes ++ secondsGroup c.seconds) ∧
      component 'M' (group 'M' c.minutes ++ secondsGroup c.seconds) =
        (c.minutes, secondsGroup c.seconds) ∧
      secondsComponent (secondsGroup c.seconds) = (c.seconds, []) := by
  refine ⟨?_, ?_, secondsComponent_group hc.seconds⟩
  · refine component_group (by decide) hc.hours ?_
    exact component_skip (by decide) (by decide) hc.minutes
      (component_seconds (by decide) (by decide) hc.seconds)
  · exact component_group (by decide) hc.minutes
      (component_seconds (by decide) (by decide) hc.seconds)

theorem group_eq_nil {letter : Char} {o : Option (List Char)} (h : group letter o = []) : o = none := by
  cases o with
  | none => rfl
  | some ds => simp [group] at h

theorem secondsGroup_eq_nil {o : Option (List Char × List Char)} (h : secondsGroup o = []) :
    o = none := by
  match o with
  | none => rfl
  | some (whole, []) => simp [secondsGroup] at h
  | some (whole, f :: fs) => simp [secondsGroup] at h

/-- A text is cut into components if and only if it writes them. -/
theorem components?_eq_some {cs : List Char} {c : Components} :
    components? cs = some c ↔ c.Writes cs := by
  constructor
  · intro h
    unfold components? at h
    split at h
    · next tail =>
      rcases hyears : component 'Y' tail with ⟨years, tail₁⟩
      rcases hmonths : component 'M' tail₁ with ⟨months, tail₂⟩
      rcases hdays : component 'D' tail₂ with ⟨days, tail₃⟩
      obtain ⟨rfl, hy⟩ := eq_of_component hyears
      obtain ⟨rfl, hm⟩ := eq_of_component hmonths
      obtain ⟨rfl, hd⟩ := eq_of_component hdays
      simp only [hyears, hmonths, hdays] at h
      split at h
      · cases h
        refine ⟨⟨hy, hm, hd, nofun, nofun, nofun⟩, .inl ⟨?_, rfl⟩⟩
        simp [Components.date]
      · next tail₄ =>
        rcases hhours : component 'H' tail₄ with ⟨hours, tail₅⟩
        rcases hminutes : component 'M' tail₅ with ⟨minutes, tail₆⟩
        rcases hseconds : secondsComponent tail₆ with ⟨seconds, tail₇⟩
        obtain ⟨rfl, hh⟩ := eq_of_component hhours
        obtain ⟨rfl, hmin⟩ := eq_of_component hminutes
        obtain ⟨rfl, hs⟩ := eq_of_secondsComponent hseconds
        simp only [hhours, hminutes, hseconds] at h
        split at h
        · cases h
          refine ⟨⟨hy, hm, hd, hh, hmin, hs⟩, .inr ?_⟩
          simp [Components.date, Components.time]
        · cases h
      · cases h
    · cases h
  · rintro ⟨hfilled, ⟨rfl, htime⟩ | rfl⟩
    · obtain ⟨hyears, hmonths, hdays⟩ := date_read hfilled component_nil
      simp only [List.append_nil] at hyears hmonths hdays
      simp only [components?, hyears, hmonths, hdays]
      -- no `T` stands there, so there is no time
      obtain ⟨hhours, htime⟩ := List.append_eq_nil_iff.1 htime
      obtain ⟨hminutes, hseconds⟩ := List.append_eq_nil_iff.1 htime
      obtain ⟨years, months, days, hours, minutes, seconds⟩ := c
      cases group_eq_nil hhours
      cases group_eq_nil hminutes
      cases secondsGroup_eq_nil hseconds
      rfl
    · have hT (letter : Char) : component letter ('T' :: c.time) = (none, 'T' :: c.time) :=
        component_stop letter (show AllDigits [] from nofun) (by decide) c.time
      obtain ⟨hyears, hmonths, hdays⟩ := date_read hfilled hT
      obtain ⟨hhours, hminutes, hseconds⟩ := time_read hfilled
      simp only [components?, hyears, hmonths, hdays, hhours, hminutes, hseconds]

/-! ## Durations of whole seconds -/

/-- The groups of digits of a duration without years, months and fractions of a second. -/
structure Groups where
  days : Option (List Char)
  hours : Option (List Char)
  minutes : Option (List Char)
  seconds : Option (List Char)

namespace Groups

/-- The groups, in the order of the text. -/
def all (g : Groups) : List (Option (List Char)) := [g.days, g.hours, g.minutes, g.seconds]

/-- The groups of the time. -/
def time (g : Groups) : List Char :=
  group 'H' g.hours ++ (group 'M' g.minutes ++ group 'S' g.seconds)

/-- The text `P[dD][T[hH][mM][sS]]`, where the `T` stands before a time that has a group. -/
def text (g : Groups) : List Char :=
  'P' :: (group 'D' g.days ++ if g.time = [] then [] else 'T' :: g.time)

/-- Whether some group is there, and each that is has ASCII digits. -/
structure Proper (g : Groups) : Prop where
  digits : ∀ o ∈ g.all, ∀ ds, o = some ds → ds ≠ [] ∧ Ascii ds
  present : ∃ o ∈ g.all, o ≠ none

/-- The seconds that the groups stand for. -/
def total (g : Groups) : Nat :=
  86400 * amount g.days + 3600 * amount g.hours + 60 * amount g.minutes + amount g.seconds

/-- The groups as components. -/
def components (g : Groups) : Components :=
  ⟨none, none, g.days, g.hours, g.minutes, g.seconds.map (·, [])⟩

theorem components_date (g : Groups) : g.components.date = group 'D' g.days := rfl

theorem components_time (g : Groups) : g.components.time = g.time := by
  have hseconds : secondsGroup (g.seconds.map (·, [])) = group 'S' g.seconds := by
    cases g.seconds <;> rfl
  simp only [Components.time, components, hseconds, time]

end Groups

/-- Characters that are no digits stand in a group as its letter only. -/
theorem not_mem_group {x letter : Char} (hx : Text.isDigit x = false) (hne : x ≠ letter)
    {o : Option (List Char)} (ho : Grouped o) : x ∉ group letter o := by
  cases o with
  | none => exact List.not_mem_nil
  | some ds =>
    intro hmem
    rcases List.mem_append.1 hmem with hmem | hmem
    · exact Bool.false_ne_true (hx.symm.trans ((ho ds rfl).2 x hmem))
    · exact hne (List.mem_singleton.1 hmem)

theorem not_mem_secondsGroup {x : Char} (hx : Text.isDigit x = false) (hpoint : x ≠ '.')
    (hS : x ≠ 'S') {o : Option (List Char × List Char)} (ho : GroupedSeconds o) :
    x ∉ secondsGroup o := by
  have hdigits {ds : List Char} (hds : AllDigits ds) : x ∉ ds := fun hmem =>
    Bool.false_ne_true (hx.symm.trans (hds x hmem))
  match o, ho with
  | none, _ => exact List.not_mem_nil
  | some (whole, []), ho =>
    simp [secondsGroup, hS, hdigits (ho whole [] rfl).2.1]
  | some (whole, f :: fs), ho =>
    obtain ⟨-, hwhole, hfraction⟩ := ho whole (f :: fs) rfl
    have hf := hdigits hfraction
    rw [List.mem_cons, not_or] at hf
    simp [secondsGroup, hS, hpoint, hdigits hwhole, hf.1, hf.2]

/-- The letters of a time are `H`, `M` and `S`. -/
theorem not_mem_time {x : Char} (hx : Text.isDigit x = false) (hletter : x ∉ ['H', 'M', '.', 'S'])
    {c : Components} (hc : c.Filled) : x ∉ c.time := by
  simp only [List.mem_cons, List.not_mem_nil, or_false, not_or] at hletter
  simp only [Components.time, List.mem_append, not_or]
  exact ⟨not_mem_group hx hletter.1 hc.hours, not_mem_group hx hletter.2.1 hc.minutes,
    not_mem_secondsGroup hx hletter.2.2.1 hletter.2.2.2 hc.seconds⟩

/-- A text is read if it writes components, some of them, none of which are years or months, and no `T`
ends it. -/
theorem read_eq_ok {cs : List Char} {d : Duration} :
    read cs = .ok d ↔ ∃ c : Components, c.Writes cs ∧ cs ≠ ['P'] ∧ cs.getLast? ≠ some 'T' ∧
      c.years = none ∧ c.months = none ∧ c.total = .ok d := by
  unfold read
  cases hcs : components? cs with
  | none =>
    refine ⟨nofun, fun ⟨c, hwrites, _⟩ => ?_⟩
    rw [components?_eq_some.2 hwrites] at hcs
    cases hcs
  | some c =>
    -- a text writes one list of components only, the one that is read
    have honly (c' : Components) : c'.Writes cs ↔ c = c' := by
      rw [← components?_eq_some, hcs, Option.some.injEq]
    simp only [honly, exists_eq_left']
    split
    · next h =>
      refine ⟨nofun, fun ⟨hP, hT, _⟩ => ?_⟩
      exact absurd h (not_or.2 ⟨hP, hT⟩)
    · next h =>
      rw [not_or] at h
      split
      · next h' =>
        refine ⟨nofun, fun ⟨_, _, hyears, hmonths, _⟩ => ?_⟩
        simp [hyears, hmonths] at h'
      · next h' =>
        simp only [not_or, Option.not_isSome_iff_eq_none] at h'
        exact ⟨fun hd => ⟨h.1, h.2, h'.1, h'.2, hd⟩, fun hd => hd.2.2.2.2⟩

theorem ofNanos?_mul (n : Nat) :
    Duration.ofNanos? (n * 1000000000) = if n ≤ Duration.maxSecs then some ⟨n, 0⟩ else none := by
  have hnanos : Duration.ofNanos (n * 1000000000) = ⟨n, 0⟩ := by
    rw [Duration.ofNanos, Nat.mul_div_cancel n (by decide), Nat.mul_mod_left]
  rw [Duration.ofNanos?, hnanos]

/-- A step that does not fit leaves no room for the sum. -/
theorem addSecs?_bind (d h m : Nat) :
    ((if d ≤ Duration.maxSecs then some d else none).bind fun d =>
      (if h ≤ Duration.maxSecs then some h else none).bind fun h =>
        (addSecs? d h).bind fun s =>
          (if m ≤ Duration.maxSecs then some m else none).bind fun m => addSecs? s m) =
      if d + h + m ≤ Duration.maxSecs then some (d + h + m) else none := by
  unfold addSecs?
  by_cases hdays : d ≤ Duration.maxSecs
  · by_cases hhours : h ≤ Duration.maxSecs
    · by_cases hsum : d + h ≤ Duration.maxSecs
      · by_cases hminutes : m ≤ Duration.maxSecs
        · simp [hdays, hhours, hsum, hminutes]
        · have hnot : ¬d + h + m ≤ Duration.maxSecs := by omega
          simp [hdays, hhours, hminutes, hnot]
      · have hnot : ¬d + h + m ≤ Duration.maxSecs := by omega
        simp [hdays, hhours, hsum, hnot]
    · have hnot : ¬d + h + m ≤ Duration.maxSecs := by omega
      simp [hdays, hhours, hnot]
  · have hnot : ¬d + h + m ≤ Duration.maxSecs := by omega
    simp [hdays, hnot]

/-- Every step to the seconds of days, hours and minutes fits exactly if their sum does. -/
theorem wholeSecs?_eq (days hours minutes : Nat) :
    wholeSecs? days hours minutes =
      if days * 86400 + hours * 3600 + minutes * 60 ≤ Duration.maxSecs then
        some (days * 86400 + hours * 3600 + minutes * 60)
      else none :=
  addSecs?_bind (days * 86400) (hours * 3600) (minutes * 60)

/-- Seconds that are too many stay so with nanoseconds besides. -/
theorem add?_bind (secs nanos : Nat) :
    ((if secs ≤ Duration.maxSecs then some secs else none).bind fun secs =>
      Duration.add? ⟨secs, 0⟩ (.ofNanos nanos)) = Duration.ofNanos? (secs * 1000000000 + nanos) := by
  by_cases hle : secs ≤ Duration.maxSecs
  · rw [if_pos hle, Option.bind_some, Duration.add?, Duration.toNanos_whole, Duration.toNanos_ofNanos]
  · have hsecs : secs ≤ (Duration.ofNanos (secs * 1000000000 + nanos)).secs := by
      simp only [Duration.ofNanos]
      omega
    rw [if_neg hle, Duration.ofNanos?, if_neg fun h => hle (Nat.le_trans hsecs h)]
    rfl

/-- All steps to a sum fit exactly if the sum, in nanoseconds, is a duration. -/
theorem sum?_eq (days hours minutes nanos : Nat) :
    sum? days hours minutes nanos =
      Duration.ofNanos? ((days * 86400 + hours * 3600 + minutes * 60) * 1000000000 + nanos) := by
  rw [← add?_bind, ← wholeSecs?_eq]
  rfl

/-- A sum of whole seconds is the duration of these, if they fit. -/
theorem sum?_whole (days hours minutes s : Nat) :
    sum? days hours minutes (s * 1000000000) =
      if days * 86400 + hours * 3600 + minutes * 60 + s ≤ Duration.maxSecs then
        some ⟨days * 86400 + hours * 3600 + minutes * 60 + s, 0⟩
      else none := by
  rw [sum?_eq, ← Nat.add_mul, ofNanos?_mul]

namespace Groups

variable {g : Groups} {d : Duration}

theorem forall_mem_all {P : Option (List Char) → Prop} :
    (∀ o ∈ g.all, P o) ↔ P g.days ∧ P g.hours ∧ P g.minutes ∧ P g.seconds := by
  simp [all]

theorem seconds_eq_ok (hwhole : ∀ s, g.seconds = some s → Ascii s → value s < 2 ^ 53) {nanos : Nat} :
    secondsNanos (g.seconds.map (·, [])) = .ok nanos ↔
      (∀ s, g.seconds = some s → Ascii s) ∧ amount g.seconds * 1000000000 = nanos := by
  cases hs : g.seconds with
  | none => simp [secondsNanos, amount]
  | some s =>
    rw [Option.map_some, secondsNanos_whole (hwhole s hs)]
    simp [amount]

/-- Groups have a duration if all of their digits are ASCII digits and their total fits. -/
theorem total_eq_ok (hwhole : ∀ s, g.seconds = some s → Ascii s → value s < 2 ^ 53) :
    g.components.total = .ok d ↔
      (∀ o ∈ g.all, ∀ ds, o = some ds → Ascii ds) ∧ g.total ≤ Duration.maxSecs ∧
        d = ⟨g.total, 0⟩ := by
  have htotal : amount g.days * 86400 + amount g.hours * 3600 + amount g.minutes * 60 +
      amount g.seconds = g.total := by
    rw [total]
    omega
  simp only [Components.total, components, Decode.bind_eq_ok, count_eq_ok, seconds_eq_ok hwhole]
  rw [forall_mem_all]
  constructor
  · rintro ⟨days, ⟨hdays, rfl, -⟩, hours, ⟨hhours, rfl, -⟩, minutes, ⟨hminutes, rfl, -⟩, nanos,
      ⟨hseconds, rfl⟩, hd⟩
    rw [sum?_whole, htotal] at hd
    by_cases hle : g.total ≤ Duration.maxSecs
    · rw [if_pos hle] at hd
      exact ⟨⟨hdays, hhours, hminutes, hseconds⟩, hle, (Except.ok.inj hd).symm⟩
    · rw [if_neg hle] at hd
      cases hd
  · rintro ⟨⟨hdays, hhours, hminutes, hseconds⟩, hle, rfl⟩
    -- no count exceeds the total
    refine ⟨amount g.days, ⟨hdays, rfl, by omega⟩, amount g.hours, ⟨hhours, rfl, by omega⟩,
      amount g.minutes, ⟨hminutes, rfl, by omega⟩, _, ⟨hseconds, rfl⟩, ?_⟩
    rw [sum?_whole, htotal, if_pos hle]
    rfl

theorem Proper.grouped (hg : g.Proper) : ∀ o ∈ g.all, Grouped o := fun o ho ds hds =>
  ⟨(hg.digits o ho ds hds).1, (hg.digits o ho ds hds).2.allDigits⟩

theorem Proper.filled (hg : g.Proper) : g.components.Filled := by
  obtain ⟨hdays, hhours, hminutes, hseconds⟩ := forall_mem_all.1 hg.grouped
  refine ⟨nofun, nofun, hdays, hhours, hminutes, fun whole fraction heq => ?_⟩
  obtain ⟨s, hs, hpair⟩ := Option.map_eq_some_iff.1 heq
  cases hpair
  exact ⟨(hseconds _ hs).1, (hseconds _ hs).2, nofun⟩

/-- The text of groups writes them, with a component, and without a `T` at the end. -/
theorem Proper.text_writes (hg : g.Proper) :
    g.components.Writes g.text ∧ g.text ≠ ['P'] ∧ g.text.getLast? ≠ some 'T' := by
  -- a `T` at the end would be the one in front of the time, as no group has one
  have hdate : 'T' ∉ group 'D' g.days :=
    not_mem_group (by decide) (by decide) (forall_mem_all.1 hg.grouped).1
  have htime : 'T' ∉ g.time := components_time g ▸ not_mem_time (by decide) (by decide) hg.filled
  unfold text
  split
  · next hnil =>
    rw [List.append_nil]
    refine ⟨⟨hg.filled, .inl ⟨rfl, (components_time g).trans hnil⟩⟩, fun hP => ?_, fun hT => ?_⟩
    · -- without a group of the date, no group is there
      have hdays : g.days = none := group_eq_nil (List.cons.inj hP).2
      obtain ⟨hhours, hrest⟩ := List.append_eq_nil_iff.1 hnil
      obtain ⟨hminutes, hseconds⟩ := List.append_eq_nil_iff.1 hrest
      obtain ⟨o, ho, hsome⟩ := hg.present
      refine hsome ((forall_mem_all (P := (· = none))).2 ?_ o ho)
      exact ⟨hdays, group_eq_nil hhours, group_eq_nil hminutes, group_eq_nil hseconds⟩
    · rcases List.mem_cons.1 (List.mem_of_getLast? hT) with hT | hT
      · exact absurd hT (by decide)
      · exact hdate hT
  · next hne =>
    refine ⟨⟨hg.filled, .inr ?_⟩, fun hP => ?_, fun hT => ?_⟩
    · rw [components_time, components_date]
    · simp at hP
    · -- the last character of a time is one of its own
      rw [← List.cons_append, List.append_cons, List.getLast?_append,
        List.getLast?_eq_some_getLast hne, Option.some_or] at hT
      exact htime (Option.some.inj hT ▸ List.getLast_mem hne)

theorem eq_text_of_writes {cs : List Char} (hwrites : g.components.Writes cs)
    (hT : cs.getLast? ≠ some 'T') : cs = g.text := by
  obtain ⟨-, ⟨rfl, htime⟩ | rfl⟩ := hwrites
  · rw [components_time] at htime
    rw [text, if_pos htime, components_date, List.append_nil]
  · rw [components_time, components_date] at hT ⊢
    have hne : g.time ≠ [] := by
      intro hnil
      rw [hnil, ← List.cons_append] at hT
      exact hT List.getLast?_concat
    rw [text, if_neg hne]

theorem proper_of_writes {cs : List Char} (hwrites : g.components.Writes cs) (hP : cs ≠ ['P'])
    (hT : cs.getLast? ≠ some 'T') (hascii : ∀ o ∈ g.all, ∀ ds, o = some ds → Ascii ds) :
    g.Proper := by
  have hfilled := hwrites.1
  have hgrouped : ∀ o ∈ g.all, Grouped o := by
    refine forall_mem_all.2 ⟨hfilled.days, hfilled.hours, hfilled.minutes, fun s hs => ?_⟩
    obtain ⟨hne, hdigits, -⟩ := hfilled.seconds s [] (by rw [components, hs]; rfl)
    exact ⟨hne, hdigits⟩
  refine ⟨fun o ho ds hds => ⟨(hgrouped o ho ds hds).1, hascii o ho ds hds⟩, ?_⟩
  by_contra hnone
  simp only [not_exists, not_and, not_not] at hnone
  obtain ⟨hdays, hhours, hminutes, hseconds⟩ := forall_mem_all.1 hnone
  refine hP ((eq_text_of_writes hwrites hT).trans ?_)
  simp [text, time, hdays, hhours, hminutes, hseconds, group]

/-- A text is the text of one reading only. -/
theorem Proper.eq_of_text {g' : Groups} (hg : g.Proper) (hg' : g'.Proper) (h : g.text = g'.text) :
    g = g' := by
  have hsame := components?_eq_some.2 hg.text_writes.1
  rw [h, components?_eq_some.2 hg'.text_writes.1] at hsame
  obtain ⟨days, hours, minutes, seconds⟩ := g
  obtain ⟨days', hours', minutes', seconds'⟩ := g'
  simp only [components, Option.some.injEq, Components.mk.injEq, true_and] at hsame
  obtain ⟨rfl, rfl, rfl, hseconds⟩ := hsame
  obtain rfl := Option.map_injective (fun _ _ hpair => (Prod.mk.inj hpair).1) hseconds
  rfl

end Groups

/-- Whether seconds that a text writes are whole, and below `2 ^ 53`. -/
def WholeSeconds (cs : List Char) : Prop :=
  ∀ c : Components, c.Writes cs → ∀ whole fraction, c.seconds = some (whole, fraction) →
    fraction = [] ∧ (Ascii whole → value whole < 2 ^ 53)

/-- A text of whole seconds is read if it is `P[dD][T[hH][mM][sS]]`, and its total fits. -/
theorem read_whole {cs : List Char} (hwhole : WholeSeconds cs) {d : Duration} :
    read cs = .ok d ↔ ∃ g : Groups, g.Proper ∧ cs = g.text ∧ g.total ≤ Duration.maxSecs ∧
      d = ⟨g.total, 0⟩ := by
  rw [read_eq_ok]
  constructor
  · rintro ⟨⟨years, months, days, hours, minutes, seconds⟩, hwrites, hP, hT, hyears, hmonths, htotal⟩
    obtain rfl : years = none := hyears
    obtain rfl : months = none := hmonths
    -- seconds without a fraction are a group like the others
    have hseconds : ∃ s : Option (List Char), seconds = s.map (·, []) ∧
        ∀ ds, s = some ds → Ascii ds → value ds < 2 ^ 53 := by
      match seconds, hwrites with
      | none, _ => exact ⟨none, rfl, nofun⟩
      | some (whole, fraction), hwrites =>
        obtain ⟨rfl, hlt⟩ := hwhole _ hwrites whole fraction rfl
        exact ⟨some whole, rfl, fun ds hds => Option.some.inj hds ▸ hlt⟩
    obtain ⟨s, rfl, hlt⟩ := hseconds
    let g : Groups := ⟨days, hours, minutes, s⟩
    obtain ⟨hascii, hle, rfl⟩ := (Groups.total_eq_ok (g := g) hlt).1 htotal
    exact ⟨g, Groups.proper_of_writes hwrites hP hT hascii, Groups.eq_text_of_writes hwrites hT,
      hle, rfl⟩
  · rintro ⟨g, hg, rfl, hle, rfl⟩
    obtain ⟨hwrites, hP, hT⟩ := hg.text_writes
    refine ⟨g.components, hwrites, hP, hT, rfl, rfl, (Groups.total_eq_ok fun s hs => ?_).2 ?_⟩
    · exact (hwhole _ hwrites s [] (by rw [Groups.components, hs]; rfl)).2
    · exact ⟨fun o ho ds hds => (hg.digits o ho ds hds).2, hle, rfl⟩

/-- What is read has no years and no months: no `Y` stands in it, and no `M` before its `T`. -/
theorem no_calendar_units {cs : List Char} {d : Duration} (h : read cs = .ok d) :
    'Y' ∉ cs ∧ 'M' ∉ cs.takeWhile (· != 'T') := by
  obtain ⟨c, ⟨hfilled, htext⟩, -, -, hyears, hmonths, -⟩ := read_eq_ok.1 h
  have hdate : c.date = group 'D' c.days := by
    rw [Components.date, hyears, hmonths]
    rfl
  have hnot {x : Char} (hx : Text.isDigit x = false) (hD : x ≠ 'D') (hP : x ≠ 'P') :
      x ∉ 'P' :: c.date := by
    rw [hdate, List.mem_cons, not_or]
    exact ⟨hP, not_mem_group hx hD hfilled.days⟩
  have hY : 'Y' ∉ 'P' :: c.date := hnot (by decide) (by decide) (by decide)
  have hM : 'M' ∉ 'P' :: c.date := hnot (by decide) (by decide) (by decide)
  rcases htext with ⟨rfl, -⟩ | rfl
  · exact ⟨hY, fun hmem => hM ((List.takeWhile_prefix _).mem hmem)⟩
  · rw [← List.cons_append]
    constructor
    · have htime : 'Y' ∉ c.time := not_mem_time (by decide) (by decide) hfilled
      have hbehind : 'Y' ∉ 'T' :: c.time := List.not_mem_cons_of_ne_of_not_mem (by decide) htime
      rw [List.mem_append, not_or]
      exact ⟨hY, hbehind⟩
    · intro hmem
      refine hM (List.IsPrefix.mem hmem ?_)
      -- the `T` ends what stands before it
      rw [List.takeWhile_append]
      split
      · simp
      · exact List.takeWhile_prefix _

theorem parse_eq_ok {text : String} {d : Duration} :
    parse text = .ok d ↔ read (Text.trim text).toList = .ok d := by
  unfold parse
  cases read (Text.trim text).toList with
  | ok d' => simp
  | error reason => simp

/-- A text that stands for no duration is an invalid one. -/
theorem parse_invalid {text : String} (h : ∀ d, parse text ≠ .ok d) :
    ∃ reason, parse text = .error (.invalidDuration text reason) := by
  unfold parse at h ⊢
  cases hread : read (Text.trim text).toList with
  | ok d => exact absurd (by rw [hread]) (h d)
  | error reason => exact ⟨reason, rfl⟩

/-- What is read for whole seconds below `2 ^ 53`. -/
theorem parse_whole {text : String} (hwhole : WholeSeconds (Text.trim text).toList) {d : Duration} :
    parse text = .ok d ↔ ∃ g : Groups, g.Proper ∧ (Text.trim text).toList = g.text ∧
      g.total ≤ Duration.maxSecs ∧ d = ⟨g.total, 0⟩ := by
  rw [parse_eq_ok, read_whole hwhole]

/-- Which texts stand for a duration, and for which one. A text of whole seconds below `2 ^ 53` does if,
once trimmed, it is `P[dD][T[hH][mM][sS]]` of ASCII digits, with a component, and with a component behind
a `T`, and if its total fits; it stands for that total. All other texts are invalid durations. Years and
months make any text one. -/
theorem parse_grammar (text : String) :
    (WholeSeconds (Text.trim text).toList →
      (∀ d, parse text = .ok d ↔ ∃ g : Groups, g.Proper ∧ (Text.trim text).toList = g.text ∧
        g.total ≤ Duration.maxSecs ∧ d = ⟨g.total, 0⟩) ∧
      ((¬∃ g : Groups, g.Proper ∧ (Text.trim text).toList = g.text ∧
          g.total ≤ Duration.maxSecs) →
        ∃ reason, parse text = .error (.invalidDuration text reason))) ∧
    ('Y' ∈ (Text.trim text).toList ∨ 'M' ∈ (Text.trim text).toList.takeWhile (· != 'T') →
      ∃ reason, parse text = .error (.invalidDuration text reason)) := by
  refine ⟨fun hwhole => ⟨fun d => parse_whole hwhole, fun hno => parse_invalid fun d hd => ?_⟩,
    fun hcalendar => parse_invalid fun d hd => ?_⟩
  · obtain ⟨g, hg, htext, hle, -⟩ := (parse_whole hwhole).1 hd
    exact hno ⟨g, hg, htext, hle⟩
  · obtain ⟨hY, hM⟩ := no_calendar_units (parse_eq_ok.1 hd)
    exact not_or.2 ⟨hY, hM⟩ hcalendar

theorem parse_grammar_four_groups :
    WholeSeconds (Text.trim " P1DT2H3M4S ").toList ∧ parse " P1DT2H3M4S " = .ok ⟨93784, 0⟩ ∧
      ∃ reason, parse "P1Y2D" = .error (.invalidDuration "P1Y2D" reason) := by
  have htext : (Text.trim " P1DT2H3M4S ").toList =
      ['P', '1', 'D', 'T', '2', 'H', '3', 'M', '4', 'S'] := by decide +kernel
  have hwhole : WholeSeconds (Text.trim " P1DT2H3M4S ").toList := by
    intro c hwrites whole fraction hseconds
    rw [htext] at hwrites
    cases components?_eq_some.2 hwrites
    cases hseconds
    exact ⟨rfl, fun _ => by decide⟩
  have hyear : 'Y' ∈ (Text.trim "P1Y2D").toList := by decide +kernel
  let g : Groups := ⟨some ['1'], some ['2'], some ['3'], some ['4']⟩
  have hg : g.Proper := by
    refine ⟨Groups.forall_mem_all.2 ?_, some ['1'], List.mem_cons_self, nofun⟩
    simp [g, Ascii]
  refine ⟨hwhole, ?_, (parse_grammar "P1Y2D").2 (.inl hyear)⟩
  exact (((parse_grammar " P1DT2H3M4S ").1 hwhole).1 _).2 ⟨g, hg, htext, by decide, rfl⟩

end IsoDuration

end TaskGraph

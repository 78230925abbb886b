import PodDirectory.Proofs.Numerals
import PodDirectory.Settings

/-!
# Which variables give settings

The values of five variables either give settings or do not, and each of them has a meaning of
its own: a switch is a word, a number of seconds is a numeral, blanks at the ends do not count, and
a variable that is not set has a fallback. `Variable.Accepts` says which values a variable may
have, and `Settings.IsMeaningOf` what they mean together. Neither looks at how they are read.

Reading comes to exactly this (`Settings.read_accepts`): it succeeds if every variable has a value
that it may have, and the settings are then what the values mean.
-/

namespace PodDirectory

/-! ## Blanks at the ends -/

/-- What is dropped from the front of a list are all elements such that up to the first one that
is not. -/
theorem dropWhile_eq_iff {α : Type} {p : α → Bool} {as rest : List α} :
    as.dropWhile p = rest
      ↔ (∃ before, as = before ++ rest ∧ ∀ a ∈ before, p a) ∧ ∀ a ∈ rest.head?, ¬ p a := by
  constructor
  · rintro rfl
    refine ⟨⟨as.takeWhile p, List.takeWhile_append_dropWhile.symm, fun a ha =>
      List.mem_takeWhile_imp ha⟩, fun a ha => ?_⟩
    have hhead := List.head?_dropWhile_not p as
    rw [Option.mem_def.mp ha] at hhead
    simpa using hhead
  · rintro ⟨⟨before, rfl, hbefore⟩, hhead⟩
    rw [List.dropWhile_append_of_pos hbefore]
    cases rest with
    | nil => rfl
    | cons a rest => exact List.dropWhile_cons_of_neg (hhead a rfl)

namespace Text

/-- **A text and what it is without the blanks at its ends.** -/
def Trimmed (text body : List Char) : Prop :=
  (∃ before after, text = before ++ body ++ after ∧
    (∀ c ∈ before, isBlank c) ∧ ∀ c ∈ after, isBlank c) ∧
  (∀ c ∈ body.head?, ¬ isBlank c) ∧ ∀ c ∈ body.getLast?, ¬ isBlank c

/-- What is left of a text without the blanks at its ends is told by the text. -/
theorem trim_eq_iff {text body : List Char} : trim text = body ↔ Trimmed text body := by
  unfold trim
  rw [List.reverse_eq_iff, dropWhile_eq_iff, List.head?_reverse]
  constructor
  · rintro ⟨⟨after, hfront, hafter⟩, hlast⟩
    rw [List.reverse_eq_iff, List.reverse_append, List.reverse_reverse, dropWhile_eq_iff] at hfront
    obtain ⟨⟨before, rfl, hbefore⟩, hhead⟩ := hfront
    refine ⟨⟨before, after.reverse, (List.append_assoc ..).symm, hbefore, fun c hc =>
      hafter c (List.mem_reverse.mp hc)⟩, fun c hc => hhead c ?_, hlast⟩
    rw [List.head?_append, Option.mem_def.mp hc]
    rfl
  · rintro ⟨⟨before, after, rfl, hbefore, hafter⟩, hhead, hlast⟩
    have hreverse : ∀ c ∈ after.reverse, isBlank c := fun c hc =>
      hafter c (List.mem_reverse.mp hc)
    cases body with
    | nil =>
      have hblank : (before ++ [] ++ after).dropWhile isBlank = [] := by
        refine List.dropWhile_eq_nil_iff.mpr fun c hc => ?_
        rw [List.append_nil] at hc
        exact (List.mem_append.mp hc).elim (hbefore c) (hafter c)
      rw [hblank]
      exact ⟨⟨[], rfl, nofun⟩, nofun⟩
    | cons c body =>
      have hfront : (before ++ (c :: body) ++ after).dropWhile isBlank = (c :: body) ++ after := by
        rw [dropWhile_eq_iff]
        exact ⟨⟨before, List.append_assoc .., hbefore⟩, hhead⟩
      rw [hfront, List.reverse_append]
      exact ⟨⟨after.reverse, rfl, hreverse⟩, hlast⟩

end Text

/-! ## What values say -/

/-- **A switch** says on or off by a word, and blanks around it do not count. -/
def SaysSwitch (value : String) (on : Bool) : Prop :=
  Text.Trimmed value.toList (if on then "true" else "false").toList

/-- **A number of seconds** is said by a numeral, and blanks around it do not count. -/
def SaysSeconds (value : String) (seconds : Nat) : Prop :=
  ∃ body, Text.Trimmed value.toList body ∧ Text.IsNumeral body seconds

theorem saysSwitch_iff {value : String} {on : Bool} :
    SaysSwitch value on
      ↔ Text.trim value.toList = (if on then "true" else "false").toList :=
  Text.trim_eq_iff.symm

/-- A switch does not say on and off at once. -/
theorem SaysSwitch.unique {value : String} {a b : Bool} (ha : SaysSwitch value a)
    (hb : SaysSwitch value b) : a = b := by
  have h := (saysSwitch_iff.mp ha).symm.trans (saysSwitch_iff.mp hb)
  cases a <;> cases b <;> simp at h ⊢

theorem saysSeconds_iff {value : String} {seconds : Nat} :
    SaysSeconds value seconds ↔ Text.readNumeral (Text.trim value.toList) = .ok seconds := by
  simp only [SaysSeconds, ← Text.trim_eq_iff, exists_eq_left', Text.readNumeral_eq_ok_iff]

/-- **The values that a variable may have**: a namespace anything, a switch what says on or off,
a number of seconds what says how many, and the interval between statistics more than none. Every
variable may be left out. -/
def Variable.Accepts : Variable → Option String → Prop
  | watchNamespace, _ => True
  | watchEndpointSlices, value | logNodeUpdates, value => ∀ text ∈ value, ∃ on, SaysSwitch text on
  | initialSyncTimeout, value => ∀ text ∈ value, ∃ seconds, SaysSeconds text seconds
  | statsInterval, value => ∀ text ∈ value, ∃ seconds, SaysSeconds text seconds ∧ seconds ≠ 0

/-- What a variable sets a switch to. -/
def SetsSwitch (fallback : Bool) (value : Option String) (on : Bool) : Prop :=
  (value = none ∧ on = fallback) ∨ ∃ text, value = some text ∧ SaysSwitch text on

/-- What a variable sets a number of seconds to, if it sets it. -/
def SetsSeconds (value : Option String) (seconds : Option Nat) : Prop :=
  (value = none ∧ seconds = none) ∨
    ∃ text n, value = some text ∧ SaysSeconds text n ∧ seconds = some n

theorem exists_setsSwitch_iff (fallback : Bool) {value : Option String} :
    (∃ on, SetsSwitch fallback value on) ↔ ∀ text ∈ value, ∃ on, SaysSwitch text on := by
  cases value <;> simp [SetsSwitch]

theorem exists_setsSeconds_iff {value : Option String} :
    (∃ seconds, SetsSeconds value seconds) ↔ ∀ text ∈ value, ∃ n, SaysSeconds text n := by
  cases value with
  | none => simp [SetsSeconds]
  | some text =>
    simp only [SetsSeconds, reduceCtorEq, false_and, Option.some.injEq, false_or, Option.mem_def,
      forall_eq']
    exact ⟨fun ⟨_, _, n, rfl, h, _⟩ => ⟨n, h⟩, fun ⟨n, h⟩ => ⟨_, _, n, rfl, h, rfl⟩⟩

/-- An interval that is set is positive, if it is not set to zero. -/
theorem exists_setsInterval_iff {value : Option String} :
    (∃ seconds, SetsSeconds value seconds ∧ 0 < seconds.getD 60)
      ↔ ∀ text ∈ value, ∃ n, SaysSeconds text n ∧ n ≠ 0 := by
  cases value with
  | none => simp [SetsSeconds]
  | some text => simp [SetsSeconds, Nat.pos_iff_ne_zero]

/-- **What variables mean together.** -/
structure Settings.IsMeaningOf (lookup : Lookup) (s : Settings) : Prop where
  /-- The namespace is taken with its blanks, and an empty one is as good as none. -/
  watchedNamespace : ∀ ns, s.watchedNamespace = some ns
    ↔ lookup Variable.watchNamespace.name = some ns ∧ ns ≠ ""
  watchEndpointSlices :
    SetsSwitch true (lookup Variable.watchEndpointSlices.name) s.watchEndpointSlices
  logNodeUpdates : SetsSwitch false (lookup Variable.logNodeUpdates.name) s.logNodeUpdates
  initialSyncTimeout :
    SetsSeconds (lookup Variable.initialSyncTimeout.name) s.initialSyncTimeout
  /-- Statistics come once a minute unless it is said otherwise. -/
  statsInterval : ∃ seconds, SetsSeconds (lookup Variable.statsInterval.name) seconds ∧
    s.statsInterval = seconds.getD 60

/-! ## Reading one variable -/

section Except

variable {ε α β : Type} {x : Except ε α} {f : α → Except ε β}

theorem bind_eq_ok_iff {b : β} : x >>= f = .ok b ↔ ∃ a, x = .ok a ∧ f a = .ok b := by
  cases x with
  | error e => exact ⟨nofun, nofun⟩
  | ok a => simp [bind, Except.bind]

theorem bind_eq_error_iff {e : ε} :
    x >>= f = .error e ↔ x = .error e ∨ ∃ a, x = .ok a ∧ f a = .error e := by
  cases x <;> simp [bind, Except.bind]

/-- A check at the end is the error if it fails. -/
theorem dite_eq_error_iff {P : Prop} [Decidable P] {g : P → β} {e e' : ε} :
    (if h : P then pure (g h) else throw e' : Except ε β) = .error e ↔ ¬ P ∧ e = e' := by
  split
  · next h => simp [h, pure, Except.pure]
  · next h => simp [h, throw, throwThe, MonadExceptOf.throw, eq_comm]

end Except

namespace Settings

variable {lookup : Lookup} {source : Variable}

/-- What a switch comes to if it is set: what it says, or an error if it says nothing. -/
theorem readSwitch_of_some (fallback : Bool) {value : String}
    (hvalue : lookup source.name = some value) :
    (∃ on, SaysSwitch value on ∧ readSwitch lookup source fallback = .ok on) ∨
      (∀ on, ¬ SaysSwitch value on) ∧
        readSwitch lookup source fallback = .error (.notASwitch source value) := by
  unfold readSwitch
  rw [hvalue]
  dsimp only
  split
  · next h => exact Or.inl ⟨true, saysSwitch_iff.mpr h, rfl⟩
  split
  · next h => exact Or.inl ⟨false, saysSwitch_iff.mpr h, rfl⟩
  · next htrue hfalse =>
    refine Or.inr ⟨fun on hon => ?_, rfl⟩
    cases on with
    | true => exact htrue (saysSwitch_iff.mp hon)
    | false => exact hfalse (saysSwitch_iff.mp hon)

theorem readSwitch_eq_ok_iff {fallback on : Bool} :
    readSwitch lookup source fallback = .ok on
      ↔ SetsSwitch fallback (lookup source.name) on := by
  unfold SetsSwitch
  cases hvalue : lookup source.name with
  | none => simp [readSwitch, hvalue, eq_comm]
  | some value =>
    obtain ⟨word, hword, hread⟩ | ⟨hnone, hread⟩ := readSwitch_of_some fallback hvalue
    · have hunique : word = on ↔ SaysSwitch value on :=
        ⟨fun h => h ▸ hword, hword.unique⟩
      simp [hread, hunique]
    · simp [hread, hnone]

theorem readSwitch_eq_error_iff {fallback : Bool} {e : SettingsError} :
    readSwitch lookup source fallback = .error e
      ↔ ∃ value, lookup source.name = some value ∧ (∀ on, ¬ SaysSwitch value on) ∧
        e = .notASwitch source value := by
  cases hvalue : lookup source.name with
  | none => simp [readSwitch, hvalue]
  | some value =>
    obtain ⟨word, hword, hread⟩ | ⟨hnone, hread⟩ := readSwitch_of_some fallback hvalue
    · rw [hread]
      refine ⟨nofun, ?_⟩
      rintro ⟨_, ⟨rfl⟩, hnone, -⟩
      exact absurd hword (hnone word)
    · simp [hread, hnone, eq_comm]

theorem readSeconds_eq_ok_iff {seconds : Option Nat} :
    readSeconds lookup source = .ok seconds ↔ SetsSeconds (lookup source.name) seconds := by
  unfold readSeconds SetsSeconds
  simp only [saysSeconds_iff]
  cases lookup source.name with
  | none => simp [eq_comm]
  | some value =>
    dsimp only
    split
    · next n h => simp [h, eq_comm]
    · next cause h => simp [h]

theorem readSeconds_eq_error_iff {e : SettingsError} :
    readSeconds lookup source = .error e
      ↔ ∃ value cause, lookup source.name = some value ∧
        Text.readNumeral (Text.trim value.toList) = .error cause ∧
        e = .notSeconds source cause := by
  unfold readSeconds
  cases lookup source.name with
  | none => simp
  | some value =>
    dsimp only
    split
    · next n h => simp [h]
    · next cause h => simp [h, eq_comm]

/-! ## Reading all of them -/

/-- **What is read is what the variables mean.** -/
theorem read_eq_ok_iff {s : Settings} : read lookup = .ok s ↔ s.IsMeaningOf lookup := by
  unfold read
  simp only [bind_eq_ok_iff, readSwitch_eq_ok_iff, readSeconds_eq_ok_iff]
  constructor
  · rintro ⟨slices, hslices, nodes, hnodes, timeout, htimeout, interval, hinterval, h⟩
    split at h
    · cases h
      exact {
        watchedNamespace := fun ns => by simp [Option.filter_eq_some_iff]
        watchEndpointSlices := hslices
        logNodeUpdates := hnodes
        initialSyncTimeout := htimeout
        statsInterval := ⟨interval, hinterval, rfl⟩ }
    · cases h
  · rintro ⟨hns, hslices, hnodes, htimeout, interval, hinterval, hstats⟩
    refine ⟨_, hslices, _, hnodes, _, htimeout, interval, hinterval, ?_⟩
    have hns' : (lookup Variable.watchNamespace.name).filter (· ≠ "") = s.watchedNamespace := by
      refine Option.ext fun ns => ?_
      rw [hns]
      simp [Option.filter_eq_some_iff]
    rw [dif_pos (hstats ▸ s.statsInterval_pos)]
    cases s
    simp only [hns', ← hstats]
    rfl

/-- **Variables have a meaning together if each of them has a value that it may have.** -/
theorem exists_isMeaningOf_iff :
    (∃ s : Settings, s.IsMeaningOf lookup)
      ↔ ∀ source : Variable, source.Accepts (lookup source.name) := by
  constructor
  · rintro ⟨s, -, hslices, hnodes, htimeout, interval, hinterval, hstats⟩ source
    cases source with
    | watchNamespace => trivial
    | watchEndpointSlices => exact (exists_setsSwitch_iff true).mp ⟨_, hslices⟩
    | logNodeUpdates => exact (exists_setsSwitch_iff false).mp ⟨_, hnodes⟩
    | initialSyncTimeout => exact exists_setsSeconds_iff.mp ⟨_, htimeout⟩
    | statsInterval =>
      exact exists_setsInterval_iff.mp ⟨interval, hinterval, hstats ▸ s.statsInterval_pos⟩
  · intro h
    obtain ⟨slices, hslices⟩ := (exists_setsSwitch_iff true).mpr (h .watchEndpointSlices)
    obtain ⟨nodes, hnodes⟩ := (exists_setsSwitch_iff false).mpr (h .logNodeUpdates)
    obtain ⟨timeout, htimeout⟩ := exists_setsSeconds_iff.mpr (h .initialSyncTimeout)
    obtain ⟨interval, hinterval, hpos⟩ := exists_setsInterval_iff.mpr (h .statsInterval)
    exact ⟨{
        watchedNamespace := (lookup Variable.watchNamespace.name).filter (· ≠ "")
        watchEndpointSlices := slices, logNodeUpdates := nodes, initialSyncTimeout := timeout
        statsInterval := interval.getD 60, statsInterval_pos := hpos },
      fun ns => by simp [Option.filter_eq_some_iff], hslices, hnodes, htimeout,
      interval, hinterval, rfl⟩

/-- **Reading accepts the variables that have a meaning, and gives it.** It succeeds exactly if
every variable is left out or has a value that it may have, and then the settings are what the
values mean. -/
theorem read_accepts (lookup : Lookup) :
    ((∃ s, read lookup = .ok s) ↔ ∀ source : Variable, source.Accepts (lookup source.name)) ∧
      ∀ s, read lookup = .ok s ↔ s.IsMeaningOf lookup := by
  refine ⟨?_, fun s => read_eq_ok_iff⟩
  rw [← exists_isMeaningOf_iff]
  exact exists_congr fun s => read_eq_ok_iff

end Settings

end PodDirectory

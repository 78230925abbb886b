import PodDirectory.Proofs.SettingsLanguage

/-!
# Which error the settings give

The variables are read one after the other, so the first one that has a value it may not have
decides the error, whatever the others have. `Variable.Refuses` says for one variable and its
value which error this is. The value alone decides it: a value is accepted if it is refused with
no error (`Variable.accepts_iff_not_refuses`), and it is refused with one at most
(`Variable.Refuses.unique`).

That an interval is zero is found when everything has been read, but since its variable is the last
one, it is refused in its turn like any other value. So one rule tells all errors
(`Settings.errorContract`), and it says how they are worded.
-/

namespace PodDirectory

/-! ## One variable -/

namespace Variable

/-- **The error that a value of a variable is refused with.** -/
inductive Refuses : Variable → String → SettingsError → Prop where
  | switch {source : Variable} {value : String}
    (hsource : source = watchEndpointSlices ∨ source = logNodeUpdates)
    (h : ∀ on, ¬ SaysSwitch value on) : Refuses source value (.notASwitch source value)
  /-- The reason is found in the value without the blanks at its ends. -/
  | seconds {source : Variable} {value : String} {body : List Char} {cause : Text.NumeralError}
    (hsource : source = initialSyncTimeout ∨ source = statsInterval)
    (hbody : Text.Trimmed value.toList body) (h : Text.Blames body cause) :
    Refuses source value (.notSeconds source cause)
  | zero {value : String} (h : SaysSeconds value 0) :
    Refuses statsInterval value .zeroStatsInterval

variable {source : Variable} {value : String} {e : SettingsError}

theorem refuses_switch_iff (hsource : source = watchEndpointSlices ∨ source = logNodeUpdates) :
    source.Refuses value e
      ↔ (∀ on, ¬ SaysSwitch value on) ∧ e = .notASwitch source value := by
  constructor
  · rintro (⟨-, h⟩ | ⟨hseconds, -, -⟩ | -)
    · exact ⟨h, rfl⟩
    · rcases hsource with rfl | rfl <;> simp at hseconds
    · simp at hsource
  · rintro ⟨h, rfl⟩
    exact .switch hsource h

/-- The reason why a value says no number of seconds is the one that reading gives. -/
theorem refuses_seconds_iff (hsource : source = initialSyncTimeout ∨ source = statsInterval) :
    source.Refuses value e
      ↔ (∃ cause, Text.readNumeral (Text.trim value.toList) = .error cause ∧
          e = .notSeconds source cause) ∨
        source = statsInterval ∧ SaysSeconds value 0 ∧ e = .zeroStatsInterval := by
  constructor
  · rintro (⟨hswitch, -⟩ | ⟨-, hbody, h⟩ | h)
    · rcases hsource with rfl | rfl <;> simp at hswitch
    · rw [← Text.trim_eq_iff] at hbody
      subst hbody
      exact Or.inl ⟨_, Text.readNumeral_eq_error_iff.mpr h, rfl⟩
    · exact Or.inr ⟨rfl, h, rfl⟩
  · rintro (⟨cause, h, rfl⟩ | ⟨rfl, h, rfl⟩)
    · exact .seconds hsource (Text.trim_eq_iff.mp rfl) (Text.readNumeral_eq_error_iff.mp h)
    · exact .zero h

/-- **A value is refused with one error at most.** -/
theorem Refuses.unique {e' : SettingsError} (h : source.Refuses value e)
    (h' : source.Refuses value e') : e = e' := by
  by_cases hsource : source = watchEndpointSlices ∨ source = logNodeUpdates
  · rw [refuses_switch_iff hsource] at h h'
    exact h.2.trans h'.2.symm
  · have hseconds : source = initialSyncTimeout ∨ source = statsInterval := by
      cases h with
      | switch hswitch => exact absurd hswitch hsource
      | seconds hseconds => exact hseconds
      | zero => exact Or.inr rfl
    rw [refuses_seconds_iff hseconds, saysSeconds_iff] at h h'
    -- what is no numeral is not zero either
    rcases h with ⟨cause, hread, rfl⟩ | ⟨-, hread, rfl⟩ <;>
    rcases h' with ⟨cause', hread', rfl⟩ | ⟨-, hread', rfl⟩ <;>
    simp_all

/-- **A value is accepted if it is refused with no error.** -/
theorem accepts_iff_not_refuses {value : Option String} :
    source.Accepts value ↔ ∀ text ∈ value, ∀ e, ¬ source.Refuses text e := by
  have hswitch : (source = watchEndpointSlices ∨ source = logNodeUpdates) →
      ∀ text, (∃ on, SaysSwitch text on) ↔ ∀ e, ¬ source.Refuses text e := by
    intro hsource text
    constructor
    · rintro ⟨on, hon⟩ e h
      exact ((refuses_switch_iff hsource).mp h).1 on hon
    · intro h
      by_contra hnone
      exact h _ (.switch hsource fun on hon => hnone ⟨on, hon⟩)
  cases source with
  | watchNamespace =>
    refine ⟨fun _ text _ e h => ?_, fun _ => trivial⟩
    rcases h with ⟨h, -⟩ | ⟨h, -, -⟩ <;> simp at h
  | watchEndpointSlices => exact forall₂_congr fun text _ => hswitch (Or.inl rfl) text
  | logNodeUpdates => exact forall₂_congr fun text _ => hswitch (Or.inr rfl) text
  | initialSyncTimeout =>
    refine forall₂_congr fun text _ => ?_
    simp only [refuses_seconds_iff (Or.inl rfl), saysSeconds_iff]
    cases Text.readNumeral (Text.trim text.toList) <;> simp
  | statsInterval =>
    refine forall₂_congr fun text _ => ?_
    simp only [refuses_seconds_iff (Or.inr rfl), saysSeconds_iff]
    cases Text.readNumeral (Text.trim text.toList) <;> simp

end Variable

/-! ## The first one -/

namespace Settings

variable {lookup : Lookup}

/-- **The first of some variables that has a value it may not have** decides the error. -/
def FirstRefused (lookup : Lookup) (order : List Variable) (e : SettingsError) : Prop :=
  ∃ earlier source later value, order = earlier ++ source :: later ∧
    (∀ before ∈ earlier, before.Accepts (lookup before.name)) ∧
    lookup source.name = some value ∧ source.Refuses value e

theorem not_firstRefused_nil {e : SettingsError} : ¬ FirstRefused lookup [] e := by
  rintro ⟨earlier, source, later, value, h, -⟩
  simp at h

theorem firstRefused_cons {source : Variable} {order : List Variable} {e : SettingsError} :
    FirstRefused lookup (source :: order) e
      ↔ (∃ value, lookup source.name = some value ∧ source.Refuses value e) ∨
        source.Accepts (lookup source.name) ∧ FirstRefused lookup order e := by
  constructor
  · rintro ⟨earlier, source', later, value, h, hearlier, hvalue, hrefuses⟩
    cases earlier with
    | nil =>
      cases h
      exact Or.inl ⟨value, hvalue, hrefuses⟩
    | cons first earlier =>
      cases h
      exact Or.inr ⟨hearlier _ List.mem_cons_self, earlier, source', later, value, rfl,
        fun before hmem => hearlier before (List.mem_cons_of_mem _ hmem), hvalue, hrefuses⟩
  · rintro (⟨value, hvalue, hrefuses⟩ | ⟨haccepts, earlier, source', later, value, rfl, hearlier,
      hvalue, hrefuses⟩)
    · exact ⟨[], source, order, value, rfl, nofun, hvalue, hrefuses⟩
    · refine ⟨source :: earlier, source', later, value, rfl, fun before hmem => ?_, hvalue,
        hrefuses⟩
      rcases List.mem_cons.mp hmem with rfl | hmem
      · exact haccepts
      · exact hearlier before hmem

/-- The variables that can be wrong, in the order in which they are read. -/
def readingOrder : List Variable :=
  [.watchEndpointSlices, .logNodeUpdates, .initialSyncTimeout, .statsInterval]

/-- A switch is an error if its value is refused. -/
theorem readSwitch_eq_error_iff_refuses {source : Variable} {fallback : Bool} {e : SettingsError}
    (hsource : source = .watchEndpointSlices ∨ source = .logNodeUpdates) :
    readSwitch lookup source fallback = .error e
      ↔ ∃ value, lookup source.name = some value ∧ source.Refuses value e := by
  simp only [readSwitch_eq_error_iff, Variable.refuses_switch_iff hsource]

/-- A timeout is an error if its value is refused. -/
theorem readTimeout_eq_error_iff_refuses {e : SettingsError} :
    readSeconds lookup .initialSyncTimeout = .error e
      ↔ ∃ value, lookup Variable.initialSyncTimeout.name = some value ∧
        Variable.initialSyncTimeout.Refuses value e := by
  simp [readSeconds_eq_error_iff, Variable.refuses_seconds_iff]

/-- An interval is an error if its value is refused, be it that it cannot be read or that it is
zero. -/
theorem readInterval_eq_error_iff_refuses {e : SettingsError} :
    (readSeconds lookup .statsInterval = .error e ∨
      ∃ seconds, readSeconds lookup .statsInterval = .ok seconds ∧
        ¬ 0 < seconds.getD 60 ∧ e = .zeroStatsInterval)
      ↔ ∃ value, lookup Variable.statsInterval.name = some value ∧
        Variable.statsInterval.Refuses value e := by
  simp only [readSeconds_eq_error_iff, readSeconds_eq_ok_iff,
    Variable.refuses_seconds_iff (Or.inr rfl)]
  cases lookup Variable.statsInterval.name <;> simp [SetsSeconds]

/-- **The first value that a variable may not have decides the error.** -/
theorem read_eq_error_iff {e : SettingsError} :
    read lookup = .error e ↔ FirstRefused lookup readingOrder e := by
  unfold readingOrder
  simp only [firstRefused_cons, not_firstRefused_nil, and_false, or_false]
  unfold read
  simp only [bind_eq_error_iff, dite_eq_error_iff]
  -- what is read first has no say in what comes of the rest, once it could be read
  simp only [exists_and_right, readInterval_eq_error_iff_refuses,
    readTimeout_eq_error_iff_refuses, readSwitch_eq_error_iff_refuses (Or.inl rfl),
    readSwitch_eq_error_iff_refuses (Or.inr rfl)]
  simp only [readSwitch_eq_ok_iff, exists_setsSwitch_iff, readSeconds_eq_ok_iff,
    exists_setsSeconds_iff]
  rfl

/-- **There is an error if some variable has a value that it may not have.** -/
theorem exists_read_eq_error_iff :
    (∃ e, read lookup = .error e) ↔ ∃ source : Variable, ¬ source.Accepts (lookup source.name) := by
  have hok : (∃ s, read lookup = .ok s)
      ↔ ∀ source : Variable, source.Accepts (lookup source.name) := by
    rw [← exists_isMeaningOf_iff]
    exact exists_congr fun s => read_eq_ok_iff
  rw [← not_forall, ← hok]
  cases read lookup <;> simp

/-- **An interval of zero is what is wrong if nothing else is**, however the zero is written. -/
theorem read_eq_zeroStatsInterval_iff :
    read lookup = .error .zeroStatsInterval
      ↔ (∀ source : Variable, source ≠ .statsInterval → source.Accepts (lookup source.name)) ∧
        ∃ value, lookup Variable.statsInterval.name = some value ∧ SaysSeconds value 0 := by
  rw [read_eq_error_iff]
  unfold readingOrder
  simp only [firstRefused_cons, not_firstRefused_nil, Variable.refuses_switch_iff (Or.inl rfl),
    Variable.refuses_switch_iff (Or.inr rfl), Variable.refuses_seconds_iff (Or.inl rfl),
    Variable.refuses_seconds_iff (Or.inr rfl)]
  -- no other value is refused for being zero
  simp only [reduceCtorEq, false_and, and_false, exists_false, false_or, or_false, true_and,
    and_true]
  constructor
  · rintro ⟨hslices, hnodes, htimeout, hzero⟩
    refine ⟨fun source hne => ?_, hzero⟩
    cases source with
    | watchNamespace => trivial
    | watchEndpointSlices => exact hslices
    | logNodeUpdates => exact hnodes
    | initialSyncTimeout => exact htimeout
    | statsInterval => exact absurd rfl hne
  · rintro ⟨haccepts, hzero⟩
    exact ⟨haccepts _ nofun, haccepts _ nofun, haccepts _ nofun, hzero⟩

/-- **What is promised of errors.** -/
structure ErrorContract (lookup : Lookup) : Prop where
  /-- There is an error if some variable has a value that it may not have. -/
  exists_iff : (∃ e, read lookup = .error e)
    ↔ ∃ source : Variable, ¬ source.Accepts (lookup source.name)
  /-- The values that a variable may have are those that are refused with no error. -/
  accepts_iff {source : Variable} {value : Option String} :
    source.Accepts value ↔ ∀ text ∈ value, ∀ e, ¬ source.Refuses text e
  /-- The first such variable decides it, and whatever the others have makes no difference. -/
  first_iff (e : SettingsError) : read lookup = .error e ↔ FirstRefused lookup readingOrder e
  /-- Of the variable nothing matters but its value. -/
  unique {source : Variable} {value : String} {e e' : SettingsError}
    (h : source.Refuses value e) (h' : source.Refuses value e') : e = e'
  /-- A value that says no number of seconds is refused for the reason that there is, apart from
  blanks at its ends. -/
  reason_iff {source : Variable} {value : String} {body : List Char}
    (hsource : source = .initialSyncTimeout ∨ source = .statsInterval)
    (hbody : Text.Trimmed value.toList body) (cause : Text.NumeralError) :
    source.Refuses value (.notSeconds source cause) ↔ Text.Blames body cause
  /-- An interval of zero is what is wrong if nothing else is, however the zero is written. -/
  zero_iff : read lookup = .error .zeroStatsInterval
    ↔ (∀ source : Variable, source ≠ .statsInterval → source.Accepts (lookup source.name)) ∧
      ∃ value, lookup Variable.statsInterval.name = some value ∧ SaysSeconds value 0
  /-- How errors are worded. -/
  wording (e : SettingsError) : e.fault = .invalidSettings
    (match e with
    | .notASwitch source value =>
      source.name ++ " must be \"true\" or \"false\", got " ++ Text.quote value
    | .notSeconds source .empty =>
      source.name ++ " is not a number of seconds: " ++ "cannot parse integer from empty string"
    | .notSeconds source .tooLarge =>
      source.name ++ " is not a number of seconds: " ++ "number too large to fit in target type"
    | .notSeconds source .invalidDigit =>
      source.name ++ " is not a number of seconds: " ++ "invalid digit found in string"
    | .zeroStatsInterval => "STATS_INTERVAL_SECS must be greater than zero")
  /-- The wording tells which value is no switch, to the last blank. -/
  value_told {source : Variable} {value value' : String}
    (h : (SettingsError.notASwitch source value).message
      = (SettingsError.notASwitch source value').message) : value = value'

/-- **The settings keep what is promised of errors**, wherever variables are looked up. -/
theorem errorContract (lookup : Lookup) : ErrorContract lookup where
  exists_iff := exists_read_eq_error_iff
  accepts_iff := Variable.accepts_iff_not_refuses
  first_iff _ := read_eq_error_iff
  unique h h' := h.unique h'
  reason_iff hsource hbody cause := by
    rw [← Text.trim_eq_iff] at hbody
    rw [Variable.refuses_seconds_iff hsource, hbody, ← Text.readNumeral_eq_error_iff]
    simp
  zero_iff := read_eq_zeroStatsInterval_iff
  wording e := by
    cases e with
    | notASwitch source value => rfl
    | notSeconds source cause => cases cause <;> rfl
    | zeroStatsInterval => rfl
  value_told h := Text.quote_inj.mp (String.append_right_inj _ |>.mp h)

end Settings

end PodDirectory

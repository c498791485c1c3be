import Heartbeat.Proofs.ArgumentMeaning
import Heartbeat.Proofs.NumberText

/-!
# Configurations written as arguments

A configuration can be written out as arguments, and these are read as the same configuration, in
whatever order the flags are given (`parse_written`). The only values that are not read back are
counts too long for a numeral; the scan takes any value as it stands, whatever it looks like, and a
number is read from its text as it is shown.
-/

namespace Heartbeat

/-- A configuration is what its own settings are checked to be. -/
theorem Config.checks_settings (config : Config) : config.settings.Checks (.ok config) := by
  have hport : ¬ 65535 < (config.port : Int) := by
    have := config.port_le
    omega
  have hnat : ∀ n : Nat, ¬ (n : Int) < 0 := fun n => by omega
  refine ⟨?_, rfl⟩
  simp only [Settings.rangeErrors, settings, hport, hnat, config.interval_not_negative,
    config.retryBackoff_not_negative, or_self, if_false, List.append_nil]

namespace Client

/-- The value of a flag as it is written for a configuration. -/
def valueText (config : Config) : Flag → String
  | .server => config.server
  | .port => toString config.port
  | .count => toString config.count
  | .interval => config.interval.shortest
  | .retries => toString config.retries
  | .retryBackoff => config.retryBackoff.shortest

/-- A configuration as arguments, with the flags in the given order. -/
def written (config : Config) (order : List Flag) : List String :=
  order.flatMap fun flag => [flag.text, valueText config flag]

/-- The assignments that these arguments are. -/
def assignments (config : Config) (order : List Flag) : List Assignment :=
  order.map fun flag => ⟨flag, valueText config flag⟩

theorem scan_written (config : Config) (order : List Flag) :
    scan (written config order) = .ok (assignments config order) := by
  induction order with
  | nil => rfl
  | cons flag rest ih =>
      show scan (flag.text :: valueText config flag :: written config rest) = _
      rw [scan_pair, ih]
      rfl

theorem exists_standsAt_assignments (config : Config) {order : List Flag} {flag : Flag}
    (h : flag ∈ order) :
    ∃ position, StandsAt (assignments config order) position ⟨flag, valueText config flag⟩ :=
  List.mem_iff_getElem?.mp (List.mem_map.mpr ⟨flag, h, rfl⟩)

theorem StandsAt.value_eq {config : Config} {order : List Flag} {position : Nat}
    {assignment : Assignment} (h : StandsAt (assignments config order) position assignment) :
    assignment.value = valueText config assignment.flag := by
  obtain ⟨flag, -, rfl⟩ := List.mem_map.mp (List.mem_of_getElem? h)
  rfl

/-! ## Reading the values -/

/-- Is the value of this flag not too long to be read? Only a count can be. -/
def Legible (config : Config) : Flag → Prop
  | .count => (valueText config .count).length ≤ Text.longestNumeral
  | .retries => (valueText config .retries).length ≤ Text.longestNumeral
  | _ => True

theorem length_toString_port (config : Config) :
    (toString config.port).length ≤ Text.longestNumeral := by
  have hlt : config.port < 10 ^ 5 := Nat.lt_of_le_of_lt config.port_le (by decide)
  exact Nat.le_trans ((Nat.length_repr_le_iff (by decide)).mpr hlt) (by decide)

theorem int?_of_length {n : Nat} (h : (toString n).length ≤ Text.longestNumeral) :
    Text.int? (toString n) = some (n : Int) := by
  rw [Text.int?_natToString, if_pos h]

theorem length_of_int? {n : Nat} (h : (Text.int? (toString n)).isSome) :
    (toString n).length ≤ Text.longestNumeral := by
  rw [Text.int?_natToString] at h
  split at h
  · assumption
  · cases h

theorem Legible.read {config : Config} {flag : Flag} (h : Legible config flag) :
    flag.read (valueText config flag) = some (setting config.settings flag) := by
  cases flag with
  | server => rfl
  | port => exact int?_of_length (length_toString_port config)
  | count | retries => exact int?_of_length h
  | interval | retryBackoff => exact Binary64.binary64?_shortest _

theorem legible_of_readable {config : Config} {flag : Flag}
    (h : Assignment.Readable ⟨flag, valueText config flag⟩) : Legible config flag := by
  cases flag with
  | count | retries => exact length_of_int? h
  | _ => trivial

/-! ## The configuration -/

/-- A flag that is given with its own setting has it. -/
theorem Given.eq_setting {config : Config} {order : List Flag} {flag : Flag}
    {before after : flag.Value} (hmem : flag ∈ order) (hlegible : Legible config flag)
    (h : Given (StandsAt (assignments config order)) flag before after) :
    after = setting config.settings flag := by
  rcases h with ⟨position, value, hat, hread, -⟩ | ⟨hnone, -⟩
  · obtain rfl : value = valueText config flag := hat.value_eq
    exact Option.some.inj (hread.symm.trans hlegible.read)
  · obtain ⟨position, hat⟩ := exists_standsAt_assignments config hmem
    exact absurd rfl (hnone position _ hat)

/-- Reading fails, because of a count that is too long, or it gives the settings back. -/
theorem foldlM_assignments_cases (config : Config) {order : List Flag}
    (hall : ∀ flag, flag ∈ order) :
    (∃ flag error, (assignments config order).foldlM assign {} = .error error ∧
      ¬ Legible config flag) ∨
    (assignments config order).foldlM assign {} = .ok config.settings ∧
      ∀ flag, Legible config flag := by
  rcases foldlM_assign_cases (assignments config order) {} with
    ⟨position, assignment, hread, hat, hbad, -⟩ | ⟨settings, hread, hreadable, hgiven⟩
  · refine .inl ⟨assignment.flag, _, hread, fun hlegible => hbad ?_⟩
    rw [Assignment.Readable, hat.value_eq, hlegible.read]
    rfl
  · have hlegible : ∀ flag, Legible config flag := by
      intro flag
      obtain ⟨position, hat⟩ := exists_standsAt_assignments config (hall flag)
      exact legible_of_readable (hreadable position _ hat)
    obtain rfl : settings = config.settings :=
      settings_ext fun flag => (hgiven flag).eq_setting (hall flag) (hlegible flag)
    exact .inr ⟨hread, hlegible⟩

/-- A configuration that is written as arguments is read back from them, in whatever order all the
flags are given, unless one of its counts is too long for a numeral. -/
theorem parse_written (config : Config) {order : List Flag} (hall : ∀ flag, flag ∈ order) :
    parse (written config order) = .ok config ↔
      (valueText config .count).length ≤ Text.longestNumeral ∧
        (valueText config .retries).length ≤ Text.longestNumeral := by
  have hsome : written config order ≠ [] := by
    obtain ⟨flag, rest, rfl⟩ := List.exists_cons_of_ne_nil (List.ne_nil_of_mem (hall .server))
    exact List.cons_ne_nil _ _
  rw [parse_eq_parsePairs, parsePairs, if_neg hsome, scan_written]
  show ((assignments config order).foldlM assign {} >>= _) = _ ↔ _
  rcases foldlM_assignments_cases config hall with ⟨flag, error, hread, hlong⟩ | ⟨hread, hlegible⟩
  · rw [hread]
    refine iff_of_false (fun herror => by cases herror) fun hshort => hlong ?_
    cases flag with
    | count => exact hshort.1
    | retries => exact hshort.2
    | _ => trivial
  · have hcheck : config.settings.check = .ok config :=
      (Settings.checks_check _).unique config.checks_settings
    rw [hread]
    refine iff_of_true ?_ ⟨hlegible .count, hlegible .retries⟩
    show config.settings.check.mapError _ = _
    rw [hcheck]
    rfl

/-- A configuration with a server that looks like a flag and its value, an interval that is not a
number, and a negative zero. -/
def dashedConfig : Config where
  server := "-s="
  port := 0
  port_le := by decide
  count := 10
  interval := .nan
  interval_not_negative := Bool.false_ne_true
  retries := 0
  retryBackoff := .zero true
  retryBackoff_not_negative := by decide +kernel

/-- Written with its flags in reverse. -/
theorem parse_written_reversed :
    (∀ flag, flag ∈ Flag.all.reverse) ∧
      parse (written dashedConfig Flag.all.reverse) = .ok dashedConfig := by
  have hall : ∀ flag, flag ∈ Flag.all.reverse := by
    intro flag
    cases flag <;> decide
  exact ⟨hall, (parse_written dashedConfig hall).mpr ⟨by decide, by decide⟩⟩

end Client

end Heartbeat

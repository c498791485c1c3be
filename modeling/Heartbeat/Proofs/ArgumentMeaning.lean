import Heartbeat.Client.Arguments

/-!
# What the arguments mean

`Means` says what a list of arguments comes to, by its positions. The first even position that holds
no flag, or a flag with nothing after it, is to blame for an error whatever stands elsewhere. If
there is none, the arguments are pairs, and the first pair whose value cannot be read is to blame,
even if the flag is given again later. Otherwise every setting is that of the last pair of its flag,
or its default, and only these settings are checked for their ranges. The arguments are read in
exactly this way (`parse_iff_means`).

Between the scan and the reading of the values a pair is a single token, and nothing is lost in it
(`parse_eq_parsePairs`).
-/

namespace Heartbeat

/-! ## Ranges -/

namespace Settings

/-- The settings that lie out of range, in the order in which they are checked. -/
def rangeErrors (settings : Settings) : List RangeError :=
  (if settings.port < 0 ∨ 65535 < settings.port then [.port settings.port] else []) ++
    (if settings.count < 0 then [.count settings.count] else []) ++
    (if settings.interval < 0 then [.interval settings.interval] else []) ++
    (if settings.retries < 0 then [.retries settings.retries] else []) ++
    (if settings.retryBackoff < 0 then [.retryBackoff settings.retryBackoff] else [])

/-- What a check comes to: the first setting out of range, or a configuration of all of them. -/
def Checks (settings : Settings) : Except RangeError Config → Prop
  | .error error => settings.rangeErrors.head? = some error
  | .ok config => settings.rangeErrors = [] ∧ config.settings = settings

theorem checks_check (settings : Settings) : settings.Checks settings.check := by
  rw [check]
  by_cases hport : 0 ≤ settings.port ∧ settings.port ≤ 65535
  case neg =>
    have hout : settings.port < 0 ∨ 65535 < settings.port := by omega
    simp [hport, Checks, rangeErrors, hout]
  have hin : ¬ (settings.port < 0 ∨ 65535 < settings.port) := by omega
  rw [dif_pos hport]
  by_cases hcount : settings.count < 0
  case pos => simp [hcount, Checks, rangeErrors, hin]
  rw [if_neg hcount]
  by_cases hinterval : settings.interval < 0
  case pos => simp [hinterval, Checks, rangeErrors, hin, hcount]
  rw [dif_neg hinterval]
  by_cases hretries : settings.retries < 0
  case pos => simp [hretries, Checks, rangeErrors, hin, hcount, hinterval]
  rw [if_neg hretries]
  by_cases hbackoff : settings.retryBackoff < 0
  case pos => simp [hbackoff, Checks, rangeErrors, hin, hcount, hinterval, hretries]
  rw [dif_neg hbackoff]
  refine ⟨by simp [rangeErrors, hin, hcount, hinterval, hretries, hbackoff], ?_⟩
  show Settings.mk _ _ _ _ _ _ = settings
  rw [Int.toNat_of_nonneg hport.1, Int.toNat_of_nonneg (Int.not_lt.mp hcount),
    Int.toNat_of_nonneg (Int.not_lt.mp hretries)]

end Settings

theorem Config.eq_of_settings_eq {config other : Config}
    (h : config.settings = other.settings) : config = other := by
  cases config
  cases other
  simp only [settings, Settings.mk.injEq, Int.natCast_inj] at h
  obtain ⟨rfl, rfl, rfl, rfl, rfl, rfl⟩ := h
  rfl

theorem Settings.Checks.unique {settings : Settings} {result other : Except RangeError Config}
    (h : settings.Checks result) (h' : settings.Checks other) : result = other := by
  cases result with
  | error error =>
      cases other with
      | error error' => cases h.symm.trans h'; rfl
      | ok config =>
          rw [Checks, h'.1] at h
          cases h
  | ok config =>
      cases other with
      | error error =>
          rw [Checks, h.1] at h'
          cases h'
      | ok config' => rw [Config.eq_of_settings_eq (h.2.trans h'.2.symm)]

namespace Client

/-! ## Flags -/

namespace Flag

theorem ofText?_text (flag : Flag) : ofText? flag.text = some flag := by
  cases flag <;> rfl

theorem text_inj {flag other : Flag} (h : flag.text = other.text) : flag = other :=
  Option.some.inj ((ofText?_text flag).symm.trans (h ▸ ofText?_text other))

theorem text_of_ofText? {token : String} {flag : Flag} (h : ofText? token = some flag) :
    flag.text = token := by
  simpa using List.find?_some h

theorem text_ne_of_ofText? {token : String} (h : ofText? token = none) (flag : Flag) :
    flag.text ≠ token := by
  rintro rfl
  rw [ofText?_text] at h
  cases h

/-- What kind of value a flag takes. -/
def Value : Flag → Type
  | server => String
  | port | count | retries => Int
  | interval | retryBackoff => Binary64

/-- How the value of a flag is read. -/
def read : (flag : Flag) → String → Option flag.Value
  | server => some
  | port | count | retries => Text.int?
  | interval | retryBackoff => Text.binary64?

end Flag

/-- The setting of a flag. -/
def setting (settings : Settings) : (flag : Flag) → flag.Value
  | .server => settings.server
  | .port => settings.port
  | .count => settings.count
  | .interval => settings.interval
  | .retries => settings.retries
  | .retryBackoff => settings.retryBackoff

theorem settings_ext {settings other : Settings}
    (h : ∀ flag, setting settings flag = setting other flag) : settings = other := by
  cases settings
  cases other
  cases h .server
  cases h .port
  cases h .count
  cases h .interval
  cases h .retries
  cases h .retryBackoff
  rfl

namespace Assignment

/-- Can the value be read as its flag takes it? -/
def Readable (assignment : Assignment) : Prop :=
  (assignment.flag.read assignment.value).isSome

/-- What is said of a value that cannot be read. -/
def complaint (assignment : Assignment) : ArgumentError :=
  match assignment.flag with
  | .interval | .retryBackoff => .notANumber assignment.flag assignment.value
  | _ => .notAnInteger assignment.flag assignment.value

end Assignment

/-- The settings with that of a flag replaced. -/
def replace (settings : Settings) : (flag : Flag) → flag.Value → Settings
  | .server, value => { settings with server := value }
  | .port, value => { settings with port := value }
  | .count, value => { settings with count := value }
  | .interval, value => { settings with interval := value }
  | .retries, value => { settings with retries := value }
  | .retryBackoff, value => { settings with retryBackoff := value }

theorem setting_replace (settings : Settings) (flag : Flag) (value : flag.Value) :
    setting (replace settings flag value) flag = value := by
  cases flag <;> rfl

theorem setting_replace_of_ne (settings : Settings) {flag other : Flag} (value : flag.Value)
    (hne : other ≠ flag) :
    setting (replace settings flag value) other = setting settings other := by
  cases flag <;> cases other <;> first | rfl | exact absurd rfl hne

theorem assign_of_read {flag : Flag} {value : String} {number : flag.Value}
    (h : flag.read value = some number) (settings : Settings) :
    assign settings ⟨flag, value⟩ = .ok (replace settings flag number) := by
  cases flag with
  | server => cases h; rfl
  | port | count | retries =>
      change Text.int? value = some number at h
      show (readInt _ value).map _ = _
      rw [readInt, h]
      rfl
  | interval | retryBackoff =>
      change Text.binary64? value = some number at h
      show (readNumber _ value).map _ = _
      rw [readNumber, h]
      rfl

theorem assign_of_not_readable {assignment : Assignment} (h : ¬ assignment.Readable)
    (settings : Settings) : assign settings assignment = .error assignment.complaint := by
  obtain ⟨flag, value⟩ := assignment
  have hnone : flag.read value = none := Option.not_isSome_iff_eq_none.mp h
  cases flag with
  | server => cases hnone
  | port | count | retries =>
      change Text.int? value = none at hnone
      show (readInt _ value).map _ = _
      rw [readInt, hnone]
      rfl
  | interval | retryBackoff =>
      change Text.binary64? value = none at hnone
      show (readNumber _ value).map _ = _
      rw [readNumber, hnone]
      rfl

/-! ## Pairs as tokens -/

theorem Flag.ne_equals_of_mem_text {flag : Flag} {char : Char} (h : char ∈ flag.text.toList) :
    char ≠ '=' := by
  rintro rfl
  cases flag <;> revert h <;> decide

/-- The first equals sign of a token stands between the flag and the value. -/
theorem Assignment.split_token (assignment : Assignment) :
    assignment.token.toList.takeWhile (· ≠ '=') = assignment.flag.text.toList ∧
      assignment.token.toList.dropWhile (· ≠ '=') = '=' :: assignment.value.toList := by
  have htoken : assignment.token.toList =
      assignment.flag.text.toList ++ '=' :: assignment.value.toList := by
    rw [token, String.toList_append, String.toList_append, List.append_assoc]
    rfl
  have hflag : ∀ char ∈ assignment.flag.text.toList, decide (char ≠ '=') = true :=
    fun char h => decide_eq_true (Flag.ne_equals_of_mem_text h)
  rw [htoken, List.takeWhile_append_of_pos hflag, List.dropWhile_append_of_pos hflag]
  simp

/-- A value keeps its form in a token, whatever characters it is made of. -/
theorem Assignment.ofToken?_token (assignment : Assignment) :
    ofToken? assignment.token = some assignment := by
  obtain ⟨hflag, hvalue⟩ := assignment.split_token
  rw [ofToken?, hflag, hvalue]
  simp [Flag.ofText?_text]

/-- Nothing is lost by passing assignments on as tokens. -/
theorem mapM_readToken_map_token (assignments : List Assignment) :
    (assignments.map Assignment.token).mapM readToken = .ok assignments := by
  induction assignments with
  | nil => rfl
  | cons assignment rest ih =>
      rw [List.map_cons, List.mapM_cons, readToken, Assignment.ofToken?_token, ih]
      rfl

/-- The configuration that the pairs of the arguments describe, without a token for each of them in
between. -/
def parsePairs (arguments : List String) : Except ArgumentError Config :=
  if arguments = [] then .error .missing
  else do
    let settings ← (← scan arguments).foldlM assign {}
    settings.check.mapError .outOfRange

theorem parse_eq_parsePairs (arguments : List String) : parse arguments = parsePairs arguments := by
  rw [parse, parsePairs, scanTokens]
  cases scan arguments with
  | error error => rfl
  | ok assignments =>
      show (if _ then _ else
        (assignments.map Assignment.token).mapM readToken >>= fun assignments =>
          assignments.foldlM assign {} >>= _) = _
      rw [mapM_readToken_map_token]

/-! ## Positions -/

/-- What is wrong at a position of the arguments: where a flag should stand there is none, or
nothing comes after it. -/
def Blames (arguments : List String) (position : Nat) : ArgumentError → Prop
  | .unknownToken token =>
    position % 2 = 0 ∧ arguments[position]? = some token ∧ ∀ flag : Flag, flag.text ≠ token
  | .missingValue flag =>
    position % 2 = 0 ∧ arguments[position]? = some flag.text ∧ arguments[position + 1]? = none
  | _ => False

/-- The assignment that stands at a position, in pairs. -/
def Assigns (arguments : List String) (position : Nat) (assignment : Assignment) : Prop :=
  arguments[2 * position]? = some assignment.flag.text ∧
    arguments[2 * position + 1]? = some assignment.value

/-- The same for assignments in a list. -/
def StandsAt (assignments : List Assignment) (position : Nat) (assignment : Assignment) : Prop :=
  assignments[position]? = some assignment

/-- The setting of a flag is what its last assignment says, or as before if there is none. -/
def Given (assigns : Nat → Assignment → Prop) (flag : Flag) (before after : flag.Value) : Prop :=
  (∃ position value, assigns position ⟨flag, value⟩ ∧ flag.read value = some after ∧
    ∀ later > position, ∀ assignment, assigns later assignment → assignment.flag ≠ flag) ∨
  (∀ position assignment, assigns position assignment → assignment.flag ≠ flag) ∧ after = before

/-- What a list of arguments comes to. -/
inductive Means (arguments : List String) : Except ArgumentError Config → Prop
  | missing (h : arguments = []) : Means arguments (.error .missing)
  | misplaced {position : Nat} {error : ArgumentError} (h : Blames arguments position error)
      (hfirst : ∀ earlier < position, ∀ other, ¬ Blames arguments earlier other) :
      Means arguments (.error error)
  | unreadable {position : Nat} {assignment : Assignment}
      (hplaced : ∀ position error, ¬ Blames arguments position error)
      (h : Assigns arguments position assignment) (hunreadable : ¬ assignment.Readable)
      (hfirst : ∀ earlier < position, ∀ other, Assigns arguments earlier other → other.Readable) :
      Means arguments (.error assignment.complaint)
  | described {settings : Settings} {result : Except RangeError Config} (hsome : arguments ≠ [])
      (hplaced : ∀ position error, ¬ Blames arguments position error)
      (hreadable : ∀ position assignment, Assigns arguments position assignment →
        assignment.Readable)
      (hgiven : ∀ flag, Given (Assigns arguments) flag (setting {} flag) (setting settings flag))
      (hchecks : settings.Checks result) :
      Means arguments (result.mapError .outOfRange)

/-! ## Scanning -/

theorem not_blames_nil (position : Nat) (error : ArgumentError) : ¬ Blames [] position error := by
  cases error <;> simp [Blames]

theorem blames_succ_succ {token value : String} {rest : List String} {position : Nat}
    {error : ArgumentError} :
    Blames (token :: value :: rest) (position + 2) error ↔ Blames rest position error := by
  cases error <;> simp [Blames]

/-- A pair of a flag and a value is not to blame. -/
theorem Blames.behind_pair {flag : Flag} {value : String} {rest : List String} {position : Nat}
    {error : ArgumentError} (h : Blames (flag.text :: value :: rest) position error) :
    ∃ behind, position = behind + 2 ∧ Blames rest behind error := by
  match position with
  | 0 =>
      cases error with
      | unknownToken token => exact absurd (Option.some.inj h.2.1) (h.2.2 flag)
      | missingValue other => cases h.2.2
      | _ => exact absurd h id
  | 1 =>
      cases error with
      | unknownToken | missingValue => cases h.1
      | _ => exact absurd h id
  | behind + 2 => exact ⟨behind, rfl, blames_succ_succ.mp h⟩

theorem assigns_zero {flag : Flag} {value : String} {rest : List String}
    {assignment : Assignment} :
    Assigns (flag.text :: value :: rest) 0 assignment = (assignment = ⟨flag, value⟩) := by
  obtain ⟨other, value'⟩ := assignment
  apply propext
  constructor
  · rintro ⟨hflag, hvalue⟩
    cases Flag.text_inj (Option.some.inj hflag)
    cases Option.some.inj hvalue
    rfl
  · intro h
    cases h
    exact ⟨rfl, rfl⟩

theorem assigns_succ {token value : String} {rest : List String} {position : Nat}
    {assignment : Assignment} :
    Assigns (token :: value :: rest) (position + 1) assignment =
      Assigns rest position assignment := rfl

theorem scan_pair (flag : Flag) (value : String) (rest : List String) :
    scan (flag.text :: value :: rest) = (scan rest).map (⟨flag, value⟩ :: ·) := by
  rw [scan.eq_def]
  simp only [Flag.ofText?_text]

/-- A scan fails at the first position that is to blame, or finds the assignments as they stand. -/
theorem scan_cases (arguments : List String) :
    (∃ position error, scan arguments = .error error ∧ Blames arguments position error ∧
      ∀ earlier < position, ∀ other, ¬ Blames arguments earlier other) ∨
    ∃ assignments, scan arguments = .ok assignments ∧
      (∀ position error, ¬ Blames arguments position error) ∧
      Assigns arguments = StandsAt assignments := by
  induction arguments using scan.induct with
  | case1 =>
      refine .inr ⟨[], rfl, not_blames_nil, ?_⟩
      funext position assignment
      simp [Assigns, StandsAt]
  | case2 token rest hnone =>
      refine .inl ⟨0, .unknownToken token, ?_, ⟨rfl, rfl, Flag.text_ne_of_ofText? hnone⟩, by simp⟩
      rw [scan]
      exact hnone
  | case3 token flag hflag =>
      obtain rfl := Flag.text_of_ofText? hflag
      refine .inl ⟨0, .missingValue flag, ?_, ⟨rfl, rfl, rfl⟩, by simp⟩
      rw [scan.eq_def]
      simp only [hflag]
  | case4 token flag value rest hflag ih =>
      obtain rfl := Flag.text_of_ofText? hflag
      have hscan := scan_pair flag value rest
      rcases ih with ⟨position, error, herror, hblames, hfirst⟩ |
        ⟨assignments, hok, hplaced, hassigns⟩
      · refine .inl ⟨position + 2, error, by rw [hscan, herror]; rfl,
          blames_succ_succ.mpr hblames, ?_⟩
        intro earlier hlt other hother
        obtain ⟨behind, rfl, hbehind⟩ := hother.behind_pair
        exact hfirst behind (by omega) other hbehind
      · refine .inr ⟨⟨flag, value⟩ :: assignments, by rw [hscan, hok]; rfl, ?_, ?_⟩
        · intro position error h
          obtain ⟨behind, rfl, hbehind⟩ := h.behind_pair
          exact hplaced behind error hbehind
        · funext position assignment
          cases position with
          | zero =>
              rw [assigns_zero]
              simp [StandsAt, eq_comm]
          | succ position =>
              rw [assigns_succ, hassigns]
              simp [StandsAt]

/-! ## Reading -/

theorem given_cons {assignment : Assignment} {rest : List Assignment} {settings : Settings}
    {number : assignment.flag.Value}
    (hread : assignment.flag.read assignment.value = some number) {flag : Flag}
    {after : flag.Value}
    (h : Given (StandsAt rest) flag (setting (replace settings assignment.flag number) flag)
      after) :
    Given (StandsAt (assignment :: rest)) flag (setting settings flag) after := by
  rcases h with ⟨position, value, hat, hvalue, hlast⟩ | ⟨hnone, rfl⟩
  · refine .inl ⟨position + 1, value, hat, hvalue, fun later hlt other hother => ?_⟩
    match later, hlt with
    | later + 1, hlt => exact hlast later (by omega) other hother
  · by_cases hflag : assignment.flag = flag
    · subst hflag
      refine .inl ⟨0, assignment.value, rfl, ?_, fun later hlt other hother => ?_⟩
      · rw [setting_replace]
        exact hread
      · match later, hlt with
        | later + 1, _ => exact hnone later other hother
    · refine .inr ⟨fun position other hother => ?_, setting_replace_of_ne _ _ (Ne.symm hflag)⟩
      match position with
      | 0 =>
          cases hother
          exact hflag
      | position + 1 => exact hnone position other hother

/-- Reading fails at the first value that cannot be read, or gives each flag what its last
assignment says. -/
theorem foldlM_assign_cases (assignments : List Assignment) (settings : Settings) :
    (∃ position assignment, assignments.foldlM assign settings = .error assignment.complaint ∧
      StandsAt assignments position assignment ∧ ¬ assignment.Readable ∧
      ∀ earlier < position, ∀ other, StandsAt assignments earlier other → other.Readable) ∨
    ∃ final, assignments.foldlM assign settings = .ok final ∧
      (∀ position assignment, StandsAt assignments position assignment → assignment.Readable) ∧
      ∀ flag, Given (StandsAt assignments) flag (setting settings flag) (setting final flag) := by
  induction assignments generalizing settings with
  | nil =>
      exact .inr ⟨settings, rfl, by simp [StandsAt],
        fun flag => .inr ⟨by simp [StandsAt], rfl⟩⟩
  | cons assignment rest ih =>
      rw [List.foldlM_cons]
      by_cases hreadable : assignment.Readable
      · obtain ⟨number, hread⟩ := Option.isSome_iff_exists.mp hreadable
        rw [assign_of_read hread]
        show (∃ position other, rest.foldlM assign (replace settings _ number) = _ ∧ _) ∨ _
        rcases ih (replace settings assignment.flag number) with
          ⟨position, other, herror, hat, hbad, hfirst⟩ | ⟨final, hok, hrest, hgiven⟩
        · refine .inl ⟨position + 1, other, herror, hat, hbad, fun earlier hlt earlierOther h => ?_⟩
          match earlier with
          | 0 => cases h; exact hreadable
          | earlier + 1 => exact hfirst earlier (by omega) earlierOther h
        · refine .inr ⟨final, hok, fun position other h => ?_,
            fun flag => given_cons hread (hgiven flag)⟩
          match position with
          | 0 => cases h; exact hreadable
          | position + 1 => exact hrest position other h
      · rw [assign_of_not_readable hreadable]
        exact .inl ⟨0, assignment, rfl, rfl, hreadable, by simp⟩

/-! ## The meaning -/

theorem means_parse (arguments : List String) : Means arguments (parse arguments) := by
  rw [parse_eq_parsePairs, parsePairs]
  by_cases hnil : arguments = []
  · rw [if_pos hnil]
    exact .missing hnil
  · rw [if_neg hnil]
    rcases scan_cases arguments with
      ⟨position, error, hscan, hblames, hfirst⟩ | ⟨assignments, hscan, hplaced, hassigns⟩
    · rw [hscan]
      exact .misplaced hblames hfirst
    · rw [hscan]
      show Means arguments (assignments.foldlM assign {} >>= _)
      rcases foldlM_assign_cases assignments {} with
        ⟨position, assignment, hread, hat, hbad, hfirst⟩ | ⟨settings, hread, hreadable, hgiven⟩
      · rw [hread]
        rw [← hassigns] at hat hfirst
        exact .unreadable hplaced hat hbad hfirst
      · rw [hread]
        rw [← hassigns] at hreadable hgiven
        exact .described hnil hplaced hreadable hgiven settings.checks_check

section Unique

variable {arguments : List String} {position : Nat}

theorem Blames.unique {error other : ArgumentError} (h : Blames arguments position error)
    (h' : Blames arguments position other) : error = other := by
  cases error with
  | unknownToken token =>
      cases other with
      | unknownToken => cases h.2.1.symm.trans h'.2.1; rfl
      | missingValue flag => cases h.2.1.symm.trans h'.2.1; exact absurd rfl (h.2.2 flag)
      | _ => exact absurd h' id
  | missingValue flag =>
      cases other with
      | unknownToken => cases h.2.1.symm.trans h'.2.1; exact absurd rfl (h'.2.2 flag)
      | missingValue => rw [Flag.text_inj (Option.some.inj (h.2.1.symm.trans h'.2.1))]
      | _ => exact absurd h' id
  | _ => exact absurd h id

/-- Only one error can be that of the first position to blame. -/
theorem Blames.unique_of_first {position' : Nat} {error other : ArgumentError}
    (h : Blames arguments position error)
    (hfirst : ∀ earlier < position, ∀ other, ¬ Blames arguments earlier other)
    (h' : Blames arguments position' other)
    (hfirst' : ∀ earlier < position', ∀ other, ¬ Blames arguments earlier other) :
    error = other := by
  obtain rfl : position = position' := Nat.le_antisymm
    (Nat.not_lt.mp fun hlt => hfirst _ hlt _ h')
    (Nat.not_lt.mp fun hlt => hfirst' _ hlt _ h)
  exact h.unique h'

theorem Assigns.unique {assignment other : Assignment} (h : Assigns arguments position assignment)
    (h' : Assigns arguments position other) : assignment = other := by
  obtain ⟨flag, value⟩ := assignment
  obtain ⟨flag', value'⟩ := other
  cases Flag.text_inj (Option.some.inj (h.1.symm.trans h'.1))
  cases h.2.symm.trans h'.2
  rfl

theorem Given.unique {flag : Flag} {before after other : flag.Value}
    (h : Given (Assigns arguments) flag before after)
    (h' : Given (Assigns arguments) flag before other) : after = other := by
  rcases h with ⟨position, value, hat, hvalue, hlast⟩ | ⟨hnone, rfl⟩
  · rcases h' with ⟨position', value', hat', hvalue', hlast'⟩ | ⟨hnone, -⟩
    · obtain rfl : position = position' := Nat.le_antisymm
        (Nat.not_lt.mp fun hlt => hlast' _ hlt _ hat rfl)
        (Nat.not_lt.mp fun hlt => hlast _ hlt _ hat' rfl)
      cases hat.unique hat'
      exact Option.some.inj (hvalue.symm.trans hvalue')
    · exact absurd rfl (hnone _ _ hat)
  · rcases h' with ⟨position', value', hat', -, -⟩ | ⟨-, rfl⟩
    · exact absurd rfl (hnone _ _ hat')
    · rfl

theorem not_assigns_nil {assignment : Assignment} : ¬ Assigns [] position assignment := by
  simp [Assigns]

/-- A list of arguments comes to one thing only. -/
theorem Means.unique {result other : Except ArgumentError Config} (h : Means arguments result)
    (h' : Means arguments other) : result = other := by
  cases h with
  | missing h =>
      subst h
      cases h' with
      | missing => rfl
      | misplaced h => exact absurd h (not_blames_nil _ _)
      | unreadable _ h => exact absurd h not_assigns_nil
      | described hsome => exact absurd rfl hsome
  | misplaced h hfirst =>
      cases h' with
      | missing hnil => exact absurd (hnil ▸ h) (not_blames_nil _ _)
      | misplaced h' hfirst' => rw [h.unique_of_first hfirst h' hfirst']
      | unreadable hplaced => exact absurd h (hplaced _ _)
      | described _ hplaced => exact absurd h (hplaced _ _)
  | @unreadable position _ hplaced h hbad hfirst =>
      cases h' with
      | missing hnil => exact absurd (hnil ▸ h) not_assigns_nil
      | misplaced h' => exact absurd h' (hplaced _ _)
      | @unreadable position' _ _ h' hbad' hfirst' =>
          obtain rfl : position = position' := Nat.le_antisymm
            (Nat.not_lt.mp fun hlt => hbad' (hfirst _ hlt _ h'))
            (Nat.not_lt.mp fun hlt => hbad (hfirst' _ hlt _ h))
          rw [h.unique h']
      | described _ _ hreadable => exact absurd (hreadable _ _ h) hbad
  | described hsome hplaced hreadable hgiven hchecks =>
      cases h' with
      | missing hnil => exact absurd hnil hsome
      | misplaced h => exact absurd h (hplaced _ _)
      | unreadable _ h hbad => exact absurd (hreadable _ _ h) hbad
      | described _ _ _ hgiven' hchecks' =>
          obtain rfl := settings_ext fun flag => (hgiven flag).unique (hgiven' flag)
          rw [hchecks.unique hchecks']

/-- Only an unknown token is shown as such. -/
theorem Means.unknownToken {error : ArgumentError} {token : String}
    (h : Means arguments (.error error)) (htoken : error.token? = some token) :
    ∃ position, Blames arguments position (.unknownToken token) ∧
      ∀ earlier < position, ∀ other, ¬ Blames arguments earlier other := by
  obtain rfl : error = .unknownToken token := by
    cases error with
    | unknownToken => cases htoken; rfl
    | _ => cases htoken
  generalize hresult : (Except.error (.unknownToken token) : Except ArgumentError Config) = result
    at h
  cases h with
  | missing => cases hresult
  | misplaced h hfirst => cases hresult; exact ⟨_, h, hfirst⟩
  | @unreadable _ assignment =>
      obtain ⟨flag, value⟩ := assignment
      cases flag <;> cases hresult
  | @described _ result =>
      cases result with
      | error => cases hresult
      | ok => cases hresult

end Unique

/-- The arguments are read as they are meant, and it makes no difference that each pair is a token
in between. The error that comes of it carries a token exactly when the first position to blame
holds an unknown one, and it is that token. -/
theorem parse_iff_means (arguments : List String) :
    (∀ result, parse arguments = result ↔ Means arguments result) ∧
      parse arguments = parsePairs arguments ∧
      ∀ token, (∃ error, parse arguments = .error error ∧ error.token? = some token) ↔
        ∃ position, Blames arguments position (.unknownToken token) ∧
          ∀ earlier < position, ∀ other, ¬ Blames arguments earlier other := by
  refine ⟨fun result => ⟨fun h => h ▸ means_parse arguments, (means_parse arguments).unique⟩,
    parse_eq_parsePairs arguments, fun token => ⟨?_, ?_⟩⟩
  · rintro ⟨error, herror, htoken⟩
    have hmeans := means_parse arguments
    rw [herror] at hmeans
    exact hmeans.unknownToken htoken
  · rintro ⟨position, h, hfirst⟩
    exact ⟨_, (means_parse arguments).unique (.misplaced h hfirst), rfl⟩

end Client

end Heartbeat

import Heartbeat.Proofs.ArgumentMeaning

/-!
# The scan loses nothing

For each pair of arguments the scan passes on one token, the flag and the value with an equals sign
between them. No flag holds an equals sign, so this is the first one of the token, and cutting there
gives the pair back, whatever its value is made of (`cut_token`). The arguments are therefore known
from the assignments that the scan finds (`scan_eq_ok_iff`), and so from its tokens.

A scan fails when some position is to blame, and then because of the first one
(`scan_eq_error_iff`). An unknown token is to blame whatever comes after it, so nothing that comes
after the first one makes a difference (`blames_take_append_iff`).
-/

namespace Heartbeat.Client

/-- The six ways to write a flag. -/
def flagTexts : List String := ["-s", "-p", "-c", "--interval", "--retries", "--retry-backoff"]

/-- Are these arguments pairs, each with a flag in front? -/
def InPairs (arguments : List String) : Prop :=
  arguments.length % 2 = 0 ∧ ∀ position token, position % 2 = 0 →
    arguments[position]? = some token → token ∈ flagTexts

/-- A token cut at its first equals sign. -/
def cut (token : String) : String × String :=
  (.ofList (token.toList.takeWhile (· ≠ '=')),
    .ofList ((token.toList.dropWhile (· ≠ '=')).drop 1))

theorem cut_token (assignment : Assignment) :
    cut assignment.token = (assignment.flag.text, assignment.value) := by
  obtain ⟨hflag, hvalue⟩ := assignment.split_token
  rw [cut, hflag, hvalue]
  simp

theorem token_injective : Function.Injective Assignment.token := by
  intro assignment other h
  have hread := Assignment.ofToken?_token assignment
  rw [h, Assignment.ofToken?_token other] at hread
  exact (Option.some.inj hread).symm

theorem mem_flagTexts_iff {token : String} :
    token ∈ flagTexts ↔ ∃ flag : Flag, flag.text = token := by
  constructor
  · intro h
    have hall : flagTexts = Flag.all.map Flag.text := rfl
    rw [hall] at h
    obtain ⟨flag, -, hflag⟩ := List.mem_map.mp h
    exact ⟨flag, hflag⟩
  · intro h
    obtain ⟨flag, rfl⟩ := h
    cases flag <;> decide

/-! ## What the scan accepts -/

/-- The two arguments of an assignment. -/
def Assignment.pair (assignment : Assignment) : List String :=
  [assignment.flag.text, assignment.value]

/-- The scan finds assignments exactly in the arguments that they are. -/
theorem scan_eq_ok_iff {arguments : List String} {assignments : List Assignment} :
    scan arguments = .ok assignments ↔ arguments = assignments.flatMap Assignment.pair := by
  constructor
  · intro h
    induction arguments using scan.induct generalizing assignments with
    | case1 =>
        cases h
        rfl
    | case2 token rest hnone =>
        rw [scan.eq_def] at h
        simp only [hnone] at h
        cases h
    | case3 token flag hflag =>
        rw [scan.eq_def] at h
        simp only [hflag] at h
        cases h
    | case4 token flag value rest hflag ih =>
        obtain rfl := Flag.text_of_ofText? hflag
        rw [scan_pair] at h
        cases hrest : scan rest with
        | error error =>
            rw [hrest] at h
            cases h
        | ok found =>
            rw [hrest] at h
            cases h
            rw [List.flatMap_cons, ← ih hrest]
            rfl
  · intro h
    subst h
    induction assignments with
    | nil => rfl
    | cons assignment rest ih =>
        show scan (assignment.flag.text :: assignment.value :: rest.flatMap Assignment.pair) = _
        rw [scan_pair, ih]
        rfl

theorem length_flatMap_pair (assignments : List Assignment) :
    (assignments.flatMap Assignment.pair).length = 2 * assignments.length := by
  induction assignments with
  | nil => rfl
  | cons assignment rest ih =>
      rw [List.flatMap_cons, List.length_append, ih, List.length_cons]
      show 2 + _ = _
      omega

/-- The assignments stand in the arguments as they do in the list that is found. -/
theorem assigns_of_scan {arguments : List String} {assignments : List Assignment}
    (h : scan arguments = .ok assignments) : Assigns arguments = StandsAt assignments := by
  rcases scan_cases arguments with ⟨_, _, herror, -⟩ | ⟨_, hok, -, hassigns⟩
  · cases h.symm.trans herror
  · cases h.symm.trans hok
    exact hassigns

theorem scanTokens_eq_ok_iff {arguments tokens : List String} :
    scanTokens arguments = .ok tokens ↔
      ∃ assignments, scan arguments = .ok assignments ∧
        tokens = assignments.map Assignment.token := by
  rw [scanTokens]
  cases scan arguments with
  | error error => simp [Except.map]
  | ok assignments => simp [Except.map, eq_comm]

theorem scanTokens_eq_error_iff {arguments : List String} {error : ArgumentError} :
    scanTokens arguments = .error error ↔ scan arguments = .error error := by
  rw [scanTokens]
  cases scan arguments with
  | error error => simp [Except.map]
  | ok assignments => simp [Except.map]

/-- No two lists of arguments have the same tokens. -/
theorem eq_of_scanTokens {arguments other tokens : List String}
    (h : scanTokens arguments = .ok tokens) (h' : scanTokens other = .ok tokens) :
    arguments = other := by
  obtain ⟨assignments, hscan, rfl⟩ := scanTokens_eq_ok_iff.mp h
  obtain ⟨assignments', hscan', hsame⟩ := scanTokens_eq_ok_iff.mp h'
  have hassignments : assignments = assignments' :=
    (List.map_inj_right fun _ _ heq => token_injective heq).mp hsame
  rw [scan_eq_ok_iff.mp hscan, scan_eq_ok_iff.mp hscan', hassignments]

/-! ## What the scan blames -/

theorem inPairs_iff {arguments : List String} :
    InPairs arguments ↔ ∀ position error, ¬ Blames arguments position error := by
  constructor
  · intro h position error hblames
    obtain ⟨heven, hflags⟩ := h
    cases error with
    | unknownToken token =>
        obtain ⟨hposition, hat, hunknown⟩ := hblames
        obtain ⟨flag, hflag⟩ := mem_flagTexts_iff.mp (hflags position token hposition hat)
        exact hunknown flag hflag
    | missingValue flag =>
        obtain ⟨hposition, hat, hnone⟩ := hblames
        obtain ⟨hlt, -⟩ := List.getElem?_eq_some_iff.mp hat
        have hge := List.getElem?_eq_none_iff.mp hnone
        omega
    | _ => exact hblames
  · intro h
    have hflags : ∀ position token, position % 2 = 0 → arguments[position]? = some token →
        ∃ flag : Flag, flag.text = token := by
      intro position token hposition hat
      false_or_by_contra
      next hnone =>
        exact h position (.unknownToken token) ⟨hposition, hat, not_exists.mp hnone⟩
    refine ⟨?_, fun position token hposition hat =>
      mem_flagTexts_iff.mpr (hflags position token hposition hat)⟩
    false_or_by_contra
    -- the last argument stands where a flag should, and has no value
    have hat := List.getElem?_eq_getElem (by omega : arguments.length - 1 < arguments.length)
    obtain ⟨flag, hflag⟩ := hflags _ _ (by omega) hat
    have hnone := List.getElem?_eq_none_iff.mpr
      (by omega : arguments.length ≤ arguments.length - 1 + 1)
    rw [← hflag] at hat
    exact h _ (.missingValue flag) ⟨by omega, hat, hnone⟩

/-- The error of a scan is that of the first position to blame. -/
theorem scan_eq_error_iff {arguments : List String} {error : ArgumentError} :
    scan arguments = .error error ↔ ∃ position, Blames arguments position error ∧
      ∀ earlier < position, ∀ other, ¬ Blames arguments earlier other := by
  rcases scan_cases arguments with
    ⟨position, found, hscan, hblames, hfirst⟩ | ⟨assignments, hscan, hplaced, -⟩
  · constructor
    · intro h
      cases hscan.symm.trans h
      exact ⟨position, hblames, hfirst⟩
    · intro h
      obtain ⟨position', hblames', hfirst'⟩ := h
      rw [hscan, hblames.unique_of_first hfirst hblames' hfirst']
  · constructor
    · intro h
      cases hscan.symm.trans h
    · intro h
      obtain ⟨position, hblames, -⟩ := h
      exact absurd hblames (hplaced position error)

theorem exists_scan_iff {arguments : List String} :
    (∃ assignments, scan arguments = .ok assignments) ↔ InPairs arguments := by
  rw [inPairs_iff]
  rcases scan_cases arguments with
    ⟨position, error, hscan, hblames, -⟩ | ⟨assignments, hscan, hplaced, -⟩
  · refine iff_of_false ?_ ?_
    · intro h
      obtain ⟨assignments, hok⟩ := h
      cases hscan.symm.trans hok
    · intro h
      exact h position error hblames
  · exact iff_of_true ⟨assignments, hscan⟩ hplaced

/-- Whether a position is to blame shows in the arguments up to the one after it. -/
theorem blames_take_append_iff {arguments : List String} {position earlier : Nat}
    {error : ArgumentError} (hposition : position < arguments.length) (hlt : earlier < position)
    (rest : List String) :
    Blames (arguments.take (position + 1) ++ rest) earlier error ↔
      Blames arguments earlier error := by
  have hkeep : ∀ index ≤ position,
      (arguments.take (position + 1) ++ rest)[index]? = arguments[index]? := by
    intro index hindex
    rw [List.getElem?_append_left (by rw [List.length_take]; omega),
      List.getElem?_take_of_lt (by omega)]
  cases error with
  | unknownToken | missingValue =>
      simp only [Blames, hkeep earlier (by omega), hkeep (earlier + 1) (by omega)]
  | _ => rfl

/-- Nothing that comes after the first unknown token makes a difference. -/
theorem scan_take_append {arguments : List String} {position : Nat} {token : String}
    (h : Blames arguments position (.unknownToken token))
    (hfirst : ∀ earlier < position, ∀ other, ¬ Blames arguments earlier other)
    (rest : List String) :
    scan (arguments.take (position + 1) ++ rest) = .error (.unknownToken token) := by
  obtain ⟨heven, hat, hunknown⟩ := h
  obtain ⟨hlt, -⟩ := List.getElem?_eq_some_iff.mp hat
  have hkeep : (arguments.take (position + 1) ++ rest)[position]? = some token := by
    rw [List.getElem?_append_left (by rw [List.length_take]; omega),
      List.getElem?_take_of_lt (by omega), hat]
  refine scan_eq_error_iff.mpr ⟨position, ⟨heven, hkeep, hunknown⟩, ?_⟩
  intro earlier hearlier other hblames
  exact hfirst earlier hearlier other ((blames_take_append_iff hlt hearlier rest).mp hblames)

/-- The scan accepts exactly the arguments that are pairs. It then gives a token for each pair, in
order, which is cut into the pair again at its first equals sign, and never the same tokens for two
lists of arguments. Otherwise its error is that of the first position to blame, and if the token
there is unknown, it does not depend on what comes after it. -/
theorem scan_lossless (arguments : List String) :
    ((∃ tokens, scanTokens arguments = .ok tokens) ↔ InPairs arguments) ∧
      (∀ tokens, scanTokens arguments = .ok tokens →
        arguments.length = 2 * tokens.length ∧
        (∀ position token, tokens[position]? = some token →
          ∃ flag ∈ flagTexts, ∃ value, token = flag ++ "=" ++ value ∧ cut token = (flag, value) ∧
            arguments[2 * position]? = some flag ∧ arguments[2 * position + 1]? = some value) ∧
        ∀ other, scanTokens other = .ok tokens → other = arguments) ∧
      ∀ error, scanTokens arguments = .error error →
        ∃ position, Blames arguments position error ∧
          (∀ earlier < position, ∀ other, ¬ Blames arguments earlier other) ∧
          ∀ token, error = .unknownToken token → ∀ rest,
            scanTokens (arguments.take (position + 1) ++ rest) = .error error := by
  refine ⟨?_, ?_, ?_⟩
  · rw [← exists_scan_iff]
    simp only [scanTokens_eq_ok_iff]
    constructor
    · intro h
      obtain ⟨tokens, assignments, hscan, -⟩ := h
      exact ⟨assignments, hscan⟩
    · intro h
      obtain ⟨assignments, hscan⟩ := h
      exact ⟨_, assignments, hscan, rfl⟩
  · intro tokens h
    obtain ⟨assignments, hscan, rfl⟩ := scanTokens_eq_ok_iff.mp h
    refine ⟨?_, ?_, fun other hother => eq_of_scanTokens hother h⟩
    · rw [scan_eq_ok_iff.mp hscan, length_flatMap_pair, List.length_map]
    · intro position token hat
      rw [List.getElem?_map] at hat
      obtain ⟨assignment, hstands, rfl⟩ := Option.map_eq_some_iff.mp hat
      have hassigns : Assigns arguments position assignment := by
        rw [assigns_of_scan hscan]
        exact hstands
      exact ⟨assignment.flag.text, mem_flagTexts_iff.mpr ⟨_, rfl⟩, assignment.value, rfl,
        cut_token assignment, hassigns⟩
  · intro error h
    obtain ⟨position, hblames, hfirst⟩ := scan_eq_error_iff.mp (scanTokens_eq_error_iff.mp h)
    refine ⟨position, hblames, hfirst, ?_⟩
    intro token htoken rest
    subst htoken
    exact scanTokens_eq_error_iff.mpr (scan_take_append hblames hfirst rest)

end Heartbeat.Client

import Heartbeat.Watch.Options

/-!
# Options added to a command line

An accepted command line can be continued. What is added to it is sorted and carried out as it would
be by itself, on the options that the line describes (`parse_append`). For in an accepted line no
setting is left waiting for its value, and there is no lone double dash after which nothing would
be an option.
-/

namespace Heartbeat.Watch

namespace Options

variable {options result : Options} {leftOver : List String} {tokens rest behind : List Token}
  {setting last : Setting} {long : Bool} {attached value : Option String}

/-- The value of a setting, attached to it or behind it, and the tokens that are left. -/
def taken (last : Setting) (attached : Option String) (rest : List Token) :
    Except Refusal (Option String × List Token) :=
  if last.takesValue then
    match attached, rest with
    | some value, rest | none, .value value :: rest => .ok (some value, rest)
    | none, _ => .error (.valueMissing last)
  else .ok (none, rest)

/-- Carries out the settings that stand together, the last of them with its value. -/
def perform (options : Options) (switches : List Setting) (last : Setting) :
    Option String → Except Refusal Options
  | some value => do (← switches.foldlM switch options).assign last value
  | none => do (← switches.foldlM switch options).switch last

theorem carryOut_option (options : Options) (leftOver : List String) (setting : Setting)
    (long : Bool) (attached : Option String) (rest : List Token) :
    carryOut options leftOver (.option setting long attached :: rest) =
      (do
        let (switches, last, attached) ← opened setting long attached
        let (value, behind) ← taken last attached rest
        carryOut (← options.perform switches last value) leftOver behind) := by
  -- no equation is made for this case, as the recursion passes over a value behind the option
  delta carryOut
  show (opened setting long attached >>= _) = (opened setting long attached >>= _)
  rcases opened setting long attached with refusal | ⟨switches, last, attached⟩
  · rfl
  · show (if last.takesValue then _ else _) = (taken last attached rest >>= _)
    rw [taken.eq_def]
    by_cases hvalue : last.takesValue = true
    · rw [if_pos hvalue, if_pos hvalue]
      cases attached with
      | some value => exact (bind_assoc _ _ _).symm
      | none =>
          cases rest with
          | nil => rfl
          | cons token rest =>
              cases token with
              | value value => exact (bind_assoc _ _ _).symm
              | option => rfl
              | stray => rfl
    · rw [if_neg hvalue, if_neg hvalue]
      exact (bind_assoc _ _ _).symm

theorem taken_append (h : taken last attached rest = .ok (value, behind)) :
    (behind = rest ∨ ∃ text, rest = .value text :: behind) ∧
      ∀ more, taken last attached (rest ++ more) = .ok (value, behind ++ more) := by
  rw [taken.eq_def] at h
  split at h
  · next hvalue =>
      split at h
      · cases h
        exact ⟨.inl rfl, fun more => if_pos hvalue⟩
      · cases h
        exact ⟨.inr ⟨_, rfl⟩, fun more => if_pos hvalue⟩
      · cases h
  · next hvalue =>
      cases h
      exact ⟨.inl rfl, fun more => if_neg hvalue⟩

/-- An option that is carried out needs no more than the token behind it. -/
theorem carryOut_option_ok
    (h : carryOut options leftOver (.option setting long attached :: rest) = .ok result) :
    ∃ following behind, (behind = rest ∨ ∃ text, rest = .value text :: behind) ∧
      ∀ more, carryOut options leftOver (.option setting long attached :: (rest ++ more)) =
        carryOut following leftOver (behind ++ more) := by
  rw [carryOut_option] at h
  rcases hopened : opened setting long attached with refusal | ⟨switches, last, attached'⟩
  · rw [hopened] at h
    cases h
  rw [hopened] at h
  change (taken last attached' rest >>= _) = _ at h
  rcases htaken : taken last attached' rest with refusal | ⟨value, behind⟩
  · rw [htaken] at h
    cases h
  rw [htaken] at h
  obtain ⟨hbehind, hmore⟩ := taken_append htaken
  change (options.perform switches last value >>= _) = _ at h
  rcases hperform : options.perform switches last value with refusal | following
  · rw [hperform] at h
    cases h
  refine ⟨following, behind, hbehind, fun more => ?_⟩
  rw [carryOut_option, hopened]
  show (taken last attached' (rest ++ more) >>= _) = _
  rw [hmore]
  show (options.perform switches last value >>= _) = _
  rw [hperform]
  rfl

/-- Tokens that are carried out leave nothing over, have no stray one among them, and more may
follow them. -/
theorem carryOut_append (h : carryOut options leftOver tokens = .ok result) :
    leftOver = [] ∧ (∀ text, .stray text ∉ tokens) ∧
      ∀ more, carryOut options leftOver (tokens ++ more) = carryOut result [] more := by
  induction hlength : tokens.length using Nat.strongRecOn generalizing options leftOver tokens with
  | ind length ih =>
      subst hlength
      match tokens with
      | [] =>
          change (if leftOver = [] then _ else _) = _ at h
          split at h
          · next hnone =>
              cases h
              exact ⟨hnone, nofun, fun more => by rw [hnone]; rfl⟩
          · cases h
      | .value text :: rest | .stray text :: rest =>
          change carryOut options (leftOver ++ [text]) rest = _ at h
          have hnone := (ih rest.length (Nat.lt_succ_self _) h rfl).1
          simp at hnone
      | .option setting long attached :: rest =>
          obtain ⟨following, behind, hbehind, hmore⟩ := carryOut_option_ok h
          have hrest : carryOut following leftOver behind = .ok result := by
            have hnil := hmore []
            rw [List.append_nil, List.append_nil, h] at hnil
            exact hnil.symm
          have hlt : behind.length < rest.length + 1 := by
            rcases hbehind with rfl | ⟨text, rfl⟩
            · exact Nat.lt_succ_self _
            · exact Nat.lt_succ_of_lt (Nat.lt_succ_self _)
          obtain ⟨hnone, hstray, hcontinue⟩ := ih behind.length hlt hrest rfl
          refine ⟨hnone, fun text hmem => ?_, fun more => (hmore more).trans (hcontinue more)⟩
          rcases hbehind with rfl | ⟨value, rfl⟩
          · simp at hmem
            exact hstray text hmem
          · simp at hmem
            exact hstray text hmem

end Options

theorem Token.ofArguments_append {arguments : List String} {tokens : List Token}
    (h : ofArguments arguments = .ok tokens) (hstray : ∀ text, .stray text ∉ tokens)
    (more : List String) :
    ofArguments (arguments ++ more) = (ofArguments more).map (tokens ++ ·) := by
  induction arguments using ofArguments.induct generalizing tokens with
  | case1 =>
      cases h
      show ofArguments more = _
      cases ofArguments more <;> rfl
  | case2 rest =>
      cases h
      exact absurd List.mem_cons_self (hstray "--")
  | case3 text rest hdash ih =>
      rw [ofArguments, if_neg hdash] at h
      rw [List.cons_append, ofArguments, if_neg hdash]
      rcases htext : ofText text with refusal | token
      · rw [htext] at h
        cases h
      rcases hrest : ofArguments rest with refusal | following
      · rw [htext, hrest] at h
        cases h
      rw [htext, hrest] at h
      cases h
      rw [ih hrest fun text hmem => hstray text (.tail _ hmem)]
      cases ofArguments more <;> rfl

namespace Options

/-- What is added to an accepted command line is carried out on the options of the line. -/
theorem parse_append {arguments : List String} {options : Options}
    (h : parse arguments = .ok options) (more : List String) :
    parse (arguments ++ more) = Token.ofArguments more >>= carryOut options [] := by
  rw [parse] at h ⊢
  rcases htokens : Token.ofArguments arguments with refusal | tokens
  · rw [htokens] at h
    cases h
  rw [htokens] at h
  obtain ⟨-, hstray, hmore⟩ := carryOut_append h
  rw [Token.ofArguments_append htokens hstray]
  rcases Token.ofArguments more with refusal | tokens'
  · rfl
  · exact hmore tokens'

end Options

end Heartbeat.Watch

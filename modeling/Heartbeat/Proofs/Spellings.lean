import Heartbeat.Proofs.AddedOptions
import Heartbeat.Watch.Command
import Mathlib.Data.List.Infix

/-!
# Spellings of the watching options

A choice can be spelled in many ways (`Spells`): with the long name of its setting or any beginning
of it, with the letter if there is one, with the value behind an equals sign, in the next argument
or right behind the letter, and with the letter of the verbose mode in front of others. Each way
leads through the parser on a path of its own, and all of them do the same (`Spells.carriesOut`):
they carry out the choices one after the other.
-/

namespace Heartbeat.Watch

/-! ## Choices -/

namespace Setting

/-- The name behind the two dashes. -/
def longName : Setting → String
  | help => "help"
  | port => "port"
  | host => "bind"
  | maxAge => "max-age"
  | duration => "duration"
  | verbose => "verbose"

/-- The letter behind a single dash, for the settings that have one. -/
def letter? : Setting → Option Char
  | help => some 'h'
  | port => some 'p'
  | host => some 'b'
  | maxAge | duration => none
  | verbose => some 'v'

end Setting

/-- A setting that takes a value, with a value that is not left out. -/
structure Assignment where
  setting : Setting
  takesValue : setting.takesValue = true
  value : String
  value_ne : value ≠ Options.noValue
  deriving DecidableEq

/-- What a user may choose: a value for a setting, or to be told more. -/
inductive Choice where
  | assign (assignment : Assignment)
  | verbose
  deriving DecidableEq

/-- A name of a setting: two dashes and its long name, or a beginning of that. -/
structure Setting.Names (setting : Setting) (option : String) (start : List Char) : Prop where
  ne_nil : start ≠ []
  isPrefix : start <+: setting.longName.toList
  option_eq : option = "--" ++ String.ofList start

/-- A value that may stand in an argument of its own. -/
def StandsAlone (value : String) : Prop := value.toList.head? ≠ some '-'

instance (value : String) : Decidable (StandsAlone value) :=
  inferInstanceAs (Decidable (_ ≠ _))

/-- The ways to spell choices in one go. -/
inductive Spells : List Choice → List String → Prop
  | named {assignment : Assignment} {option : String} {start : List Char}
      (hname : assignment.setting.Names option start) :
      Spells [.assign assignment] [option ++ "=" ++ assignment.value]
  | namedApart {assignment : Assignment} {option : String} {start : List Char}
      (hname : assignment.setting.Names option start) (hvalue : StandsAlone assignment.value) :
      Spells [.assign assignment] [option, assignment.value]
  | lettered {assignment : Assignment} {letter : Char}
      (hletter : assignment.setting.letter? = some letter) :
      Spells [.assign assignment] [String.ofList ['-', letter] ++ "=" ++ assignment.value]
  | letteredApart {assignment : Assignment} {letter : Char}
      (hletter : assignment.setting.letter? = some letter)
      (hvalue : StandsAlone assignment.value) :
      Spells [.assign assignment] [String.ofList ['-', letter], assignment.value]
  | attached {assignment : Assignment} {letter : Char} (switches : Nat)
      (hletter : assignment.setting.letter? = some letter) (hvalue : assignment.value ≠ "")
      (hequals : assignment.value.toList.head? ≠ some '=') :
      Spells (List.replicate switches .verbose ++ [.assign assignment])
        [String.ofList ('-' :: (List.replicate switches 'v' ++ [letter])) ++ assignment.value]
  | verbose {option : String} {start : List Char} (hname : Setting.verbose.Names option start) :
      Spells [.verbose] [option]
  | verboseLetter : Spells [.verbose] ["-v"]

/-- Arguments that spell choices, piece by piece. -/
inductive SpellsAll : List Choice → List String → Prop
  | nil : SpellsAll [] []
  | append {choices rest : List Choice} {arguments more : List String}
      (h : Spells choices arguments) (hrest : SpellsAll rest more) :
      SpellsAll (choices ++ rest) (arguments ++ more)

namespace Choice

/-- The plainest spelling. -/
def plain : Choice → String
  | assign assignment => "--" ++ assignment.setting.longName ++ "=" ++ assignment.value
  | verbose => "--verbose"

end Choice

/-! ## Names -/

theorem Setting.equals_not_mem_spelling {spelling : String} {setting : Setting}
    (h : (spelling, setting) ∈ spellings) : '=' ∉ spelling.toList := by
  have hall : ∀ entry ∈ spellings, '=' ∉ entry.1.toList := by decide
  exact hall (spelling, setting) h

theorem Setting.ofSpelling?_of_equals_mem {text : String} (h : '=' ∈ text.toList) :
    ofSpelling? text = none := by
  refine List.lookup_eq_none_iff.mpr fun ⟨spelling, setting⟩ hmem => bne_iff_ne.mpr ?_
  rintro rfl
  exact equals_not_mem_spelling hmem h

namespace Token

theorem cutAtEquals_append {start : List Char} (h : '=' ∉ start) (value : List Char) :
    cutAtEquals (start ++ '=' :: value) = (start, some (String.ofList value)) := by
  have hstart : ∀ char ∈ start, decide (char ≠ '=') = true := by
    intro char hmem
    refine decide_eq_true ?_
    rintro rfl
    exact h hmem
  rw [cutAtEquals, List.takeWhile_append_of_pos hstart, List.dropWhile_append_of_pos hstart]
  simp

/-- A beginning of a long name is that of no other setting. -/
theorem spellings_of_start (setting : Setting) : ∀ start ∈ setting.longName.toList.inits,
    start ≠ [] →
      Setting.spellings.filter (fun entry => ('-' :: '-' :: start).isPrefixOf entry.1.toList) =
          [("--" ++ setting.longName, setting)] ∧
        (Setting.ofSpelling? (.ofList ('-' :: '-' :: start)) = some setting ∨
          Setting.ofSpelling? (.ofList ('-' :: '-' :: start)) = none) ∧
        ofText (.ofList ('-' :: '-' :: start)) = .ok (.option setting true none) ∧
        '=' ∉ start := by
  cases setting <;> decide +kernel

section Sorting

variable {text : String} {start : List Char} {value spelling : String} {setting : Setting}
  {attached : Option String}

/-- What is cut off at the equals sign belongs to the setting that is written before it. -/
theorem ofText_of_known (hhead : text.toList.head? = some '-') (hdash : text ≠ "-")
    (hwhole : Setting.ofSpelling? text = none)
    (hcut : cutAtEquals text.toList = (start, some value))
    (hknown : Setting.ofSpelling? (.ofList start) = some setting) :
    ofText text = .ok (.option setting (isLong start) (some value)) := by
  rw [ofText, hwhole, if_neg (not_not_intro hhead), if_neg hdash, hcut]
  simp only [hknown]

/-- Otherwise an option is what alone it may stand for. -/
theorem ofText_of_candidate (hhead : text.toList.head? = some '-') (hdash : text ≠ "-")
    (hwhole : Setting.ofSpelling? text = none)
    (hunknown : ∀ start value, cutAtEquals text.toList = (start, some value) →
      Setting.ofSpelling? (.ofList start) = none)
    (hone : candidates text.toList = [(spelling, setting, attached)]) :
    ofText text = .ok (.option setting (isLong spelling.toList) attached) := by
  rw [ofText, hwhole, if_neg (not_not_intro hhead), if_neg hdash, hone]
  rcases hcut : cutAtEquals text.toList with ⟨start, none | value⟩
  · rfl
  · simp only [hunknown start value hcut]

end Sorting

theorem isLong_longName (setting : Setting) :
    isLong ("--" ++ setting.longName).toList = true := by
  rw [String.toList_append]
  rfl

/-- An argument that holds an equals sign is no setting in full. -/
theorem ne_of_equals_mem {text other : String} (h : '=' ∈ text.toList)
    (hother : '=' ∉ other.toList) : text ≠ other := by
  rintro rfl
  exact hother h

/-- A name with a value behind an equals sign. -/
theorem ofText_named {setting : Setting} {option : String} {start : List Char}
    (h : setting.Names option start) (value : String) :
    ofText (option ++ "=" ++ value) = .ok (.option setting true (some value)) := by
  obtain ⟨hone, hknown, -, hequals⟩ :=
    spellings_of_start setting start ((List.mem_inits _ _).mpr h.isPrefix) h.ne_nil
  have hchars : (option ++ "=" ++ value).toList = ('-' :: '-' :: start) ++ '=' :: value.toList := by
    rw [h.option_eq]
    simp
  have hmem : '=' ∈ (option ++ "=" ++ value).toList := by
    rw [hchars]
    exact List.mem_append_right _ List.mem_cons_self
  have hcut : cutAtEquals (option ++ "=" ++ value).toList = ('-' :: '-' :: start, some value) := by
    rw [hchars, cutAtEquals_append (by simpa using hequals), String.ofList_toList]
  have hhead : (option ++ "=" ++ value).toList.head? = some '-' := by rw [hchars]; rfl
  have hdash : option ++ "=" ++ value ≠ "-" := ne_of_equals_mem hmem (by decide)
  have hwhole := Setting.ofSpelling?_of_equals_mem hmem
  rcases hknown with hknown | hunknown
  · exact ofText_of_known hhead hdash hwhole hcut hknown
  · have hlong : isLong (option ++ "=" ++ value).toList = true := by rw [hchars]; rfl
    have hone' : candidates (option ++ "=" ++ value).toList =
        [("--" ++ setting.longName, setting, some value)] := by
      rw [candidates, if_pos hlong, hcut]
      show List.map _ (Setting.spellings.filter fun entry => _) = _
      rw [hone]
      rfl
    rw [ofText_of_candidate hhead hdash hwhole ?_ hone', isLong_longName]
    intro start' value' heq
    cases hcut.symm.trans heq
    exact hunknown

theorem ofText_name {setting : Setting} {option : String} {start : List Char}
    (h : setting.Names option start) : ofText option = .ok (.option setting true none) := by
  obtain ⟨-, -, hname, -⟩ :=
    spellings_of_start setting start ((List.mem_inits _ _).mpr h.isPrefix) h.ne_nil
  rw [h.option_eq, ← hname]
  refine congrArg ofText (String.toList_injective ?_)
  simp

theorem ofText_value {value : String} (h : StandsAlone value) :
    ofText value = .ok (.value value) := if_pos h

/-! ## Letters -/

section Letters

variable {setting : Setting} {letter : Char} {rest : List Char}

theorem ofLetter?_letter (h : setting.letter? = some letter) :
    Setting.ofLetter? letter = some setting := by
  cases setting <;> cases h <;> rfl

theorem letter_ne (h : setting.letter? = some letter) : letter ≠ '-' ∧ letter ≠ '=' := by
  cases setting <;> cases h <;> decide

theorem isLong_letter (h : setting.letter? = some letter) (rest : List Char) :
    isLong ('-' :: letter :: rest) = false := by
  cases setting <;> cases h <;> rfl

theorem ofText_letter (h : setting.letter? = some letter) :
    ofText (.ofList ['-', letter]) = .ok (.option setting false none) := by
  cases setting <;> cases h <;> rfl

theorem spellings_of_letter (h : setting.letter? = some letter) :
    Setting.spellings.filter (fun entry => entry.1.toList = ['-', letter]) =
      [(.ofList ['-', letter], setting)] := by
  cases setting <;> cases h <;> decide +kernel

/-- A letter with something behind it is written in full nowhere. -/
theorem ofSpelling?_behind_letter (h : setting.letter? = some letter) (hrest : rest ≠ []) :
    Setting.ofSpelling? (.ofList ('-' :: letter :: rest)) = none := by
  have hshape : ∀ entry ∈ Setting.spellings,
      entry.1.toList.length = 2 ∨ isLong entry.1.toList = true := by decide
  refine List.lookup_eq_none_iff.mpr fun entry hmem => bne_iff_ne.mpr fun heq => ?_
  have hentry := hshape entry hmem
  rw [← heq, String.toList_ofList, isLong_letter h] at hentry
  rcases hentry with hlength | hlong
  · exact hrest (List.eq_nil_of_length_eq_zero (by simpa using hlength))
  · cases hlong

/-- A letter with a value behind an equals sign. -/
theorem ofText_lettered (h : setting.letter? = some letter) (value : String) :
    ofText (.ofList ['-', letter] ++ "=" ++ value) = .ok (.option setting false (some value)) := by
  have hchars : (String.ofList ['-', letter] ++ "=" ++ value).toList =
      ['-', letter] ++ '=' :: value.toList := by simp
  have hmem : '=' ∈ (String.ofList ['-', letter] ++ "=" ++ value).toList := by
    rw [hchars]
    exact List.mem_append_right _ List.mem_cons_self
  have hstart : '=' ∉ ['-', letter] := by simpa using (letter_ne h).2.symm
  have hcut : cutAtEquals (String.ofList ['-', letter] ++ "=" ++ value).toList =
      (['-', letter], some value) := by
    rw [hchars, cutAtEquals_append hstart, String.ofList_toList]
  rw [ofText_of_known (by rw [hchars]; rfl) (ne_of_equals_mem hmem (by decide))
    (Setting.ofSpelling?_of_equals_mem hmem) hcut (ofLetter?_letter h), isLong_letter h]

/-- A letter with something right behind it. -/
theorem ofText_attached (h : setting.letter? = some letter) (hrest : rest ≠ [])
    (hequals : rest.head? ≠ some '=') :
    ofText (.ofList ('-' :: letter :: rest)) =
      .ok (.option setting false (some (.ofList rest))) := by
  have hone : candidates (String.ofList ('-' :: letter :: rest)).toList =
      [(.ofList ['-', letter], setting, some (.ofList rest))] := by
    rw [String.toList_ofList, candidates, if_neg (by rw [isLong_letter h]; decide)]
    show List.map _ (Setting.spellings.filter fun entry => entry.1.toList = ['-', letter]) = _
    rw [spellings_of_letter h]
    rfl
  have hdash : String.ofList ('-' :: letter :: rest) ≠ "-" := by
    intro heq
    cases String.toList_ofList.symm.trans (congrArg String.toList heq)
  rw [ofText_of_candidate (by rw [String.toList_ofList]; rfl) hdash
    (ofSpelling?_behind_letter h hrest) ?_ hone, String.toList_ofList, isLong_letter h]
  -- an equals sign further on cuts off no letter alone
  intro start value hcut
  obtain ⟨first, tail, rfl⟩ := List.exists_cons_of_ne_nil hrest
  have hfirst : first ≠ '=' := fun heq => hequals (congrArg some heq)
  rw [String.toList_ofList, cutAtEquals] at hcut
  split at hcut
  · cases hcut
  · cases hcut
    simpa [(letter_ne h).2, hfirst] using ofSpelling?_behind_letter h (List.cons_ne_nil first _)

end Letters

end Token

theorem takeApart_verbose {setting : Setting} {letter : Char} {value : List Char}
    (hletter : setting.letter? = some letter) (htakes : setting.takesValue = true)
    (hvalue : value ≠ []) (switches : Nat) :
    takeApart .verbose (List.replicate switches 'v' ++ letter :: value) =
      .ok (List.replicate (switches + 1) .verbose, setting, some (.ofList value)) := by
  induction switches with
  | zero =>
      show takeApart _ (letter :: value) = _
      simp only [takeApart, Token.ofLetter?_letter hletter, if_neg hvalue, if_pos htakes]
      rfl
  | succ switches ih =>
      have hrest : List.replicate switches 'v' ++ letter :: value ≠ [] :=
        List.append_ne_nil_of_right_ne_nil _ (List.cons_ne_nil _ _)
      show takeApart _ ('v' :: (List.replicate switches 'v' ++ letter :: value)) = _
      rw [takeApart.eq_def]
      show (if _ then _ else _) = _
      rw [if_neg hrest]
      show (takeApart .verbose _).map _ = _
      rw [ih]
      rfl

namespace Options

/-! ## Carrying out -/

/-- Carries out a choice. -/
def choose (options : Options) : Choice → Except Refusal Options
  | .assign assignment => options.assign assignment.setting assignment.value
  | .verbose => options.switch .verbose

/-- Arguments that are options only, and carry out choices, whatever stands behind them. -/
def CarriesOut (arguments : List String) (choices : List Choice) : Prop :=
  ∃ tokens, Token.ofArguments arguments = .ok tokens ∧ (∀ text, .stray text ∉ tokens) ∧
    ∀ options more, carryOut options [] (tokens ++ more) =
      choices.foldlM choose options >>= (carryOut · [] more)

theorem CarriesOut.nil : CarriesOut [] [] := ⟨[], rfl, nofun, fun _ _ => rfl⟩

theorem CarriesOut.append {arguments more : List String} {choices rest : List Choice}
    (h : CarriesOut arguments choices) (hmore : CarriesOut more rest) :
    CarriesOut (arguments ++ more) (choices ++ rest) := by
  obtain ⟨tokens, htokens, hstray, hcarry⟩ := h
  obtain ⟨tokens', htokens', hstray', hcarry'⟩ := hmore
  refine ⟨tokens ++ tokens', ?_, ?_, fun options behind => ?_⟩
  · rw [Token.ofArguments_append htokens hstray, htokens']
    rfl
  · intro text hmem
    rcases List.mem_append.mp hmem with hmem | hmem
    · exact hstray text hmem
    · exact hstray' text hmem
  · rw [List.append_assoc, hcarry, List.foldlM_append, bind_assoc]
    exact congrArg _ (funext fun options => hcarry' options behind)

theorem CarriesOut.carryOut_eq {arguments : List String} {choices : List Choice}
    (h : CarriesOut arguments choices) (options : Options) :
    Token.ofArguments arguments >>= carryOut options [] = choices.foldlM choose options := by
  obtain ⟨tokens, htokens, -, hcarry⟩ := h
  have hnone := hcarry options []
  rw [List.append_nil] at hnone
  rw [htokens]
  refine hnone.trans ?_
  show _ >>= Except.ok = _
  cases choices.foldlM choose options <;> rfl

section Tokens

variable {arguments : List String} {text : String} {choices : List Choice}
  {assignment : Assignment} {setting last : Setting} {switches : List Setting} {long : Bool}
  {attached found value : Option String} {behind : List Token}

theorem ofArguments_cons {rest : List String} {token : Token} {tokens : List Token}
    (htext : Token.ofText text = .ok token) (hrest : Token.ofArguments rest = .ok tokens) :
    Token.ofArguments (text :: rest) = .ok (token :: tokens) := by
  have hdashes : text ≠ "--" := by
    rintro rfl
    cases htext
  rw [Token.ofArguments, if_neg hdashes, htext, hrest]
  rfl

/-- An option with all that it takes. -/
theorem carriesOut_option
    (harguments : Token.ofArguments arguments = .ok (.option setting long attached :: behind))
    (hstray : ∀ text, .stray text ∉ behind)
    (hopened : opened setting long attached = .ok (switches, last, found))
    (htaken : ∀ more, taken last found (behind ++ more) = .ok (value, more))
    (hperform : ∀ options : Options,
      options.perform switches last value = choices.foldlM choose options) :
    CarriesOut arguments choices := by
  refine ⟨_, harguments, fun text hmem => ?_, fun options more => ?_⟩
  · rcases List.mem_cons.mp hmem with heq | hmem
    · cases heq
    · exact hstray text hmem
  · rw [List.cons_append, carryOut_option, hopened]
    show (taken last found (behind ++ more) >>= _) = _
    rw [htaken, ← hperform]
    rfl

theorem taken_assignment (assignment : Assignment) (more : List Token) :
    taken assignment.setting (some assignment.value) ([] ++ more) =
      .ok (some assignment.value, more) := if_pos assignment.takesValue

theorem perform_assignment (assignment : Assignment) (options : Options) :
    options.perform [] assignment.setting (some assignment.value) =
      [Choice.assign assignment].foldlM choose options := by
  show options.assign _ _ = (options.assign _ _ >>= Except.ok)
  cases options.assign assignment.setting assignment.value <;> rfl

theorem perform_verbose (options : Options) :
    options.perform [] .verbose none = [Choice.verbose].foldlM choose options := rfl

theorem perform_switches (switches : Nat) (assignment : Assignment) (options : Options) :
    options.perform (List.replicate switches .verbose) assignment.setting
        (some assignment.value) =
      (List.replicate switches Choice.verbose ++ [Choice.assign assignment]).foldlM choose
        options := by
  induction switches generalizing options with
  | zero => exact perform_assignment assignment options
  | succ switches ih => exact ih { options with verbose := true }

/-- A value that is attached. -/
theorem carriesOut_attached
    (h : Token.ofText text = .ok (.option assignment.setting long (some assignment.value))) :
    CarriesOut [text] [.assign assignment] :=
  carriesOut_option (ofArguments_cons h rfl) nofun (if_pos assignment.takesValue)
    (taken_assignment assignment) (perform_assignment assignment)

/-- A value in an argument of its own. -/
theorem carriesOut_apart (h : Token.ofText text = .ok (.option assignment.setting long none))
    (hvalue : StandsAlone assignment.value) :
    CarriesOut [text, assignment.value] [.assign assignment] :=
  carriesOut_option (ofArguments_cons h (ofArguments_cons (Token.ofText_value hvalue) rfl))
    (by simp) rfl (fun _ => if_pos assignment.takesValue) (perform_assignment assignment)

theorem carriesOut_verbose (h : Token.ofText text = .ok (.option .verbose long none)) :
    CarriesOut [text] [.verbose] :=
  carriesOut_option (ofArguments_cons h rfl) nofun rfl (fun _ => rfl) perform_verbose

/-- Letters of the verbose mode in front of another letter that has its value behind it. -/
theorem carriesOut_bundle {letter : Char} (hletter : assignment.setting.letter? = some letter)
    (hvalue : assignment.value ≠ "") (switches : Nat) :
    CarriesOut [.ofList ('-' :: 'v' :: (List.replicate switches 'v' ++
        letter :: assignment.value.toList))]
      (List.replicate (switches + 1) .verbose ++ [.assign assignment]) := by
  have hsome : assignment.value.toList ≠ [] := fun hnil => hvalue (String.toList_eq_nil_iff.mp hnil)
  have hequals : (List.replicate switches 'v' ++ letter :: assignment.value.toList).head? ≠
      some '=' := by
    cases switches with
    | zero => simpa using (Token.letter_ne hletter).2
    | succ switches => simp [List.replicate_succ]
  have htext := Token.ofText_attached (show Setting.verbose.letter? = some 'v' from rfl)
    (List.append_ne_nil_of_right_ne_nil _ (List.cons_ne_nil letter assignment.value.toList)) hequals
  refine carriesOut_option (ofArguments_cons htext rfl) nofun ?_
    (taken_assignment assignment) (perform_switches (switches + 1) assignment)
  show takeApart .verbose (String.ofList _).toList = _
  rw [String.toList_ofList, takeApart_verbose hletter assignment.takesValue hsome,
    String.ofList_toList]

end Tokens

end Options

theorem Spells.carriesOut {choices : List Choice} {arguments : List String}
    (h : Spells choices arguments) : Options.CarriesOut arguments choices := by
  cases h with
  | named hname => exact Options.carriesOut_attached (Token.ofText_named hname _)
  | namedApart hname hvalue => exact Options.carriesOut_apart (Token.ofText_name hname) hvalue
  | lettered hletter => exact Options.carriesOut_attached (Token.ofText_lettered hletter _)
  | letteredApart hletter hvalue =>
      exact Options.carriesOut_apart (Token.ofText_letter hletter) hvalue
  | @attached assignment letter switches hletter hvalue hequals =>
      have hsome : assignment.value.toList ≠ [] :=
        fun hnil => hvalue (String.toList_eq_nil_iff.mp hnil)
      have htext : String.ofList ('-' :: (List.replicate switches 'v' ++ [letter])) ++
            assignment.value =
          .ofList ('-' :: (List.replicate switches 'v' ++ letter :: assignment.value.toList)) :=
        String.toList_injective (by simp)
      rw [htext]
      cases switches with
      | zero =>
          have hattached := Token.ofText_attached hletter hsome hequals
          rw [String.ofList_toList] at hattached
          exact Options.carriesOut_attached hattached
      | succ switches => exact Options.carriesOut_bundle hletter hvalue switches
  | verbose hname => exact Options.carriesOut_verbose (Token.ofText_name hname)
  | verboseLetter => exact Options.carriesOut_verbose (Token.ofText_letter rfl)

theorem SpellsAll.carriesOut {choices : List Choice} {arguments : List String}
    (h : SpellsAll choices arguments) : Options.CarriesOut arguments choices := by
  induction h with
  | nil => exact .nil
  | append h _ ih => exact h.carriesOut.append ih

end Heartbeat.Watch

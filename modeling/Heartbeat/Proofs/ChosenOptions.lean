import Heartbeat.Proofs.Spellings

/-!
# What choices come to

What a list of choices comes to can be said without a parser (`answer`): every setting has the value
that was given last for it, or its default, unless some value cannot be read, and then the first of
those is to blame. Arguments come to what the choices come to that they spell, so it does not matter
how they are spelled (`parse_spelled`).
-/

namespace Heartbeat.Watch

/-- What is said of a value that cannot be read. -/
def Assignment.complaint? (assignment : Assignment) : Option Refusal :=
  match assignment.setting with
  | .port =>
    if (Text.int? assignment.value).isNone then some (.notAnInteger .port assignment.value)
    else none
  | .maxAge | .duration =>
    if (Text.binary64? assignment.value).isNone then
      some (.notANumber assignment.setting assignment.value)
    else none
  | .host | .help | .verbose => none

namespace Choice

def complaint? : Choice → Option Refusal
  | assign assignment => assignment.complaint?
  | verbose => none

theorem complaint?_ne (choice : Choice) : choice.complaint? ≠ some .helpWanted := by
  match choice with
  | .verbose => exact nofun
  | .assign ⟨setting, _, value, _⟩ => cases setting <;> simp [complaint?, Assignment.complaint?]

/-- The value that is chosen for a setting, if the choice is about this one. -/
def value? (setting : Setting) : Choice → Option String
  | assign assignment =>
    if assignment.setting = setting then some assignment.value else none
  | verbose => none

end Choice

namespace Options

/-- The value that is chosen last for a setting. -/
def lastValue? (setting : Setting) (choices : List Choice) : Option String :=
  choices.reverse.findSome? (Choice.value? setting)

/-- The options with every setting that is chosen replaced. -/
def described (options : Options) (choices : List Choice) : Options where
  port := (lastValue? .port choices).elim options.port Text.int?
  host := (lastValue? .host choices).elim options.host some
  maxAge := (lastValue? .maxAge choices).elim options.maxAge Text.binary64?
  duration := (lastValue? .duration choices).elim options.duration fun value =>
    (Text.binary64? value).elim .void .seconds
  verbose := options.verbose || choices.contains .verbose

/-- What choices come to on top of options. -/
def answerFrom (options : Options) (choices : List Choice) : Except Refusal Options :=
  match choices.findSome? Choice.complaint? with
  | some refusal => .error refusal
  | none => .ok (options.described choices)

/-- What choices come to. -/
def answer (choices : List Choice) : Except Refusal Options := answerFrom {} choices

theorem lastValue?_cons (setting : Setting) (choice : Choice) (rest : List Choice) :
    lastValue? setting (choice :: rest) =
      (lastValue? setting rest).or (choice.value? setting) := by
  simp [lastValue?, List.findSome?_append]

@[simp] theorem lastValue?_assign (setting : Setting) (assignment : Assignment)
    (rest : List Choice) :
    lastValue? setting (.assign assignment :: rest) =
      (lastValue? setting rest).or
        (if assignment.setting = setting then some assignment.value else none) :=
  lastValue?_cons setting _ rest

@[simp] theorem lastValue?_verbose (setting : Setting) (rest : List Choice) :
    lastValue? setting (.verbose :: rest) = lastValue? setting rest := by
  rw [lastValue?_cons, Choice.value?, Option.or_none]

theorem described_nil (options : Options) : options.described [] = options := by
  simp [described, lastValue?]

/-- What carrying out a choice comes to: the reason why its value cannot be read, or options on
which the choices behind it come to the same as with it on the options before. -/
def ChooseCases (options : Options) (choice : Choice) : Prop :=
  (∃ refusal, choice.complaint? = some refusal ∧ options.choose choice = .error refusal) ∨
    choice.complaint? = none ∧ ∃ options', options.choose choice = .ok options' ∧
      ∀ rest, options'.described rest = options.described (choice :: rest)

/-- A choice whose value has to be read. -/
theorem chooseCases_of_read {α : Type} {options : Options} {choice : Choice} {read? : Option α}
    {refusal : Refusal} {update : α → Options}
    (hcomplaint : choice.complaint? = if read?.isNone then some refusal else none)
    (hchoose : options.choose choice = (read?.elim (.error refusal) Except.ok).map update)
    (hdescribed : ∀ number, read? = some number → ∀ rest,
      (update number).described rest = options.described (choice :: rest)) :
    ChooseCases options choice := by
  cases read? with
  | none => exact .inl ⟨refusal, hcomplaint, hchoose⟩
  | some number => exact .inr ⟨hcomplaint, update number, hchoose, hdescribed number rfl⟩

theorem readInt_eq (setting : Setting) (value : String) :
    readInt setting value = (Text.int? value).elim (.error (.notAnInteger setting value)) .ok := by
  rw [readInt]
  cases Text.int? value <;> rfl

theorem readNumber_eq (setting : Setting) (value : String) :
    readNumber setting value =
      (Text.binary64? value).elim (.error (.notANumber setting value)) .ok := by
  rw [readNumber]
  cases Text.binary64? value <;> rfl

theorem chooseCases (options : Options) (choice : Choice) : ChooseCases options choice := by
  match choice with
  | .verbose => exact .inr ⟨rfl, _, rfl, fun rest => by simp [described]⟩
  | .assign ⟨.host, _, value, hvalue⟩ =>
      refine .inr ⟨rfl, _, if_neg hvalue, fun rest => ?_⟩
      cases hlast : lastValue? .host rest <;> simp [described, hlast]
  | .assign ⟨.port, _, value, hvalue⟩ =>
      refine chooseCases_of_read rfl
        ((if_neg hvalue).trans (congrArg _ (readInt_eq .port value))) fun number hread rest => ?_
      cases hlast : lastValue? .port rest <;> simp [described, hlast, hread]
  | .assign ⟨.maxAge, _, value, hvalue⟩ =>
      refine chooseCases_of_read rfl
        ((if_neg hvalue).trans (congrArg _ (readNumber_eq .maxAge value)))
        fun number hread rest => ?_
      cases hlast : lastValue? .maxAge rest <;> simp [described, hlast, hread]
  | .assign ⟨.duration, _, value, hvalue⟩ =>
      refine chooseCases_of_read rfl
        ((if_neg hvalue).trans (congrArg _ (readNumber_eq .duration value)))
        fun number hread rest => ?_
      cases hlast : lastValue? .duration rest <;> simp [described, hlast, hread]

/-- Carrying out choices one after the other gives what they come to. -/
theorem foldlM_choose (options : Options) (choices : List Choice) :
    choices.foldlM choose options = options.answerFrom choices := by
  induction choices generalizing options with
  | nil => exact congrArg Except.ok (described_nil options).symm
  | cons choice rest ih =>
      rw [List.foldlM_cons, answerFrom, List.findSome?_cons]
      rcases options.chooseCases choice with ⟨refusal, hcomplaint, herror⟩ |
        ⟨hcomplaint, options', hok, hrest⟩
      · rw [herror, hcomplaint]
        rfl
      · rw [hok, hcomplaint, ← hrest]
        exact ih options'

theorem answer_ne_helpWanted (choices : List Choice) : answer choices ≠ .error .helpWanted := by
  intro h
  rw [answer, answerFrom] at h
  split at h
  · next hcomplaint =>
      cases h
      obtain ⟨choice, -, hhelp⟩ := List.exists_of_findSome?_eq_some hcomplaint
      exact choice.complaint?_ne hhelp
  · cases h

end Options

/-- Every refusal but a wish for help is one of usage. -/
theorem report_of_ne_helpWanted {refusal : Refusal} (h : refusal ≠ .helpWanted) :
    refusal.exitCode = 2 ∧ refusal.output = "" ∧
      refusal.errorOutput = usage ++ "udp_watch: error: " ++ refusal.message ++ "\n" := by
  cases refusal with
  | helpWanted => exact absurd rfl h
  | _ => exact ⟨rfl, rfl, rfl⟩

/-! ## Plain spellings -/

theorem Setting.names_longName (setting : Setting) :
    setting.Names ("--" ++ setting.longName) setting.longName.toList where
  ne_nil := by cases setting <;> decide
  isPrefix := List.prefix_rfl
  option_eq := by rw [String.ofList_toList]

theorem Choice.spells_plain (choice : Choice) : Spells [choice] [choice.plain] := by
  cases choice with
  | assign assignment => exact .named assignment.setting.names_longName
  | verbose => exact .verbose Setting.verbose.names_longName

theorem spellsAll_plain (choices : List Choice) : SpellsAll choices (choices.map Choice.plain) := by
  induction choices with
  | nil => exact .nil
  | cons choice rest ih => exact .append choice.spells_plain ih

/-- Choices that are added to an accepted command line are carried out on the options of the
line. -/
theorem Options.parse_append_spelled {arguments more : List String} {options : Options}
    {choices : List Choice} (h : parse arguments = .ok options) (hmore : SpellsAll choices more) :
    parse (arguments ++ more) = options.answerFrom choices := by
  rw [parse_append h, hmore.carriesOut.carryOut_eq, foldlM_choose]

theorem Options.parse_nil : parse [] = .ok {} := rfl

/-- A duration that is added to an accepted command line is that of the watch. -/
theorem Options.parse_append_duration {arguments : List String} {options : Options}
    (h : parse arguments = .ok options) {value : String} {duration : Binary64}
    (hvalue : Text.binary64? value = some duration) :
    parse (arguments ++ ["--duration=" ++ value]) =
      .ok { options with duration := .seconds duration } := by
  have hvoid : value ≠ noValue := by
    rintro rfl
    cases hvalue
  have hspelled : SpellsAll [.assign ⟨.duration, rfl, value, hvoid⟩] ["--duration=" ++ value] :=
    spellsAll_plain [.assign ⟨.duration, rfl, value, hvoid⟩]
  rw [parse_append_spelled h hspelled, ← foldlM_choose]
  show (options.assign .duration value >>= Except.ok) = _
  rw [assign, if_neg hvoid, readNumber, hvalue]
  rfl

/-- However choices are spelled, the options are what the choices come to: the last value of each
setting or its default, or a refusal of the first value that cannot be read. So the plain spelling
has the same options, and the command does the same with it. -/
theorem parse_spelled {choices : List Choice} {arguments : List String}
    (h : SpellsAll choices arguments) :
    Options.parse arguments = Options.answer choices ∧
      Options.parse (choices.map Choice.plain) = Options.parse arguments ∧
      ∀ traffic, rehearse (choices.map Choice.plain) traffic = rehearse arguments traffic ∧
        ∀ refusal, Options.answer choices = .error refusal →
          rehearse arguments traffic =
            ⟨.exit 2, "", usage ++ "udp_watch: error: " ++ refusal.message ++ "\n", []⟩ := by
  have hparse : ∀ {arguments}, SpellsAll choices arguments →
      Options.parse arguments = Options.answer choices :=
    fun h => Options.parse_append_spelled Options.parse_nil h
  have hplain := hparse (spellsAll_plain choices)
  refine ⟨hparse h, hplain.trans (hparse h).symm, fun traffic => ⟨?_, fun refusal hrefusal => ?_⟩⟩
  · rw [rehearse, rehearse, hplain, hparse h]
  · have hne : refusal ≠ .helpWanted := by
      rintro rfl
      exact Options.answer_ne_helpWanted choices hrefusal
    obtain ⟨hcode, houtput, herror⟩ := report_of_ne_helpWanted hne
    rw [rehearse, hparse h, hrefusal, ← hcode, ← houtput, ← herror]

/-- The letter of the verbose mode in front of a port, then a name that is cut short; and a name
that is cut short with no number behind it, then the port by its letter. -/
theorem parse_bundle_and_beginnings :
    let port : Assignment := ⟨.port, rfl, "5", by decide⟩
    let host : Assignment := ⟨.host, rfl, "x=", by decide⟩
    let maxAge : Assignment := ⟨.maxAge, rfl, "soon", by decide⟩
    SpellsAll [.verbose, .assign port, .assign host] ["-vp5", "--b", "x="] ∧
      Options.parse ["-vp5", "--b", "x="] =
        .ok { port := some 5, host := some "x=", verbose := true } ∧
      SpellsAll [.assign maxAge, .assign port] ["--max=soon", "-p", "5"] ∧
      Options.parse ["--max=soon", "-p", "5"] = .error (.notANumber .maxAge "soon") := by
  intro port host maxAge
  have hbundle : Spells [.verbose, .assign port] ["-vp5"] :=
    @Spells.attached port 'p' 1 rfl (by decide) (by decide)
  have hbind : Spells [.assign host] ["--b", "x="] :=
    @Spells.namedApart host "--b" ['b'] ⟨by decide, by decide, by decide⟩ (by decide)
  have hmax : Spells [.assign maxAge] ["--max=soon"] :=
    @Spells.named maxAge "--max" ['m', 'a', 'x'] ⟨by decide, by decide, by decide⟩
  have hport : Spells [.assign port] ["-p", "5"] := @Spells.letteredApart port 'p' rfl (by decide)
  have hread : SpellsAll [.verbose, .assign port, .assign host] ["-vp5", "--b", "x="] :=
    .append hbundle (.append hbind .nil)
  have hrefused : SpellsAll [.assign maxAge, .assign port] ["--max=soon", "-p", "5"] :=
    .append hmax (.append hport .nil)
  refine ⟨hread, (parse_spelled hread).1.trans ?_, hrefused, (parse_spelled hrefused).1.trans ?_⟩
  · decide +kernel
  · decide +kernel

end Heartbeat.Watch

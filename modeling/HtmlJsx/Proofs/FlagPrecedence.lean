import HtmlJsx.Command.Run
import HtmlJsx.Proofs.Outcome

/-!
# Flags over configuration

A flag replaces an entry of the configuration, so a run should not depend on
the entry that is replaced.  For the backend this holds.  For the indent unit
it does not: a number of spaces in the configuration is checked before the
flags are looked at.  Two runs whose configurations differ in nothing else
come out alike exactly if the first problem with a number of spaces is the
same in both, where the configured number comes before that of the flag.
-/

namespace HtmlJsx

open Outcome

/-! ## The configuration of a run -/

/-- The configuration that counts in a run, before the flags. -/
def Surroundings.configuration (surroundings : Surroundings) (arguments : Arguments) :
    Except Problem Configuration :=
  if arguments.noConfig then
    .ok []
  else
    (Configuration.choose surroundings.volume surroundings.folder arguments.config
      surroundings.configVariable surroundings.folder).outcome

theorem Surroundings.outcome_options (surroundings : Surroundings) (arguments : Arguments) :
    (surroundings.options arguments).outcome =
      surroundings.configuration arguments >>= arguments.options.mergeInto := by
  rw [options, configuration]
  split
  · rfl
  · rfl

/-- Two configurations agree on every key but one name. -/
def Configuration.AgreeBeyond (name : Text) (left right : Configuration) : Prop :=
  ∀ key : Value, key ≠ .text name → Value.find? left key = Value.find? right key

namespace OptionFlags

/-- Whether flags give the indent unit. -/
def GivesIndent (flags : OptionFlags) : Prop :=
  flags.tabs = true ∨ flags.indent.isSome = true

/-! ## What is wrong with a number of spaces -/

/-- What is wrong with a number of spaces: too few, too many to count, or too many to hold. -/
def countProblem? (count : Int) : Option Problem :=
  if count < 1 then some (.indentTooSmall count)
  else if Text.countLimit ≤ count then some (.fault .range)
  else if Text.memoryLimit ≤ count then some (.fault .memory)
  else none

/-- What is wrong with a value as a number of spaces; nothing if it is no number. -/
def valueProblem? : Option Value → Option Problem
  | some (.int count) => countProblem? count
  | _ => none

/-- What is wrong with the number of spaces in a configuration. -/
def configuredProblem? (configuration : Configuration) : Option Problem :=
  valueProblem? (Value.find? configuration (.text Problem.indentOption))

/-- What is wrong with the number of spaces that flags give; tabs come before it. -/
def flagProblem? (flags : OptionFlags) : Option Problem :=
  if flags.tabs then none else valueProblem? flags.indent

/-- The first problem with a number of spaces, the configured one before that of the flag. -/
def spacesProblem? (flags : OptionFlags) (configuration : Configuration) : Option Problem :=
  (configuredProblem? configuration).or flags.flagProblem?

/-- Whether a problem is one of a number of spaces. -/
def IsOfCount (problem : Problem) : Prop :=
  ∃ count, countProblem? count = some problem

theorem copiesFault?_space (count : Int) :
    Text.copiesFault? count [' '] =
      if Text.countLimit ≤ count then some .range
      else if Text.memoryLimit ≤ count then some .memory
      else none := by
  have one : count * ([' '] : Text).length = count := Int.mul_one count
  simp only [Text.copiesFault?, one, or_self]

theorem error?_spaces (count : Int) : error? (spaces count) = countProblem? count := by
  rw [spaces, countProblem?, copiesFault?_space]
  split
  · rfl
  · by_cases uncounted : Text.countLimit ≤ count
    · simp only [if_pos uncounted, error?]
    · by_cases unheld : Text.memoryLimit ≤ count
      · simp only [if_neg uncounted, if_pos unheld, error?]
      · simp only [if_neg uncounted, if_neg unheld, error?]

theorem error?_indentUnit (value : Value) :
    error? (indentUnit value) = valueProblem? (some value) := by
  cases value with
  | int count => exact error?_spaces count
  | _ => rfl

theorem error?_configuredIndent (configuration : Configuration) :
    error? (configuredIndent configuration) = configuredProblem? configuration := by
  rw [configuredIndent, configuredProblem?]
  split
  · next value found => rw [error?_map, error?_indentUnit, found]
  · next absent =>
    rw [absent]
    rfl

theorem error?_chosenIndent (flags : OptionFlags) (configured : Option Value) :
    error? (flags.chosenIndent configured) = flags.flagProblem? := by
  rw [chosenIndent, flagProblem?]
  split
  · rfl
  · split
    · next value given => rw [error?_map, error?_indentUnit, given]
    · next absent =>
      rw [absent]
      rfl

theorem isOfCount_of_valueProblem? {value : Option Value} {problem : Problem}
    (wrong : valueProblem? value = some problem) : IsOfCount problem := by
  unfold valueProblem? at wrong
  split at wrong
  · next count => exact ⟨count, wrong⟩
  · cases wrong

theorem IsOfCount.cases {problem : Problem} (ofCount : IsOfCount problem) :
    (∃ count, problem = .indentTooSmall count) ∨ ∃ fault, problem = .fault fault := by
  obtain ⟨count, wrong⟩ := ofCount
  rw [countProblem?] at wrong
  split at wrong
  · cases wrong
    exact .inl ⟨count, rfl⟩
  · split at wrong
    · cases wrong
      exact .inr ⟨_, rfl⟩
    · split at wrong
      · cases wrong
        exact .inr ⟨_, rfl⟩
      · cases wrong

/-! ## Problems that are found later -/

/-- The check of options finds no problem of a number of spaces. -/
theorem not_isOfCount_of_check {indent backend : Value} {problem : Problem}
    (failed : Options.check indent backend = .error problem) : ¬ IsOfCount problem := by
  intro ofCount
  unfold Options.check at failed
  rcases ofCount.cases with ⟨count, rfl⟩ | ⟨fault, rfl⟩
  all_goals
    split at failed
    · split at failed
      · split at failed
        · split at failed <;> cases failed
        · cases failed
      · cases failed
    · cases failed

/-- The options of flags that give the indent unit, over a backend. -/
def settled (flags : OptionFlags) (backend : Option Value) : Except Problem Options := do
  let indent ← flags.chosenIndent none
  Options.ofConfiguration
    (entry Problem.indentOption indent ++ entry Problem.backendOption backend)

/-- The problems of a number of spaces in settled options are those of the flag. -/
theorem settled_eq_error_iff {flags : OptionFlags} {backend : Option Value} {problem : Problem}
    (ofCount : IsOfCount problem) :
    flags.settled backend = .error problem ↔ flags.flagProblem? = some problem := by
  rw [← error?_chosenIndent flags none, settled]
  cases flags.chosenIndent none with
  | error other =>
    constructor
    · rintro ⟨⟩
      rfl
    · rintro ⟨⟩
      rfl
  | ok indent =>
    constructor
    · intro failed
      exact absurd ofCount (not_isOfCount_of_check failed)
    · nofun

/-! ## Two configurations -/

variable {flags : OptionFlags} {left right : Configuration}

theorem chosenIndent_of_givesIndent (given : flags.GivesIndent) (configured : Option Value) :
    flags.chosenIndent configured = flags.chosenIndent none := by
  rw [chosenIndent, chosenIndent]
  split
  · rfl
  · next noTabs =>
    rcases given with tabs | some
    · exact absurd tabs noTabs
    · obtain ⟨value, found⟩ := Option.isSome_iff_exists.mp some
      rw [found]

/-- If flags give the indent unit, the configured one is checked and not used. -/
theorem mergeInto_of_givesIndent (given : flags.GivesIndent) (configuration : Configuration) :
    flags.mergeInto configuration =
      configuredIndent configuration >>= fun _ =>
        flags.settled (flags.chosenBackend configuration) := by
  rw [mergeInto]
  apply congrArg
  funext configured
  rw [chosenIndent_of_givesIndent given]
  rfl

theorem backendOption_ne_indentOption :
    Value.text Problem.backendOption ≠ .text Problem.indentOption := by
  intro same
  have names : Problem.backendOption ≠ Problem.indentOption := by decide
  exact names (Value.text.inj same)

theorem chosenBackend_of_agreeBeyond (agree : left.AgreeBeyond Problem.indentOption right) :
    flags.chosenBackend left = flags.chosenBackend right := by
  rw [chosenBackend, chosenBackend, agree _ backendOption_ne_indentOption]

/-- What two runs show of a configured indent unit that flags replace. -/
theorem mergeInto_eq_iff_of_givesIndent (given : flags.GivesIndent)
    (agree : left.AgreeBeyond Problem.indentOption right) :
    flags.mergeInto left = flags.mergeInto right ↔
      flags.spacesProblem? left = flags.spacesProblem? right := by
  have ofCount : ∀ {configuration problem},
      configuredIndent configuration = .error problem → IsOfCount problem := by
    intro configuration problem failed
    have wrong := error?_eq_some_iff.mpr failed
    rw [error?_configuredIndent] at wrong
    exact isOfCount_of_valueProblem? wrong
  rw [mergeInto_of_givesIndent given, mergeInto_of_givesIndent given,
    chosenBackend_of_agreeBeyond agree, spacesProblem?, spacesProblem?,
    ← error?_configuredIndent, ← error?_configuredIndent]
  -- A side whose configured unit is harmless fails as the other does only because of the flag.
  cases leftEnd : configuredIndent left with
  | ok leftUnit =>
    cases rightEnd : configuredIndent right with
    | ok rightUnit => exact ⟨fun _ => rfl, fun _ => rfl⟩
    | error problem => exact settled_eq_error_iff (ofCount rightEnd)
  | error problem =>
    cases rightEnd : configuredIndent right with
    | ok rightUnit =>
      exact eq_comm.trans ((settled_eq_error_iff (ofCount leftEnd)).trans eq_comm)
    | error other =>
      constructor
      · rintro ⟨⟩
        rfl
      · rintro ⟨⟩
        rfl

/-- Nothing is left of a configured backend that a flag replaces. -/
theorem mergeInto_eq_of_backend (given : flags.backend.isSome = true)
    (agree : left.AgreeBeyond Problem.backendOption right) :
    flags.mergeInto left = flags.mergeInto right := by
  obtain ⟨backend, found⟩ := Option.isSome_iff_exists.mp given
  rw [mergeInto, mergeInto, configuredIndent, configuredIndent,
    agree _ backendOption_ne_indentOption.symm]
  simp only [chosenBackend, found]

end OptionFlags

/--
Two runs on configurations that differ in nothing but an entry that flags
replace: for the backend they have one outcome, for the indent unit exactly
if the first problem with a number of spaces is the same in both.
-/
theorem Surroundings.options_eq_iff_of_flags {here there : Surroundings} {arguments : Arguments}
    {left right : Configuration} (loaded : here.configuration arguments = .ok left)
    (reloaded : there.configuration arguments = .ok right) :
    (arguments.options.GivesIndent → left.AgreeBeyond Problem.indentOption right →
      ((here.options arguments).outcome = (there.options arguments).outcome ↔
        arguments.options.spacesProblem? left = arguments.options.spacesProblem? right)) ∧
    (arguments.options.backend.isSome = true → left.AgreeBeyond Problem.backendOption right →
      (here.options arguments).outcome = (there.options arguments).outcome) := by
  rw [outcome_options, outcome_options, loaded, reloaded]
  exact ⟨OptionFlags.mergeInto_eq_iff_of_givesIndent, OptionFlags.mergeInto_eq_of_backend⟩

/-! ## Runs with configurations of one number -/

namespace Surroundings

/-- Surroundings with one configuration file. -/
def withConfiguration (content : String) : Surroundings where
  volume := ({} : Volume).setContent [".html2jsx.toml".toList]
    (content.toList.map fun c => .ofNat c.toNat)
  folder := []

/-- Whether a configuration has been loaded whose only entry is a number. -/
def isNumber (name : Text) (number : Int) : Except Problem Configuration → Bool
  | .ok [(.text key, .int given)] => key == name && given == number
  | _ => false

theorem eq_of_isNumber {name : Text} {number : Int} {result : Except Problem Configuration}
    (single : isNumber name number result = true) : result = .ok [(.text name, .int number)] := by
  unfold isNumber at single
  split at single
  · simp only [Bool.and_eq_true, beq_iff_eq] at single
    rw [single.1, single.2]
  · cases single

theorem agreeBeyond_single (name : Text) (left right : Value) :
    Configuration.AgreeBeyond name [(.text name, left)] [(.text name, right)] := by
  intro key other
  have apart : Value.sameKey (.text name) key = false := by
    cases key with
    | text written =>
      simp only [Value.sameKey, beq_eq_false_iff_ne]
      rintro rfl
      exact other rfl
    | _ => rfl
  simp [Value.find?, apart]

/-- Flags for tabs and for the backend. -/
def bothFlags : Arguments := { options := { tabs := true, backend := some .builtIn } }

/-- Two harmless numbers of spaces, and two numbers that are no backends. -/
theorem options_eq_of_bothFlags :
    ((withConfiguration "indent = 2\n").options bothFlags).outcome =
        ((withConfiguration "indent = 8\n").options bothFlags).outcome ∧
      ((withConfiguration "parser = 7\n").options bothFlags).outcome =
        ((withConfiguration "parser = 8\n").options bothFlags).outcome := by
  have two := @eq_of_isNumber Problem.indentOption 2
    ((withConfiguration "indent = 2\n").configuration bothFlags) (by decide +kernel)
  have eight := @eq_of_isNumber Problem.indentOption 8
    ((withConfiguration "indent = 8\n").configuration bothFlags) (by decide +kernel)
  have first := @eq_of_isNumber Problem.backendOption 7
    ((withConfiguration "parser = 7\n").configuration bothFlags) (by decide +kernel)
  have second := @eq_of_isNumber Problem.backendOption 8
    ((withConfiguration "parser = 8\n").configuration bothFlags) (by decide +kernel)
  exact ⟨((options_eq_iff_of_flags two eight).1 (.inl rfl) (agreeBeyond_single _ _ _)).mpr rfl,
    (options_eq_iff_of_flags first second).2 rfl (agreeBeyond_single _ _ _)⟩

/-- No spaces at all are refused although there are tabs instead. -/
theorem options_ne_of_noSpaces :
    (withConfiguration "indent = 0\n").configuration bothFlags =
        .ok [(.text Problem.indentOption, .int 0)] ∧
      (withConfiguration "indent = 8\n").configuration bothFlags =
        .ok [(.text Problem.indentOption, .int 8)] ∧
      ((withConfiguration "indent = 0\n").options bothFlags).outcome ≠
        ((withConfiguration "indent = 8\n").options bothFlags).outcome := by
  have zero := @eq_of_isNumber Problem.indentOption 0
    ((withConfiguration "indent = 0\n").configuration bothFlags) (by decide +kernel)
  have eight := @eq_of_isNumber Problem.indentOption 8
    ((withConfiguration "indent = 8\n").configuration bothFlags) (by decide +kernel)
  refine ⟨zero, eight, ?_⟩
  rw [outcome_options, outcome_options, zero, eight]
  intro same
  have failed : error? (bothFlags.options.mergeInto [(.text Problem.indentOption, .int 8)]) =
      some (.indentTooSmall 0) := (congrArg error? same).symm
  cases failed

end Surroundings

end HtmlJsx

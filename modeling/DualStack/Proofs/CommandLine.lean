import DualStack.Command.Arguments
import DualStack.Proofs.Store

/-!
# What the words of a command line spell

The reader of a command line keeps one option waiting for its value and looks at the value only
with the next option. Here the words are described without a reader. An option is spelled by one
word or, if it takes a value, also by two; a line is accepted only if the options of the tool are
spelled before the command and those of the command behind it, none twice and each with a value that
it takes. The invariant is that the words read so far spell what has been given, and behind that the
option that waits.
-/

set_option autoImplicit false

namespace DualStack

namespace Grammar

/-! ## Spelling -/

/-- The words that an option is written as, with its name and its value. -/
inductive Spelling (options : List OptionSpec) : List String → String × String → Prop where
  | switch {spec : OptionSpec} (hspec : spec ∈ options) (heffect : spec.effect = .switch) :
    Spelling options ["--" ++ spec.name] (spec.name, "true")
  | attached {spec : OptionSpec} {rule : ValueRule} {value : String} (hspec : spec ∈ options)
    (heffect : spec.effect = .value rule) (hvalue : rule.fault? value = none) :
    Spelling options ["--" ++ spec.name ++ "=" ++ value] (spec.name, value)
  | separate {spec : OptionSpec} {rule : ValueRule} {value : String} (hspec : spec ∈ options)
    (heffect : spec.effect = .value rule) (hvalue : rule.fault? value = none)
    (hplain : Word.of value = .plain value) :
    Spelling options ["--" ++ spec.name, value] (spec.name, value)

/-- The words that options are written as, one after another and none of them twice. -/
inductive Spells (options : List OptionSpec) : List String → Given → Prop where
  | nil : Spells options [] []
  | snoc {words written : List String} {given : Given} {pair : String × String}
    (before : Spells options words given) (hnew : given.has pair.1 = false)
    (last : Spelling options written pair) : Spells options (words ++ written) (given ++ [pair])

/-- Words that call a command with options of its own: the options of the tool come first, and two
dashes may stand at the end. -/
def Calls (words : List String) (command : String) (options : List OptionSpec)
    (given : Given) : Prop :=
  ∃ front tool body, Spells Invocation.toolOptions front tool ∧ Spells options body given ∧
    (words = front ++ command :: body ∨ words = front ++ command :: (body ++ ["--"]))

/-- The options that have a letter only ask for something else to be shown. -/
def LettersStop (options : List OptionSpec) : Prop :=
  ∀ spec ∈ options, ∀ letter, spec.letter = some letter → ∃ usage, spec.effect = .stop usage

variable {options : List OptionSpec}

/-- What is spelled is an option of the level, with a value that it takes. -/
theorem Spelling.taken {written : List String} {pair : String × String}
    (h : Spelling options written pair) : ∃ spec ∈ options, spec.name = pair.1 ∧
      ∀ rule, spec.effect = .value rule → rule.fault? pair.2 = none := by
  cases h with
  | switch hspec heffect => exact ⟨_, hspec, rfl, by simp [heffect]⟩
  | attached hspec heffect hvalue => exact ⟨_, hspec, rfl, by simp [heffect, hvalue]⟩
  | separate hspec heffect hvalue => exact ⟨_, hspec, rfl, by simp [heffect, hvalue]⟩

/-- A value that is found was given under this name. -/
theorem Given.mem_of_value? {given : Given} {name value : String}
    (h : given.value? name = some value) : (name, value) ∈ given := by
  obtain ⟨⟨found, _⟩, hfind, rfl⟩ := Option.map_eq_some_iff.1 h
  obtain rfl : found = name := by simpa using List.find?_some hfind
  exact List.mem_of_find?_eq_some hfind

/-- A value that was given is one that its option takes. -/
theorem Spells.taken {words : List String} {given : Given} (h : Spells options words given)
    {name value : String} (hvalue : given.value? name = some value) :
    ∃ spec ∈ options, spec.name = name ∧
      ∀ rule, spec.effect = .value rule → rule.fault? value = none := by
  have hmem := Given.mem_of_value? hvalue
  clear hvalue
  induction h with
  | nil => cases hmem
  | snoc before hnew last ih =>
    rcases List.mem_append.1 hmem with hbefore | hlast
    · exact ih hbefore
    · obtain rfl := List.mem_singleton.1 hlast
      exact last.taken

/-! ## Words -/

namespace Word

/-- Only two dashes end the options. -/
theorem eq_of_endOfOptions {s : String} (h : Word.of s = .endOfOptions) : s = "--" := by
  unfold Word.of at h
  split at h
  · next heq => exact String.toList_injective heq
  · split at h <;> cases h
  · cases h
  · cases h

/-- A word in long form is two dashes, a name and possibly an attached value. -/
theorem eq_of_long {s name : String} {value : Option String} (h : Word.of s = .long name value) :
    s = "--" ++ name ++ (value.map ("=" ++ ·)).getD "" := by
  unfold Word.of at h
  split at h
  · cases h
  · next rest _ heq =>
    apply String.toList_injective
    split at h
    · next left right hcut =>
      cases h
      simp [heq, (Text.cutFirst_eq_some_iff.1 hcut).1]
    · cases h
      simp [heq]
  · cases h
  · cases h

/-- A plain word is its own text. -/
theorem eq_of_plain {s text : String} (h : Word.of s = .plain text) : text = s := by
  unfold Word.of at h
  split at h
  · cases h
  · split at h <;> cases h
  · cases h
  · cases h
    rfl

end Word

/-! ## One word -/

/-- What has been read: the words spell the options given, and an option that waits stands behind
them with the word that has been taken for its value. -/
inductive Reads (options : List OptionSpec) : List String → Progress → Prop where
  | settled {words : List String} {given : Given} (h : Spells options words given) :
    Reads options words ⟨given, none⟩
  | waiting {words : List String} {given : Given} {spec : OptionSpec} {rule : ValueRule}
    (value : Option String) (h : Spells options words given) (hspec : spec ∈ options)
    (heffect : spec.effect = .value rule) (hplain : ∀ text ∈ value, Word.of text = .plain text) :
    Reads options (words ++ ("--" ++ spec.name) :: value.toList) ⟨given, some (spec, value)⟩

/-- An option that is accepted was not given before, has a value that it takes, and is noted behind
the others. -/
theorem Progress.of_accept_eq_ok {progress progress' : Progress} {spec : OptionSpec}
    {value : String} (h : progress.accept spec value = .ok progress') :
    progress.given.has spec.name = false ∧
      (∀ rule, spec.effect = .value rule → rule.fault? value = none) ∧
      progress' = { progress with given := progress.given ++ [(spec.name, value)] } := by
  unfold accept at h
  split at h
  · cases h
  · next hnew =>
    refine ⟨by simpa using hnew, ?_⟩
    cases heffect : spec.effect with
    | value rule =>
      simp only [heffect] at h
      cases hfault : rule.fault? value with
      | some usage => simp [hfault] at h
      | none =>
        rw [hfault] at h
        refine ⟨?_, (Except.ok.inj h).symm⟩
        rintro _ ⟨⟩
        exact hfault
    | switch =>
      rw [heffect] at h
      exact ⟨nofun, (Except.ok.inj h).symm⟩
    | stop usage =>
      rw [heffect] at h
      exact ⟨nofun, (Except.ok.inj h).symm⟩

namespace Reads

variable {words : List String} {progress progress' : Progress}

/-- Looking at the value that was put off leaves nothing waiting. -/
theorem settle (h : Reads options words progress) (hsettle : progress.settle = .ok progress') :
    ∃ given, progress' = ⟨given, none⟩ ∧ Spells options words given := by
  cases h with
  | settled h => exact ⟨_, (Except.ok.inj hsettle).symm, h⟩
  | waiting value h hspec heffect hplain =>
    cases value with
    | none => cases hsettle
    | some text =>
      obtain ⟨hnew, htakes, rfl⟩ := Progress.of_accept_eq_ok hsettle
      exact ⟨_, rfl, .snoc h hnew (.separate hspec heffect (htakes _ heffect) (hplain _ rfl))⟩

/-- A word with the name of an option keeps the invariant: a switch is given at once, and an option
with a value waits. -/
theorem option (h : Reads options words progress) {spec : OptionSpec} (hspec : spec ∈ options)
    (hread : progress.option spec = .ok progress') :
    Reads options (words ++ ["--" ++ spec.name]) progress' := by
  obtain ⟨settled, hsettle, hread⟩ := exists_of_bind_eq_ok hread
  obtain ⟨given, rfl, h⟩ := h.settle hsettle
  cases heffect : spec.effect with
  | switch =>
    rw [heffect] at hread
    obtain ⟨hnew, -, rfl⟩ := Progress.of_accept_eq_ok hread
    exact .settled (h.snoc hnew (.switch hspec heffect))
  | value rule =>
    rw [heffect] at hread
    cases hread
    exact .waiting none h hspec heffect (by simp)
  | stop usage =>
    rw [heffect] at hread
    cases hread

/-- A word with an attached value keeps the invariant: the option is given with this value. -/
theorem attached (h : Reads options words progress) {spec : OptionSpec} (hspec : spec ∈ options)
    {value : String} (hread : progress.attached spec value = .ok progress') :
    Reads options (words ++ ["--" ++ spec.name ++ "=" ++ value]) progress' := by
  unfold Progress.attached at hread
  cases heffect : spec.effect with
  | value rule =>
    rw [heffect] at hread
    obtain ⟨settled, hsettle, hread⟩ := exists_of_bind_eq_ok hread
    obtain ⟨given, rfl, h⟩ := h.settle hsettle
    obtain ⟨hnew, htakes, rfl⟩ := Progress.of_accept_eq_ok hread
    exact .settled (h.snoc hnew (.attached hspec heffect (htakes rule heffect)))
  | switch =>
    rw [heffect] at hread
    cases hread
  | stop usage =>
    rw [heffect] at hread
    cases hread

/-- A word that is read as an option or a value stands behind the words read before. -/
theorem step (hletters : LettersStop options) (h : Reads options words progress) {s : String}
    (hread : progress.read? options (Word.of s) = .ok (some progress')) :
    Reads options (words ++ [s]) progress' := by
  cases hword : Word.of s with
  | endOfOptions =>
    rw [hword] at hread
    cases hread
  | long name value =>
    rw [hword] at hread
    simp only [Progress.read?] at hread
    cases hfind : options.find? (·.name == name) with
    | none =>
      rw [hfind] at hread
      cases hread
    | some spec =>
      have hspec := List.mem_of_find?_eq_some hfind
      obtain rfl : spec.name = name := by simpa using List.find?_some hfind
      rw [hfind] at hread
      have hs := Word.eq_of_long hword
      cases value with
      | none =>
        obtain ⟨after, hafter, heq⟩ := exists_of_map_eq_ok hread
        cases heq
        have hname : s = "--" ++ spec.name := by simpa using hs
        rw [hname]
        exact h.option hspec hafter
      | some value =>
        obtain ⟨after, hafter, heq⟩ := exists_of_map_eq_ok hread
        cases heq
        have hname : s = "--" ++ spec.name ++ "=" ++ value := by
          simpa [String.append_assoc] using hs
        rw [hname]
        exact h.attached hspec hafter
  | short letter =>
    rw [hword] at hread
    simp only [Progress.read?] at hread
    cases hfind : options.find? (·.letter == some letter) with
    | none =>
      rw [hfind] at hread
      cases hread
    | some spec =>
      -- The option has a letter, so it stops the reading.
      have hletter : spec.letter = some letter := by simpa using List.find?_some hfind
      obtain ⟨usage, hstop⟩ := hletters spec (List.mem_of_find?_eq_some hfind) letter hletter
      rw [hfind] at hread
      obtain ⟨after, hafter, -⟩ := exists_of_map_eq_ok hread
      obtain ⟨settled, -, hafter⟩ := exists_of_bind_eq_ok hafter
      rw [hstop] at hafter
      cases hafter
  | plain text =>
    rw [hword] at hread
    obtain rfl := Word.eq_of_plain hword
    cases h with
    | settled h => cases hread
    | waiting value h hspec heffect hplain =>
      cases value with
      | some taken => cases hread
      | none =>
        cases hread
        rw [List.append_assoc]
        exact .waiting (some text) h hspec heffect (by simpa using hword)

/-! ## All words -/

/-- The words of a command spell the options that are given, and two dashes may follow. -/
theorem readOptions (hletters : LettersStop options) {rest : List String} {given : Given}
    (h : Reads options words progress)
    (hread : Grammar.readOptions options progress rest = .ok given) :
    ∃ body, (rest = body ∨ rest = body ++ ["--"]) ∧ Spells options (words ++ body) given := by
  -- at the end of the words the value that was put off is looked at
  have hend : ∀ {words progress}, Reads options words progress →
      (do let progress ← progress.settle; pure progress.given) = Except.ok (ε := Usage) given →
      Spells options words given := by
    intro words progress h hsettled
    obtain ⟨settled, hsettle, hgiven⟩ := exists_of_bind_eq_ok hsettled
    obtain ⟨given', rfl, h⟩ := h.settle hsettle
    cases hgiven
    exact h
  induction rest generalizing words progress with
  | nil => exact ⟨[], .inl rfl, by simpa using hend h hread⟩
  | cons s rest ih =>
    unfold Grammar.readOptions at hread
    split at hread
    · next hword =>
      obtain rfl := Word.eq_of_endOfOptions hword
      cases rest with
      | nil => exact ⟨[], .inr rfl, by simpa using hend h hread⟩
      | cons next rest => cases hread
    · obtain ⟨after, hafter, hread⟩ := exists_of_bind_eq_ok hread
      cases after with
      | none => cases hread
      | some after =>
        obtain ⟨body, hrest, hspells⟩ := ih (h.step hletters hafter) hread
        refine ⟨s :: body, ?_, by simpa using hspells⟩
        rcases hrest with rfl | rfl
        · exact .inl rfl
        · exact .inr rfl

/-- The words in front of a command are read as options of the tool. -/
theorem readCommand (hletters : LettersStop options) {commands rest : List String}
    {selection : Selection} (h : Reads options words progress)
    (hread : Grammar.readCommand options commands progress rest = .ok selection) :
    ∃ front, rest = front ++ selection.command :: selection.rest ∧
      Reads options (words ++ front) selection.progress := by
  have hnone : ∀ progress : Progress, noCommand progress ≠ .ok selection := by
    intro progress hselection
    obtain ⟨settled, -, hselection⟩ := exists_of_bind_eq_ok hselection
    cases hselection
  induction rest generalizing words progress with
  | nil => exact absurd hread (hnone progress)
  | cons s rest ih =>
    unfold Grammar.readCommand at hread
    split at hread
    · cases hread
    · split at hread
      · cases hread
        exact ⟨[], rfl, by simpa using h⟩
      · split at hread
        · split at hread
          · exact absurd hread (hnone progress)
          · cases hread
        · obtain ⟨after, hafter, hread⟩ := exists_of_bind_eq_ok hread
          cases after with
          | none => cases hread
          | some after =>
            obtain ⟨front, hrest, hreads⟩ := ih (h.step hletters hafter) hread
            exact ⟨s :: front, by rw [hrest]; rfl, by simpa using hreads⟩

end Reads

end Grammar

/-! ## From words to arguments -/

/-- The name that calls a command. -/
def Command.name : Command → String
  | .global _ => "global"
  | .interface _ => "interface"
  | .congestion _ => "congestion"
  | .stats _ => "stats"
  | .capabilities _ => "capabilities"
  | .validate => "validate"

namespace Invocation

open Grammar

/-- The options of the tool that have a letter ask for help or the version. -/
theorem lettersStop_toolOptions : LettersStop toolOptions := by
  simp [LettersStop, toolOptions, valued, helpOption, versionOption]

/-- The only option of the global command with a letter asks for help. -/
theorem lettersStop_globalOptions : LettersStop globalOptions := by
  simp [LettersStop, globalOptions, switch, valued, helpOption]

/-- The only option of the interface command with a letter asks for help. -/
theorem lettersStop_interfaceOptions : LettersStop interfaceOptions := by
  simp [LettersStop, interfaceOptions, switch, valued, helpOption]

/-- The words in front of a command that is understood are options of the tool. -/
theorem exists_front_of_parse {words : List String} {invocation : Invocation}
    (h : parse words = .ok invocation) :
    ∃ name rest front tool, words = front ++ name :: rest ∧ Spells toolOptions front tool ∧
      commandOf name rest = .ok invocation.command := by
  obtain ⟨selection, hselection, h⟩ := exists_of_bind_eq_ok h
  obtain ⟨command, hcommand, h⟩ := exists_of_bind_eq_ok h
  obtain ⟨settled, hsettle, h⟩ := exists_of_bind_eq_ok h
  cases h
  obtain ⟨front, hwords, hreads⟩ := (Reads.settled .nil).readCommand lettersStop_toolOptions
    hselection
  obtain ⟨tool, -, hspells⟩ := hreads.settle hsettle
  exact ⟨_, _, front, tool, hwords, hspells, hcommand⟩

/-- Words that are read as options behind the name of a command call this command with them. -/
theorem calls_of_readOptions {words front rest : List String} {name : String} {tool given : Given}
    {options : List OptionSpec} (hletters : LettersStop options)
    (hwords : words = front ++ name :: rest) (hfront : Spells toolOptions front tool)
    (hread : readOptions options .start rest = .ok given) : Calls words name options given := by
  obtain ⟨body, hrest, hbody⟩ := (Reads.settled .nil).readOptions hletters hread
  refine ⟨front, tool, body, hfront, hbody, ?_⟩
  rcases hrest with rfl | rfl
  · exact .inl hwords
  · exact .inr hwords

/-- A command is read only from words behind its own name. -/
theorem name_of_commandOf {name : String} {words : List String} {command : Command}
    (h : commandOf name words = .ok command) : name = command.name := by
  unfold commandOf at h
  split at h
  case h_7 => cases h
  all_goals obtain ⟨given, -, h⟩ := exists_of_bind_eq_ok h
  case h_1 | h_3 | h_6 => cases h; rfl
  all_goals
    obtain ⟨interface, -, h⟩ := exists_of_bind_eq_ok h
    cases h
    rfl

/-- The arguments of a global command are those of the options that its words spell. -/
theorem exists_calls_of_global {words : List String} {invocation : Invocation}
    (h : parse words = .ok invocation) {args : GlobalArguments}
    (hargs : invocation.command = .global args) :
    ∃ given, Calls words "global" globalOptions given ∧
      args = ⟨given.has "enable", given.has "ipv4", given.has "ipv6",
        (given.value? "mode").getD "uet", (given.value? "congestion-control").getD "hybrid"⟩ := by
  obtain ⟨name, rest, front, tool, hwords, hfront, hcommand⟩ := exists_front_of_parse h
  rw [hargs] at hcommand
  obtain rfl := name_of_commandOf hcommand
  obtain ⟨given, hgiven, hcommand⟩ := exists_of_bind_eq_ok hcommand
  cases hcommand
  exact ⟨given, calls_of_readOptions lettersStop_globalOptions hwords hfront hgiven, rfl⟩

/-- The interface of a command is the value of the option that must be given. -/
theorem interfaceOf_eq_ok_iff {given : Given} {interface : String} :
    interfaceOf given = .ok interface ↔ given.value? "interface" = some interface := by
  unfold interfaceOf
  cases given.value? "interface" <;> simp

/-- The arguments of an interface command are those of the options that its words spell, and the
interface is one of them. -/
theorem exists_calls_of_interface {words : List String} {invocation : Invocation}
    (h : parse words = .ok invocation) {args : InterfaceArguments}
    (hargs : invocation.command = .interface args) :
    ∃ given, Calls words "interface" interfaceOptions given ∧
      given.value? "interface" = some args.interface ∧
      args = ⟨args.interface, given.has "enable", given.has "ipv4", given.has "ipv6",
        ⟨pathsOf given "max-paths-v4", pathsOf given "max-paths-v6"⟩,
        (given.value? "prefer-version").getD "4"⟩ := by
  obtain ⟨name, rest, front, tool, hwords, hfront, hcommand⟩ := exists_front_of_parse h
  rw [hargs] at hcommand
  obtain rfl := name_of_commandOf hcommand
  obtain ⟨given, hgiven, hcommand⟩ := exists_of_bind_eq_ok hcommand
  obtain ⟨interface, hinterface, hcommand⟩ := exists_of_bind_eq_ok hcommand
  cases hcommand
  exact ⟨given, calls_of_readOptions lettersStop_interfaceOptions hwords hfront hgiven,
    interfaceOf_eq_ok_iff.1 hinterface, rfl⟩

end Invocation

end DualStack

import DualStack.Text.Split
import DualStack.Text.Decimal

/-!
# The grammar of command lines

A command line is a list of words. A level of it (the tool itself, or one of its commands) has
options; an option is a switch or takes a value, attached with an equals sign or as the next
word. Words are read from left to right and the first fault ends the reading, with one
peculiarity: a value given as a word of its own is looked at only when the next option has been
recognised or the words are at an end, so a word that is not understood hides its fault.
-/

set_option autoImplicit false

namespace DualStack

/-- Why a command line is not carried out. -/
inductive Usage where
  /-- Nothing at all was given where a command is required. -/
  | nothingGiven
  /-- Options were given but no command. -/
  | missingCommand
  | help
  | version
  | unknownCommand
  | unknownArgument
  | missingOrUnlistedValue
  | needlessValue
  | repeated
  | badNumber
  | missingOption
deriving DecidableEq, Repr

namespace Grammar

/-- The number of a word: digits with an optional sign and a value below `2 ^ 32`, so that a
minus sign can only stand before zero. -/
def number? (s : String) : Option UInt32 :=
  match s.toList with
  | '-' :: digits => ((Text.digits? digits).filter (· = 0)).map UInt32.ofNat
  | _ => Text.uint32? s

/-- Which values an option takes. -/
inductive ValueRule where
  | anyText
  | someText
  | oneOf (values : List String)
  | number
deriving DecidableEq, Repr

/-- What is wrong with a value. -/
def ValueRule.fault? (value : String) : ValueRule → Option Usage
  | anyText => none
  | someText => if value = "" then some .missingOrUnlistedValue else none
  | oneOf values => if values.contains value then none else some .missingOrUnlistedValue
  | number => if (number? value).isSome then none else some .badNumber

/-- What an option does. -/
inductive Effect where
  | switch
  | value (rule : ValueRule)
  | stop (usage : Usage)
deriving DecidableEq, Repr

/-- An option, given by its long name and, for some, by a letter. -/
structure OptionSpec where
  name : String
  letter : Option Char
  effect : Effect
deriving DecidableEq, Repr

/-- A switch of the given name. -/
def switch (name : String) : OptionSpec := ⟨name, none, .switch⟩

/-- An option of the given name that takes a value. -/
def valued (name : String) (rule : ValueRule) : OptionSpec := ⟨name, none, .value rule⟩

/-- The option that asks for help. -/
def helpOption : OptionSpec := ⟨"help", some 'h', .stop .help⟩

/-- The option that asks for the version. -/
def versionOption : OptionSpec := ⟨"version", some 'V', .stop .version⟩

/-- The options given so far, with their values. -/
abbrev Given := List (String × String)

/-- The value of an option that was given. -/
def Given.value? (given : Given) (name : String) : Option String :=
  (given.find? (·.1 == name)).map (·.2)

/-- Whether a switch was given. -/
def Given.has (given : Given) (name : String) : Bool :=
  (given.value? name).isSome

/-- What has been read at a level. -/
structure Progress where
  given : Given
  /-- The option that was named last without an attached value, and the next word if it has
  been taken as its value. -/
  pending : Option (OptionSpec × Option String)
deriving Repr

/-- Nothing has been read. -/
def Progress.start : Progress := ⟨[], none⟩

/-- Whether the next word may be the value of an option. -/
def Progress.isWaiting (progress : Progress) : Bool :=
  progress.pending.any (·.2.isNone)

/-- Records the value of an option: it must not have been given before, and the value must be
one that the option takes. -/
def Progress.accept (progress : Progress) (spec : OptionSpec) (value : String) :
    Except Usage Progress :=
  if progress.given.has spec.name then .error .repeated
  else
    let fault := match spec.effect with
      | .value rule => rule.fault? value
      | _ => none
    match fault with
    | some usage => .error usage
    | none => .ok { progress with given := progress.given ++ [(spec.name, value)] }

/-- Looks at the option whose value was put off. -/
def Progress.settle (progress : Progress) : Except Usage Progress :=
  match progress.pending with
  | none => .ok progress
  | some (_, none) => .error .missingOrUnlistedValue
  | some (spec, some value) => { progress with pending := none }.accept spec value

/-- Reads an option without an attached value. -/
def Progress.option (progress : Progress) (spec : OptionSpec) : Except Usage Progress := do
  let progress ← progress.settle
  match spec.effect with
  | .switch => progress.accept spec "true"
  | .value _ => pure { progress with pending := some (spec, none) }
  | .stop usage => throw usage

/-- Reads an option with an attached value. -/
def Progress.attached (progress : Progress) (spec : OptionSpec) (value : String) :
    Except Usage Progress :=
  match spec.effect with
  | .value _ => do
    let progress ← progress.settle
    progress.accept spec value
  | _ => .error .needlessValue

/-- The forms of a word. -/
inductive Word where
  /-- Two dashes: no option follows. -/
  | endOfOptions
  | long (name : String) (attached : Option String)
  | short (letter : Char)
  | plain (text : String)
deriving DecidableEq, Repr

/-- The form of a word. -/
def Word.of (s : String) : Word :=
  match s.toList with
  | ['-', '-'] => endOfOptions
  | '-' :: '-' :: rest =>
    match Text.cutFirst '=' rest with
    | some (name, value) => long (String.ofList name) (some (String.ofList value))
    | none => long (String.ofList rest) none
  | '-' :: letter :: _ => short letter
  | _ => plain s

/-- Reads a word that is an option, or else the value that is waited for; nothing if it is
neither. -/
def Progress.read? (progress : Progress) (options : List OptionSpec) (word : Word) :
    Except Usage (Option Progress) :=
  match word with
  | .long name attached =>
    match options.find? (·.name == name) with
    | none => .error .unknownArgument
    | some spec =>
      match attached with
      | none => some <$> progress.option spec
      | some value => some <$> progress.attached spec value
  | .short letter =>
    match options.find? (·.letter == some letter) with
    | none => .error .unknownArgument
    | some spec => some <$> progress.option spec
  | .plain text =>
    match progress.pending with
    | some (spec, none) => .ok (some { progress with pending := some (spec, some text) })
    | _ => .ok none
  | .endOfOptions => .ok none

/-- Reads the words of a command, all of which must be options or their values. -/
def readOptions (options : List OptionSpec) : Progress → List String → Except Usage Given
  | progress, [] => do
    let progress ← progress.settle
    pure progress.given
  | progress, s :: rest =>
    match Word.of s with
    | .endOfOptions => do
      if rest.isEmpty then
        let progress ← progress.settle
        pure progress.given
      else throw .unknownArgument
    | word => do
      match ← progress.read? options word with
      | some progress => readOptions options progress rest
      | none => throw .unknownArgument

/-- What the words of the tool itself lead to: a command with the words behind it. The value that
was put off last is looked at only when the command has been read. -/
structure Selection where
  progress : Progress
  command : String
  rest : List String
deriving Repr

/-- The end of the words without a command. -/
def noCommand {α : Type} (progress : Progress) : Except Usage α := do
  let progress ← progress.settle
  throw (if progress.given.isEmpty then .nothingGiven else .missingCommand)

/-- The words behind `help`: nothing, or one command (`help` itself is one). -/
def helpAbout (commands : List String) : List String → Usage
  | [] => .help
  | [name] => if (commands.contains name || name == "help") then .help else .unknownCommand
  | _ => .unknownCommand

/-- Reads the words of the tool itself up to the command. -/
def readCommand (options : List OptionSpec) (commands : List String) :
    Progress → List String → Except Usage Selection
  | progress, [] => noCommand progress
  | progress, s :: rest =>
    if !progress.isWaiting && s == "help" then .error (helpAbout commands rest)
    else if !progress.isWaiting && commands.contains s then pure ⟨progress, s, rest⟩
    else
      match Word.of s with
      | .endOfOptions =>
        match rest with
        | [] => noCommand progress
        | next :: _ =>
          .error (if commands.contains next || next == "help" then .unknownArgument
            else .unknownCommand)
      | word => do
        match ← progress.read? options word with
        | some progress => readCommand options commands progress rest
        | none => throw .unknownCommand

end Grammar

end DualStack

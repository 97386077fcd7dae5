import SlotServe.Decimal.Numeral
import SlotServe.Settings.Run
import SlotServe.Size
/-! The arguments of the program. They are read from left to right, and the first one that is wrong,
or that asks for help, ends the reading. -/
namespace SlotServe

inductive OptionForm
  | flag
  | size
  /-- A path is not empty. -/
  | path
  | text
  deriving DecidableEq

inductive Usage
  | helpAsked
  | commandMissing
  | unknown (argument : String)
  | valueMissing (option : String)
  | valueRefused (option value : String)
  | repeated (option : String)
  deriving DecidableEq

def Usage.exitCode : Usage → UInt32
  | .helpAsked => 0
  | _ => 2

inductive Argument
  /-- All arguments after this one are values. -/
  | endOfOptions
  | help
  | option (name : String) (value : Option String)
  | other
  deriving DecidableEq

def isDashed (text : String) : Bool :=
  match text.toList with
  | '-' :: _ :: _ => true
  | _ => false

namespace Argument

/-- An option stands after two dashes, its value after the first equals sign. Help has a letter of
its own, and more letters may follow it. -/
def ofText (text : String) : Argument :=
  match text.toList with
  | ['-', '-'] => .endOfOptions
  | '-' :: '-' :: rest =>
    let name := String.ofList (rest.takeWhile (· ≠ '='))
    match rest.dropWhile (· ≠ '=') with
    | [] => if name = "help" then .help else .option name none
    | _ :: value => .option name (some (String.ofList value))
  | '-' :: 'h' :: _ => .help
  | _ => .other

end Argument

def sizeOfText? (text : String) : Option Nat :=
  let digits := match text.toList with
    | '+' :: rest => rest
    | all => all
  if !digits.isEmpty && digits.all Decimal.isDigit && Decimal.value digits < Size.limit then
    some (Decimal.value digits)
  else none

def OptionForm.accepts (form : OptionForm) (value : String) : Bool :=
  match form with
  | .flag | .text => true
  | .size => (sizeOfText? value).isSome
  | .path => value ≠ ""

abbrev Given := List (String × String)

namespace Given

def enter (given : Given) (name : String) (form : OptionForm) (value : String) :
    Except Usage Given :=
  if !form.accepts value then .error (.valueRefused name value)
  else if (given.lookup name).isSome then .error (.repeated name)
  else .ok ((name, value) :: given)

def size? (given : Given) (name : String) : Option Nat := (given.lookup name).bind sizeOfText?

def flag (given : Given) (name : String) : Bool := (given.lookup name).isSome

def read (options : List (String × OptionForm)) :
    Option (String × OptionForm) → List String → Given → Except Usage Given
  | none, [], given => .ok given
  | some (name, _), [], _ => .error (.valueMissing name)
  | some (name, form), text :: rest, given =>
    -- What looks like an option is no value.
    if isDashed text then .error (.valueMissing name)
    else do read options none rest (← given.enter name form text)
  | none, text :: rest, given =>
    match Argument.ofText text with
    | .help => .error .helpAsked
    | .other => .error (.unknown text)
    | .endOfOptions =>
      match rest with
      | [] => .ok given
      | extra :: _ => .error (.unknown extra)
    | .option name value =>
      match options.lookup name, value with
      | none, _ => .error (.unknown text)
      | some .flag, some value => .error (.valueRefused name value)
      | some .flag, none => do read options none rest (← given.enter name .flag "")
      | some form, none => read options (some (name, form)) rest given
      | some form, some value => do read options none rest (← given.enter name form value)

end Given

structure RunArguments where
  config : Option String := none
  overrides : Overrides := {}
  /-- The file that the report goes to. -/
  report : Option String := none
  logLevel : String := "info"

inductive Command
  | run (arguments : RunArguments)
  /-- Write the default settings to a file. -/
  | writeDefaults (output : String)

namespace RunArguments

def options : List (String × OptionForm) :=
  [("config", .path), ("num-requests", .size), ("max-new-tokens", .size), ("prompt-len", .size),
   ("max-concurrent-decodes", .size), ("samples-per-slot", .size), ("chunked-prefill", .flag),
   ("no-warmup", .flag), ("seed", .size), ("report", .path), ("log-level", .text)]

def ofGiven (given : Given) : RunArguments :=
  { config := given.lookup "config"
    overrides :=
      { numRequests := given.size? "num-requests", maxNewTokens := given.size? "max-new-tokens"
        promptLength := given.size? "prompt-len", noWarmUp := given.flag "no-warmup"
        maxConcurrentDecodes := given.size? "max-concurrent-decodes"
        samplesPerSlot := given.size? "samples-per-slot"
        chunkedPrefill := given.flag "chunked-prefill"
        seed := (given.size? "seed").map .ofNat }
    report := given.lookup "report"
    logLevel := (given.lookup "log-level").getD "info" }

end RunArguments

def writeOptions : List (String × OptionForm) := [("output", .path)]

namespace Command

def names : List String := ["run", "init-config", "help"]

def help : List String → Usage
  | [] => .helpAsked
  | topic :: rest =>
    if !names.contains topic then .unknown topic
    else match rest with
      | [] => .helpAsked
      | extra :: _ => .unknown extra

def ofArguments : List String → Except Usage Command
  | [] => .error .commandMissing
  | "run" :: rest => do
    return .run (.ofGiven (← Given.read RunArguments.options none rest []))
  | "init-config" :: rest => do
    let given ← Given.read writeOptions none rest []
    return .writeDefaults ((given.lookup "output").getD "jetstream-driver.toml")
  | "help" :: rest => .error (help rest)
  | first :: rest => do
    let _ ← Given.read [] none (first :: rest) []
    throw .commandMissing

end Command

def OptionForm.hint : OptionForm → String
  | .flag => ""
  | .size => " <size>"
  | .path => " <path>"
  | .text => " <text>"

def commandHelp (command : String) (options : List (String × OptionForm)) : List String :=
  command :: options.map fun option => "  --" ++ option.1 ++ option.2.hint

def helpText : String :=
  "\n".intercalate (commandHelp "run" RunArguments.options ++
    commandHelp "init-config" writeOptions ++ commandHelp "help" [])

def Usage.message : Usage → String
  | .helpAsked => helpText
  | .commandMissing => helpText
  | .unknown argument => s!"unexpected argument {argument}"
  | .valueMissing option => s!"--{option} needs a value"
  | .valueRefused option value => s!"--{option} cannot be {value}"
  | .repeated option => s!"--{option} is given twice"

inductive LogFormat
  | pretty
  | json
  deriving DecidableEq

/-- Only the name of the second form counts, in any mix of small and capital ASCII letters. -/
def LogFormat.ofName (name : String) : LogFormat :=
  if name.toList.map Char.toLower = "json".toList then .json else .pretty

end SlotServe

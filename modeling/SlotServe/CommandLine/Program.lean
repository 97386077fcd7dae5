import SlotServe.CommandLine.Arguments
import SlotServe.Json.Writer
import SlotServe.Serve.Simulation
import SlotServe.Settings.Document
/-! The program: from its arguments to its exit code, over any access to files. -/
namespace SlotServe

structure Surroundings (m : Type → Type) extends FileAccess m where
  /-- A seed for the identifiers of requests. -/
  freshSeed : m UInt64
  /-- Milliseconds since some moment. -/
  clock : m Nat

inductive Ending
  /-- All went well, and this is left to print. -/
  | done (output : Option String)
  | noCommand (usage : Usage)
  | failed (fault : RunFault)
  deriving DecidableEq

namespace Ending

def exitCode : Ending → UInt32
  | .done _ => 0
  | .noCommand usage => usage.exitCode
  | .failed fault => if fault.isDefect then 101 else 1

def error? : Ending → Option String
  | .failed fault => if fault.isDefect then none else some fault.message
  | _ => none

def ofSettings : Except SettingsFault Unit → Ending
  | .ok _ => .done none
  | .error cause => .failed (.settings cause)

end Ending

variable {m : Type → Type} [Monad m]

/-- The settings of a run: those of the file, or the default ones, with what is given in their
place. The file's own values must be in order before anything replaces them. -/
def RunArguments.settings (arguments : RunArguments) (files : FileAccess m) :
    m (Except SettingsFault RunSettings) := do
  let loaded ← match arguments.config with
    | some path => RunSettings.load files path
    | none => pure (.ok {})
  return do
    let settings := (← loaded).merge arguments.overrides
    settings.validate
    return settings

def deliver (files : FileAccess m) (path : Option String) (text : String) : m Ending := do
  match path with
  | none => return .done (some text)
  | some path =>
    return .ofSettings (if ← files.writeText path text then .ok () else .error .inaccessible)

def RunArguments.run (arguments : RunArguments) (around : Surroundings m) : m Ending := do
  match ← arguments.settings around.toFileAccess with
  | .error cause => return .failed (.settings cause)
  | .ok settings =>
    let seed ← around.freshSeed
    let start ← around.clock
    match settings.simulate (randomId seed) with
    | .error fault => return .failed fault
    | .ok report =>
      let elapsed := (← around.clock) - start
      deliver around.toFileAccess arguments.report
        (Json.object (report.members (some elapsed))).text

def runProgram (around : Surroundings m) (arguments : List String) : m Ending := do
  match Command.ofArguments arguments with
  | .error usage => return .noCommand usage
  | .ok (.run arguments) => arguments.run around
  | .ok (.writeDefaults output) =>
    let settings : RunSettings := {}
    return .ofSettings (← settings.save around.toFileAccess output)

end SlotServe

import SlotServe.CommandLine.Program
/-! The program over real files. -/
namespace SlotServe

def succeeds (action : IO Unit) : IO Bool := do
  try
    action
    return true
  catch _ => return false

def directoryOf (path : String) : String :=
  String.ofList (path.toList.reverse.dropWhile (· ≠ '/')).reverse

def diskAccess : FileAccess IO where
  readText path := do
    try return some (← IO.FS.readFile path)
    catch _ => return none
  makeParents path :=
    if directoryOf path = "" then return true
    else succeeds (IO.FS.createDirAll (directoryOf path))
  writeText path text := succeeds (IO.FS.writeFile path text)

def surroundings : Surroundings IO where
  toFileAccess := diskAccess
  freshSeed := do
    let bytes ← IO.getRandomBytes 8
    return .ofNat (bytes.toList.foldl (fun number byte => number * 256 + byte.toNat) 0)
  clock := IO.monoMsNow

end SlotServe

open SlotServe in
def main (arguments : List String) : IO UInt32 := do
  let ending ← runProgram surroundings arguments
  match ending with
  | .done output => output.forM IO.println
  | .noCommand .helpAsked => IO.println helpText
  | .noCommand usage => IO.eprintln usage.message
  | .failed fault => IO.eprintln ("Error: " ++ fault.message)
  return ending.exitCode

import FederatedSearch.Console
import FederatedSearch.Federation.Setup

/-!
# Command line

Loads a configuration, named by the first argument or by the environment variable
`FEDERATOR_CONFIG`, and runs a session on the standard streams. When there is no federation to
search, the status is one and the reason goes to the standard error stream.
-/

namespace FederatedSearch

namespace Main

/-- What a path leads to. Whatever is there and cannot be read as text counts as a directory. -/
def readEntry (path : String) : IO FileEntry := do
  try
    return .text (← IO.FS.readFile path)
  catch e =>
    match e with
    | .noFileOrDirectory _ _ _ => return .missing
    | _ => return .directory

/-- The paths of the places of a configuration and of the directories that hold them. -/
def pathsOf (c : Configuration) : List String :=
  c.sources.flatMap fun s =>
    match s.location with
    | .database path _ _ _ => [path, Path.parent path]
    | .documents path => [path]
    | .keyValue path _ => [path]

/-- What some paths lead to; nothing is known of others. -/
def readFiles (paths : List String) : IO Files := do
  let entries ← paths.mapM fun path => do return (path, ← readEntry path)
  return fun path => (entries.lookup path).getD .missing

/-- Why there is no federation. -/
def failureText : ConfigurationError → String
  | .notFound => "config file not found"
  | .unreadable => "cannot read config file"
  | .malformed => "cannot parse config file"
  | .invalid fault => fault.message

/-- Loads the federation that the configuration in a file describes. -/
def load (path : String) : IO (Except ConfigurationError Federation) := do
  match Configuration.ofFile (← readFiles [path]) path with
  | .error e => return .error e
  | .ok c => return Federation.ofConfiguration (← readFiles (pathsOf c)) c

/-- The present time in seconds. -/
def now : IO Int := do
  return (← IO.monoMsNow) / 1000

/-- Runs a session to its end. -/
partial def run (input : IO.FS.Stream) (f : Federation) : IO Unit := do
  let line ← input.getLine
  if line.isEmpty then return
  match Console.step (← now) f line with
  | none => return
  | some (output, f) =>
    output.forM IO.println
    run input f

end Main

end FederatedSearch

open FederatedSearch in
/-- Runs a session on the federation of a configuration. -/
def main (arguments : List String) : IO UInt32 := do
  let path := Console.configurationPath arguments (← IO.getEnv "FEDERATOR_CONFIG")
  match ← Main.load path with
  | .error e =>
    IO.eprintln (Main.failureText e)
    return 1
  | .ok f =>
    (Console.greeting f).forM IO.println
    Main.run (← IO.getStdin) f
    return 0

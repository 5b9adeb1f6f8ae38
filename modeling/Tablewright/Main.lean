import Tablewright.CommandLine.Run

/-!
# The program

Reads the files that a command line names, carries the command out, and prints what comes of it.
No engine is built in: the statements of `apply` go to one that accepts all of them.
-/

namespace Tablewright

namespace CommandLine

/-- The contents of a file. -/
def readFile (p : Path) : IO (Except FileProblem (List UInt8)) := do
  try
    pure (.ok (← IO.FS.readBinFile p.text).toList)
  catch e =>
    pure (.error (match e with
      | .inappropriateType .. => .isDirectory p.text
      | _ => .missing p.text))

/-- The names in a directory; none if there is no such directory. -/
def listDirectory (p : Path) : IO (List String) := do
  try
    let directory ← IO.FS.realPath p.text
    pure ((← directory.readDir).toList.map fun entry => entry.fileName)
  catch _ => pure []

/-- The files that a request needs, read beforehand. -/
def prepareFiles (r : Request) : IO Files := do
  match r.sources with
  | none => pure { read := fun p => .error (.missing p.text), list := fun _ => .ok [] }
  | some (models, views) =>
    let names ← match views with
      | some directory => listDirectory directory
      | none => pure []
    let paths := models :: names.map fun name => (views.getD models).child name
    let contents ← paths.mapM fun p => do pure (p, ← readFile p)
    pure
      { read := fun p => (contents.lookup p).getD (.error (.missing p.text))
        list := fun p => .ok (if some p = views then names else []) }

/-- What the environment says about connections. -/
def readEnvironment : IO (Except Fault Environment) := do
  let names :=
    ["STRATA_JOURNAL_MODE", "STRATA_BUSY_TIMEOUT", "STRATA_VERBOSE", "STRATA_LOG_OPS"]
  let values ← names.mapM fun name => do pure (name, ← IO.getEnv name)
  pure (Environment.read fun name => (values.lookup name).join)

/-- A world whose engine accepts every statement. -/
def emptyWorld : World :=
  { now := ⟨⟨1970, 1, 1⟩, ⟨0, 0, 0, 0, some 0⟩⟩ }

/-- Prints what came of a command and gives the exit status. -/
def report (o : Outcome) : IO UInt32 := do
  IO.print o.output
  IO.eprint o.errors
  match o.status with
  | .ok code => pure (UInt32.ofNat code)
  | .error f =>
    IO.eprintln (reportLine f.message)
    pure 1

end CommandLine

end Tablewright

open Tablewright.CommandLine in
/-- Carries out a command line. -/
def main (args : List String) : IO UInt32 := do
  let request := Request.ofArguments args
  match ← readEnvironment with
  | .error f => report (({} : Outcome).afterFault f)
  | .ok environment =>
    let files ← prepareFiles request
    report (request.run files environment emptyWorld)

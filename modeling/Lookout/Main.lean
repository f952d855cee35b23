import Lookout.Program

/-!
# The executable

Gathers what the program reads from its surroundings, runs it, and puts what it leaves behind in place. A
server of queues is never reached from here.
-/

namespace Lookout.Main
set_option autoImplicit false

/-- The environment variables that the program looks at. -/
def variableNames : List String :=
  ["VIGIL_CONFIG", "VIGIL_REDIS_PASSWORD", "XDG_CONFIG_HOME", "HOME", "KUBE_CONFIG_PATH", "KUBE_API_SERVER",
    "KUBE_TOKEN", "KUBERNETES_SERVICE_HOST", "KUBERNETES_SERVICE_PORT"]

/-- The variables that are set. -/
def readEnvironment : IO (List (String × String)) :=
  variableNames.filterMapM fun name => do
    return (← IO.getEnv name).map (name, ·)

/-- The files that the program may read. -/
def filesOf (env : List (String × String)) (words : List String) : List String :=
  match CommandLine.ofWords env words with
  | .error _ => []
  | .ok cl =>
    let jobs := match cl.task with
      | .enqueue _ files => files
      | _ => []
    (Configuration.locate (fun name => env.lookup name) cl.config).toOption.toList ++ jobs

/-- A tree with what is found at a path. -/
def readNode (tree : Files.Tree) (path : String) : IO Files.Tree := do
  let within := (tree.makeDirectories ((Files.parent? path).getD "")).2
  try
    let content ← IO.FS.readBinFile path
    return (within.write path content.data.toList).2
  catch _ => return tree

/-- Writes the file at a path if the program changed it. -/
def writeNode (before after : Files.Tree) (path : String) : IO Unit := do
  match after.read path with
  | .error _ => return ()
  | .ok content =>
    if (before.read path).toOption = some content then return ()
    try
      IO.FS.createDirAll ((Files.parent? path).getD ".")
      IO.FS.writeBinFile path ⟨content.toArray⟩
    catch _ => return ()

end Lookout.Main

open Lookout Lookout.Main in
/-- Runs the program with the words after its name. -/
def main (words : List String) : IO UInt32 := do
  let env ← readEnvironment
  let paths := filesOf env words
  let files ← paths.foldlM readNode {}
  let ending := Program.run { network := .unreachable, files, environment := env } words
  for path in paths do writeNode files ending.files path
  IO.print ending.stdout
  IO.eprint ending.stderr
  return ending.exit.toUInt32

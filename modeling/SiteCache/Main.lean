import SiteCache.Codec.Image
import SiteCache.Program.Run
import SiteCache.Program.Seed
import Std.Time.DateTime.Timestamp

set_option autoImplicit false

namespace SiteCache.Main

open Program (Ending Invocation)
open Store (FileContent)

def variableNames : List String :=
  [Config.urlVariable, Config.databaseVariable, Config.sitesVariable, Config.pageSizeVariable,
    Config.maxPagesVariable, Config.timeoutVariable, "HOME", "XDG_CONFIG_HOME", "XDG_DATA_HOME"]

def environment : IO Variables := do
  let values ← variableNames.mapM fun name => do pure (name, ← IO.getEnv name)
  pure fun name => (values.lookup name).join

def lookAt (files : Files FileContent) (names : List String) : IO (Files FileContent) := do
  match ← (IO.FS.readFile (Path.ofNames names)).toBaseIO with
  | .ok text => pure (files.put names (.file (Codec.fileContent text)))
  | .error (.noFileOrDirectory ..) => pure files
  | .error _ => pure (files.put names .directory)

def readPath (files : Files FileContent) (path : String) : IO (Files FileContent) :=
  let names := Path.names path
  (Files.waysTo names ++ [names]).foldlM lookAt files

def writePath (files : Files FileContent) (path : String) : IO Unit := do
  match files.read path with
  | .error _ => pure ()
  | .ok content =>
    match (Path.parent? path).filter (· ≠ "") with
    | some parent => IO.FS.createDirAll parent
    | none => pure ()
    IO.FS.writeFile path (Codec.fileText content)

def now : IO Time.Instant := do
  let nanos := (← Std.Time.Timestamp.now).toNanosecondsSinceUnixEpoch.val
  let seconds := nanos / 1000000000
  pure ((Time.Instant.make? (seconds / 86400) (seconds % 86400).toNat
    (nanos % 1000000000).toNat).getD .epoch)

def finish (ending : Ending) : IO UInt32 := do
  ending.output.forM IO.println
  ending.errors.forM IO.eprintln
  pure (.ofNat ending.status)

def runSeed (arguments : List String) : IO UInt32 := do
  match ({} : Seed.Settings).read arguments with
  | none => finish (Seed.run arguments .epoch .empty).1
  | some s =>
    let files ← readPath .empty s.database
    let (ending, files) := Seed.run arguments (← now) files
    writePath files s.database
    finish ending

def runProgram (arguments : List String) : IO UInt32 := do
  let vars ← environment
  match Invocation.read arguments with
  | .error stop => finish (.ofStop stop)
  | .ok i =>
    let files ← readPath .empty (i.configPath vars)
    let path? := (i.configuration vars files).toOption.map (·.databaseFile vars)
    let files ← path?.elim (pure files) (readPath files)
    let (ending, m) := Program.run vars .unreachable arguments files ()
    path?.forM (writePath m.files)
    finish ending

end SiteCache.Main

def main (arguments : List String) : IO UInt32 := do
  if (← IO.appPath).fileName = some "seed" then SiteCache.Main.runSeed arguments
  else SiteCache.Main.runProgram arguments

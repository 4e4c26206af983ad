import GemOrder.Run

namespace GemOrder.Main

def usage : String :=
  "Sorts gem declarations in Gemfiles alphabetically\n\n" ++
  "Usage: gemsort [OPTIONS] [FILE]...\n\n" ++
  "  -c, --check              exit with status 1 if a Gemfile is not sorted\n" ++
  "  -s, --stdout             print sorted Gemfiles\n" ++
  "  -d, --diff               print differences\n" ++
  "      --config <FILE>      use this configuration file only\n" ++
  "  -r, --recursive          search directories for Gemfiles\n" ++
  "  -e, --exclude <PATTERN>  leave out matching files and directories\n" ++
  "  -j, --jobs <NUM>         number of jobs\n" ++
  "      --hook               sort the nearest Gemfile, only warn on failure\n" ++
  "  -D, --debug              show what is done\n" ++
  "  -S, --silent             show no messages\n" ++
  "  -h, --help               show this text\n" ++
  "  -V, --version            show the version\n"

/-- What is at a path. A file that cannot be read is not there. -/
def probe (p : Path) : IO (Option Node) := do
  try
    return some (.file (.ofBytes (← IO.FS.readBinFile p.text)))
  catch
    | .inappropriateType _ 21 _ => return some (.directory [])
    | _ => return none

/-- Looks up a path and all above it. -/
def lookUp (w : World) (p : Path) : IO World := do
  let mut files := w.files
  for q in (w.here.join p.text).ancestors.reverse do
    let place := Files.placeOf [] q.parts
    if (files.find? place).isNone then
      if let some n ← probe q then files := files.put place n
  return { w with files }

def lookUpAll (w : World) (ps : List Path) : IO World :=
  ps.foldlM lookUp w

/-- The configuration files that could apply to a path. -/
def configsAbove (p : Path) : List Path :=
  p.ancestors.flatMap fun dir => World.configNames.map dir.join

/-- The working directory and the environment variables, with no files looked up yet. -/
def environment : IO World := do
  return {
    files := {}
    directory := Files.placeOf [] (Path.parts ⟨toString (← IO.currentDir)⟩)
    home := ← IO.getEnv "HOME"
    userProfile := ← IO.getEnv "USERPROFILE"
    bundleGemfile := ← IO.getEnv "BUNDLE_GEMFILE"
    logLevel := ← IO.getEnv "RUST_LOG" }

/-- Looks up all files that a run can come to without listing a directory. -/
def gather (a : Arguments) (w : World) : IO World := do
  let homes := w.homeDirectory?.toList
  let w ← lookUpAll w (homes.flatMap fun dir => World.configNames.map dir.join)
  let w ← lookUpAll w (a.config.toList ++ w.bundled?.toList ++ a.inputs)
  let w ← lookUpAll w ((w.here :: w.bundled?.toList ++ a.inputs).flatMap configsAbove)
  let names := match ((a.manifestNames w none).value) with
    | .ok names => names
    | .error _ => []
  let w ← lookUpAll w (World.candidates w.here names)
  lookUpAll w (a.inputs.flatMap fun dir => names.map dir.join)

/-- Writes back the files that a run changed. -/
def store (before after : World) : IO Unit :=
  let held := before.files.root.contents
  for (place, c) in after.files.root.contents do
    if held.lookup place != some c then
      if let .text s := c then IO.FS.writeFile ("/" ++ "/".intercalate place) s

partial def readAll (input : IO.FS.Stream) (read : ByteArray) : IO ByteArray := do
  let more ← input.read 65536
  if more.isEmpty then return read else readAll input (read ++ more)

/-- What a run can come to is looked up by name beforehand, and the files that it changed are written
back. -/
def perform (a : Arguments) : IO UInt32 := do
  let w ← gather a (← environment)
  if a.recursive && !a.hook && a.inputs.any w.isDirectory then
    IO.eprintln "gemsort: directories cannot be listed here"
    return 2
  let stdin ← if a.readsStdin && !a.hook then readAll (← IO.getStdin) .empty else pure .empty
  let r := a.run w (.ofBytes stdin)
  store w r.value.world
  for e in a.shown w r.log do IO.eprintln e.text
  IO.print r.value.out
  for n in r.value.notes do IO.eprintln n
  return r.value.exit.toUInt32

end GemOrder.Main

def main (args : List String) : IO UInt32 := do
  match GemOrder.Arguments.parse args with
  | .ok a => GemOrder.Main.perform a
  | .error .help =>
    IO.print GemOrder.Main.usage
    return 0
  | .error .version =>
    IO.println "gemsort 0.1.0"
    return 0
  | .error _ =>
    IO.eprint GemOrder.Main.usage
    return 2

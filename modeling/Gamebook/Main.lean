import Gamebook.Command

set_option autoImplicit false

namespace Gamebook

def readEntry (path : String) : IO FileEntry := do
  try
    return .file (← IO.FS.readBinFile path)
  catch
    | .noFileOrDirectory .. => return .missing
    -- A directory can be opened, and only reading from it fails; then the error names no path.
    | .inappropriateType (some _) .. => return .beyondFile
    | .inappropriateType none .. => return .directory
    | .permissionDenied .. => return .refused "Permission denied"
    | .invalidArgument .. => return .refused "File name too long"
    | error => return .refused (toString error)

def settingNames : List String := "PLOTLINE_CONFIG" :: Config.overrides.map Prod.fst

def readWorld (paths : List String) : IO World := do
  let files ← paths.mapM fun path => return (path, ← readEntry path)
  let settings ← settingNames.mapM fun name => return (name, ← IO.getEnv name)
  return {
    file := fun path => (files.lookup path).getD .missing
    setting := fun name => (settings.lookup name).join }

def standardServing : IO Serving := do
  let standard : Serving := {}
  let port := (← IO.getEnv "PORT").map fun value => (Number.readInt value.toList).toOption
  return { host := (← IO.getEnv "HOST").getD standard.host, port := port.join.getD standard.port }

def configPaths : IO (List String) := do
  return ((← IO.getEnv "PLOTLINE_CONFIG").map Path.normalize).toList

def finish (ending : Command.Ending) : IO UInt32 := do
  match ending with
  | .code code => return code.toUInt32
  | .message text => IO.eprintln text; return 1
  | .serves _ => return 0
  | .fault (.config fault) => IO.eprintln (fault.message?.getD "The configuration cannot be read"); return 1
  | .fault (.client _) => IO.eprintln "The matcher is not configured well"; return 1
  | .fault (.play fault) => IO.eprintln (fault.message?.getD "The script cannot be played on"); return 1
  | .fault .notText => IO.eprintln "The script is not text"; return 1
  | .fault .numeralTooLong => IO.eprintln "A numeral of the script is too long"; return 1

partial def converse (matcher : Option (Matching.Matcher (List Completion.Reply))) :
    String × Command.Turn → IO UInt32
  | (output, .ended ending) => do
    IO.print output
    finish ending
  | (output, .player play) => do
    IO.print (output ++ Command.prompt)
    (← IO.getStdout).flush
    let line ← (← IO.getStdin).getLine
    if line.isEmpty then
      IO.println ""
      return 0
    let typed := if line.toList.getLast? == some '\n' then String.ofList line.toList.dropLast else line
    converse matcher ((Command.turn matcher play typed).run []).1

def runCommand (command : Command) : IO UInt32 := do
  match command with
  | .play path =>
    match Command.Session.prepare (← readWorld (path :: (← configPaths))) path with
    | .error ending => finish ending
    | .ok session => converse session.matcher (Command.tell session.play.advance)
  | .check path =>
    let ran := Command.checkScript (← readWorld [path]) path
    IO.print ran.output
    finish ran.ending
  | .serve serving =>
    -- Listening is left to whatever runs the service.
    IO.println (Command.announcement serving)
    finish (.serves serving)

end Gamebook

def main (arguments : List String) : IO UInt32 := do
  match Gamebook.Command.read (← Gamebook.standardServing) arguments with
  | .ok command => Gamebook.runCommand command
  | .error .help => return 0
  | .error .usage => return 2

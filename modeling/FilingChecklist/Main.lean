import FilingChecklist.Command.Program

open FilingChecklist

def readContents (path : String) : IO File.Contents := do
  try
    return .text (← IO.FS.readFile path)
  catch
    | .noFileOrDirectory .. => return .missing
    | _ => return .unreadable

def main (words : List String) : IO UInt32 := do
  let storePath ← IO.getEnv Config.storePathVariable
  let logFormat ← IO.getEnv Config.logFormatVariable
  let environment : List (String × Option String) :=
    [(Config.storePathVariable, storePath), (Config.logFormatVariable, logFormat)]
  let outcome ← Command.outcome readContents (fun name => (environment.lookup name).join) words
  IO.print outcome.output
  match outcome with
  | .failed cause => IO.eprintln cause.message
  | .misused => IO.eprintln Command.usage
  | _ => outcome.complaint?.forM fun complaint => IO.eprintln complaint
  return outcome.exitCode.toUInt32

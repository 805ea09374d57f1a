import CardPayments.CommandLine

/-!
# The program

Reads the files and variables that a run asks for, runs the tools and prints what they say. There is
no network here, so every request goes unanswered.
-/

namespace CardPayments

namespace Program

def readPath (path : String) : IO FileContent := do
  try
    return .bytes (← IO.FS.readBinFile path).toList
  catch
    | .noFileOrDirectory _ _ _ => return .missing
    | _ => return .unreadable

def readVariables (names : List String) : IO Environment := do
  let mut environment : Environment := default
  for name in names do
    if !name.isEmpty then
      if let some value ← IO.getEnv name then
        environment := environment.provide name value
  return environment

/-- The names of the variables that a run may ask for. -/
def namesAsked (files : List (String × FileContent)) : List String :=
  let namesOf : FileContent → List String
    | .bytes content => EnvironmentFile.namesIn (Text.ofUtf8Lenient content)
    | _ => []
  [CommandLine.apiTokenVariable, CommandLine.secretKeyVariable] ++
    files.flatMap fun file => namesOf file.2

def printLines (stream : IO.FS.Stream) (lines : List String) : IO Unit := lines.forM stream.putStrLn

def version : String := "commerce-helcim 0.1.0"

end Program

end CardPayments

open CardPayments CardPayments.Program in
def main (words : List String) : IO UInt32 := do
  match Arguments.ofWords words with
  | .error interruption =>
    let stream ← if interruption = .misuse then IO.getStderr else IO.getStdout
    printLines stream (if interruption = .version then [version] else CommandLine.usage)
    return UInt32.ofNat interruption.code
  | .ok arguments =>
    let files ← (CommandLine.pathsRead arguments).mapM fun path => do return (path, ← readPath path)
    let environment ← readVariables (namesAsked files)
    let file (path : String) : FileContent :=
      ((files.find? fun f => f.1 == path).map Prod.snd).getD .missing
    let outcome :=
      CommandLine.runWith ⟨environment, file, fun _ => .unreachable "no network"⟩ arguments
    printLines (← IO.getStdout) outcome.output
    printLines (← IO.getStderr) outcome.errors
    return UInt32.ofNat outcome.code

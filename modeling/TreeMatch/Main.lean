import TreeMatch.Command.Run

/-! The program: its command line, standard streams and environment. -/

namespace TreeMatch

def usageText : String :=
  "usage: treepat [-h] [--version] [-v] <command> ...\n\n" ++
  "  tokenize PATTERN                        split a pattern into tokens\n" ++
  "  parse PATTERN                           print the parsed pattern tree\n" ++
  "  compile [--debug] [--name IDENT] PATTERN  print the generated matcher\n" ++
  "  test [--sexp] [--map] PATTERN SOURCE    run a pattern and color the source\n"

def versionText : String :=
  "treepat 0.1.0\n"

def noParser : Program.Parser := fun _ =>
  .error ⟨"no parser for programs is at hand", none, none⟩

def closingText : Conclusion → String
  | .usage .misuse => usageText
  | .idle => usageText
  | .broken (.failure failure) =>
    "unexpected failure: " ++ (failure.message?.getD "no details") ++ "\n"
  | .broken .noSource => "unexpected failure: no source\n"
  | _ => ""

def openingText : Conclusion → String
  | .usage .help => usageText
  | .usage .version => versionText
  | _ => ""

end TreeMatch

open TreeMatch in
def main (arguments : List String) : IO UInt32 := do
  let output ← IO.getStdout
  let messages ← IO.getStderr
  let input ← if arguments.contains "-" then (← IO.getStdin).readToEnd else pure ""
  let display := Display.ofTerminal (← output.isTty) (← IO.getEnv "NO_COLOR")
  let result := runCommandLine ⟨input, Text.basicLatin, noParser, display⟩ arguments
  output.putStr (openingText result.conclusion ++ result.output)
  messages.putStr (result.messages ++ closingText result.conclusion)
  return result.conclusion.status.toUInt32

import NodeRpc.CommandLine.Job

/-!
# How a command ends

The exit code and what is printed: results to the output, failures and notices about the usage to
the error output.

A result is printed alone, so the output of the program can be read by another one. The code is 0, 1
for a job that failed and 2 for words that were not understood.
-/

namespace NodeRpc.CommandLine

/-- The code, and what is printed where. -/
structure Exit where
  code : UInt32
  output : String := ""
  error : String := ""
  /-- What is logged before. -/
  log : List LogEvent := []

def versionText : String := "bn 0.1.0"

/-- What is shown to somebody who asks for help. -/
def usage : String :=
  "Usage: bn [OPTIONS] <COMMAND>\n\n" ++
  "Commands:\n" ++
  "  info\n  chain-info\n  block-count\n  mining-info\n" ++
  "  call <METHOD> [PARAMS]... [--burst <BURST>]\n\n" ++
  "Options:\n" ++
  String.join (Setting.all.map fun setting => "  --" ++ setting.name ++ " <VALUE>\n") ++
  "  --help\n  --version\n"

/-- The end of a command that is not run. -/
def Stop.exit : Stop → Exit
  | version => { code := 0, output := versionText ++ "\n" }
  | help => { code := 0, output := usage }
  | misuse => { code := 2, error := usage }

def Failure.exit (failure : Failure) : Exit := { code := 1, error := failure.text ++ "\n" }

def Report.exit (report : Report) : Exit :=
  match report.result with
  | .ok output => { code := 0, output, log := report.log }
  | .error failure => { failure.exit with log := report.log }

end NodeRpc.CommandLine

import ShapeDispatch.CommandLine.Report

/-! The program: it answers its arguments by printing and by its exit code. -/

open ShapeDispatch.CommandLine

def main (arguments : List String) : IO UInt32 := do
  match respond arguments with
  | .ok report =>
    report.stderr.forM fun line => IO.eprintln line
    IO.print report.stdout
    return UInt32.ofNat report.code
  | .error error =>
    IO.eprintln ("error: " ++ error.message ++ "\n\nFor more information try --help")
    return 1

import Calculator.Console

/-!
# The command line

Runs one of the console programs on the profiles that the calculator comes
with: `check` or `demonstrate`.
-/

open Calculator

/-- Print the lines of the program that the arguments name. -/
def main (arguments : List String) : IO UInt32 := do
  match arguments with
  | [command] =>
      match Console.program? command Document.shipped with
      | none =>
          IO.eprintln ("unknown command: " ++ command)
          return 2
      | some program =>
          match (Action.runIn (Workspace.empty Workspace.standardRoom) program).1 with
          | .error _ => return 1
          | .ok printout =>
              printout.lines.forM IO.println
              return (printout.exitCode.getD 0).toUInt32
  | _ =>
      IO.eprintln "commands: check, demonstrate"
      return 2

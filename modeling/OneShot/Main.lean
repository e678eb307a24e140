import OneShot.Program

/-!
# The command line

Runs `Program.run` on the arguments and the environment of the process, and writes what it leaves.
-/

open OneShot

/-- Runs the program once. -/
def main (args : List String) : IO UInt32 := do
  let env : Environment :=
    ⟨← IO.getEnv "POLYHELPER_LOG_FORMAT", ← IO.getEnv "RUST_LOG"⟩
  let outcome := Program.run env (args.map Utf8.encode)
  let stderr ← IO.getStderr
  for event in outcome.events do
    stderr.putStrLn (event.line outcome.format)
  stderr.putStr outcome.stderr
  let stdout ← IO.getStdout
  stdout.putStr outcome.stdout
  stdout.flush
  return UInt32.ofNat outcome.status

/-
The command line of the monitor. The line is on standard input and output, and
the report goes to standard error, so that the program can be joined to a line
by whatever opens it.
-/

import Telemetry.Monitor

namespace Telemetry.Monitor

def chunkSize : USize := 256

def writeAll (output : IO.FS.Stream) (bytes : Bytes) : IO Unit := do
  if !bytes.isEmpty then
    output.write bytes.toByteArray
    output.flush

partial def listen (input output report : IO.FS.Stream) (monitor : Monitor) : IO Monitor := do
  let chunk ← input.read chunkSize
  if chunk.isEmpty then
    pure monitor
  else
    let (lines, answers, after) := monitor.takeIn chunk.data.toList
    writeAll output answers
    for line in lines do
      report.putStrLn line
    listen input output report after

end Telemetry.Monitor

def main (arguments : List String) : IO UInt32 := do
  let report ← IO.getStderr
  match Telemetry.MonitorOptions.ofArguments arguments with
  | .error argument =>
      report.putStrLn ("error: unexpected argument " ++ argument)
      pure 2
  | .ok options =>
      if options.help then
        report.putStrLn Telemetry.MonitorOptions.usage
      else
        let monitor ← Telemetry.Monitor.listen (← IO.getStdin) (← IO.getStdout) report
          (Telemetry.Monitor.start options)
        report.putStrLn monitor.summary
      pure 0

import LiveTelemetry.Client.Offline
import LiveTelemetry.Client.Program

/-!
The command line. It reads the files and variables that an invocation depends on, runs the client
without a network, and writes what the run leaves behind.
-/
namespace LiveTelemetry.CommandLine

/-- The variables of the process. -/
def readEnvironment : IO (Table String) := do
  let octets ← try IO.FS.readBinFile "/proc/self/environ" catch _ => pure ByteArray.empty
  let texts := Text.splitAt '\x00' (Text.Utf8.decodeLossy octets.toList).toList
  return Table.ofList (texts.map fun cs =>
    (String.ofList (cs.takeWhile (· ≠ '=')), String.ofList ((cs.dropWhile (· ≠ '=')).drop 1)))

/-- Those of the named files that can be read. -/
def readFiles (names : List String) : IO (Table String) := do
  let found ← names.filterMapM fun n =>
    try
      let path : String := Setting.directory ++ "/" ++ n
      let octets ← IO.FS.readBinFile path
      return some (n, Text.Utf8.decodeLossy octets.toList)
    catch _ => return none
  return Table.ofList found

def write (r : Report) : IO Unit := do
  r.complaints.forM fun s => IO.eprintln s
  if r.output ≠ "" then IO.println r.output
  r.lines.forM fun l => IO.println (Invocation.lineText r.format l)

end LiveTelemetry.CommandLine

open LiveTelemetry in
/-- Runs the client; the exit status is the one of the run. -/
def main (words : List String) : IO UInt32 := do
  let environment ← CommandLine.readEnvironment
  let files ← CommandLine.readFiles (Invocation.fileNames environment words)
  let report := Invocation.run ⟨words, files, environment⟩ ⟨0, "1970-01-01T00:00:00+00:00"⟩
    Offline.exchange Offline.dial
  CommandLine.write report
  return UInt32.ofNat report.status

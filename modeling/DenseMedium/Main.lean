import DenseMedium.CommandLine.Run
import DenseMedium.Random.ChaCha

/-!
The program: the command line on the files of the machine.
-/

namespace DenseMedium

namespace Machine

def streamError : IO.Error → StreamError
  | .noFileOrDirectory .. | .noSuchThing .. => .system .notFound
  | .permissionDenied .. => .system .permissionDenied
  | .inappropriateType .. => .system .isDirectory
  | .resourceBusy .. => .system .busy
  | e => .stopped (toString e)

def attempt {α : Type} (action : IO α) : IO (Except StreamError α) := do
  try
    return .ok (← action)
  catch e =>
    return .error (streamError e)

def text (p : FilePath) : String := Utf8.repaired p

def read (p : FilePath) : IO (Except StreamError Source) :=
  attempt do
    let content ← IO.FS.readBinFile (text p)
    return ⟨[content.data.toList], .complete⟩

/-- A path for a temporary file in a directory. -/
def temporaryPath (directory : FilePath) : IO String := do
  let n ← IO.rand 0 999999999
  return text (directory.push (Ascii.encode s!".tmp{n}"))

/-- Writes a file through a temporary one in the same directory, which does not outlive a
failure. -/
def replace (p : FilePath) (w : Writing) : IO (Outcome Unit) := do
  let temporary ← temporaryPath p.directory
  match ← attempt (IO.FS.writeBinFile temporary ⟨#[]⟩) with
  | .error e => return refuse (.io e)
  | .ok () =>
      let result ← match w.ending with
        | .error e => pure (.error e)
        | .ok () => do
            let finished ← attempt do
              IO.FS.writeBinFile temporary ⟨w.pieces.flatten.toArray⟩
              IO.FS.rename temporary (text p)
            pure (finished.mapError fun e => .refused (.io e))
      if result matches .error _ then
        let _ ← attempt (IO.FS.removeFile temporary)
      return result

instance : Storage IO := ⟨read, replace⟩

end Machine

end DenseMedium

def main (args : List String) : IO UInt32 := do
  let seed ← IO.rand 0 18446744073709551615
  let source := DenseMedium.ChaCha.ofSeed (UInt64.ofNat seed)
  let report ← (DenseMedium.CommandLine.run source args : IO DenseMedium.CommandLine.Report)
  IO.print report.output
  IO.eprint report.complaint
  return report.exitCode.toUInt32

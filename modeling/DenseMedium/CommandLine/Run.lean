import DenseMedium.CommandLine.Arguments
import DenseMedium.Files.Conversion
import DenseMedium.Random.Grid

/-!
Running a command line.

A run ends with an exit code: zero after success, that of the grid error after a refusal, and that
of a usage error when the line cannot be understood. What it has to say goes to the output after
success and is a complaint otherwise.
-/

namespace DenseMedium

namespace CommandLine

def programName : String := "voxel_medium"

def programVersion : String := "0.1.0"

def usage : String :=
  s!"Usage: {programName} [-v] [-d] to-bin INPUT [OUTPUT]\n" ++
  s!"       {programName} [-v] [-d] majorant INPUT SUPERVOXEL_SIZE [OUTPUT]\n" ++
  s!"       {programName} [-v] [-d] generate OUTPUT SIZE\n"

/-- The exit code of a run that was stopped by a fault. -/
def faultExitCode : UInt8 := 101

structure Report where
  exitCode : UInt8
  output : String
  complaint : String
  deriving DecidableEq, Repr

namespace Report

def success (output : String) : Report := ⟨0, output, ""⟩

def failure (exitCode : UInt8) (complaint : String) : Report :=
  ⟨exitCode, "", "error: " ++ complaint ++ "\n"⟩

def ofHalt : Halt → Report
  | .usage e => failure GridError.usageExitCode e.message
  | .help => success usage
  | .version => success s!"{programName} {programVersion}\n"

/-- The report of a command that writes one file. -/
def ofWritten : Outcome FilePath → Report
  | .ok p => success ("wrote " ++ Utf8.repaired p ++ "\n")
  | .error (.refused e) => failure e.exitCode e.message
  | .error (.fault f) => ⟨faultExitCode, "", f.message ++ "\n"⟩

end Report

variable {m : Type → Type} [Monad m] [Storage m]

/-- Runs a command; answers with the path that it wrote. A random cube is drawn from the source. -/
def execute (source : WordSource) : Command → ExceptT Failure m FilePath
  | .toBinary input output => Conversion.toBinary input output
  | .majorant input blockSize output => Conversion.toMajorant input output blockSize
  | .generate output size => do
      let g ← Conversion.settled (VoxelGrid.random source ⟨size, size, size⟩).1
      Conversion.writeStructured g output Structured.defaultLayout
      return output

/-- Runs the line of the given arguments. -/
def run (source : WordSource) (args : List String) : m Report :=
  match parse [] args with
  | .error h => return .ofHalt h
  | .ok command => return .ofWritten (← (execute source command : ExceptT Failure m FilePath).run)

end CommandLine

end DenseMedium

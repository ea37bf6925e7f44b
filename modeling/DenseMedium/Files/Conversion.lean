import DenseMedium.Binary.Codec
import DenseMedium.Files.FileSystem
import DenseMedium.Structured.Decode
import DenseMedium.Structured.Encode

/-!
File-to-file conversions.

A conversion checks the extension of its input, reads and decodes all of it, and only then touches
its output, which is replaced as a whole. The conversions are written against `Storage`, the two
things they do with files. A file system as a value is one storage, on a device that may fail or,
when none is given, on one that never does.
-/

namespace DenseMedium

/-- Where files are read and replaced. -/
class Storage (m : Type → Type) where
  /-- Opens a file. -/
  read : FilePath → m (Except StreamError Source)
  /-- Replaces a file by what is written, or leaves it alone and says why. -/
  replace : FilePath → Writing → m (Outcome Unit)

instance : Storage (ReaderT Device (StateM FileSystem)) where
  read p := fun d fs => (fs.read p >>= d.read, fs)
  replace p w := fun d fs => fs.replace d p w

instance : Storage (StateM FileSystem) where
  read p := (Storage.read p : ReaderT Device (StateM FileSystem) _).run .reliable
  replace p w := (Storage.replace p w : ReaderT Device (StateM FileSystem) _).run .reliable

namespace Conversion

def structuredExtension : String := "json"

def binaryExtension : String := "bin"

def majorantSuffix : String := "_majorant"

inductive OutputKind where
  | voxelGrid
  | majorant
  deriving DecidableEq, Repr

/-- The name of an output beside an input with the given stem. -/
def outputName (kind : OutputKind) (stem : Bytes) : Bytes :=
  let text := Utf8.repaired stem
  match kind with
  | .voxelGrid => Utf8.bytes (text ++ "." ++ binaryExtension)
  | .majorant => Utf8.bytes (text ++ majorantSuffix ++ "." ++ binaryExtension)

/-- Where a conversion writes: the given output, or a name made from the stem of the input in the
same directory. -/
def outputPath (kind : OutputKind) (input : FilePath) (output : Option FilePath) : FilePath :=
  match output with
  | some p => p
  | none => input.withName (outputName kind input.stem)

def checkExtension (p : FilePath) : Outcome Unit :=
  if p.extension? = some (Ascii.encode structuredExtension) then return ()
  else refuse (.unsupportedExtension p structuredExtension)

variable {m : Type → Type} [Monad m] [Storage m] {α : Type}

/-- A step that does not touch the files. -/
def settled (x : Outcome α) : ExceptT Failure m α := ExceptT.mk (pure x)

def replace (p : FilePath) (w : Writing) : ExceptT Failure m Unit :=
  ExceptT.mk (Storage.replace p w)

/-- The grid of a structured file. -/
def readStructured (p : FilePath) : ExceptT Failure m VoxelGrid := do
  settled (checkExtension p)
  match ← (Storage.read p : m _) with
  | .error e => settled (refuse (.io e))
  | .ok source => settled (Structured.read source)

/-- Makes a structured file of a grid. -/
def writeStructured (g : VoxelGrid) (p : FilePath) (l : Json.Layout) : ExceptT Failure m Unit := do
  settled (checkExtension p)
  replace p (Structured.writing l g)

/-- Converts a structured file into a binary voxel grid; answers with the path written. -/
def toBinary (input : FilePath) (output : Option FilePath) : ExceptT Failure m FilePath := do
  let g ← readStructured input
  let p := outputPath .voxelGrid input output
  replace p (Binary.writing g)
  return p

/-- Converts a structured file into a binary grid of block majorants; answers with the path
written. -/
def toMajorant (input : FilePath) (output : Option FilePath) (blockSize : UInt32) :
    ExceptT Failure m FilePath := do
  let g ← readStructured input
  let sv ← settled (Majorant.build g blockSize)
  let p := outputPath .majorant input output
  replace p (Binary.writing sv.majorants)
  return p

end Conversion

end DenseMedium

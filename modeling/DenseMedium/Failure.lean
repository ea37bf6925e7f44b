import DenseMedium.Json.Error
import DenseMedium.Lattice.Extent

/-!
Failures of grid operations.

A `GridError` is an answer about the input: it has a message and an exit code of its own. A
`Failure` is either such a refusal or a fault of the arithmetic, and `Outcome` is the type of
operations that can end in both ways. No exit code is shared, and none is the code of a usage error.
-/

namespace DenseMedium

/-- What is wrong with a structured document. -/
inductive SchemaError where
  | unreadable (e : Json.ReadError)
  | dimensions (d : Dimensions)
  | nonFinite (p : Point)
  | outOfRange (p : Point) (coefficient : String) (component : Double)
  | other (text : String)
  deriving DecidableEq, Repr

/-- What is wrong with a binary header. -/
inductive HeaderError where
  | reserved (value : UInt32)
  | dimensions (d : Dimensions)
  | overflow (d : Dimensions)
  | other (text : String)
  deriving DecidableEq, Repr

inductive GridError where
  | schema (cause : SchemaError)
  | dimensionMismatch (what : String) (expected actual : Nat)
  | indivisibleDimension (axis : Axis) (size blockSize : UInt32)
  | outOfBounds (p : Point) (dimensions : Dimensions)
  | headerInvalid (cause : HeaderError)
  | truncatedStream (expected actual : Nat)
  | invalidSize (size : UInt32)
  | unsupportedExtension (path : Bytes) (expected : String)
  | io (cause : StreamError)
  deriving DecidableEq, Repr

def SchemaError.message : SchemaError → String
  | .unreadable e => e.message
  | .dimensions d =>
      s!"dimensions {d} must be positive, at most 2147483647, and addressable in memory"
  | .nonFinite p => s!"voxel {p} has a non-finite coefficient, which JSON cannot represent"
  | .outOfRange p coefficient component =>
      s!"voxel {p} has {coefficient} component " ++ Ascii.decode (component.spell .outOfRange) ++
        " outside the f32 range"
  | .other text => text

def HeaderError.message : HeaderError → String
  | .reserved value => s!"reserved field is {value}, must be 0"
  | .dimensions d => s!"dimensions {d} must be positive and at most 2147483647"
  | .overflow d => s!"dimensions {d} overflow the addressable size"
  | .other text => text

namespace GridError

def message : GridError → String
  | .schema cause => "schema error: " ++ cause.message
  | .dimensionMismatch what expected actual =>
      s!"dimension mismatch in {what}: expected {expected}, got {actual}"
  | .indivisibleDimension axis size blockSize =>
      s!"{axis} {size} is not divisible by supervoxel size {blockSize}"
  | .outOfBounds p dimensions =>
      s!"voxel {p} is out of bounds for grid of dimensions {dimensions}"
  | .headerInvalid cause => "invalid binary header: " ++ cause.message
  | .truncatedStream expected actual =>
      s!"truncated stream: expected {expected} bytes, got {actual}"
  | .invalidSize size => s!"invalid grid size {size}, must be positive"
  | .unsupportedExtension path expected =>
      Quoted.path path ++ s!" is not a .{expected} file"
  | .io cause => "I/O error: " ++ cause.message

/-- The exit code of a command line that cannot be understood. -/
def usageExitCode : UInt8 := 2

/-- The exit code of a run that ends in the error. -/
def exitCode : GridError → UInt8
  | .schema _ => 3
  | .dimensionMismatch .. => 4
  | .indivisibleDimension .. => 5
  | .outOfBounds .. => 6
  | .headerInvalid _ => 7
  | .truncatedStream .. => 8
  | .invalidSize _ => 9
  | .unsupportedExtension .. => 10
  | .io _ => 11

end GridError

inductive Failure where
  | fault (cause : Fault)
  | refused (cause : GridError)
  deriving DecidableEq, Repr

abbrev Outcome := Except Failure

/-- A faulting step inside an operation that can also refuse. -/
instance : MonadLift Checked Outcome := ⟨fun step => step.mapError .fault⟩

/-- Ends an operation with a grid error. -/
def refuse {α : Type} (e : GridError) : Outcome α := .error (.refused e)

end DenseMedium

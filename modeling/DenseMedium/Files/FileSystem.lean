import DenseMedium.Failure
import DenseMedium.Files.Device
import DenseMedium.Files.Path

/-!
A file system as a value: a map from locations to files and directories, and a working directory.

* `walk` follows the segments of a path through directories.
* `read` gives the content of a file as a source. A directory can be opened but not read.
* `replace` writes a file through a temporary one beside it, which is renamed over the path at the
  end. When anything fails, the path or the device, the temporary file is removed.
-/

namespace DenseMedium

/-- The names that lead to an entry from the root, outermost first. -/
abbrev Location := List Bytes

inductive Entry where
  | file (content : Bytes)
  | directory
  deriving DecidableEq, Repr

structure FileSystem where
  workingDirectory : Location
  entries : List (Location × Entry)
  deriving DecidableEq, Repr

namespace FileSystem

/-- The entry at a location. The root is a directory of every file system. -/
def lookup? (fs : FileSystem) (place : Location) : Option Entry :=
  if place = [] then some .directory else fs.entries.lookup place

def remove (fs : FileSystem) (place : Location) : FileSystem :=
  { fs with entries := fs.entries.filter fun e => e.1 ≠ place }

def put (fs : FileSystem) (place : Location) (entry : Entry) : FileSystem :=
  { fs with entries := (place, entry) :: (fs.remove place).entries }

/-! ### Paths -/

/-- The most bytes of a name. -/
def longestName : Nat := 255

/-- The entry of a name in a directory, if there is one. -/
def child? (fs : FileSystem) (directory : Location) (name : Bytes) :
    Except SystemError (Option Entry) :=
  if longestName < name.length then .error .nameTooLong
  else .ok (fs.lookup? (directory ++ [name]))

/-- The directory that the segments lead to from another. -/
def walk (fs : FileSystem) (place : Location) : List Bytes → Except SystemError Location
  | [] => .ok place
  | segment :: rest =>
      if FilePath.isTrivial segment then fs.walk place rest
      else if segment = FilePath.above then fs.walk place.dropLast rest
      else
        match fs.child? place segment with
        | .error e => .error e
        | .ok none => .error .notFound
        | .ok (some (.file _)) => .error .notDirectory
        | .ok (some .directory) => fs.walk (place ++ [segment]) rest

/-- The most bytes of a path. -/
def longestPath : Nat := 4095

def isTooLong (p : FilePath) : Bool := longestPath < p.length

/-- The directory where a path starts. -/
def start (fs : FileSystem) (p : FilePath) : Location :=
  if p.isAbsolute then [] else fs.workingDirectory

def holdsZero (p : FilePath) : Bool := p.contains 0

/-- The path of a location from the root. -/
def absolute (place : Location) : FilePath :=
  if place = [] then [Ascii.slash] else place.flatMap fun name => Ascii.slash :: name

/-- The directory of a path, in which a name of `room` bytes is going to be made. The path of that
name starts at the root, and it must not be too long. -/
def directory (fs : FileSystem) (room : Nat) (p : FilePath) : Except StreamError Location :=
  let whole := if p.isAbsolute then p else (absolute fs.workingDirectory).push p
  if holdsZero p then .error .zeroInPath
  else if isTooLong (whole.push (List.replicate room Ascii.zero)) then
    .error (.system .nameTooLong)
  else (fs.walk (fs.start p) p.segments).mapError .system

/-- The entry of a path. -/
def entry (fs : FileSystem) (p : FilePath) : Except SystemError Entry := do
  if isTooLong p then throw .nameTooLong
  if p.isEmpty then throw .notFound
  let place ← fs.walk (fs.start p) p.segments.dropLast
  let last := p.segments.getLastD []
  if FilePath.isTrivial last ∨ last = FilePath.above then return .directory
  else
    match ← fs.child? place last with
    | some entry => return entry
    | none => throw .notFound

/-- The location that a file takes when it is renamed to a path. -/
def destination (fs : FileSystem) (p : FilePath) : Except SystemError Location := do
  if holdsZero p then throw .invalidArgument
  if isTooLong p then throw .nameTooLong
  if p.isEmpty then throw .notFound
  let bare : FilePath := (p.reverse.dropWhile (· = Ascii.slash)).reverse
  let place ← fs.walk (fs.start p) bare.segments.dropLast
  let last := bare.segments.getLastD []
  if FilePath.isTrivial last ∨ last = FilePath.above then throw .busy
  let present ← fs.child? place last
  if bare ≠ p then throw .notDirectory
  if present = some .directory then throw .isDirectory
  return place ++ [last]

/-! ### Reading and replacing -/

/-- The bytes of a file. -/
def read (fs : FileSystem) (p : FilePath) : Except StreamError Source :=
  if holdsZero p then .error .zeroInPath
  else
    match fs.entry p with
    | .error e => .error (.system e)
    | .ok .directory => .ok ⟨[], .broken (.system .isDirectory)⟩
    | .ok (.file content) => .ok ⟨[content], .complete⟩

/-- The bytes of the longest name anywhere. -/
def longest (fs : FileSystem) : Nat :=
  (fs.entries.flatMap Prod.fst).foldl (fun n name => max n name.length) 0

/-- A name that no entry has. It stands for the name of a temporary file, whichever that is. -/
def freshName (fs : FileSystem) : Bytes :=
  Ascii.encode ".tmp" ++ List.replicate fs.longest Ascii.zero

/-- Moves the entry at a location to a path. -/
def rename (fs : FileSystem) (place : Location) (moved : Entry) (p : FilePath) :
    Except SystemError FileSystem := do
  return (fs.remove place).put (← fs.destination p) moved

/-- The bytes of the name of a temporary file. -/
def temporaryLength : Nat := 10

/-- Makes what is written the content of the file of a path. -/
def replace (fs : FileSystem) (d : Device) (p : FilePath) (w : Writing) :
    Outcome Unit × FileSystem :=
  match fs.directory temporaryLength p.directory, d.onCreate with
  | .error e, _ | .ok _, some e => (refuse (.io e), fs)
  | .ok place, none =>
      let temporary := place ++ [fs.freshName]
      let opened := fs.put temporary (.file [])
      let (content, result) := d.fill w
      let filled := opened.put temporary (.file content)
      match result with
      | .error x => (.error x, filled.remove temporary)
      | .ok () =>
          match d.onRename, filled.rename temporary (.file content) p with
          | some e, _ => (refuse (.io e), filled.remove temporary)
          | none, .error e => (refuse (.io (.system e)), filled.remove temporary)
          | none, .ok renamed => (.ok (), renamed)

end FileSystem

end DenseMedium

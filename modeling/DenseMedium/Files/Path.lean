import DenseMedium.Text.Utf8

/-!
Names of files, as byte strings.

A path is a lead and a body. The lead is the `/` of an absolute path, the `.` of a path that starts
with the current directory, or nothing. The body is cut into segments at its slashes; empty segments
and segments `.` are trivial, and trivial segments at the end are dropped before a path is taken
apart.
-/

namespace DenseMedium

abbrev FilePath := Bytes

namespace FilePath

/-- A dot inside a name is the byte of a decimal point. -/
def dot : UInt8 := Ascii.point

def current : Bytes := [dot]

def above : Bytes := [dot, dot]

def isTrivial (segment : Bytes) : Bool := segment.isEmpty || segment == current

/-- The lead and the body of a path. -/
def cut : FilePath → Bytes × Bytes
  | [] => ([], [])
  | b :: r =>
      if b = Ascii.slash then ([b], r)
      else if b = dot ∧ (r.isEmpty ∨ r.head? = some Ascii.slash) then ([b], r)
      else ([], b :: r)

/-- What precedes the last slash of a body, and the segment after it. -/
def splitLast (body : Bytes) : Bytes × Bytes :=
  let reversed := body.reverse
  ((reversed.dropWhile (· ≠ Ascii.slash)).tail.reverse,
    (reversed.takeWhile (· ≠ Ascii.slash)).reverse)

theorem length_splitLast_lt {body : Bytes} (h : body ≠ []) :
    (splitLast body).1.length < body.length := by
  unfold splitLast
  have hd : ((body.reverse.dropWhile (· ≠ Ascii.slash))).length ≤ body.length := by
    simpa using (List.dropWhile_sublist (· ≠ Ascii.slash) (l := body.reverse)).length_le
  have hb : 0 < body.length := List.length_pos_iff.2 h
  simp only [List.length_reverse, List.length_tail]
  omega

/-- A body without the trivial segments at its end. -/
def trim (body : Bytes) : Bytes :=
  if _ : body = [] then []
  else if isTrivial (splitLast body).2 then trim (splitLast body).1
  else body
termination_by body.length
decreasing_by exact length_splitLast_lt ‹_›

/-- The segment that names the file; nothing when the path ends in `..` or has only a lead. -/
def name? (p : FilePath) : Option Bytes :=
  let body := trim (cut p).2
  if body = [] then none
  else
    let segment := (splitLast body).2
    if segment = above then none else some segment

/-- The path without its last segment. -/
def parent? (p : FilePath) : Option FilePath :=
  let (lead, rest) := cut p
  let body := trim rest
  if body = [] then (if lead = current then some [] else none)
  else some (lead ++ trim (splitLast body).1)

/-- The directory in which the file of a path lies. -/
def directory (p : FilePath) : FilePath :=
  match p.parent? with
  | none => current
  | some parent => if parent = [] then current else parent

/-- A name without its extension, and the extension after its last dot. A dot in front is part of
the name. -/
def splitName (name : Bytes) : Bytes × Option Bytes :=
  let reversed := name.reverse
  match reversed.dropWhile (· ≠ dot) with
  | [] => (name, none)
  | _ :: stem =>
      if stem.isEmpty then (name, none)
      else (stem.reverse, some (reversed.takeWhile (· ≠ dot)).reverse)

def extension? (p : FilePath) : Option Bytes := p.name?.bind fun name => (splitName name).2

/-- The name without its extension; empty when there is no name. -/
def stem (p : FilePath) : Bytes :=
  match p.name? with
  | some name => (splitName name).1
  | none => []

/-- Appends a segment. -/
def push (p : FilePath) (segment : Bytes) : FilePath :=
  if p.isEmpty ∨ p.getLast? = some Ascii.slash then p ++ segment
  else p ++ Ascii.slash :: segment

/-- The path with its name replaced, or appended when it has none. -/
def withName (p : FilePath) (name : Bytes) : FilePath :=
  if p.name?.isSome then push (p.parent?.getD []) name else push p name

/-- All segments between slashes, trivial ones included. -/
def segments : FilePath → List Bytes
  | [] => [[]]
  | b :: r =>
      if b = Ascii.slash then [] :: segments r
      else
        match segments r with
        | [] => [[b]]
        | segment :: rest => (b :: segment) :: rest

def isAbsolute (p : FilePath) : Bool := p.head? == some Ascii.slash

end FilePath

end DenseMedium

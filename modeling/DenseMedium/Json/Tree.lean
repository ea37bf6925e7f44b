import DenseMedium.Arithmetic
import DenseMedium.Text.Ascii

/-!
Documents to be written, and their layout.

A tree has a compact and a pretty text. The pretty text puts every element and member on a line of
its own, indented by its nesting depth; an empty list or object stays on one line. The two layouts
go through the same recursion, which asks the layout only what stands before an item, before a
closing bracket and after a key. The text is produced as the pieces that are written one by one.

The spaces of one level are made once and written over and over, so there must be room for them in
memory before anything is written.
-/

namespace DenseMedium.Json

inductive Tree where
  | null
  /-- A number by its spelling. -/
  | number (numeral : Bytes)
  | list (items : List Tree)
  /-- An object; the keys are ASCII text without quotes, backslashes and control characters. -/
  | object (members : List (String × Tree))

inductive Layout where
  | compact
  /-- One item per line, with the given number of spaces per level. -/
  | pretty (indent : Nat)
  deriving DecidableEq, Repr

namespace Layout

/-- Room for the spaces of one level. -/
def reserve : Layout → Checked Unit
  | .compact => .ok ()
  | .pretty indent => Size.reserve indent 1

/-- The spaces of a nesting depth, level by level. -/
def levels (indent depth : Nat) : List Bytes :=
  List.replicate depth (List.replicate indent Ascii.space)

/-- A new line at a nesting depth. -/
def line (l : Layout) (depth : Nat) : List Bytes :=
  match l with
  | .compact => []
  | .pretty indent => [Ascii.newline] :: levels indent depth

/-- What stands before an item at a nesting depth. A comma and the new line after it are one
piece. -/
def lead (l : Layout) (depth : Nat) (isFirst : Bool) : List Bytes :=
  match l with
  | .compact => if isFirst then [] else [[Ascii.comma]]
  | .pretty indent =>
      (if isFirst then [Ascii.newline] else [Ascii.comma, Ascii.newline]) :: levels indent depth

/-- A key with the colon after it. -/
def key (l : Layout) (name : String) : List Bytes :=
  let colon := match l with
    | .compact => [Ascii.colon]
    | .pretty _ => [Ascii.colon, Ascii.space]
  [[Ascii.quote], Ascii.encode name, [Ascii.quote], colon]

end Layout

def nullText : Bytes := Ascii.encode "null"

mutual

/-- The pieces of a tree whose first line stands at nesting depth `depth`. -/
def Tree.pieces (l : Layout) (depth : Nat) : Tree → List Bytes
  | .null => [nullText]
  | .number numeral => [numeral]
  | .list [] => [[Ascii.openList], [Ascii.closeList]]
  | .list (item :: rest) =>
      [Ascii.openList] :: l.lead (depth + 1) true ++ item.pieces l (depth + 1) ++
        itemPieces l (depth + 1) rest ++ l.line depth ++ [[Ascii.closeList]]
  | .object [] => [[Ascii.openObject], [Ascii.closeObject]]
  | .object ((name, value) :: rest) =>
      [Ascii.openObject] :: l.lead (depth + 1) true ++ l.key name ++ value.pieces l (depth + 1) ++
        memberPieces l (depth + 1) rest ++ l.line depth ++ [[Ascii.closeObject]]

/-- The pieces of the items after the first. -/
def itemPieces (l : Layout) (depth : Nat) : List Tree → List Bytes
  | [] => []
  | item :: rest => l.lead depth false ++ item.pieces l depth ++ itemPieces l depth rest

/-- The pieces of the members after the first. -/
def memberPieces (l : Layout) (depth : Nat) : List (String × Tree) → List Bytes
  | [] => []
  | (name, value) :: rest =>
      l.lead depth false ++ l.key name ++ value.pieces l depth ++ memberPieces l depth rest

end

/-- The pieces of a whole document. -/
def Tree.write (l : Layout) (t : Tree) : List Bytes := t.pieces l 0

/-- The text of a whole document. -/
def Tree.text (l : Layout) (t : Tree) : Bytes := (t.write l).flatten

/-- The pieces of an object up to and including the key of a last member: what has been written when
the value of that member turns out to have no text. -/
def opening (l : Layout) (members : List (String × Tree)) (name : String) : List Bytes :=
  match members with
  | [] => [Ascii.openObject] :: l.lead 1 true ++ l.key name
  | (first, value) :: rest =>
      [Ascii.openObject] :: l.lead 1 true ++ l.key first ++ value.pieces l 1 ++
        memberPieces l 1 rest ++ l.lead 1 false ++ l.key name

end DenseMedium.Json

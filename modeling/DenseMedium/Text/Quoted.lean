import DenseMedium.Text.Unseen
import DenseMedium.Text.Utf8

/-!
Quoted text, as messages show strings and paths.

A double quote and a backslash are preceded by a backslash, the common control characters have their
letters, and any other character that would not be seen is written by its number in hexadecimal.
Bytes of a path that are no text are written one by one.
-/

namespace DenseMedium

namespace Quoted

/-- The digits of a number in base sixteen, at least `width` of them. -/
def hex (width n : Nat) : List Char :=
  let digits := Nat.toDigits 16 n
  List.replicate (width - digits.length) '0' ++ digits

def character (c : Char) : List Char :=
  if c = '\x22' then ['\\', '\x22']
  else if c = '\\' then ['\\', '\\']
  else if c = '\n' then ['\\', 'n']
  else if c = '\t' then ['\\', 't']
  else if c = '\r' then ['\\', 'r']
  else if c = '\x00' then ['\\', '0']
  else if isUnseen c then ['\\', 'u', '\x7b'] ++ hex 1 c.toNat ++ ['\x7d']
  else [c]

def enclose (cs : List Char) : String :=
  String.ofList ('\x22' :: cs ++ ['\x22'])

/-- A string in quotes. -/
def string (s : String) : String := enclose (s.toList.flatMap character)

def brokenByte (b : UInt8) : List Char :=
  ['\\', 'x'] ++ (hex 2 b.toNat).map Char.toUpper

/-- The bytes of a path in quotes. -/
def path (p : Bytes) : String :=
  enclose ((Utf8.pieces p).flatMap fun
    | .scalar c => character c
    | .broken bytes => bytes.flatMap brokenByte)

end Quoted

end DenseMedium

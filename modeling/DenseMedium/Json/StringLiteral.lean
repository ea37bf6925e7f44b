import DenseMedium.Json.Cursor

/-!
String literals, byte by byte.

The scanner is a machine that starts after the opening quote and ends with the closing one. Four
hexadecimal digits are collected before they are looked at. A strict scan wants surrogates in pairs;
a lenient one, for text that is skipped, does not.
-/

namespace DenseMedium.Json

/-- Where the scanner stands inside a string. A leading surrogate that waits for its partner is
carried along. -/
inductive StringState where
  | plain
  | afterBackslash
  | inEscape (digits : List UInt8) (high : Option Nat)
  | backslashDue (high : Nat)
  | letterDue (high : Nat)
  deriving DecidableEq, Repr

/-- What one byte leads to. -/
inductive StringStep where
  | next (state : StringState) (content : Bytes)
  | done

/-- The character of an escape letter. -/
def escaped? (b : UInt8) : Option UInt8 :=
  if b = Ascii.quote then some Ascii.quote
  else if b = Ascii.backslash then some Ascii.backslash
  else if b = Ascii.slash then some Ascii.slash
  else if b = 0x62 then some 0x08
  else if b = 0x66 then some 0x0c
  else if b = 0x6e then some 0x0a
  else if b = 0x72 then some 0x0d
  else if b = 0x74 then some 0x09
  else none

def hexValue? (digits : List UInt8) : Option Nat :=
  digits.foldlM (fun n b => (Ascii.hexDigit? b).map fun d => n * 16 + d) 0

/-- The bytes of a character by its number. -/
def scalarBytes (n : Nat) : Bytes := String.utf8EncodeChar (Char.ofNat n)

/-- What four hexadecimal digits of value `n` lead to. -/
def unicodeStep (isStrict : Bool) (high : Option Nat) (n : Nat) : Except ReadError StringStep :=
  if !isStrict then .ok (.next .plain [])
  else
    match high with
    | some h =>
        if 0xdc00 ≤ n ∧ n ≤ 0xdfff then
          .ok (.next .plain (scalarBytes ((h - 0xd800) * 1024 + (n - 0xdc00) + 0x10000)))
        else breach .loneSurrogate
    | none =>
        if 0xdc00 ≤ n ∧ n ≤ 0xdfff then breach .loneSurrogate
        else if 0xd800 ≤ n ∧ n ≤ 0xdbff then .ok (.next (.backslashDue n) [])
        else .ok (.next .plain (scalarBytes n))

def stringStep (isStrict : Bool) (b : UInt8) : StringState → Except ReadError StringStep
  | .plain =>
      if b = Ascii.quote then .ok .done
      else if b = Ascii.backslash then .ok (.next .afterBackslash [])
      else if b.toNat < 0x20 then breach .controlCharacter
      else .ok (.next .plain [b])
  | .afterBackslash =>
      if b = 0x75 then .ok (.next (.inEscape [] none) [])
      else
        match escaped? b with
        | some c => .ok (.next .plain [c])
        | none => breach .escape
  | .inEscape digits high =>
      if digits.length < 3 then .ok (.next (.inEscape (digits ++ [b]) high) [])
      else
        match hexValue? (digits ++ [b]) with
        | some n => unicodeStep isStrict high n
        | none => breach .escape
  | .backslashDue high =>
      if b = Ascii.backslash then .ok (.next (.letterDue high) []) else breach .unfinishedSurrogate
  | .letterDue high =>
      if b = 0x75 then .ok (.next (.inEscape [] (some high)) []) else breach .unfinishedSurrogate

/-- Scans to the closing quote; answers with the content and what follows. `found` holds the content
so far, last byte first. -/
def scanString (isStrict : Bool) (e : Ending) (state : StringState) (found : Bytes) :
    Bytes → Except ReadError (Bytes × Bytes)
  | [] => stopped e .endInString
  | b :: r =>
      match stringStep isStrict b state with
      | .error x => .error x
      | .ok .done => .ok (found.reverse, r)
      | .ok (.next state content) => scanString isStrict e state (content.reverse ++ found) r

theorem length_scanString_lt {isStrict : Bool} {e : Ending} {state : StringState}
    {found s content rest : Bytes}
    (h : scanString isStrict e state found s = .ok (content, rest)) : rest.length < s.length := by
  fun_induction scanString isStrict e state found s with
  | case1 => exact absurd h (stopped_ne_ok _ _ _)
  | case2 => contradiction
  | case3 =>
    obtain ⟨rfl, rfl⟩ := Prod.mk.inj (Except.ok.inj h)
    exact Nat.lt_succ_self _
  | case4 _ _ _ _ _ _ _ ih => exact Nat.lt_succ_of_lt (ih h)

/-- A string whose opening quote is gone, as the bytes of its content. -/
def stringBytes (isStrict : Bool) : Reader Bytes := fun e s =>
  match h : scanString isStrict e .plain [] s with
  | .error x => .error x
  | .ok (content, rest) => .ok (content, ⟨rest, length_scanString_lt h⟩)

/-- What a string leaves is what its scan leaves. -/
theorem stringBytes_bare (isStrict : Bool) (e : Ending) (s : Bytes) :
    (stringBytes isStrict e s).map (Prod.map id Subtype.val) =
      scanString isStrict e .plain [] s := by
  unfold stringBytes
  split
  · rename_i failed
    exact failed.symm
  · rename_i done
    exact done.symm

theorem stringBytes_eq_ok {isStrict : Bool} {e : Ending} {s content : Bytes} {r : Shorter s}
    (h : stringBytes isStrict e s = .ok (content, r)) :
    scanString isStrict e .plain [] s = .ok (content, r.1) := by
  rw [← stringBytes_bare, h]
  rfl

/-- The text of a string whose opening quote is gone. -/
def stringContent : Reader String := fun e s =>
  match stringBytes true e s with
  | .error x => .error x
  | .ok (content, rest) =>
      match Utf8.text? content with
      | some text => .ok (text, rest)
      | none => breach .unicode

/-- A string that is skipped, without its opening quote. -/
def skipString : Reader Unit := (stringBytes false).map fun _ => ()

end DenseMedium.Json

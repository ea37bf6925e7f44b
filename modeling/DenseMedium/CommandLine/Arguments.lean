import DenseMedium.Files.Path

/-!
The arguments of a command line.

A line has options, a command, and the values of the command. Options may stand before and after the
command, and on each side every one of them at most once; short options can share a dash. After `--`
everything is a value. A line is read from left to right, and the first thing wrong ends the reading,
as does an option that asks for the version or for help. Only values that are missing are noticed
last.
-/

namespace DenseMedium

namespace CommandLine

inductive UsageError where
  | missingCommand
  | unknownCommand (text : String)
  | unknownOption (text : String)
  | repeatedOption (text : String)
  | missingValue (command : String)
  | unexpectedValue (text : String)
  | invalidValue (text name : String)
  deriving DecidableEq, Repr

def UsageError.message : UsageError → String
  | .missingCommand => "a command is required"
  | .unknownCommand text => s!"unknown command `{text}`"
  | .unknownOption text => s!"unknown option `{text}`"
  | .repeatedOption text => s!"option `{text}` is given twice"
  | .missingValue command => s!"`{command}` requires more values"
  | .unexpectedValue text => s!"unexpected value `{text}`"
  | .invalidValue text name => s!"invalid value `{text}` for {name}"

/-- Why reading ends before a command is known. -/
inductive Halt where
  | usage (e : UsageError)
  | help
  | version
  deriving DecidableEq, Repr

inductive Command where
  | toBinary (input : FilePath) (output : Option FilePath)
  | majorant (input : FilePath) (blockSize : UInt32) (output : Option FilePath)
  | generate (output : FilePath) (size : UInt32)
  deriving DecidableEq, Repr

/-! ### Options -/

/-- The options that only change how much is logged. -/
inductive Logging where
  | verbose
  | debug
  deriving DecidableEq, Repr

inductive Choice where
  | logging (l : Logging)
  | help
  | version
  deriving DecidableEq, Repr

def shortOption? (c : Char) : Option Choice :=
  if c = 'v' then some (.logging .verbose)
  else if c = 'd' then some (.logging .debug)
  else if c = 'h' then some .help
  else if c = 'V' then some .version
  else none

def longOption? (name : String) : Option Choice :=
  if name = "verbose" then some (.logging .verbose)
  else if name = "debug" then some (.logging .debug)
  else if name = "help" then some .help
  else if name = "version" then some .version
  else none

/-- Takes note of an option. `text` is how it was written, and only a line that has no command yet
can ask for the version. -/
def choose (hasCommand : Bool) (text : String) (given : List Logging) (choice : Option Choice) :
    Except Halt (List Logging) :=
  match choice with
  | none => .error (.usage (.unknownOption text))
  | some .help => .error .help
  | some .version => .error (if hasCommand then .usage (.unknownOption text) else .version)
  | some (.logging l) =>
      if l ∈ given then .error (.usage (.repeatedOption text)) else .ok (l :: given)

inductive Token where
  | separator
  | long (name : String)
  | short (letters : List Char)
  | value (text : String)
  deriving DecidableEq, Repr

def Token.ofString (text : String) : Token :=
  match text.toList with
  | ['-', '-'] => .separator
  | '-' :: '-' :: name => .long (String.ofList name)
  | '-' :: c :: letters => .short (c :: letters)
  | _ => .value text

/-- Takes note of a token that is no value; nothing when it is one. -/
def option? (hasCommand : Bool) (text : String) (given : List Logging) :
    Option (Except Halt (List Logging)) :=
  match Token.ofString text with
  | .long name => some (choose hasCommand text given (longOption? name))
  | .short letters =>
      some (letters.foldlM (fun given c => choose hasCommand text given (shortOption? c)) given)
  | _ => none

/-! ### Values -/

/-- A number as the arguments may spell it: decimal digits, after a sign if there is one. -/
def word? (text : String) : Option UInt32 :=
  let (isNegative, digits) := match text.toList with
    | '+' :: r => (false, r)
    | '-' :: r => (true, r)
    | r => (false, r)
  if digits.isEmpty ∨ digits.any (!·.isDigit) then none
  else
    let n := digits.foldl (fun n c => n * 10 + (c.toNat - '0'.toNat)) 0
    if isNegative ∧ n ≠ 0 ∨ 4294967296 ≤ n then none else some (UInt32.ofNat n)

def fail {α : Type} (e : UsageError) : Except Halt α := .error (.usage e)

/-- What a command expects at one place. -/
inductive Slot where
  | path (name : String)
  | number (name : String)
  deriving DecidableEq, Repr

inductive Argument where
  | path (p : FilePath)
  | number (n : UInt32)
  deriving DecidableEq, Repr

def Slot.read (text : String) : Slot → Except Halt Argument
  | .path name =>
      if text.isEmpty then fail (.invalidValue text name) else .ok (.path (Utf8.bytes text))
  | .number name =>
      match word? text with
      | some n => .ok (.number n)
      | none => fail (.invalidValue text name)

/-- Values that stand after `--`. -/
def plainValues : List Slot → List String → Except Halt (List Argument)
  | _, [] => .ok []
  | [], text :: _ => fail (.unexpectedValue text)
  | slot :: slots, text :: rest => do
      let v ← slot.read text
      return v :: (← plainValues slots rest)

/-- The values after a command. Each is read where it stands, so a bad one counts before an option
that follows it. -/
def values (slots : List Slot) (given : List Logging) : List String → Except Halt (List Argument)
  | [] => .ok []
  | text :: rest =>
      if Token.ofString text = .separator then plainValues slots rest
      else
        match option? true text given with
        | some (.ok given) => values slots given rest
        | some (.error h) => .error h
        | none =>
            match slots with
            | [] => fail (.unexpectedValue text)
            | slot :: slots => do
                let v ← slot.read text
                return v :: (← values slots given rest)

/-! ### Commands -/

inductive Verb where
  | toBinary
  | majorant
  | generate
  deriving DecidableEq, Repr

namespace Verb

def all : List Verb := [.toBinary, .majorant, .generate]

def name : Verb → String
  | .toBinary => "to-bin"
  | .majorant => "majorant"
  | .generate => "generate"

def ofName? (text : String) : Option Verb := all.find? fun v => v.name = text

/-- The values of a command, in order, with those that may be left out. -/
def slots : Verb → List Slot
  | .toBinary => [.path "INPUT", .path "OUTPUT"]
  | .majorant => [.path "INPUT", .number "SUPERVOXEL_SIZE", .path "OUTPUT"]
  | .generate => [.path "OUTPUT", .number "SIZE"]

/-- The command with the given values, unless some are missing. -/
def command? : Verb → List Argument → Option Command
  | .toBinary, [.path input] => some (.toBinary input none)
  | .toBinary, [.path input, .path output] => some (.toBinary input (some output))
  | .majorant, [.path input, .number n] => some (.majorant input n none)
  | .majorant, [.path input, .number n, .path output] => some (.majorant input n (some output))
  | .generate, [.path output, .number n] => some (.generate output n)
  | _, _ => none

def command (v : Verb) (arguments : List Argument) : Except Halt Command :=
  match v.command? arguments with
  | some c => .ok c
  | none => fail (.missingValue v.name)

end Verb

def helpName : String := "help"

/-- Whether there is help on a command of the given name. -/
def isTopic (name : String) : Bool := (Verb.ofName? name).isSome || name == helpName

/-- The command `help`, which takes the name of at most one command. -/
def help : List String → Except Halt Command
  | [] => .error .help
  | [name] => if isTopic name then .error .help else fail (.unknownCommand name)
  | name :: next :: _ => fail (.unknownCommand (if isTopic name then next else name))

/-! ### Lines -/

/-- The command of a line. -/
def parse (given : List Logging) : List String → Except Halt Command
  | [] => fail .missingCommand
  | text :: rest =>
      match option? false text given with
      | some (.ok given) => parse given rest
      | some (.error h) => .error h
      | none =>
          match Verb.ofName? text with
          | some v => (values v.slots [] rest).bind v.command
          | none => if text = helpName then help rest else fail (.unknownCommand text)

end CommandLine

end DenseMedium

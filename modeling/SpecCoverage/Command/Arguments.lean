-- SUMMARY: The arguments of the command: their names, values, and how a list of them is read.
import SpecCoverage.Settings.Basic
import SpecCoverage.Text.Cut

/-!
# Arguments

An argument has a long name and may have a letter. Letters can stand together after one hyphen, and a
value follows in the same word or in the next. Each argument is given at most once, and there are no
words without a name.
-/
namespace SpecCoverage

open Text

/-- How much is logged. -/
inductive LogLevel where
  | info
  | debug
  deriving DecidableEq

namespace LogLevel

def name : LogLevel → String
  | .info => "info"
  | .debug => "debug"

def ofVerbose (verbose : Bool) : LogLevel :=
  if verbose then .debug else .info

end LogLevel

namespace Command

inductive ArgumentName where
  | workspace
  | format
  | output
  | config
  | mode
  | verbose
  | version
  | help
  deriving DecidableEq

namespace ArgumentName

def all : List ArgumentName :=
  [workspace, format, output, config, mode, verbose, version, help]

def long : ArgumentName → String
  | .workspace => "workspace"
  | .format => "format"
  | .output => "output"
  | .config => "config"
  | .mode => "mode"
  | .verbose => "verbose"
  | .version => "version"
  | .help => "help"

def letter? : ArgumentName → Option Char
  | .workspace => some 'w'
  | .format => some 'f'
  | .output => some 'o'
  | .verbose => some 'v'
  | .help => some 'h'
  | .config | .mode | .version => none

def takesValue : ArgumentName → Bool
  | .verbose | .version | .help => false
  | _ => true

def ofLong? (name : List Char) : Option ArgumentName :=
  all.find? fun a => a.long.toList = name

def ofLetter? (c : Char) : Option ArgumentName :=
  all.find? fun a => a.letter? = some c

end ArgumentName

/-- What the command was told. -/
structure Arguments where
  workspace : Path
  presentation? : Option Presentation
  output? : Option Path
  config? : Option Path
  dialect? : Option Dialect
  verbose : Bool
  showVersion : Bool
  deriving DecidableEq

/-- Without arguments the workspace is the current directory. -/
def Arguments.default : Arguments := ⟨⟨"."⟩, none, none, none, none, false, false⟩

/-- Why the command is not run. -/
inductive Refusal where
  /-- Its help was asked for. -/
  | help
  | misuse
  deriving DecidableEq

/-- What has been read of a list of arguments. -/
structure ArgumentReading where
  arguments : Arguments
  given : List ArgumentName
  /-- The argument whose value comes next. -/
  pending? : Option ArgumentName
  /-- After a word of two hyphens. -/
  closed : Bool

namespace ArgumentReading

def start : ArgumentReading := ⟨.default, [], none, false⟩

/-- A path that is given is not empty. -/
def path? (value : String) : Except Refusal Path :=
  if value = "" then .error .misuse else .ok ⟨value⟩

/-- A choice that is given is one of the names. -/
def choice? {α : Type} (ofName? : String → Option α) (value : String) : Except Refusal α :=
  match ofName? value with
  | some a => .ok a
  | none => .error .misuse

/-- Put a value in the place of its argument. -/
def store (a : Arguments) (value : String) : ArgumentName → Except Refusal Arguments
  | .workspace => (path? value).map fun p => { a with workspace := p }
  | .format => (choice? Presentation.ofName? value).map fun p => { a with presentation? := some p }
  | .output => (path? value).map fun p => { a with output? := some p }
  | .config => (path? value).map fun p => { a with config? := some p }
  | .mode => (choice? Dialect.ofName? value).map fun d => { a with dialect? := some d }
  | .verbose => .ok { a with verbose := true }
  | .version => .ok { a with showVersion := true }
  | .help => .error .help

/-- An argument is given with its value. -/
def give (r : ArgumentReading) (name : ArgumentName) (value : String) :
    Except Refusal ArgumentReading :=
  if name ∈ r.given then .error .misuse
  else (store r.arguments value name).map fun a => ⟨a, name :: r.given, none, r.closed⟩

/-- An argument is given, its value perhaps in the same word. -/
def giveWord (r : ArgumentReading) (name : ArgumentName) (value? : Option (List Char)) :
    Except Refusal ArgumentReading :=
  match name.takesValue, value? with
  | true, some v => r.give name (String.ofList v)
  | true, none => .ok { r with pending? := some name }
  | false, none => r.give name ""
  | false, some _ => .error .misuse

/-- Read the letters after one hyphen. -/
def readLetters (r : ArgumentReading) : List Char → Except Refusal ArgumentReading
  | [] => .ok r
  | c :: rest =>
    match ArgumentName.ofLetter? c with
    | none => .error .misuse
    | some name =>
      if name.takesValue then
        let value := (dropLead? ['='] rest).getD rest
        r.giveWord name (if rest.isEmpty then none else some value)
      else do readLetters (← r.giveWord name none) rest

/-- Read a word after two hyphens. -/
def readLong (r : ArgumentReading) (word : List Char) : Except Refusal ArgumentReading :=
  let (name, value?) :=
    match cutFirst? ['='] word with
    | some (name, value) => (name, some value)
    | none => (word, none)
  match ArgumentName.ofLong? name with
  | some name => r.giveWord name value?
  | none => .error .misuse

/-- Read one word. -/
def step (r : ArgumentReading) (word : String) : Except Refusal ArgumentReading :=
  if r.closed then .error .misuse
  else
    match r.pending?, word.toList with
    | some name, ['-'] => r.give name word
    | some _, '-' :: _ => .error .misuse
    | some name, _ => r.give name word
    | none, ['-', '-'] => .ok { r with closed := true }
    | none, '-' :: '-' :: rest => r.readLong rest
    | none, ['-'] => .error .misuse
    | none, '-' :: rest => r.readLetters rest
    | none, _ => .error .misuse

end ArgumentReading

/-- Read all arguments; the last may not want a value. -/
def Arguments.read (words : List String) : Except Refusal Arguments := do
  let r ← words.foldlM ArgumentReading.step .start
  if r.pending?.isSome then .error .misuse else .ok r.arguments

end Command

end SpecCoverage

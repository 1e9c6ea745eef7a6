import MarketDesk.Settings.Environment
import MarketDesk.Settings.Folder
import MarketDesk.Text.Alphanumeric
import MarketDesk.Text.Basic
import MarketDesk.Text.Printable

/-!
# Files of environment variables

A file defines a variable a line: a key, an equals sign and a value, with an optional `export` in
front and a comment behind. A value may be quoted and may refer to variables, which are looked up in
the environment and then among the definitions above. Variables that the environment already has
keep their value. A line that cannot be read ends the loading; the definitions above it stay. So
does a value with a zero character, which no environment can hold, and there the program stops.
-/

namespace MarketDesk.EnvFile

inductive Fault
  | line (text : String) (index : Nat)
  | notText
  | file (cause : FileError)
  | unstorable (name value : String)
  deriving DecidableEq, Repr

def Fault.message : Fault → String
  | line text index =>
      "Error parsing line: '" ++ text ++ "', error at line index: " ++ Text.natText index
  | notText => "stream did not contain valid UTF-8"
  | file cause => cause.message
  | unstorable name value =>
      "failed to set environment variable `" ++ Text.quoted name ++ "` to `" ++
        Text.quoted value ++ "`: " ++ FileError.zeroByte.message

def byteSize (cs : List Char) : Nat := (String.ofList cs).utf8ByteSize

def isKeyStart (c : Char) : Bool := c.isAlpha || c == '_'

def isKeyChar (c : Char) : Bool := c.isAlphanum || c == '_' || c == '.'

/-- Reads a key and the blanks behind it. An error is the text that should have been a key. -/
def readKey (cs : List Char) : Except (List Char) (String × List Char) :=
  match cs with
  | [] => .error []
  | c :: rest =>
      if isKeyStart c then
        .ok (String.ofList ((c :: rest).takeWhile isKeyChar),
          Text.trimStart ((c :: rest).dropWhile isKeyChar))
      else .error (c :: rest)

def readEquals : List Char → Except (List Char) (List Char)
  | [] => .error []
  | c :: rest => if c = '=' then .ok rest else .error (c :: rest)

/-- Reads up to the equals sign. `export` is a key only where the equals sign follows it. -/
def readName (cs : List Char) : Except (List Char) (String × List Char) := do
  let (key, rest) ← readKey cs
  match readEquals rest with
  | .ok value => return (key, value)
  | .error stuck =>
      if key = "export" then
        let (key, rest) ← readKey rest
        let value ← readEquals rest
        return (key, value)
      else throw stuck

/-- What the next character of a value belongs to. -/
inductive Mode
  | plain
  | singleQuoted
  | escaped
  | reference
  | braced
  | ended
  deriving DecidableEq

/-- A value as far as it has been read; the name and the output have their last character first. -/
structure Scan where
  mode : Mode
  quoted : Bool
  name : List Char
  output : List Char

namespace Scan

def start : Scan := ⟨.plain, false, [], []⟩

def push (s : Scan) (c : Char) : Scan := { s with mode := .plain, output := c :: s.output }

/-- Puts the value of the variable named so far into the output. -/
def substitute (lookUp : String → String) (s : Scan) : Scan :=
  let value := lookUp (String.ofList s.name.reverse)
  { s with mode := .plain, name := [], output := value.toList.reverse ++ s.output }

/-- Takes a character; `none` if it is not allowed where it stands. -/
def step (lookUp : String → String) (s : Scan) (c : Char) : Option Scan :=
  match s.mode with
  | .ended => if c = ' ' ∨ c = '\t' then some s else none
  | .escaped =>
      if c = '\\' ∨ c = '\'' ∨ c = '"' ∨ c = '$' ∨ c = ' ' then some (s.push c)
      else if c = 'n' then some (s.push '\n')
      else none
  | .singleQuoted =>
      if c = '\'' then some { s with mode := .plain } else some { s with output := c :: s.output }
  | .reference =>
      if Text.isAlphanumeric c then some { s with name := c :: s.name }
      else if c = '\x7b' ∧ s.name = [] then some { s with mode := .braced }
      else if c = '$' then some { s.substitute lookUp with mode := .reference }
      else some ((s.substitute lookUp).push c)
  | .braced =>
      if c = '\x7d' then some (s.substitute lookUp) else some { s with name := c :: s.name }
  | .plain =>
      if c = '$' then some { s with mode := .reference }
      else if c = '\\' then some { s with mode := .escaped }
      else if c = '"' then some { s with quoted := !s.quoted }
      else if s.quoted then some (s.push c)
      else if c = '\'' then some { s with mode := .singleQuoted }
      else if c = ' ' ∨ c = '\t' then some { s with mode := .ended }
      else some (s.push c)

/-- Takes characters up to the end or a comment behind a blank; an error is the count of those
taken. -/
def run (lookUp : String → String) (s : Scan) (taken : Nat) : List Char → Except Nat Scan
  | [] => .ok s
  | c :: rest =>
      if s.mode = .ended ∧ c = '#' then .ok s
      else
        match s.step lookUp c with
        | none => .error taken
        | some s => s.run lookUp (taken + 1) rest

def isOpen (s : Scan) : Bool := s.mode == .braced || s.mode == .singleQuoted || s.quoted

end Scan

def readValue (lookUp : String → String) (cs : List Char) : Except Fault String :=
  match Scan.start.run lookUp 0 cs with
  | .error index => .error (.line (String.ofList cs) index)
  | .ok s =>
      if s.isOpen then .error (.line (String.ofList cs) (byteSize cs - 1))
      else .ok (String.ofList (s.substitute lookUp).output.reverse)

def startsComment (cs : List Char) : Bool := cs.isEmpty || cs.head? == some '#'

/-- The definition on a line, if there is one. -/
def readLine (lookUp : String → String) (line : List Char) :
    Except Fault (Option (String × String)) :=
  let trimmed := Text.trimEnd line
  let content := Text.trimStart trimmed
  if startsComment content then .ok none
  else
    match readName content with
    | .error stuck => .error (.line (String.ofList line) (byteSize trimmed - byteSize stuck))
    | .ok (key, value) =>
        let value := Text.trimStart value
        if startsComment value then .ok (some (key, ""))
        else (readValue lookUp value).map fun v => some (key, v)

/-- The environment while a file is loaded, and the definitions read so far. -/
structure Loading where
  env : Environment
  defined : Dictionary String String

namespace Loading

def lookUp (l : Loading) (name : String) : String :=
  match l.env.text? name with
  | some value => value
  | none => (l.defined.get? name).getD ""

def define (l : Loading) (key value : String) : Except Fault Loading :=
  let defined := l.defined.set key value
  if (l.env.text? key).isSome then .ok ⟨l.env, defined⟩
  else if value.toList.contains '\x00' then .error (.unstorable key value)
  else .ok ⟨l.env.set key (.text value), defined⟩

def readNext (l : Loading) (bytes : List UInt8) : Except Fault Loading :=
  match Text.Utf8.decode? bytes with
  | none => .error .notText
  | some line => do
      match ← readLine l.lookUp line with
      | none => return l
      | some (key, value) => l.define key value

def run (l : Loading) : List (List UInt8) → Except Fault Unit × Environment
  | [] => (.ok (), l.env)
  | bytes :: rest =>
      match l.readNext bytes with
      | .error fault => (.error fault, l.env)
      | .ok l => l.run rest

end Loading

/-- The lines of a text without their ends, which are a line feed after an optional carriage return.
-/
def lines (bytes : List UInt8) : List (List UInt8) :=
  let parts := bytes.splitOn 10
  let ended := parts.dropLast.map fun p => if p.getLast? = some 13 then p.dropLast else p
  match parts.getLast? with
  | none => ended
  | some last => if last.isEmpty then ended else ended ++ [last]

def load (env : Environment) (bytes : List UInt8) : Except Fault Unit × Environment :=
  Loading.run ⟨env, .empty⟩ (lines bytes)

end MarketDesk.EnvFile

namespace MarketDesk.Settings

/-- The error for a fault in the file at a path. -/
def refusal (path : String) (fault : EnvFile.Fault) : SettingsError :=
  match fault with
  | .unstorable _ _ => .aborted fault.message
  | fault => .invalid ("Failed to load .env file '" ++ path ++ "': " ++ fault.message)

/-- Loads a file of variables, if it is there, and then reads the environment. -/
def fromEnvFile (exchange path : String) (folder : Folder) (env : Environment) :
    Except SettingsError Settings × Environment :=
  match folder.readFile path with
  | .error .notFound => (fromEnvironment exchange env, env)
  | .error e => (.error (refusal path (.file e)), env)
  | .ok bytes =>
      match EnvFile.load env bytes with
      | (.error fault, env) => (.error (refusal path fault), env)
      | (.ok (), env) => (fromEnvironment exchange env, env)

def envFileName : String := ".env"

end MarketDesk.Settings

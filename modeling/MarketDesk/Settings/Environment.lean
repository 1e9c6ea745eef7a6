import MarketDesk.Currency
import MarketDesk.Dictionary
import MarketDesk.Settings.Basic
import MarketDesk.Text.Utf8

/-!
# Settings from the environment

Environment variables are texts or bytes that are no text, and a variable without text counts as one
that is not set. The environment reads as lines `name=value`, and a value is what follows the name
and an equals sign in a line, so a name that holds an equals sign finds the rest of a value that
continues it. The settings of an exchange stand in variables that start with its name in capital
letters.
-/

namespace MarketDesk

inductive VariableValue
  | text (s : String)
  | bytes (bs : List UInt8) (no_text : Text.Utf8.decode? bs = none)
  deriving DecidableEq

namespace VariableValue

def ofBytes (bs : List UInt8) : VariableValue :=
  match h : Text.Utf8.decode? bs with
  | some cs => .text (String.ofList cs)
  | none => .bytes bs h

def text? : VariableValue → Option String
  | text s => some s
  | bytes _ _ => none

def toBytes : VariableValue → List UInt8
  | text s => s.toUTF8.toList
  | bytes bs _ => bs

/-- The value for display, with U+FFFD where it is no text. -/
def shown : VariableValue → String
  | text s => s
  | bytes bs _ => String.ofList (Text.Utf8.decodeLenient bs)

end VariableValue

abbrev Environment := Dictionary String VariableValue

/-- What follows a name and an equals sign in a line of the environment. -/
def Environment.value? (env : Environment) (name : String) : Option VariableValue :=
  match name.toList.dropWhile (fun c => c != '=') with
  | [] => env.get? name
  | _ :: continued => do
      let value ← env.get? (String.ofList (name.toList.takeWhile fun c => c != '='))
      let start := (String.ofList (continued ++ ['='])).toUTF8.toList
      VariableValue.ofBytes <$> start.isPrefixOf? value.toBytes

def Environment.text? (env : Environment) (name : String) : Option String :=
  (env.value? name).bind VariableValue.text?

/-- Why there are no settings. `aborted` is a fault that the whole program stops at. -/
inductive SettingsError
  | missingVariable (name : String)
  | invalid (reason : String)
  | aborted (reason : String)
  deriving DecidableEq, Repr

def SettingsError.message : SettingsError → String
  | missingVariable name => "Missing environment variable: " ++ name
  | invalid reason => "Invalid configuration: " ++ reason
  | aborted reason => reason

namespace Settings

def variableName (exchange suffix : String) : String := upperText exchange ++ "_" ++ suffix

def requireVariable (env : Environment) (name : String) : Except SettingsError String :=
  match env.text? name with
  | some s => .ok s
  | none => .error (.missingVariable name)

/-- Any text other than `true` leaves the test network off. -/
def fromEnvironment (exchange : String) (env : Environment) : Except SettingsError Settings := do
  let apiKey ← requireVariable env (variableName exchange "API_KEY")
  let secretKey ← requireVariable env (variableName exchange "SECRET_KEY")
  let testnet := env.text? (variableName exchange "TESTNET") == some "true"
  let baseUrl := env.text? (variableName exchange "BASE_URL")
  return { ofCredentials ⟨apiKey, secretKey⟩ with testnet, baseUrl }

end Settings

end MarketDesk

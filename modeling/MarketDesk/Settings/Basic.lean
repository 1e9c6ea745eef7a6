import MarketDesk.Json.Printer
import MarketDesk.Json.Record

/-!
# Settings of an exchange account

The keys of an account, the address of the exchange and two windows of time: how long a signed
request stays valid, in milliseconds, and how long a window of the rate limit lasts, in nanoseconds.

Settings written as JSON never show the keys, and give the window of the rate limit in whole
seconds. Settings read from JSON need both keys and take the usual values for what is left out.
-/

namespace MarketDesk

open Json

structure Credentials where
  apiKey : String
  secretKey : String
  deriving DecidableEq

def Credentials.none : Credentials := ⟨"", ""⟩

def Credentials.complete (c : Credentials) : Bool := !c.apiKey.isEmpty && !c.secretKey.isEmpty

structure Settings where
  credentials : Credentials
  testnet : Bool
  baseUrl : Option String
  recvWindow : UInt64
  rateLimitWindow : Nat
  deriving DecidableEq

namespace Settings

def nanosPerSecond : Nat := 1000000000

def defaultRecvWindow : UInt64 := 5000

def defaultRateLimitWindow : Nat := 90 * nanosPerSecond

def ofCredentials (credentials : Credentials) : Settings :=
  ⟨credentials, false, none, defaultRecvWindow, defaultRateLimitWindow⟩

/-- Settings for public endpoints alone. -/
def readOnly : Settings := ofCredentials .none

def hasCredentials (s : Settings) : Bool := s.credentials.complete

/-- The test network comes first, then an address of one's own. -/
def resolveUrl (s : Settings) (mainnet testnet : String) : String :=
  if s.testnet then testnet else s.baseUrl.getD mainnet

def redacted : String := "[REDACTED]"

def toJson (s : Settings) : Value :=
  .object [
    ("api_key", .string redacted),
    ("secret_key", .string redacted),
    ("testnet", .bool s.testnet),
    ("base_url", match s.baseUrl with
      | some url => .string url
      | none => .null),
    ("recv_window_ms", .integer s.recvWindow.toNat),
    ("rate_limit_window_secs", .integer (s.rateLimitWindow / nanosPerSecond : Nat))]

def fields : Fields [String, String, Bool, Option String, Option UInt64, Option UInt64] :=
  (.required "api_key" Decode.text, .required "secret_key" Decode.text,
    .defaulted "testnet" Decode.bool false, .nullable "base_url" Decode.text,
    .nullable "recv_window_ms" Decode.uint64, .nullable "rate_limit_window_secs" Decode.uint64, ())

def decode : Decoder Settings := fun json => do
  let (apiKey, secretKey, testnet, baseUrl, recvWindow, rateLimitSeconds, ()) ← fields.decode json
  let rateLimitWindow := match rateLimitSeconds with
    | some seconds => seconds.toNat * nanosPerSecond
    | none => defaultRateLimitWindow
  return ⟨⟨apiKey, secretKey⟩, testnet, baseUrl, recvWindow.getD defaultRecvWindow, rateLimitWindow⟩

end Settings

end MarketDesk

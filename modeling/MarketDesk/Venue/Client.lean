import MarketDesk.Currency
import MarketDesk.Http
import MarketDesk.RateLimiter
import MarketDesk.Signature
import MarketDesk.Text.Printable
import MarketDesk.Venue.Error

/-!
# Clients of the venue

A signed payload is the encoded parameters, the time of the request and how long it stays valid, and
the keyed digest of all that. The API key travels in a header only.

A client knows where the venue is and how to sign for an account, if it has one, and keeps account
of its calls and of the venue's symbols. A request carries its parameters in the address if it reads
and as a form if it does anything else.
-/

namespace MarketDesk

namespace Venue

def exchangeName : String := "binance"

def mainnetUrl : String := "https://api.binance.com"

def testnetUrl : String := "https://testnet.binance.vision"

def instrumentsPath : String := "/api/v3/exchangeInfo"

def depthPath : String := "/api/v3/depth"

def accountPath : String := "/api/v3/account"

def openOrdersPath : String := "/api/v3/openOrders"

def orderPath : String := "/api/v3/order"

def orderTestPath : String := "/api/v3/order/test"

end Venue

structure Signer where
  credentials : Credentials
  recvWindow : UInt64
  deriving DecidableEq

structure SignedPayload where
  headers : List (String × String)
  payload : String
  deriving DecidableEq, Repr

namespace Signer

def apiKeyHeader : String := "X-MBX-APIKEY"

def ofSettings (s : Settings) : Signer := ⟨s.credentials, s.recvWindow⟩

def timeWindow (s : Signer) (timestamp : Nat) : String :=
  "timestamp=" ++ Text.natText timestamp ++ "&recvWindow=" ++ Text.natText s.recvWindow.toNat

/-- What the signature is computed from. -/
def unsigned (s : Signer) (payload : String) (timestamp : Nat) : String :=
  if payload.isEmpty then s.timeWindow timestamp else payload ++ "&" ++ s.timeWindow timestamp

def sign (s : Signer) (payload : String) (timestamp : Nat) : SignedPayload :=
  let unsigned := s.unsigned payload timestamp
  ⟨[(apiKeyHeader, s.credentials.apiKey)],
    unsigned ++ "&signature=" ++ Hmac.sign s.credentials.secretKey unsigned⟩

end Signer

structure Client where
  baseUrl : String
  signer : Option Signer
  limiter : RateLimiter
  symbols : SymbolMap

namespace Client

def resolveUrl (s : Settings) : String := s.resolveUrl Venue.mainnetUrl Venue.testnetUrl

def ofSettings (s : Settings) : Client :=
  { baseUrl := resolveUrl s
    signer := if s.hasCredentials then some (.ofSettings s) else none
    limiter := .ofLength s.rateLimitWindow
    symbols := .empty }

/-- A client over a connection of its own, if one can be opened. -/
def connect (s : Settings) : Except VenueError Client :=
  if (Http.Connection.ofExchange (resolveUrl s) Venue.exchangeName).canOpen then .ok (.ofSettings s)
  else .error .http

def hasCredentials (c : Client) : Bool := c.signer.isSome

/-- The venue writes a pair as its two symbols in capital letters. -/
def requestFormat : PairFormat := ⟨"", true⟩

def symbolOfPair (pair : CurrencyPair) : String := pair.format requestFormat

def pairOfSymbol (c : Client) (symbol : String) : Except VenueError CurrencyPair :=
  match c.symbols.resolve? symbol requestFormat with
  | some pair => .ok pair
  | none => .error (.unknownSymbol symbol)

def acceptHeader : String × String := ("Accept", "application/json")

def formHeader : String × String := ("Content-Type", "application/x-www-form-urlencoded")

/-- The time of a request in milliseconds since the epoch, which a clock may not be before. -/
def timestamp (unixMillis : Int) : Except VenueError Nat :=
  if unixMillis < 0 then
    .error (.authentication
      "System clock before Unix epoch: second time provided was later than self")
  else .ok unixMillis.toNat

def authenticate (c : Client) (payload : String) (unixMillis : Int) :
    Except VenueError SignedPayload :=
  match c.signer with
  | none => .error (.noCredentials Venue.exchangeName)
  | some signer => (timestamp unixMillis).map fun t => signer.sign payload t

/-- Places headers and payload in a request. -/
def place (c : Client) (method path : String) (signed : SignedPayload) : Http.Request :=
  let url := c.baseUrl ++ path
  let headers := acceptHeader :: signed.headers
  if method = "GET" then
    { method
      url := if signed.payload.isEmpty then url else url ++ "?" ++ signed.payload
      headers
      body := none }
  else { method, url, headers := headers ++ [formHeader], body := some signed.payload }

def buildRequest (c : Client) (method path : String) (params : Http.Params) (signed : Bool)
    (unixMillis : Int) : Except VenueError Http.Request :=
  let payload := params.encode
  if signed then (c.authenticate payload unixMillis).map (c.place method path)
  else .ok (c.place method path ⟨[], payload⟩)

/-- The name under which the calls of an endpoint are counted. -/
def endpoint (method path : String) : String := method ++ path

/-- The client in a form for diagnostics, without its keys. -/
def describe (c : Client) : String :=
  "BinanceClient \x7b base_url: " ++ Text.quoted c.baseUrl ++ ", has_signer: " ++
    (if c.hasCredentials then "true" else "false") ++ ", known_symbols: " ++
    Text.natText c.symbols.size ++ ", .. \x7d"

end Client

end MarketDesk

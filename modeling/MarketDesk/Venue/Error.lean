import MarketDesk.Book.Store
import MarketDesk.Http
import MarketDesk.Json.Record
import MarketDesk.Settings.Environment

/-!
# Errors of a venue

What can go wrong with a call to a venue, by cause: the call was not allowed to go out, the
transport failed, the venue rejected the request, or its answer could not be read.

A response of success carries a result. Every other response carries a rejection, which has a code
and a text under one of two names.
-/

namespace MarketDesk

open Json

/-- The codes that a venue's rejections frequently carry. -/
inductive ErrorCode
  | unknown
  | tooManyRequests
  | invalidTimestamp
  | invalidSignature
  | newOrderRejected
  | cancelRejected
  | noSuchOrder
  | invalidApiKeyFormat
  | rejectedApiKey
  deriving DecidableEq, Repr

namespace ErrorCode

def code : ErrorCode → Int32
  | unknown => -1000
  | tooManyRequests => -1003
  | invalidTimestamp => -1021
  | invalidSignature => -1022
  | newOrderRejected => -2010
  | cancelRejected => -2011
  | noSuchOrder => -2013
  | invalidApiKeyFormat => -2014
  | rejectedApiKey => -2015

def name : ErrorCode → String
  | unknown => "Unknown"
  | tooManyRequests => "TooManyRequests"
  | invalidTimestamp => "InvalidTimestamp"
  | invalidSignature => "InvalidSignature"
  | newOrderRejected => "NewOrderRejected"
  | cancelRejected => "CancelRejected"
  | noSuchOrder => "NoSuchOrder"
  | invalidApiKeyFormat => "InvalidApiKeyFormat"
  | rejectedApiKey => "RejectedApiKey"

def all : List ErrorCode :=
  [unknown, tooManyRequests, invalidTimestamp, invalidSignature, newOrderRejected, cancelRejected,
    noSuchOrder, invalidApiKeyFormat, rejectedApiKey]

def ofCode? (n : Int32) : Option ErrorCode := all.find? fun e => e.code == n

end ErrorCode

inductive VenueError
  | noCredentials (exchange : String)
  | http
  | network (reason : String)
  | malformedResponse (reason : String)
  | malformedRejection (status : Nat) (reason : String)
  | rejected (code : Int32) (text : String)
  | unknownSymbol (symbol : String)
  | authentication (reason : String)
  | invalidParameters (reason : String)
  | settings (cause : SettingsError)
  | book (cause : BookError)
  deriving DecidableEq, Repr

namespace VenueError

def message : VenueError → String
  | noCredentials exchange =>
      exchange ++ ": authenticated request attempted without API credentials"
  | http => "HTTP request failed"
  | network reason => "Network error: " ++ reason
  | malformedResponse reason => "Failed to decode response body: " ++ reason
  | malformedRejection status reason =>
      "Failed to decode error response (status " ++ Text.natText status ++ "): " ++ reason
  | rejected code text => "API error: " ++ Text.integerText code.toInt ++ " - " ++ text
  | unknownSymbol symbol => "Unknown symbol: " ++ symbol
  | authentication reason => "Authentication error: " ++ reason
  | invalidParameters reason => "Invalid parameters: " ++ reason
  | settings cause => "Configuration error: " ++ cause.message
  | book cause => cause.message

def venueCode? : VenueError → Option Int32
  | rejected code _ => some code
  | _ => none

def isDecodeError : VenueError → Bool
  | malformedResponse _ => true
  | malformedRejection _ _ => true
  | _ => false

def isTransportError : VenueError → Bool
  | http => true
  | network _ => true
  | _ => false

/-- The venue rejected the time of a request. -/
def isClockSkew (e : VenueError) : Bool := e.venueCode? == some ErrorCode.invalidTimestamp.code

end VenueError

structure Rejection where
  code : Int32
  text : String
  deriving DecidableEq

def Rejection.fields : Fields [Int32, String] :=
  (.required "code" Decode.int32, ⟨"msg", some "message", Decode.text, none, none⟩, ())

def Rejection.decode : Decoder Rejection := fun json => do
  let (code, text, ()) ← Rejection.fields.decode json
  return ⟨code, text⟩

def Http.Response.decode {α : Type} (decode : Decoder α) (r : Http.Response) :
    Except VenueError α :=
  if r.isSuccess then
    match decode.run r.body with
    | .ok value => .ok value
    | .error e => .error (.malformedResponse e.message)
  else
    match Rejection.decode.run r.body with
    | .ok rejection => .error (.rejected rejection.code rejection.text)
    | .error e => .error (.malformedRejection r.status e.message)

end MarketDesk

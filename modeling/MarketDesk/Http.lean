import MarketDesk.Dictionary
import MarketDesk.Text.Basic
import MarketDesk.Text.Case

/-!
# Requests and responses

A request with everything that goes on the wire, and a response as a status with a body that has not
been read. Header names are compared without regard to the case of ASCII letters. Parameters are
named values in the order in which the names were first set, written in the form of a query string.

A connection to a venue is opened with a user agent, which travels as a header value and so may hold
no control characters other than the tab.
-/

namespace MarketDesk.Http

structure Request where
  method : String
  url : String
  headers : List (String × String)
  body : Option String
  deriving DecidableEq, Repr

structure Response where
  status : Nat
  body : String
  deriving DecidableEq, Repr

def Request.header? (r : Request) (name : String) : Option String :=
  (r.headers.find? fun h => Text.equalIgnoringCase h.1 name).map Prod.snd

/-- The part of the address behind its first question mark. -/
def Request.query? (r : Request) : Option String :=
  match r.url.toList.dropWhile (fun c => c != '?') with
  | [] => none
  | _ :: query => some (String.ofList query)

def Response.isSuccess (r : Response) : Bool := 200 ≤ r.status && r.status ≤ 299

structure Params where
  pairs : Dictionary String String
  deriving DecidableEq

namespace Params

def empty : Params := ⟨.empty⟩

def set (p : Params) (key value : String) : Params := ⟨p.pairs.set key value⟩

/-- Sets a key if there is a value for it. -/
def setIfSome (p : Params) (key : String) : Option String → Params
  | none => p
  | some value => p.set key value

def ofList (pairs : List (String × String)) : Params := ⟨.ofList pairs⟩

def get? (p : Params) (key : String) : Option String := p.pairs.get? key

def size (p : Params) : Nat := p.pairs.size

def isEmpty (p : Params) : Bool := p.pairs.isEmpty

def encodePair (pair : String × String) : String :=
  Text.percentEncode pair.1 ++ "=" ++ Text.percentEncode pair.2

def encode (p : Params) : String := "&".intercalate (p.pairs.entries.map encodePair)

end Params

structure Connection where
  baseUrl : String
  exchange : String
  timeoutSeconds : Nat
  userAgent : String

namespace Connection

def ofExchange (baseUrl exchange : String) : Connection :=
  ⟨baseUrl, exchange, 30, "orderlink/0.1"⟩

def isHeaderChar (c : Char) : Bool := c == '\t' || (0x20 ≤ c.toNat && c.toNat != 0x7F)

def canOpen (c : Connection) : Bool := c.userAgent.toList.all isHeaderChar

end Connection

end MarketDesk.Http

import MarketDesk.Book.Store
import MarketDesk.Json.Value
import MarketDesk.Venue.Account
import MarketDesk.Venue.Client
import MarketDesk.Venue.Depth
import MarketDesk.Venue.Error
import MarketDesk.Venue.Instruments
import MarketDesk.Venue.Order
import MarketDesk.Venue.OrderReport

/-!
# Sessions with the venue

A session is a client with a store of order books, the replies that the venue will give, one for
each request, and the requests sent so far. When no reply is left the venue answers an empty object.
A request whose reply never comes is cancelled. Every operation is one step of the session under a
reading of the clocks, and gives a result, an error or the cancellation.
-/

namespace MarketDesk

/-- What the clocks show during an operation: nanoseconds for the rate limit, milliseconds since the
epoch for the time of a request, and the time of day when a book arrives and when it is stored. -/
structure Clock where
  monotonic : Nat
  unixMillis : Int
  arrival : Instant
  storage : Instant

/-- What comes of a request: a response, a failure of the network with its reason or of the HTTP
layer, or nothing at all. -/
inductive Reply
  | response (r : Http.Response)
  | failure (reason : String)
  | httpFailure
  | hang

structure Session where
  client : Client
  store : BookStore
  replies : List Reply
  requests : List Http.Request

inductive Outcome (α : Type)
  | ok (value : α)
  | error (e : VenueError)
  | cancelled

namespace Outcome

variable {α β : Type}

def ofExcept : Except VenueError α → Outcome α
  | .ok value => ok value
  | .error e => error e

def bind (o : Outcome α) (f : α → Outcome β) : Outcome β :=
  match o with
  | ok value => f value
  | error e => error e
  | cancelled => cancelled

def map (f : α → β) (o : Outcome α) : Outcome β := o.bind fun value => ok (f value)

end Outcome

namespace Session

variable {α : Type}

def ofClient (client : Client) : Session := ⟨client, .empty, [], []⟩

def addReplies (s : Session) (replies : List Reply) : Session :=
  { s with replies := s.replies ++ replies }

def nextReply (s : Session) : Reply := s.replies.head?.getD (.response ⟨200, "\x7b\x7d"⟩)

/-- The session after a request has gone out and taken its reply. -/
def sent (s : Session) (request : Http.Request) : Session :=
  { s with replies := s.replies.tail, requests := s.requests ++ [request] }

def readReply (decode : Decoder α) : Reply → Outcome α
  | .response r => .ofExcept (r.decode decode)
  | .failure reason => .error (.network reason)
  | .httpFailure => .error .http
  | .hang => .cancelled

def send (decode : Decoder α) (method path : String) (params : Http.Params) (signed : Bool)
    (clock : Clock) (s : Session) : Outcome α × Session :=
  match s.client.buildRequest method path params signed clock.unixMillis with
  | .error e => (.error e, s)
  | .ok request => (readReply decode s.nextReply, s.sent request)

def withLimiter (s : Session) (limiter : RateLimiter) : Session :=
  { s with client := { s.client with limiter } }

/-- Sends a signed request if the budget of its endpoint admits a call, and otherwise gives the
value that stands for no news. -/
def sendRateLimited (decode : Decoder α) (budget : Nat) (method path : String)
    (params : Http.Params) (otherwise : α) (clock : Clock) (s : Session) : Outcome α × Session :=
  match s.client.limiter.acquire (Client.endpoint method path) budget clock.monotonic with
  | (false, limiter) => (.ok otherwise, s.withLimiter limiter)
  | (true, limiter) => (s.withLimiter limiter).send decode method path params true clock

def fetchInstruments (clock : Clock) (s : Session) : Outcome Instruments × Session :=
  s.send Instruments.decode "GET" Venue.instrumentsPath .empty false clock

/-- Takes the venue's list of instruments in the place of the symbols known so far, and gives the
number of its entries. -/
def loadInstruments (clock : Clock) (s : Session) : Outcome Nat × Session :=
  match s.fetchInstruments clock with
  | (.ok instruments, s) =>
      let entries := instruments.entries
      (.ok entries.length, { s with client := { s.client with symbols := .ofEntries entries } })
  | (.error e, s) => (.error e, s)
  | (.cancelled, s) => (.cancelled, s)

def depthParams (symbol : String) (limit : Option UInt32) : Http.Params :=
  Http.Params.empty
    |>.set "symbol" symbol
    |>.setIfSome "limit" (limit.map fun n => Text.natText n.toNat)

def fetchDepth (symbol : String) (limit : Option UInt32) (clock : Clock) (s : Session) :
    Outcome Depth × Session :=
  s.send Depth.decode "GET" Venue.depthPath (depthParams symbol limit) false clock

def fetchBook (pair : CurrencyPair) (limit : Option UInt32) (clock : Clock) (s : Session) :
    Outcome Snapshot × Session :=
  let (depth, s) := s.fetchDepth (Client.symbolOfPair pair) limit clock
  (depth.bind fun d => .ofExcept (d.toSnapshot pair clock.arrival), s)

/-- Fetches the book of a pair's spot market and stores it once it has arrived. -/
def updateBook (pair : CurrencyPair) (limit : Option UInt32) (clock : Clock) (s : Session) :
    Outcome Snapshot × Session :=
  match s.fetchBook pair limit clock with
  | (.ok snapshot, s) =>
      let store := s.store.upsert pair BookStore.spot snapshot clock.storage
      let stored := (store.get pair BookStore.spot).mapError VenueError.book
      (.ofExcept stored, { s with store })
  | (.error e, s) => (.error e, s)
  | (.cancelled, s) => (.cancelled, s)

def fetchAccount (clock : Clock) (s : Session) : Outcome Account × Session :=
  s.send Account.decode "GET" Venue.accountPath .empty true clock

def orderPath (o : Order) : String :=
  if o.validateOnly then Venue.orderTestPath else Venue.orderPath

/-- Places an order that has what its type asks for. -/
def postOrder (o : Order) (clock : Clock) (s : Session) : Outcome Receipt × Session :=
  match o.validate with
  | .error e => (.error e, s)
  | .ok () => s.send Receipt.decode "POST" (orderPath o) o.toParams true clock

def fetchOrder (symbol : String) (lookup : OrderLookup) (clock : Clock) (s : Session) :
    Outcome OrderReport × Session :=
  s.send OrderReport.decode "GET" Venue.orderPath (lookup.toParams symbol) true clock

def cancelOrder (symbol : String) (lookup : OrderLookup) (clock : Clock) (s : Session) :
    Outcome Cancellation × Session :=
  s.send Cancellation.decode "DELETE" Venue.orderPath (lookup.toParams symbol) true clock

def openOrdersParams (symbol : Option String) : Http.Params :=
  Http.Params.empty.setIfSome "symbol" symbol

def fetchOpenOrders (symbol : Option String) (clock : Clock) (s : Session) :
    Outcome (List OrderReport) × Session :=
  s.send OrderReport.decodeAll "GET" Venue.openOrdersPath (openOrdersParams symbol) true clock

/-- Fetches the open orders within a budget of calls, and beyond it gives none. -/
def pollOpenOrders (budget : Nat) (symbol : Option String) (clock : Clock) (s : Session) :
    Outcome (List OrderReport) × Session :=
  s.sendRateLimited OrderReport.decodeAll budget "GET" Venue.openOrdersPath
    (openOrdersParams symbol) [] clock

end Session

end MarketDesk

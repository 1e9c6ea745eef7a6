import MarketDesk.Venue.Session

/-!
# Operations of a session

The operations of a client as data, so that a whole session is a list of them. `Session.run` takes
the session one operation further, and `Session.runAll` a list of operations, each under its own
reading of the clocks.
-/

namespace MarketDesk

inductive Operation
  | fetchInstruments
  | loadInstruments
  | fetchDepth (symbol : String) (limit : Option UInt32)
  | fetchBook (pair : CurrencyPair) (limit : Option UInt32)
  | updateBook (pair : CurrencyPair) (limit : Option UInt32)
  | fetchAccount
  | postOrder (order : Order)
  | fetchOrder (symbol : String) (lookup : OrderLookup)
  | cancelOrder (symbol : String) (lookup : OrderLookup)
  | fetchOpenOrders (symbol : Option String)
  | pollOpenOrders (budget : Nat) (symbol : Option String)
  | send (method path : String) (params : Http.Params) (signed : Bool)
  | sendRateLimited (budget : Nat) (method path : String) (params : Http.Params)
      (otherwise : Json.Value)

inductive Answer
  | instruments (i : Instruments)
  | count (n : Nat)
  | depth (d : Depth)
  | book (s : Snapshot)
  | account (a : Account)
  | receipt (r : Receipt)
  | report (r : OrderReport)
  | reports (rs : List OrderReport)
  | cancellation (c : Cancellation)
  | value (v : Json.Value)

namespace Session

def answerWith {α : Type} (f : α → Answer) (r : Outcome α × Session) : Outcome Answer × Session :=
  (r.1.map f, r.2)

def run (op : Operation) (clock : Clock) (s : Session) : Outcome Answer × Session :=
  match op with
  | .fetchInstruments => answerWith .instruments (s.fetchInstruments clock)
  | .loadInstruments => answerWith .count (s.loadInstruments clock)
  | .fetchDepth symbol limit => answerWith .depth (s.fetchDepth symbol limit clock)
  | .fetchBook pair limit => answerWith .book (s.fetchBook pair limit clock)
  | .updateBook pair limit => answerWith .book (s.updateBook pair limit clock)
  | .fetchAccount => answerWith .account (s.fetchAccount clock)
  | .postOrder order => answerWith .receipt (s.postOrder order clock)
  | .fetchOrder symbol lookup => answerWith .report (s.fetchOrder symbol lookup clock)
  | .cancelOrder symbol lookup => answerWith .cancellation (s.cancelOrder symbol lookup clock)
  | .fetchOpenOrders symbol => answerWith .reports (s.fetchOpenOrders symbol clock)
  | .pollOpenOrders budget symbol => answerWith .reports (s.pollOpenOrders budget symbol clock)
  | .send method path params signed =>
      answerWith .value (s.send Json.Value.decode method path params signed clock)
  | .sendRateLimited budget method path params otherwise =>
      answerWith .value
        (s.sendRateLimited Json.Value.decode budget method path params otherwise clock)

def runAll (s : Session) : List (Operation × Clock) → List (Outcome Answer) × Session
  | [] => ([], s)
  | (op, clock) :: rest =>
      let (outcome, s) := s.run op clock
      let (outcomes, s) := s.runAll rest
      (outcome :: outcomes, s)

end Session

end MarketDesk

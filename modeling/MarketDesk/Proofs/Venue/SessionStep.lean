import MarketDesk.Proofs.RateLimiter.Run
import MarketDesk.Venue.Operation

/-!
# Steps of a session

What one operation asks of the venue and of the rate limiter. The limiter has no part in sending a
request: sending with another limiter is sending, and then having the other limiter.
-/

namespace MarketDesk

/-- The request that an operation sends, up to what the client adds to it. -/
structure VenueCall where
  method : String
  path : String
  params : Http.Params
  signed : Bool

namespace Operation

open Session in
def call : Operation → VenueCall
  | fetchInstruments | loadInstruments => ⟨"GET", Venue.instrumentsPath, .empty, false⟩
  | fetchDepth symbol limit => ⟨"GET", Venue.depthPath, depthParams symbol limit, false⟩
  | fetchBook pair limit | updateBook pair limit =>
      ⟨"GET", Venue.depthPath, depthParams (Client.symbolOfPair pair) limit, false⟩
  | fetchAccount => ⟨"GET", Venue.accountPath, .empty, true⟩
  | postOrder order => ⟨"POST", orderPath order, order.toParams, true⟩
  | fetchOrder symbol lookup => ⟨"GET", Venue.orderPath, lookup.toParams symbol, true⟩
  | cancelOrder symbol lookup => ⟨"DELETE", Venue.orderPath, lookup.toParams symbol, true⟩
  | fetchOpenOrders symbol | pollOpenOrders _ symbol =>
      ⟨"GET", Venue.openOrdersPath, openOrdersParams symbol, true⟩
  | send method path params signed => ⟨method, path, params, signed⟩
  | sendRateLimited _ method path params _ => ⟨method, path, params, true⟩

/-- The call on the limiter that an operation makes first of all, if it is under a budget. -/
def limitedCall? (op : Operation) (clock : Clock) : Option RateLimiter.Call :=
  match op with
  | pollOpenOrders budget _ =>
      some ⟨Client.endpoint "GET" Venue.openOrdersPath, budget, clock.monotonic⟩
  | sendRateLimited budget method path _ _ =>
      some ⟨Client.endpoint method path, budget, clock.monotonic⟩
  | _ => none

end Operation

namespace Session

variable {α : Type}

section Send

variable (decode : Decoder α) (method path : String) (params : Http.Params) (signed : Bool)
  (clock : Clock) (s : Session)

theorem send_withLimiter (l : RateLimiter) :
    (s.withLimiter l).send decode method path params signed clock =
      ((s.send decode method path params signed clock).1,
        (s.send decode method path params signed clock).2.withLimiter l) := by
  have hbuild : (s.withLimiter l).client.buildRequest method path params signed clock.unixMillis =
      s.client.buildRequest method path params signed clock.unixMillis := rfl
  unfold send
  rw [hbuild]
  cases s.client.buildRequest method path params signed clock.unixMillis with
  | error e => rfl
  | ok request => rfl

end Send

section RateLimited

variable (decode : Decoder α) (budget : Nat) (method path : String) (params : Http.Params)
  (otherwise : α) (clock : Clock) (s : Session)

theorem sendRateLimited_of_refused
    (h : s.client.limiter.admits ⟨Client.endpoint method path, budget, clock.monotonic⟩ = false) :
    s.sendRateLimited decode budget method path params otherwise clock =
      (.ok otherwise, s.withLimiter
        (s.client.limiter.after ⟨Client.endpoint method path, budget, clock.monotonic⟩)) := by
  unfold sendRateLimited
  unfold RateLimiter.admits at h
  split
  · next l hl => rw [RateLimiter.after, hl]
  · next l hl => rw [hl] at h; cases h

theorem sendRateLimited_of_admitted
    (h : s.client.limiter.admits ⟨Client.endpoint method path, budget, clock.monotonic⟩ = true) :
    s.sendRateLimited decode budget method path params otherwise clock =
      ((s.send decode method path params true clock).1,
        (s.send decode method path params true clock).2.withLimiter
          (s.client.limiter.after ⟨Client.endpoint method path, budget, clock.monotonic⟩)) := by
  unfold sendRateLimited
  unfold RateLimiter.admits at h
  split
  · next l hl => rw [hl] at h; cases h
  · next l hl => rw [send_withLimiter, RateLimiter.after, hl]

end RateLimited

end Session

end MarketDesk

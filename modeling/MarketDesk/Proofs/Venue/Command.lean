import MarketDesk.Proofs.Decimal.Normal
import MarketDesk.Proofs.Http.Query
import MarketDesk.Proofs.Venue.Traffic

/-!
# Commands on the wire

A command is sent as a method, a path and encoded parameters, which are followed by the signer's own
if the command is signed. These three tell any two commands apart, except for two orders whose
numbers differ in their digits and not in size. The path and the method give the kind of the
command; what stands under each name of the parameters gives its arguments.
-/

namespace MarketDesk

namespace OrderSide

theorem name_inj {x y : OrderSide} : x.name = y.name ↔ x = y := by
  cases x <;> cases y <;> decide

end OrderSide

namespace OrderType

theorem name_inj {x y : OrderType} : x.name = y.name ↔ x = y := by
  cases x <;> cases y <;> decide

end OrderType

namespace TimeInForce

theorem name_inj {x y : TimeInForce} : x.name = y.name ↔ x = y := by
  cases x <;> cases y <;> decide

end TimeInForce

namespace Order

/-- What an order puts under a name of its parameters. -/
def field? (o : Order) : String → Option String
  | "symbol" => some o.symbol
  | "side" => some o.side.name
  | "type" => some o.type.name
  | "timeInForce" => o.timeInForce.map TimeInForce.name
  | "quantity" => some (numberText o.quantity)
  | "price" => o.price.map numberText
  | "newClientOrderId" => o.clientOrderId
  | "stopPrice" => o.stopPrice.map numberText
  | "icebergQty" => o.icebergQuantity.map numberText
  | "newOrderRespType" => some "ACK"
  | _ => none

theorem get?_toParams (o : Order) (key : String) : o.toParams.get? key = o.field? key := by
  simp only [toParams, Http.Params.get?_set, Http.Params.get?_setIfSome, Http.Params.get?_empty]
  fun_cases field? o key
  -- A name that is none of an order's is none of those that were set.
  case case11 => grind
  all_goals simp

theorem map_numberText_eq_iff {x y : Option Decimal} :
    x.map numberText = y.map numberText ↔ Option.Rel Decimal.SameSize x y := by
  constructor
  · intro h
    cases x with
    | none =>
      cases y with
      | none => exact .none
      | some b => exact nomatch h
    | some a =>
      cases y with
      | none => exact nomatch h
      | some b => exact .some (Decimal.toText_normalize_eq_iff.mp (Option.some.inj h))
  · rintro (h | _)
    · exact congrArg some (Decimal.toText_normalize_eq_iff.mpr h)
    · rfl

example : (Decimal.ofParts? false 100 4).map numberText =
    (Decimal.ofParts? false 1 2).map numberText := by decide

/-- Two orders that are the same but for zeros at the end of their numbers. -/
structure SameUpToScale (o o' : Order) : Prop where
  symbol : o.symbol = o'.symbol
  side : o.side = o'.side
  type : o.type = o'.type
  timeInForce : o.timeInForce = o'.timeInForce
  quantity : o.quantity.SameSize o'.quantity
  price : Option.Rel Decimal.SameSize o.price o'.price
  clientOrderId : o.clientOrderId = o'.clientOrderId
  stopPrice : Option.Rel Decimal.SameSize o.stopPrice o'.stopPrice
  icebergQuantity : Option.Rel Decimal.SameSize o.icebergQuantity o'.icebergQuantity
  validateOnly : o.validateOnly = o'.validateOnly

theorem SameUpToScale.toParams_eq {o o' : Order} (h : o.SameUpToScale o') :
    o.toParams = o'.toParams := by
  have hquantity : numberText o.quantity = numberText o'.quantity :=
    Decimal.toText_normalize_eq_iff.mpr h.quantity
  simp only [toParams, h.symbol, h.side, h.type, h.timeInForce, hquantity, h.clientOrderId,
    map_numberText_eq_iff.mpr h.price, map_numberText_eq_iff.mpr h.stopPrice,
    map_numberText_eq_iff.mpr h.icebergQuantity]

theorem orderPath_eq_iff {o o' : Order} :
    Session.orderPath o = Session.orderPath o' ↔ o.validateOnly = o'.validateOnly := by
  unfold Session.orderPath
  cases o.validateOnly <;> cases o'.validateOnly <;> decide

theorem sameUpToScale_of_eq {o o' : Order} (hpath : Session.orderPath o = Session.orderPath o')
    (hparams : o.toParams = o'.toParams) : o.SameUpToScale o' := by
  have hfield (key : String) : o.field? key = o'.field? key := by
    rw [← get?_toParams, hparams, get?_toParams]
  exact {
    symbol := Option.some.inj (hfield "symbol")
    side := OrderSide.name_inj.mp (Option.some.inj (hfield "side"))
    type := OrderType.name_inj.mp (Option.some.inj (hfield "type"))
    timeInForce :=
      (Option.map_inj_right fun _ _ => TimeInForce.name_inj.mp).mp (hfield "timeInForce")
    quantity := Decimal.toText_normalize_eq_iff.mp (Option.some.inj (hfield "quantity"))
    price := map_numberText_eq_iff.mp (hfield "price")
    clientOrderId := hfield "newClientOrderId"
    stopPrice := map_numberText_eq_iff.mp (hfield "stopPrice")
    icebergQuantity := map_numberText_eq_iff.mp (hfield "icebergQty")
    validateOnly := orderPath_eq_iff.mp hpath }

end Order

theorem OrderLookup.toParams_inj {l l' : OrderLookup} {symbol symbol' : String} :
    l.toParams symbol = l'.toParams symbol' ↔ symbol = symbol' ∧ l = l' := by
  constructor
  · intro h
    have hget (key : String) : (l.toParams symbol).get? key = (l'.toParams symbol').get? key := by
      rw [h]
    have hsymbol : symbol = symbol' := by
      cases l <;> cases l' <;> exact Option.some.inj (hget "symbol")
    refine ⟨hsymbol, ?_⟩
    -- A number and a text stand under names of their own, so digits alone do not make a number.
    cases l with
    | orderId id =>
      cases l' with
      | orderId id' =>
        have hid : Text.integerText id.toInt = Text.integerText id'.toInt :=
          Option.some.inj (hget "orderId")
        exact congrArg orderId (Int64.toInt_inj.mp (Text.integerText_inj.mp hid))
      | clientOrderId text' => exact nomatch hget "orderId"
    | clientOrderId text =>
      cases l' with
      | orderId id' => exact nomatch hget "orderId"
      | clientOrderId text' =>
        exact congrArg clientOrderId (Option.some.inj (hget "origClientOrderId"))
  · rintro ⟨rfl, rfl⟩
    rfl

namespace Session

theorem get?_depthParams (symbol : String) (limit : Option UInt32) :
    (depthParams symbol limit).get? "symbol" = some symbol ∧
      (depthParams symbol limit).get? "limit" = limit.map fun n => Text.natText n.toNat := by
  cases limit <;> exact ⟨rfl, rfl⟩

theorem depthParams_inj {symbol symbol' : String} {limit limit' : Option UInt32} :
    depthParams symbol limit = depthParams symbol' limit' ↔ symbol = symbol' ∧ limit = limit' := by
  constructor
  · intro h
    obtain ⟨hsymbol, hlimit⟩ := get?_depthParams symbol limit
    obtain ⟨hsymbol', hlimit'⟩ := get?_depthParams symbol' limit'
    rw [h] at hsymbol hlimit
    refine ⟨Option.some.inj (hsymbol.symm.trans hsymbol'), ?_⟩
    refine (Option.map_inj_right fun m n hmn => ?_).mp (hlimit.symm.trans hlimit')
    exact UInt32.toNat_inj.mp (Text.natText_inj.mp hmn)
  · rintro ⟨rfl, rfl⟩
    rfl

theorem get?_openOrdersParams (symbol : Option String) :
    (openOrdersParams symbol).get? "symbol" = symbol := by
  cases symbol <;> rfl

theorem openOrdersParams_inj {symbol symbol' : Option String} :
    openOrdersParams symbol = openOrdersParams symbol' ↔ symbol = symbol' := by
  constructor
  · intro h
    rw [← get?_openOrdersParams symbol, h, get?_openOrdersParams]
  · exact congrArg openOrdersParams

end Session

/-- The operations whose parameters tell what is asked of the venue, and on what. -/
inductive Command
  | fetchInstruments
  | fetchDepth (symbol : String) (limit : Option UInt32)
  | fetchAccount
  | fetchOpenOrders (symbol : Option String)
  | postOrder (order : Order)
  | fetchOrder (symbol : String) (lookup : OrderLookup)
  | cancelOrder (symbol : String) (lookup : OrderLookup)

namespace Command

def operation : Command → Operation
  | fetchInstruments => .fetchInstruments
  | fetchDepth symbol limit => .fetchDepth symbol limit
  | fetchAccount => .fetchAccount
  | fetchOpenOrders symbol => .fetchOpenOrders symbol
  | postOrder order => .postOrder order
  | fetchOrder symbol lookup => .fetchOrder symbol lookup
  | cancelOrder symbol lookup => .cancelOrder symbol lookup

/-- What goes on the wire before a signature: the method, the path and the parameters. -/
structure Wire where
  method : String
  path : String
  parameters : String
  deriving DecidableEq

def wire (c : Command) : Wire :=
  ⟨c.operation.call.method, c.operation.call.path, c.operation.call.params.encode⟩

/-- The same command, or orders that are the same but for zeros at the end of their numbers. -/
inductive Same : Command → Command → Prop
  | refl (c : Command) : Same c c
  | postOrder {o o' : Order} (h : o.SameUpToScale o') : Same (.postOrder o) (.postOrder o')

theorem Same.wire_eq {c c' : Command} (h : c.Same c') : c.wire = c'.wire := by
  cases h with
  | refl => rfl
  | postOrder h =>
    simp only [wire, operation, Operation.call, h.toParams_eq,
      Order.orderPath_eq_iff.mpr h.validateOnly]

/-- The place of a command's constructor, told from its path and, where paths meet, its method. -/
def Wire.kind (w : Wire) : Nat :=
  if w.path = Venue.instrumentsPath then 0
  else if w.path = Venue.depthPath then 1
  else if w.path = Venue.accountPath then 2
  else if w.path = Venue.openOrdersPath then 3
  else if w.method = "POST" then 4
  else if w.method = "GET" then 5
  else 6

theorem ctorIdx_eq_kind (c : Command) : c.ctorIdx = c.wire.kind := by
  cases c with
  | postOrder order =>
    have hpaths : Session.orderPath order = Venue.orderTestPath ∨
        Session.orderPath order = Venue.orderPath := by
      unfold Session.orderPath
      split
      · exact Or.inl rfl
      · exact Or.inr rfl
    have hpath : (postOrder order).wire.path = Session.orderPath order := rfl
    have hmethod : (postOrder order).wire.method = "POST" := rfl
    unfold Wire.kind
    rw [hpath, hmethod]
    rcases hpaths with h | h <;> rw [h] <;> rfl
  | _ => rfl

theorem same_of_wire_eq {c c' : Command} (h : c.wire = c'.wire) : c.Same c' := by
  have hkind : c.ctorIdx = c'.ctorIdx := by rw [ctorIdx_eq_kind, h, ctorIdx_eq_kind]
  have hpath := congrArg Wire.path h
  have hparams := Http.Params.encode_inj.mp (congrArg Wire.parameters h)
  cases c with
  | fetchInstruments =>
    cases c' with
    | fetchInstruments => exact .refl _
    | _ => exact nomatch hkind
  | fetchDepth symbol limit =>
    cases c' with
    | fetchDepth symbol' limit' =>
      obtain ⟨rfl, rfl⟩ := Session.depthParams_inj.mp hparams
      exact .refl _
    | _ => exact nomatch hkind
  | fetchAccount =>
    cases c' with
    | fetchAccount => exact .refl _
    | _ => exact nomatch hkind
  | fetchOpenOrders symbol =>
    cases c' with
    | fetchOpenOrders symbol' =>
      obtain rfl := Session.openOrdersParams_inj.mp hparams
      exact .refl _
    | _ => exact nomatch hkind
  | postOrder order =>
    cases c' with
    | postOrder order' => exact .postOrder (Order.sameUpToScale_of_eq hpath hparams)
    | _ => exact nomatch hkind
  | fetchOrder symbol lookup =>
    cases c' with
    | fetchOrder symbol' lookup' =>
      obtain ⟨rfl, rfl⟩ := OrderLookup.toParams_inj.mp hparams
      exact .refl _
    | _ => exact nomatch hkind
  | cancelOrder symbol lookup =>
    cases c' with
    | cancelOrder symbol' lookup' =>
      obtain ⟨rfl, rfl⟩ := OrderLookup.toParams_inj.mp hparams
      exact .refl _
    | _ => exact nomatch hkind

theorem wire_eq_iff {c c' : Command} : c.wire = c'.wire ↔ c.Same c' :=
  ⟨same_of_wire_eq, Same.wire_eq⟩

theorem wire_ne_of_not_same {c c' : Command} (h : ¬c.Same c') : c.wire ≠ c'.wire :=
  mt wire_eq_iff.mp h

/-- A command sends what it has on the wire, to which only the client adds, or it sends nothing. -/
theorem run_requests (c : Command) (clock : Clock) (s : Session) :
    (s.run c.operation clock).2.requests = s.requests ∨
      ∃ signer, (s.run c.operation clock).2.requests = s.requests ++
        [s.client.place c.wire.method c.wire.path
          (Client.payload signer c.wire.parameters clock.unixMillis)] := by
  refine (s.run_requests c.operation clock).imp_right ?_
  rintro ⟨request, hbuilt, hrequests⟩
  obtain ⟨signer, hplaced, -⟩ := Client.eq_place_of_buildRequest hbuilt
  exact ⟨signer, by rw [hrequests, hplaced]; rfl⟩

/-- A command past its checks sends what it has on the wire, under the client's signer if it is
signed. -/
theorem run_requests_of_passes {c : Command} {clock : Clock} {s : Session}
    (h : s.passes c.operation clock = true) (hclock : 0 ≤ clock.unixMillis) :
    (s.run c.operation clock).2.requests = s.requests ++
      [s.client.place c.wire.method c.wire.path
        (Client.payload (if c.operation.call.signed then s.client.signer else none)
          c.wire.parameters clock.unixMillis)] := by
  obtain ⟨request, hbuilt, hrun⟩ := Session.run_of_passes h hclock
  obtain ⟨signer, hplaced, hsigner⟩ := Client.eq_place_of_buildRequest hbuilt
  rw [hrun, ← hsigner]
  exact congrArg (s.requests ++ [·]) hplaced

/-- Two commands have the same method, path and encoded parameters exactly if they are the same, up
to zeros at the end of an order's numbers. So a value that is absent is not one that is there and
empty or zero, and the number of an order is not the text of its digits. What a command sends is
this and what the client adds, and it is sent if the command passes the checks before its
request. -/
theorem wire_tells_apart :
    (∀ c c' : Command, c.wire = c'.wire ↔ c.Same c') ∧
      (∀ symbol, (fetchDepth symbol none).wire ≠ (fetchDepth symbol (some 0)).wire) ∧
      (fetchOpenOrders none).wire ≠ (fetchOpenOrders (some "")).wire ∧
      (∀ o : Order, (postOrder { o with clientOrderId := none }).wire ≠
        (postOrder { o with clientOrderId := some "" }).wire) ∧
      (∀ symbol (id : Int64), let digits := Text.integerText id.toInt
        (fetchOrder symbol (.orderId id)).wire ≠ (fetchOrder symbol (.clientOrderId digits)).wire ∧
          (cancelOrder symbol (.orderId id)).wire ≠
            (cancelOrder symbol (.clientOrderId digits)).wire) ∧
      (∀ (c : Command) (clock : Clock) (s : Session),
        (s.run c.operation clock).2.requests = s.requests ∨
          ∃ signer, (s.run c.operation clock).2.requests = s.requests ++
            [s.client.place c.wire.method c.wire.path
              (Client.payload signer c.wire.parameters clock.unixMillis)]) ∧
      ∀ (c : Command) (clock : Clock) (s : Session),
        s.passes c.operation clock = true → 0 ≤ clock.unixMillis →
          (s.run c.operation clock).2.requests = s.requests ++
            [s.client.place c.wire.method c.wire.path
              (Client.payload (if c.operation.call.signed then s.client.signer else none)
                c.wire.parameters clock.unixMillis)] := by
  refine ⟨fun c c' => wire_eq_iff, fun symbol => ?_, ?_, fun o => ?_, fun symbol id => ?_,
    run_requests, fun c clock s => run_requests_of_passes⟩
  · exact wire_ne_of_not_same nofun
  · exact wire_ne_of_not_same nofun
  · refine wire_ne_of_not_same fun h => ?_
    cases h with
    | postOrder h => exact nomatch h.clientOrderId
  · exact ⟨wire_ne_of_not_same nofun, wire_ne_of_not_same nofun⟩

end Command

end MarketDesk

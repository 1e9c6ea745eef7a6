import MarketDesk.Proofs.Decimal.Normal
import MarketDesk.Proofs.Venue.Command
import MarketDesk.Proofs.Venue.Request
import MarketDesk.Proofs.Venue.SignedPayload

/-!
# What an order shows on the wire

An order that has what its type asks for is sent if the client has keys, and no other is. The form
that goes out shows by itself that the order is complete: the type is in it, and what the type asks
for. What is set in the order stands in the form with its value, numbers in plain notation, and what
is not set does not stand there. An order that is only to be validated goes to a path of its own.
-/

namespace MarketDesk

namespace Decimal

/-- Digits with a minus sign or none in front, and a point only before more digits. -/
inductive PlainNotation : String → Prop
  | mk {sign whole fraction : List Char} (hsign : sign = [] ∨ sign = ['-']) (hwhole : whole ≠ [])
      (hdigits : ∀ c ∈ whole ++ fraction, c.isDigit = true) :
      PlainNotation (String.ofList
        (sign ++ whole ++ if fraction = [] then [] else '.' :: fraction))

/-- A text in plain notation that is read as a number of the same size. -/
structure ShownAs (d : Decimal) (text : String) : Prop where
  plain : PlainNotation text
  read : ∃ d', parse text = .ok d' ∧ d'.SameSize d

theorem plainNotation_toText (d : Decimal) : PlainNotation d.toText := by
  obtain ⟨whole, fraction, hwhole, hlength, hdigits, -, hchars⟩ := d.toChars_eq
  have hscale : d.scale = 0 ↔ fraction = [] := by rw [← hlength, List.length_eq_zero_iff]
  rw [toText, hchars]
  simp only [hscale]
  refine .mk ?_ hwhole hdigits
  cases d.negative with
  | false => exact .inl rfl
  | true => exact .inr rfl

theorem parse_numberText (d : Decimal) : parse (Order.numberText d) = .ok d.normalize := by
  rw [Order.numberText, parse_toText, withoutZeroSign_normalize]

theorem shownAs_numberText (d : Decimal) : d.ShownAs (Order.numberText d) :=
  ⟨plainNotation_toText d.normalize, d.normalize, parse_numberText d, d.sameSize_normalize.symm⟩

theorem SameSize.coefficient_pos {x y : Decimal} (h : x.SameSize y) (hy : 0 < y.coefficient) :
    0 < x.coefficient := by
  have hproduct : 0 < x.coefficient * tenTo y.scale :=
    sameSize_iff.mp h ▸ Int.mul_pos hy (Int.natCast_pos.mpr (tenTo_pos x.scale))
  exact Int.lt_of_mul_lt_mul_right (by rwa [Int.zero_mul]) (Int.natCast_nonneg (tenTo y.scale))

theorem rel_shownAs (d? : Option Decimal) : Option.Rel ShownAs d? (d?.map Order.numberText) := by
  cases d? with
  | none => exact .none
  | some d => exact .some (shownAs_numberText d)

end Decimal

/-- A form that shows by itself what the type of its order asks for. -/
structure CompleteForm (form : List (String × String)) : Prop where
  quantity : ∃ text d, form.lookup "quantity" = some text ∧ Decimal.parse text = .ok d ∧
    0 < d.coefficient
  price : ∀ type, form.lookup "type" = some type →
    type ∈ ["LIMIT", "LIMIT_MAKER", "STOP_LOSS_LIMIT", "TAKE_PROFIT_LIMIT"] →
      (form.lookup "price").isSome = true
  stopPrice : ∀ type, form.lookup "type" = some type →
    type ∈ ["STOP_LOSS", "TAKE_PROFIT", "STOP_LOSS_LIMIT", "TAKE_PROFIT_LIMIT"] →
      (form.lookup "stopPrice").isSome = true
  timeInForce : ∀ type, form.lookup "type" = some type →
    type ∈ ["LIMIT", "STOP_LOSS_LIMIT", "TAKE_PROFIT_LIMIT"] →
      (form.lookup "timeInForce").isSome = true

namespace OrderType

theorem needsPrice_iff (t : OrderType) : t.needsPrice = true ↔
    t.name ∈ ["LIMIT", "LIMIT_MAKER", "STOP_LOSS_LIMIT", "TAKE_PROFIT_LIMIT"] := by
  cases t <;> decide

theorem needsStopPrice_iff (t : OrderType) : t.needsStopPrice = true ↔
    t.name ∈ ["STOP_LOSS", "TAKE_PROFIT", "STOP_LOSS_LIMIT", "TAKE_PROFIT_LIMIT"] := by
  cases t <;> decide

theorem needsTimeInForce_iff (t : OrderType) : t.needsTimeInForce = true ↔
    t.name ∈ ["LIMIT", "STOP_LOSS_LIMIT", "TAKE_PROFIT_LIMIT"] := by
  cases t <;> decide

end OrderType

namespace Order

/-- The fields of a form are those that an order has. No name comes twice, and each field has its
value. -/
structure ShownBy (o : Order) (form : List (String × String)) : Prop where
  nodup : (form.map Prod.fst).Nodup
  symbol : form.lookup "symbol" = some o.symbol
  side : form.lookup "side" = some o.side.name
  type : form.lookup "type" = some o.type.name
  timeInForce : form.lookup "timeInForce" = o.timeInForce.map TimeInForce.name
  quantity : Option.Rel Decimal.ShownAs (some o.quantity) (form.lookup "quantity")
  price : Option.Rel Decimal.ShownAs o.price (form.lookup "price")
  clientOrderId : form.lookup "newClientOrderId" = o.clientOrderId
  stopPrice : Option.Rel Decimal.ShownAs o.stopPrice (form.lookup "stopPrice")
  icebergQuantity : Option.Rel Decimal.ShownAs o.icebergQuantity (form.lookup "icebergQty")

/-- What an order must have, by its type. -/
structure Complete (o : Order) : Prop where
  quantity : o.quantity.isPositive = true
  price : o.type.needsPrice = true → o.price.isSome = true
  stopPrice : o.type.needsStopPrice = true → o.stopPrice.isSome = true
  timeInForce : o.type.needsTimeInForce = true → o.timeInForce.isSome = true

theorem complete_of_validate {o : Order} (h : o.validate = .ok ()) : o.Complete := by
  have hcheck : o.check = .ok () := by
    unfold validate at h
    split at h
    · assumption
    · exact nomatch h
  unfold check at hcheck
  split_ifs at hcheck with hquantity hprice hstopPrice htimeInForce
  have hset {needs : Bool} {α : Type} {x : Option α} (hnot : ¬(needs && x.isNone) = true)
      (hneeds : needs = true) : x.isSome = true := by
    rw [hneeds, Bool.true_and, Option.isNone_iff_eq_none] at hnot
    exact Option.isSome_iff_ne_none.mpr hnot
  exact ⟨by simpa using hquantity, hset hprice, hset hstopPrice, hset htimeInForce⟩

/-- What is looked up in a sent form is what the order has put there. -/
theorem lookup_form {o : Order} {more : List (String × String)} {key : String}
    (hkey : key ∉ more.map Prod.fst) :
    (o.toParams.pairs.entries ++ more).lookup key = o.field? key := by
  have hmore : more.lookup key = none := by
    rw [List.lookup_eq_none_iff]
    intro pair hpair
    refine bne_iff_ne.mpr ?_
    rintro rfl
    exact hkey (List.mem_map_of_mem hpair)
  rw [List.lookup_append, hmore, Option.or_none, ← get?_toParams]
  exact (Dictionary.lookupIn_eq_lookup key _).symm

theorem shownBy_form (o : Order) {more : List (String × String)}
    (hmore : more.map Prod.fst = ["timestamp", "recvWindow", "signature"]) :
    o.ShownBy (o.toParams.pairs.entries ++ more) := by
  have hlookup (key : String) (hkey : key ∉ ["timestamp", "recvWindow", "signature"]) :
      (o.toParams.pairs.entries ++ more).lookup key = o.field? key :=
    lookup_form (hmore ▸ hkey)
  constructor
  · rw [List.map_append, hmore]
    exact (Operation.order_namedIn o).nodup_append (by decide) (by decide)
  · exact hlookup "symbol" (by decide)
  · exact hlookup "side" (by decide)
  · exact hlookup "type" (by decide)
  · exact hlookup "timeInForce" (by decide)
  · rw [hlookup "quantity" (by decide)]
    exact Decimal.rel_shownAs (some o.quantity)
  · rw [hlookup "price" (by decide)]
    exact Decimal.rel_shownAs o.price
  · exact hlookup "newClientOrderId" (by decide)
  · rw [hlookup "stopPrice" (by decide)]
    exact Decimal.rel_shownAs o.stopPrice
  · rw [hlookup "icebergQty" (by decide)]
    exact Decimal.rel_shownAs o.icebergQuantity

theorem Complete.form {o : Order} (h : o.Complete) {form : List (String × String)}
    (hform : o.ShownBy form) : CompleteForm form := by
  have hset {α : Type} {R : α → String → Prop} {x : Option α} {y : Option String}
      (hrel : Option.Rel R x y) (hx : x.isSome = true) : y.isSome = true := by
    cases hrel with
    | none => exact hx
    | some => rfl
  have htype (type : String) (hlookup : form.lookup "type" = some type) : type = o.type.name :=
    Option.some.inj (hlookup.symm.trans hform.type)
  constructor
  · have hquantity := hform.quantity
    cases hlookup : form.lookup "quantity" with
    | none =>
      rw [hlookup] at hquantity
      exact nomatch hquantity
    | some text =>
      rw [hlookup] at hquantity
      obtain ⟨-, d, hread, hsame⟩ := Option.rel_some_some.mp hquantity
      have hpositive := (Decimal.isPositive_iff o.quantity).mp h.quantity
      exact ⟨text, d, rfl, hread, hsame.coefficient_pos hpositive⟩
  · intro type hlookup hneeds
    exact hset hform.price (h.price (o.type.needsPrice_iff.mpr (htype type hlookup ▸ hneeds)))
  · intro type hlookup hneeds
    exact hset hform.stopPrice
      (h.stopPrice (o.type.needsStopPrice_iff.mpr (htype type hlookup ▸ hneeds)))
  · intro type hlookup hneeds
    rw [hform.timeInForce, Option.isSome_map]
    exact h.timeInForce (o.type.needsTimeInForce_iff.mpr (htype type hlookup ▸ hneeds))

end Order

namespace Session

variable {s : Session} {o : Order} {clock : Clock}

theorem postOrder_of_invalid {e : VenueError} (h : o.validate = .error e) :
    (s.postOrder o clock).2.requests = s.requests := by
  rw [postOrder, h]

theorem postOrder_of_signer_none (h : s.client.signer = none) :
    (s.postOrder o clock).2.requests = s.requests := by
  unfold postOrder
  split
  · rfl
  · rw [send, s.client.buildRequest_of_signer_none _ _ _ h]

theorem postOrder_of_valid {signer : Signer} (h : o.validate = .ok ())
    (hsigner : s.client.signer = some signer) (hclock : 0 ≤ clock.unixMillis) :
    (s.postOrder o clock).2.requests = s.requests ++
      [s.client.place "POST" (orderPath o)
        (signer.sign o.toParams.encode clock.unixMillis.toNat)] := by
  rw [postOrder, h]
  dsimp only
  rw [send, s.client.buildRequest_of_signer_some _ _ _ hsigner hclock]
  rfl

/-- The two paths end in different letters, so an address ends in the one that it was made with. -/
theorem orderPath_suffix_iff (base : String) (o : Order) :
    ("/api/v3/order/test".toList <:+ (base ++ orderPath o).toList ↔ o.validateOnly = true) ∧
      ("/api/v3/order".toList <:+ (base ++ orderPath o).toList ↔ o.validateOnly = false) := by
  have hlast (path suffix : String) (hne : suffix.toList ≠ [])
      (h : suffix.toList <:+ (base ++ path).toList) (hpath : path.toList ≠ []) :
      suffix.toList.getLast? = path.toList.getLast? := by
    obtain ⟨before, hbefore⟩ := h
    rw [String.toList_append] at hbefore
    have hends := congrArg List.getLast? hbefore
    rwa [List.getLast?_append_of_ne_nil _ hne, List.getLast?_append_of_ne_nil _ hpath] at hends
  have hsuffix (path : String) : path.toList <:+ (base ++ path).toList := by
    rw [String.toList_append]
    exact List.suffix_append ..
  unfold orderPath
  cases o.validateOnly with
  | true =>
    refine ⟨iff_of_true (hsuffix Venue.orderTestPath) rfl, iff_of_false (fun h => ?_) nofun⟩
    exact absurd (hlast Venue.orderTestPath _ (by decide) h (by decide)) (by decide)
  | false =>
    refine ⟨iff_of_false (fun h => ?_) nofun, iff_of_true (hsuffix Venue.orderPath) rfl⟩
    exact absurd (hlast Venue.orderPath _ (by decide) h (by decide)) (by decide)

/-- An order is sent if it is valid and the client has keys, and then as one request. The form in it
shows by itself that the order is complete, and shows each part of the order that is set and no
other; the address tells whether the order is only to be validated. Otherwise nothing is sent. -/
theorem postOrder_sends_complete (s : Session) (o : Order) (clock : Clock)
    (hclock : 0 ≤ clock.unixMillis) :
    (o.validate = .ok () ∧ s.client.hasCredentials = true → ∃ request body form,
      (s.postOrder o clock).2.requests = s.requests ++ [request] ∧ request.method = "POST" ∧
      request.body = some body ∧ Http.decodePairs? body = some form ∧
      CompleteForm form ∧ o.ShownBy form ∧
      ("/api/v3/order/test".toList <:+ request.url.toList ↔ o.validateOnly = true) ∧
      ("/api/v3/order".toList <:+ request.url.toList ↔ o.validateOnly = false)) ∧
    (¬(o.validate = .ok () ∧ s.client.hasCredentials = true) →
      (s.postOrder o clock).2.requests = s.requests) := by
  constructor
  · rintro ⟨hvalid, hcredentials⟩
    obtain ⟨signer, hsigner⟩ := Option.isSome_iff_exists.mp hcredentials
    let t := clock.unixMillis.toNat
    have hsent := postOrder_of_valid hvalid hsigner hclock
    have hread := signer.decodePairs?_sign o.toParams t
    have hshown : o.ShownBy (o.toParams.pairs.entries ++ (signer.timePairs t ++
        [("signature", Hmac.sign signer.credentials.secretKey
          (signer.unsigned o.toParams.encode t))])) := o.shownBy_form rfl
    rw [Client.place_sign] at hsent
    exact ⟨_, _, _, hsent, rfl, rfl, hread, (Order.complete_of_validate hvalid).form hshown, hshown,
      orderPath_suffix_iff s.client.baseUrl o⟩
  · intro hnot
    cases hvalid : o.validate with
    | error e => exact postOrder_of_invalid hvalid
    | ok =>
      cases hsigner : s.client.signer with
      | none => exact postOrder_of_signer_none hsigner
      | some signer =>
        exact absurd ⟨hvalid, by rw [Client.hasCredentials, hsigner]; rfl⟩ hnot

/-- A limit order with zeros at the end of its quantity and the smallest price. -/
theorem postOrder_sends_complete_limit :
    let s := ofClient (.ofSettings (.ofCredentials ⟨"key", "secret"⟩))
    let o := Order.limit "LTCBTC" .sell ⟨false, 1500, 3, by decide, by decide⟩
      ⟨false, 1, 28, by decide, by decide⟩
    let clock : Clock := ⟨0, 7, .epoch, .epoch⟩
    0 ≤ clock.unixMillis ∧ ∃ request body form, (s.postOrder o clock).2.requests = [request] ∧
      request.body = some body ∧ Http.decodePairs? body = some form ∧ CompleteForm form ∧
      o.ShownBy form ∧ "/api/v3/order".toList <:+ request.url.toList := by
  intro s o clock
  have hclock : 0 ≤ clock.unixMillis := by decide
  obtain ⟨request, body, form, hsent, -, hbody, hread, hcomplete, hshown, -, hlive⟩ :=
    (postOrder_sends_complete s o clock hclock).1 ⟨rfl, rfl⟩
  exact ⟨hclock, request, body, form, hsent, hbody, hread, hcomplete, hshown, hlive.mpr rfl⟩

end Session

end MarketDesk

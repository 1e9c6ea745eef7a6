import MarketDesk.Proofs.Venue.Placement

/-!
# Numbers of a sent order

The check of an order asks that its quantity is above zero. Of the other numbers it asks only that
they are set where the type needs them, so an order is sent with any values there. A form has a
quantity above zero, and each other number in it is above zero exactly if that of the order is.
-/

namespace MarketDesk

namespace Decimal

/-- A text that is read as a number above zero. -/
def ReadsPositive (text : String) : Prop := ∃ d, parse text = .ok d ∧ 0 < d.coefficient

theorem ShownAs.readsPositive_iff {d : Decimal} {text : String} (h : d.ShownAs text) :
    ReadsPositive text ↔ 0 < d.coefficient := by
  obtain ⟨d', hread, hsame⟩ := h.read
  constructor
  · rintro ⟨d'', hread', hpos⟩
    exact hsame.symm.coefficient_pos (Except.ok.inj (hread'.symm.trans hread) ▸ hpos)
  · intro hpos
    exact ⟨d', hread, hsame.coefficient_pos hpos⟩

/-- What is shown is above zero if what is set is, and nothing is shown where nothing is set. -/
theorem readsPositive_iff_of_rel {d? : Option Decimal} {text? : Option String}
    (h : Option.Rel ShownAs d? text?) :
    (∀ text, text? = some text → ReadsPositive text) ↔ ∀ d, d? = some d → 0 < d.coefficient := by
  cases h with
  | none => exact iff_of_true nofun nofun
  | @some d text hshown =>
    simp only [Option.some.injEq, forall_eq']
    exact hshown.readsPositive_iff

end Decimal

namespace Order

open Decimal

variable {o o' : Order}

/-- The numbers that an order may leave out, by their names in a form. -/
def optionalNumbers (o : Order) : List (String × Option Decimal) :=
  [("price", o.price), ("stopPrice", o.stopPrice), ("icebergQty", o.icebergQuantity)]

/-- Two orders of one type and quantity that have the same parts set, with whatever values. -/
structure SameParts (o o' : Order) : Prop where
  type : o'.type = o.type
  quantity : o'.quantity = o.quantity
  timeInForce : o'.timeInForce.isSome = o.timeInForce.isSome
  price : o'.price.isSome = o.price.isSome
  stopPrice : o'.stopPrice.isSome = o.stopPrice.isSome

theorem SameParts.validate_eq (h : o.SameParts o') : o'.validate = o.validate := by
  simp only [validate, check, ← Option.not_isSome, h.type, h.quantity, h.timeInForce, h.price,
    h.stopPrice]

theorem ShownBy.optionalNumbers {form : List (String × String)} (h : o.ShownBy form) :
    ∀ number ∈ o.optionalNumbers, Option.Rel ShownAs number.2 (form.lookup number.1) := by
  simp only [Order.optionalNumbers, List.forall_mem_cons]
  exact ⟨h.price, h.stopPrice, h.icebergQuantity, nofun⟩

theorem ShownBy.quantity_positive {form : List (String × String)} (h : o.ShownBy form)
    (hpos : 0 < o.quantity.coefficient) :
    ∃ text, form.lookup "quantity" = some text ∧ ReadsPositive text := by
  have hquantity := h.quantity
  cases hlookup : form.lookup "quantity" with
  | none =>
    rw [hlookup] at hquantity
    exact nomatch hquantity
  | some text =>
    rw [hlookup, Option.rel_some_some] at hquantity
    exact ⟨text, rfl, hquantity.readsPositive_iff.mpr hpos⟩

end Order

namespace Session

variable {s : Session} {o : Order} {clock : Clock}

/-- An order goes out only if it is valid, under a signer and a clock that is not before the
epoch. -/
theorem sent_order {request : Http.Request}
    (h : (s.postOrder o clock).2.requests = s.requests ++ [request]) :
    o.validate = .ok () ∧ 0 ≤ clock.unixMillis ∧ ∃ signer, s.client.signer = some signer ∧
      request = s.client.place "POST" (orderPath o)
        (signer.sign o.toParams.encode clock.unixMillis.toNat) := by
  obtain ⟨hrefusal, hbuilt⟩ := (run_requests_eq_concat_iff (.postOrder o) clock s request).mp h
  have hvalid := ((Operation.refusal?_eq_none_iff ..).mp hrefusal).1 o rfl
  obtain ⟨hclock, signer, hsigner, hrequest⟩ := Client.buildRequest_eq_ok_iff.mp hbuilt
  exact ⟨hvalid, hclock, signer, hsigner, hrequest⟩

theorem body_place_sign (c : Client) (path unsigned : String) (signer : Signer) (t : Nat) :
    (c.place "POST" path (signer.sign unsigned t)).body =
      some (signer.sign unsigned t).payload := by
  rw [Client.place_sign]
  rfl

/-- An order that is sent has a quantity above zero in its form. The numbers that it might have left
out are above zero there exactly if its own are, and it would be sent as well with any others. -/
theorem postOrder_numbers {request : Http.Request}
    (h : (s.postOrder o clock).2.requests = s.requests ++ [request]) :
    (∃ body form, request.body = some body ∧ Http.decodePairs? body = some form ∧
      (∃ text, form.lookup "quantity" = some text ∧ Decimal.ReadsPositive text) ∧
      ∀ number ∈ o.optionalNumbers,
        ((∀ text, form.lookup number.1 = some text → Decimal.ReadsPositive text) ↔
          ∀ d, number.2 = some d → 0 < d.coefficient)) ∧
    ∀ o' : Order, o.SameParts o' →
      ∃ request', (s.postOrder o' clock).2.requests = s.requests ++ [request'] := by
  obtain ⟨hvalid, hclock, signer, hsigner, rfl⟩ := sent_order h
  constructor
  · have hquantity := (Decimal.isPositive_iff _).mp (Order.complete_of_validate hvalid).quantity
    let t := clock.unixMillis.toNat
    have hshown (signature : String) : o.ShownBy (o.toParams.pairs.entries ++
        (signer.timePairs t ++ [("signature", signature)])) := o.shownBy_form rfl
    exact ⟨_, _, body_place_sign .., signer.decodePairs?_sign o.toParams t,
      (hshown _).quantity_positive hquantity, fun number hnumber =>
        Decimal.readsPositive_iff_of_rel ((hshown _).optionalNumbers number hnumber)⟩
  · intro o' hparts
    exact ⟨_, postOrder_of_valid (hparts.validate_eq.trans hvalid) hsigner hclock⟩

/-- An order whose stop price is above zero and whose price is not. -/
theorem postOrder_numbers_mixed :
    let s := ofClient (.ofSettings (.ofCredentials ⟨"key", "secret"⟩))
    let o : Order :=
      { symbol := "BTCUSDT", side := .sell, type := .stopLossLimit, timeInForce := some .gtc
        quantity := ⟨false, 1, 0, by decide, by decide⟩
        price := some ⟨true, 0, 2, by decide, by decide⟩, clientOrderId := none
        stopPrice := some ⟨false, 5, 1, by decide, by decide⟩, icebergQuantity := none
        validateOnly := false }
    ∃ request body form,
      (s.postOrder o ⟨0, 7, .epoch, .epoch⟩).2.requests = s.requests ++ [request] ∧
      request.body = some body ∧ Http.decodePairs? body = some form ∧
      (∃ text, form.lookup "quantity" = some text ∧ Decimal.ReadsPositive text) ∧
      (∀ text, form.lookup "stopPrice" = some text → Decimal.ReadsPositive text) ∧
      ¬∀ text, form.lookup "price" = some text → Decimal.ReadsPositive text := by
  intro s o
  have hsent : (s.postOrder o ⟨0, 7, .epoch, .epoch⟩).2.requests = s.requests ++
      [s.client.place "POST" (orderPath o)
        ((Signer.ofSettings (.ofCredentials ⟨"key", "secret"⟩)).sign o.toParams.encode 7)] :=
    postOrder_of_valid rfl rfl (by decide)
  obtain ⟨⟨body, form, hbody, hread, hquantity, hnumbers⟩, -⟩ := postOrder_numbers hsent
  refine ⟨_, body, form, hsent, hbody, hread, hquantity, ?_, ?_⟩
  · refine (hnumbers ("stopPrice", o.stopPrice) (by decide)).mpr ?_
    rintro d ⟨⟩
    decide
  · intro hprice
    exact absurd ((hnumbers ("price", o.price) (by decide)).mp hprice _ rfl) (by decide)

/-- A limit order with a price below zero is signed and sent. -/
theorem postOrder_sends_negative_price :
    let s := ofClient (.ofSettings (.ofCredentials ⟨"key", "secret"⟩))
    let o := Order.limit "BTCUSDT" .buy ⟨false, 1, 0, by decide, by decide⟩
      ⟨true, 1, 0, by decide, by decide⟩
    ∃ request body form d,
      (s.postOrder o ⟨0, 7, .epoch, .epoch⟩).2.requests = s.requests ++ [request] ∧
      request.body = some body ∧ Http.decodePairs? body = some form ∧
      form.lookup "price" = some "-1" ∧ Decimal.parse "-1" = .ok d ∧ d.coefficient < 0 := by
  intro s o
  let signer := Signer.ofSettings (.ofCredentials ⟨"key", "secret"⟩)
  have hsent : (s.postOrder o ⟨0, 7, .epoch, .epoch⟩).2.requests = s.requests ++
      [s.client.place "POST" (orderPath o) (signer.sign o.toParams.encode 7)] :=
    postOrder_of_valid rfl rfl (by decide)
  refine ⟨_, _, _, ⟨true, 1, 0, by decide, by decide⟩, hsent, body_place_sign ..,
    signer.decodePairs?_sign o.toParams 7, ?_, rfl, by decide⟩
  rw [Order.lookup_form (by decide)]
  decide

end Session

end MarketDesk

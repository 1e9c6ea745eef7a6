import MarketDesk.Proofs.Dictionary
import MarketDesk.Proofs.Http.Query
import MarketDesk.Proofs.Signature
import MarketDesk.Proofs.Text.Numeral
import MarketDesk.Proofs.Venue.Exchange

/-!
# Signed payloads

What goes out under a signature is one query string: the parameters, the time of the request, how
long it stays valid, and the digest of all that stands in front of it. The digest has no `&` in it,
so the last `&signature=` is the one that the signer wrote, whatever names and values the parameters
have. The operations on an account never use a name twice or one of the signer's own.
-/

namespace MarketDesk

namespace Text

theorem isUnreserved_of_mem_natText {n : Nat} {c : Char} (h : c ∈ (natText n).toList) :
    isUnreserved c = true := by
  rw [natText, String.toList_ofList] at h
  have hdigit : c.isDigit = true := isDigit_of_mem_digits h
  simp only [isUnreserved, Char.isAlphanum, hdigit, Bool.or_true, Bool.true_or]

end Text

theorem Http.encodePair_natText (key : String) (n : Nat)
    (hkey : ∀ c ∈ key.toList, Text.isUnreserved c = true) :
    Params.encodePair (key, Text.natText n) = key ++ "=" ++ Text.natText n :=
  encodePair_of_isUnreserved hkey fun _ => Text.isUnreserved_of_mem_natText

namespace Signer

variable (s : Signer) (t : Nat)

def timePairs : List (String × String) :=
  [("timestamp", Text.natText t), ("recvWindow", Text.natText s.recvWindow.toNat)]

theorem encodePairs_timePairs : Http.encodePairs (s.timePairs t) = s.timeWindow t := by
  have htimestamp := Http.encodePair_natText "timestamp" t (List.all_eq_true.mp (by decide))
  have hwindow := Http.encodePair_natText "recvWindow" s.recvWindow.toNat
    (List.all_eq_true.mp (by decide))
  rw [timePairs, ← List.singleton_append,
    Http.encodePairs_append (List.cons_ne_nil _ _) (List.cons_ne_nil _ _),
    Http.encodePairs_singleton, Http.encodePairs_singleton, htimestamp, hwindow, timeWindow]
  simp only [String.append_assoc]
  rfl

theorem unsigned_eq_encodePairs (p : Http.Params) :
    s.unsigned p.encode t = Http.encodePairs (p.pairs.entries ++ s.timePairs t) := by
  rw [unsigned, Http.Params.encode_eq, Http.isEmpty_encodePairs]
  cases hp : p.pairs.entries with
  | nil => exact (s.encodePairs_timePairs t).symm
  | cons pair rest =>
    have happend := Http.encodePairs_append (List.cons_ne_nil pair rest)
      (show s.timePairs t ≠ [] from List.cons_ne_nil _ _)
    rw [happend, encodePairs_timePairs]
    rfl

theorem unsigned_eq (p : Http.Params) :
    s.unsigned p.encode t = p.encode ++ (if p.isEmpty then "" else "&") ++ "timestamp=" ++
      Text.natText t ++ "&recvWindow=" ++ Text.natText s.recvWindow.toNat := by
  have hempty : p.encode.isEmpty = p.isEmpty := Http.isEmpty_encodePairs p.pairs.entries
  rw [unsigned, hempty, timeWindow]
  cases hp : p.isEmpty with
  | false => simp only [Bool.false_eq_true, if_false, String.append_assoc]
  | true =>
    have hencode : p.encode = "" := String.isEmpty_iff.mp (hempty.trans hp)
    simp only [if_true, hencode, String.empty_append, String.append_assoc]

end Signer

namespace Http

theorem encodePair_signature (secret message : String) :
    Params.encodePair ("signature", Hmac.sign secret message) =
      "signature=" ++ Hmac.sign secret message :=
  encodePair_of_isUnreserved (List.all_eq_true.mp (by decide)) fun c hc =>
    Text.isUnreserved_of_mem_lowerHexDigits c (Hmac.mem_lowerHexDigits_of_mem_sign hc)

/-- The pairs of a payload are read back, and the signature as one more pair. -/
theorem decodePairs?_signed {pairs : List (String × String)} (h : pairs ≠ [])
    (secret message : String) :
    decodePairs? (encodePairs pairs ++ "&signature=" ++ Hmac.sign secret message) =
      some (pairs ++ [("signature", Hmac.sign secret message)]) := by
  have hencode : encodePairs pairs ++ "&signature=" ++ Hmac.sign secret message =
      encodePairs (pairs ++ [("signature", Hmac.sign secret message)]) := by
    have hname : "&signature=" = "&" ++ "signature=" := by decide
    rw [encodePairs_append h (List.cons_ne_nil _ _), encodePairs_singleton, encodePair_signature,
      hname]
    simp only [String.append_assoc]
  rw [hencode, decodePairs?_encodePairs]

end Http

/-- A signed payload is read back as the parameters and the signer's own. -/
theorem Signer.decodePairs?_sign (signer : Signer) (p : Http.Params) (t : Nat) :
    Http.decodePairs? (signer.sign p.encode t).payload =
      some (p.pairs.entries ++ (signer.timePairs t ++
        [("signature", Hmac.sign signer.credentials.secretKey (signer.unsigned p.encode t))])) := by
  have hne : p.pairs.entries ++ signer.timePairs t ≠ [] :=
    List.append_ne_nil_of_right_ne_nil _ (List.cons_ne_nil _ _)
  have hread := Http.decodePairs?_signed hne signer.credentials.secretKey
    (signer.unsigned p.encode t)
  rwa [← signer.unsigned_eq_encodePairs t p, List.append_assoc] at hread

namespace Hmac

/-- A signature is cut off at its own name, not at one that the signed text mentions. -/
theorem cutLast?_signature (secret message text : String) :
    Text.cutLast? "&signature=".toList (text ++ "&signature=" ++ sign secret message).toList =
      some (text.toList, (sign secret message).toList) := by
  have hsign : '&' ∉ (sign secret message).toList := fun h =>
    absurd (mem_lowerHexDigits_of_mem_sign h) (by decide)
  rw [String.toList_append, String.toList_append]
  exact Text.cutLast?_append (by decide) hsign text.toList

end Hmac

namespace Http.Params

/-- Parameters of these names, none of them twice. -/
structure NamedIn (names : List String) (p : Params) : Prop where
  nodup : p.pairs.keys.Nodup
  subset : ∀ key ∈ p.pairs.keys, key ∈ names

variable {names : List String} {p : Params} {key : String}

theorem namedIn_empty : NamedIn names .empty where
  nodup := List.nodup_nil
  subset _ h := nomatch h

theorem NamedIn.set (h : p.NamedIn names) (hkey : key ∈ names) (value : String) :
    (p.set key value).NamedIn names where
  nodup := Dictionary.nodup_keys_set h.nodup key value
  subset k hk := by
    rcases Dictionary.mem_keys_set.mp hk with rfl | hk
    · exact hkey
    · exact h.subset k hk

theorem NamedIn.setIfSome (h : p.NamedIn names) (hkey : key ∈ names) (value : Option String) :
    (p.setIfSome key value).NamedIn names := by
  cases value with
  | none => exact h
  | some value => exact h.set hkey value

theorem NamedIn.nodup_append (h : p.NamedIn names) {more : List String} (hmore : more.Nodup)
    (hdisjoint : ∀ name ∈ names, name ∉ more) : (p.pairs.keys ++ more).Nodup := by
  refine List.nodup_append.mpr ⟨h.nodup, hmore, ?_⟩
  intro a ha b hb hab
  exact hdisjoint a (h.subset a ha) (hab ▸ hb)

end Http.Params

namespace Operation

/-- The operations that have to do with the account, which go out under a signature. -/
def onAccount : Operation → Bool
  | fetchAccount | postOrder _ | fetchOrder _ _ | cancelOrder _ _ | fetchOpenOrders _
  | pollOpenOrders _ _ => true
  | _ => false

def accountNames : List String :=
  ["symbol", "side", "type", "timeInForce", "quantity", "price", "newClientOrderId", "stopPrice",
    "icebergQty", "newOrderRespType", "orderId", "origClientOrderId"]

theorem order_namedIn (o : Order) : o.toParams.NamedIn accountNames :=
  Http.Params.namedIn_empty
    |>.set (by decide) _
    |>.set (by decide) _
    |>.set (by decide) _
    |>.setIfSome (by decide) _
    |>.set (by decide) _
    |>.setIfSome (by decide) _
    |>.setIfSome (by decide) _
    |>.setIfSome (by decide) _
    |>.setIfSome (by decide) _
    |>.set (by decide) _

theorem lookup_namedIn (lookup : OrderLookup) (symbol : String) :
    (lookup.toParams symbol).NamedIn accountNames := by
  have hsymbol : (Http.Params.empty.set "symbol" symbol).NamedIn accountNames :=
    Http.Params.namedIn_empty.set (by decide) symbol
  cases lookup with
  | orderId id => exact hsymbol.set (by decide) _
  | clientOrderId id => exact hsymbol.set (by decide) _

theorem openOrders_namedIn (symbol : Option String) :
    (Session.openOrdersParams symbol).NamedIn accountNames :=
  Http.Params.namedIn_empty.setIfSome (by decide) symbol

theorem call_namedIn {op : Operation} (h : op.onAccount = true) :
    op.call.params.NamedIn accountNames := by
  cases op with
  | fetchAccount => exact Http.Params.namedIn_empty
  | postOrder order => exact order_namedIn order
  | fetchOrder symbol lookup => exact lookup_namedIn lookup symbol
  | cancelOrder symbol lookup => exact lookup_namedIn lookup symbol
  | fetchOpenOrders symbol => exact openOrders_namedIn symbol
  | pollOpenOrders budget symbol => exact openOrders_namedIn symbol
  | _ => exact absurd h Bool.false_ne_true

theorem call_signed {op : Operation} (h : op.onAccount = true) : op.call.signed = true := by
  cases op with
  | fetchAccount | postOrder _ | fetchOrder _ _ | cancelOrder _ _ | fetchOpenOrders _
  | pollOpenOrders _ _ => rfl
  | _ => exact absurd h Bool.false_ne_true

end Operation

namespace Client

variable {c : Client} {signer : Signer}

theorem buildRequest_eq_place (hc : c.signer = some signer) (method path : String)
    (p : Http.Params) (t : Nat) :
    c.buildRequest method path p true t =
      .ok (c.place method path (signer.sign p.encode t)) :=
  buildRequest_of_signer_some c method path p hc (Int.natCast_nonneg t)

theorem isEmpty_sign_payload (unsigned : String) (t : Nat) :
    (signer.sign unsigned t).payload.isEmpty = false := by
  rw [← Bool.not_eq_true, String.isEmpty_iff, Signer.sign]
  intro h
  have hname := (String.append_eq_empty_iff.mp (String.append_eq_empty_iff.mp h).1).2
  exact absurd hname (by decide)

/-- A request that reads carries the signed payload in its address, and any other as a form. -/
theorem place_sign (method path unsigned : String) (t : Nat) :
    c.place method path (signer.sign unsigned t) =
      if method = "GET" then
        { method
          url := c.baseUrl ++ path ++ "?" ++ (signer.sign unsigned t).payload
          headers := [acceptHeader, (Signer.apiKeyHeader, signer.credentials.apiKey)]
          body := none }
      else
        { method
          url := c.baseUrl ++ path
          headers := [acceptHeader, (Signer.apiKeyHeader, signer.credentials.apiKey), formHeader]
          body := some (signer.sign unsigned t).payload } := by
  simp only [place, isEmpty_sign_payload, Bool.false_eq_true, if_false]
  rfl

/-- What a client with keys signs is what it sends, and the payload gives it back: cut at its last
`&signature=`, it is the signed text and the signature, and read as a query string it is the
parameters followed by the signer's own. The operations on an account send such requests, in which
no name stands twice. -/
theorem buildRequest_signed (hc : c.signer = some signer) :
    (∀ (method path : String) (p : Http.Params) (t : Nat),
      ∃ signed signature payload : String,
        signed = p.encode ++ (if p.isEmpty then "" else "&") ++ "timestamp=" ++ Text.natText t ++
          "&recvWindow=" ++ Text.natText signer.recvWindow.toNat ∧
        signature = Hmac.sign signer.credentials.secretKey signed ∧
        signature.toList.length = 64 ∧
        (∀ d ∈ signature.toList, d ∈ Text.lowerHexDigits) ∧
        payload = signed ++ "&signature=" ++ signature ∧
        c.buildRequest method path p true t = .ok (
          if method = "GET" then
            { method
              url := c.baseUrl ++ path ++ "?" ++ payload
              headers := [acceptHeader, (Signer.apiKeyHeader, signer.credentials.apiKey)]
              body := none }
          else
            { method
              url := c.baseUrl ++ path
              headers :=
                [acceptHeader, (Signer.apiKeyHeader, signer.credentials.apiKey), formHeader]
              body := some payload }) ∧
        Text.cutLast? "&signature=".toList payload.toList =
          some (signed.toList, signature.toList) ∧
        Http.decodePairs? payload = some (p.pairs.entries ++
          [("timestamp", Text.natText t), ("recvWindow", Text.natText signer.recvWindow.toNat),
            ("signature", signature)])) ∧
      ∀ (op : Operation) (s : Session) (clock : Clock), op.onAccount = true → s.client = c →
        (op.call.params.pairs.keys ++ ["timestamp", "recvWindow", "signature"]).Nodup ∧
          ((s.run op clock).2.requests = s.requests ∨
            ∃ request, c.buildRequest op.call.method op.call.path op.call.params true
                clock.unixMillis = .ok request ∧
              (s.run op clock).2.requests = s.requests ++ [request]) := by
  constructor
  · intro method path p t
    refine ⟨signer.unsigned p.encode t, _, (signer.sign p.encode t).payload, signer.unsigned_eq t p,
      rfl, Hmac.length_toList_sign _ _, fun d hd => Hmac.mem_lowerHexDigits_of_mem_sign hd, rfl,
      ?_, Hmac.cutLast?_signature _ _ _, signer.decodePairs?_sign p t⟩
    rw [buildRequest_eq_place hc, place_sign]
  · rintro op s clock hop rfl
    refine ⟨(Operation.call_namedIn hop).nodup_append (by decide) (by decide), ?_⟩
    rw [← Operation.call_signed hop]
    exact s.run_requests op clock

/-- A value that mentions a signature is cut and read as any other. -/
theorem buildRequest_signed_mention :
    ∃ signed signature payload : String,
      signature = Hmac.sign "secret" signed ∧
      payload = signed ++ "&signature=" ++ signature ∧
      (ofSettings (.ofCredentials ⟨"key", "secret"⟩)).buildRequest "POST" "/api/v3/order"
          (.ofList [("note", "&signature=00")]) true (7 : Nat) = .ok
        { method := "POST"
          url := "https://api.binance.com/api/v3/order"
          headers := [acceptHeader, ("X-MBX-APIKEY", "key"), formHeader]
          body := some payload } ∧
      Text.cutLast? "&signature=".toList payload.toList =
        some (signed.toList, signature.toList) ∧
      Http.decodePairs? payload = some [("note", "&signature=00"), ("timestamp", "7"),
        ("recvWindow", "5000"), ("signature", signature)] := by
  have hc : (ofSettings (.ofCredentials ⟨"key", "secret"⟩)).signer =
      some (.ofSettings (.ofCredentials ⟨"key", "secret"⟩)) := rfl
  obtain ⟨signed, signature, payload, -, hsignature, -, -, hpayload, hrequest, hcut, hread⟩ :=
    (buildRequest_signed hc).1 "POST" "/api/v3/order" (.ofList [("note", "&signature=00")]) 7
  exact ⟨signed, signature, payload, hsignature, hpayload, hrequest, hcut, hread⟩

end Client

end MarketDesk

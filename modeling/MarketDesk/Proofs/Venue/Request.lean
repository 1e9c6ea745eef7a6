import MarketDesk.Venue.Client

/-!
# Building requests

A request is built from the address of the client, the method, the path and a payload. Without a
signature the payload is the encoded parameters and the request can always be built; with one it
takes keys and a clock that is not before the epoch.
-/

namespace MarketDesk.Client

variable (c : Client) (method path : String) (params : Http.Params) {now : Int}

/-- What goes out for encoded parameters at a time, under the signature of a signer or as it is. -/
def payload (signer : Option Signer) (parameters : String) (now : Int) : SignedPayload :=
  match signer with
  | none => ⟨[], parameters⟩
  | some signer => signer.sign parameters now.toNat

theorem buildRequest_unsigned (now : Int) :
    c.buildRequest method path params false now =
      .ok (c.place method path (payload none params.encode now)) := rfl

theorem buildRequest_of_signer_none (h : c.signer = none) :
    c.buildRequest method path params true now = .error (.noCredentials Venue.exchangeName) := by
  simp only [buildRequest, if_true, authenticate, h]
  rfl

theorem buildRequest_of_signer_some {signer : Signer} (h : c.signer = some signer)
    (hnow : 0 ≤ now) :
    c.buildRequest method path params true now =
      .ok (c.place method path (payload (some signer) params.encode now)) := by
  have htime : timestamp now = .ok now.toNat := if_neg (Int.not_lt.mpr hnow)
  simp only [buildRequest, if_true, authenticate, h, htime]
  rfl

theorem buildRequest_before_epoch {signer : Signer} (h : c.signer = some signer) (hnow : now < 0) :
    c.buildRequest method path params true now = .error (.authentication
      "System clock before Unix epoch: second time provided was later than self") := by
  have htime : timestamp now = .error (.authentication
      "System clock before Unix epoch: second time provided was later than self") := if_pos hnow
  simp only [buildRequest, if_true, authenticate, h, htime]
  rfl

variable {c method path params} in
/-- A signed request is built just if there are keys and the clock is not before the epoch. -/
theorem buildRequest_eq_ok_iff {request : Http.Request} :
    c.buildRequest method path params true now = .ok request ↔
      0 ≤ now ∧ ∃ signer, c.signer = some signer ∧
        request = c.place method path (payload (some signer) params.encode now) := by
  cases hsigner : c.signer with
  | none =>
    rw [buildRequest_of_signer_none c method path params hsigner]
    exact iff_of_false nofun fun ⟨_, _, hnone, _⟩ => nomatch hnone
  | some signer =>
    rcases Int.lt_or_le now 0 with hnow | hnow
    · rw [buildRequest_before_epoch c method path params hsigner hnow]
      exact iff_of_false nofun fun h => absurd h.1 (Int.not_le.mpr hnow)
    · rw [buildRequest_of_signer_some c method path params hsigner hnow, Except.ok.injEq]
      simp only [Option.some.injEq, exists_eq_left', and_iff_right hnow, eq_comm]

variable {c method path params} in
/-- A request that was built is a payload in its place, signed if it was to be signed. -/
theorem eq_place_of_buildRequest {signed : Bool} {request : Http.Request}
    (h : c.buildRequest method path params signed now = .ok request) :
    ∃ signer, request = c.place method path (payload signer params.encode now) ∧
      signer = if signed then c.signer else none := by
  cases signed with
  | false =>
    rw [buildRequest_unsigned] at h
    exact ⟨none, (Except.ok.inj h).symm, rfl⟩
  | true =>
    obtain ⟨-, signer, hsigner, hrequest⟩ := buildRequest_eq_ok_iff.mp h
    exact ⟨some signer, hrequest, hsigner.symm⟩

/-- A request goes to the path behind the address of the client. -/
theorem address_prefix_url (p : SignedPayload) :
    (c.baseUrl ++ path).toList <+: (c.place method path p).url.toList := by
  unfold place
  dsimp only
  split
  · split
    · exact List.prefix_refl _
    · have hurl : (c.baseUrl ++ path ++ "?" ++ p.payload).toList =
          (c.baseUrl ++ path).toList ++ ("?" ++ p.payload).toList := by
        rw [String.append_assoc, String.toList_append]
      exact hurl ▸ List.prefix_append _ _
  · exact List.prefix_refl _

end MarketDesk.Client

import MarketDesk.Proofs.Venue.SignedPayload
import MarketDesk.Proofs.Venue.Traffic
import MarketDesk.Settings.Basic
import Mathlib.Data.List.Forall2

/-!
# Where the keys of an account show

Two sessions under different keys go the same way: they give the same answers, know the same symbols
and books, and have used the same budgets. The API key shows in one header of a signed request and
the secret key in the digits of its signature, so two logs differ in these places at most. Whether
there are keys at all makes no difference to a request that is not signed.
-/

namespace MarketDesk

namespace Http.Request

/-- Requests that carry an API key each in the same place and are the same for the rest. -/
def SameButApiKey (key key' : String) (r r' : Request) : Prop :=
  ∃ request : Request,
    r = { request with
      headers := Client.acceptHeader :: (Signer.apiKeyHeader, key) :: request.headers } ∧
    r' = { request with
      headers := Client.acceptHeader :: (Signer.apiKeyHeader, key') :: request.headers }

/-- The digits of a signature, none of which can begin a second `&signature=`. -/
structure IsSignature (digits : String) : Prop where
  length : digits.toList.length = 64
  lowerHex : ∀ d ∈ digits.toList, d ∈ Text.lowerHexDigits

/-- Requests that end in a signature each, in the address or in the form, and are the same up to the
digits of it. -/
inductive SameButSignature : Request → Request → Prop
  | address {digits digits' : String} (h : IsSignature digits) (h' : IsSignature digits')
      (method front : String) (headers : List (String × String)) :
      SameButSignature ⟨method, front ++ "&signature=" ++ digits, headers, none⟩
        ⟨method, front ++ "&signature=" ++ digits', headers, none⟩
  | form {digits digits' : String} (h : IsSignature digits) (h' : IsSignature digits')
      (method url front : String) (headers : List (String × String)) :
      SameButSignature ⟨method, url, headers, some (front ++ "&signature=" ++ digits)⟩
        ⟨method, url, headers, some (front ++ "&signature=" ++ digits')⟩

end Http.Request

theorem Hmac.isSignature_sign (secret message : String) :
    Http.Request.IsSignature (sign secret message) where
  length := length_toList_sign secret message
  lowerHex _ h := mem_lowerHexDigits_of_mem_sign h

namespace Signer

/-- Signers whose requests are related wherever they are placed. -/
def PlacedAlike (R : Http.Request → Http.Request → Prop) (g g' : Signer) : Prop :=
  ∀ (c : Client) (method path parameters : String) (t : Nat),
    R (c.place method path (g.sign parameters t)) (c.place method path (g'.sign parameters t))

theorem placedAlike_of_secret_eq (key key' secret : String) (window : UInt64) :
    PlacedAlike (Http.Request.SameButApiKey key key') ⟨⟨key, secret⟩, window⟩
      ⟨⟨key', secret⟩, window⟩ := by
  intro c method path parameters t
  rw [Client.place_sign, Client.place_sign]
  split
  · exact ⟨⟨method, _, [], none⟩, rfl, rfl⟩
  · exact ⟨⟨method, _, [Client.formHeader], some _⟩, rfl, rfl⟩

theorem placedAlike_of_apiKey_eq (key secret secret' : String) (window : UInt64) :
    PlacedAlike Http.Request.SameButSignature ⟨⟨key, secret⟩, window⟩
      ⟨⟨key, secret'⟩, window⟩ := by
  intro c method path parameters t
  rw [Client.place_sign, Client.place_sign]
  split
  · simp only [sign, ← String.append_assoc]
    exact .address (Hmac.isSignature_sign ..) (Hmac.isSignature_sign ..) ..
  · exact .form (Hmac.isSignature_sign ..) (Hmac.isSignature_sign ..) ..

end Signer

namespace Client

theorem place_congr {c c' : Client} (h : c.baseUrl = c'.baseUrl) (method path : String)
    (p : SignedPayload) : c.place method path p = c'.place method path p := by
  simp only [place, h]

/-- Clients of one address build requests that are the same or related, or fail in the same way. -/
theorem buildRequest_alike {c c' : Client} {R : Http.Request → Http.Request → Prop}
    (hbase : c.baseUrl = c'.baseUrl)
    (hsigners : Option.Rel (Signer.PlacedAlike R) c.signer c'.signer)
    (method path : String) (params : Http.Params) (signed : Bool) (now : Int) :
    (∃ e, c.buildRequest method path params signed now = .error e ∧
        c'.buildRequest method path params signed now = .error e) ∨
      ∃ r r', c.buildRequest method path params signed now = .ok r ∧
        c'.buildRequest method path params signed now = .ok r' ∧ (r = r' ∨ R r r') := by
  cases signed with
  | false =>
    refine Or.inr ⟨_, _, buildRequest_unsigned .., buildRequest_unsigned .., Or.inl ?_⟩
    exact place_congr hbase ..
  | true =>
    generalize hg : c.signer = g at hsigners
    generalize hg' : c'.signer = g' at hsigners
    cases hsigners with
    | none =>
      exact Or.inl ⟨_, buildRequest_of_signer_none _ _ _ _ hg,
        buildRequest_of_signer_none _ _ _ _ hg'⟩
    | some h =>
      rcases Int.lt_or_le now 0 with hnow | hnow
      · exact Or.inl ⟨_, buildRequest_before_epoch _ _ _ _ hg hnow,
          buildRequest_before_epoch _ _ _ _ hg' hnow⟩
      · refine Or.inr ⟨_, _, buildRequest_of_signer_some _ _ _ _ hg hnow,
          buildRequest_of_signer_some _ _ _ _ hg' hnow, Or.inr ?_⟩
        rw [place_congr hbase]
        exact h ..

end Client

namespace Session

/-- Sessions that have come to know and to count the same. -/
structure SameState (s s' : Session) : Prop where
  baseUrl : s.client.baseUrl = s'.client.baseUrl
  limiter : s.client.limiter = s'.client.limiter
  symbols : s.client.symbols = s'.client.symbols
  store : s.store = s'.store

/-- With the same reply, sessions go on to know and to count the same, whatever their keys. -/
theorem SameState.run {s s' : Session} (h : s.SameState s') (hreply : s.nextReply = s'.nextReply)
    (op : Operation) (clock : Clock) : (s.run op clock).2.SameState (s'.run op clock).2 where
  baseUrl := by rw [run_baseUrl, run_baseUrl, h.baseUrl]
  limiter := by rw [run_limiter, run_limiter, h.limiter]
  symbols := by rw [run_symbols, run_symbols, hreply, h.symbols]
  store := by rw [run_store, run_store, hreply, h.store]

/-- Sessions with the same replies before them, which differ in their keys and in what they have
sent as far as a relation allows it. -/
structure Alike (R : Http.Request → Http.Request → Prop) (s s' : Session) : Prop where
  state : s.SameState s'
  replies : s.replies = s'.replies
  signers : Option.Rel (Signer.PlacedAlike R) s.client.signer s'.client.signer
  requests : List.Forall₂ (fun r r' => r = r' ∨ R r r') s.requests s'.requests

variable {R : Http.Request → Http.Request → Prop} {s s' : Session}

theorem Alike.run (h : s.Alike R s') (op : Operation) (clock : Clock) :
    (s.run op clock).1 = (s'.run op clock).1 ∧ (s.run op clock).2.Alike R (s'.run op clock).2 := by
  have hreply : s.nextReply = s'.nextReply := by rw [nextReply, nextReply, h.replies]
  have hstate := h.state.run hreply op clock
  have hsigners : Option.Rel (Signer.PlacedAlike R) (s.run op clock).2.client.signer
      (s'.run op clock).2.client.signer := by
    rw [run_signer, run_signer]
    exact h.signers
  have hexchange : (s.run op clock).1 = (s'.run op clock).1 ∧
      (s.run op clock).2.replies = (s'.run op clock).2.replies ∧
      List.Forall₂ (fun r r' => r = r' ∨ R r r') (s.run op clock).2.requests
        (s'.run op clock).2.requests := by
    rw [run_eq, run_eq, ← h.state.limiter]
    cases op.refusal? clock s.client.limiter with
    | some outcome => exact ⟨rfl, h.replies, h.requests⟩
    | none =>
      rcases Client.buildRequest_alike h.state.baseUrl h.signers op.call.method op.call.path
          op.call.params op.call.signed clock.unixMillis with
        ⟨e, hbuilt, hbuilt'⟩ | ⟨r, r', hbuilt, hbuilt', hr⟩
      · rw [hbuilt, hbuilt']
        exact ⟨rfl, h.replies, h.requests⟩
      · rw [hbuilt, hbuilt', ← hreply]
        exact ⟨rfl, congrArg List.tail h.replies,
          List.rel_append h.requests (.cons hr .nil)⟩
  exact ⟨hexchange.1, hstate, hexchange.2.1, hsigners, hexchange.2.2⟩

theorem Alike.runAll (h : s.Alike R s') (ops : List (Operation × Clock)) :
    (s.runAll ops).1 = (s'.runAll ops).1 ∧ (s.runAll ops).2.Alike R (s'.runAll ops).2 := by
  induction ops generalizing s s' with
  | nil => exact ⟨rfl, h⟩
  | cons e rest ih =>
    obtain ⟨houtcome, hafter⟩ := h.run e.1 e.2
    obtain ⟨houtcomes, hend⟩ := ih hafter
    exact ⟨congrArg₂ List.cons houtcome houtcomes, hend⟩

/-- A run in which each operation has a reply of its own, taken or not: what it gives and sends. -/
def runEach (s : Session) : List (Operation × Clock × Reply) →
    List (Outcome Answer × List Http.Request)
  | [] => []
  | (op, clock, reply) :: rest =>
      let (outcome, s) := { s with replies := [reply], requests := [] }.run op clock
      (outcome, s.requests) :: s.runEach rest

/-- An operation without a signature gives and sends what its own reply and the address make of it,
whatever the keys of the session and the operations before. -/
theorem runEach_of_unsigned (s : Session) {ops : List (Operation × Clock × Reply)} {k : Nat}
    {op : Operation} {clock : Clock} {reply : Reply} (hop : ops[k]? = some (op, clock, reply))
    (hsigned : op.call.signed = false) {c : Client} (hbase : s.client.baseUrl = c.baseUrl) :
    (s.runEach ops)[k]? = some (op.answer clock reply, [c.place op.call.method op.call.path
      (Client.payload none op.call.params.encode clock.unixMillis)]) := by
  induction ops generalizing s k with
  | nil => exact nomatch hop
  | cons e rest ih =>
    obtain ⟨op₀, clock₀, reply₀⟩ := e
    cases k with
    | zero =>
      rw [List.getElem?_cons_zero, Option.some.injEq] at hop
      obtain ⟨rfl, rfl, rfl⟩ := hop
      rw [runEach, run_of_unsigned _ _ hsigned, ← Client.place_congr hbase]
      rfl
    | succ k => exact ih _ hop ((run_baseUrl op₀ clock₀ _).trans hbase)

theorem exchanges_of_unsigned (s : Session) {ops : List (Operation × Clock)} {k : Nat}
    {op : Operation} {clock : Clock} {t : Turn} (hop : ops[k]? = some (op, clock))
    (hsigned : op.call.signed = false) (ht : (s.turns ops)[k]? = some t) {c : Client}
    (hbase : s.client.baseUrl = c.baseUrl) :
    t.Exchanges (c.place op.call.method op.call.path
      (Client.payload none op.call.params.encode clock.unixMillis)) t.session.nextReply := by
  have hturn : (t.op, t.clock) = (op, clock) := by
    rw [← s.map_turns ops, List.getElem?_map, ht] at hop
    exact Option.some.inj hop
  obtain ⟨rfl, rfl⟩ := Prod.mk.inj hturn
  have hclient := client_of_mem_turns (List.mem_of_getElem? ht)
  have hrun := run_of_unsigned t.clock t.session hsigned
  rw [Client.place_congr (hclient.1.trans hbase)] at hrun
  exact {
    built := by
      rw [hsigned, Client.buildRequest_unsigned, Client.place_congr (hclient.1.trans hbase)]
    requests := congrArg (·.2.requests) hrun
    replies := congrArg (·.2.replies) hrun
    outcome := congrArg Prod.fst hrun }

theorem alike_ofSettings {R : Http.Request → Http.Request → Prop} (settings : Settings)
    (script : List Reply) {c c' : Credentials} (hcomplete : c.complete = c'.complete)
    (h : Signer.PlacedAlike R ⟨c, settings.recvWindow⟩ ⟨c', settings.recvWindow⟩) :
    ((ofClient (.ofSettings { settings with credentials := c })).addReplies script).Alike R
      ((ofClient (.ofSettings { settings with credentials := c' })).addReplies script) where
  state := ⟨rfl, rfl, rfl, rfl⟩
  replies := rfl
  signers := by
    have hsigner (c : Credentials) : (Client.ofSettings { settings with credentials := c }).signer =
        if c.complete then some ⟨c, settings.recvWindow⟩ else none := rfl
    change Option.Rel _ (Client.ofSettings _).signer (Client.ofSettings _).signer
    rw [hsigner, hsigner, hcomplete]
    split
    · exact .some h
    · exact .none
  requests := .nil

/-- The runs of one list of operations, with one script of replies, under settings that differ in
the keys. Another API key shows in its header and another secret key in the digits of signatures,
and in nothing else; outcomes, errors among them, depend at most on whether there are keys. An
operation without a signature sends one request under all keys and makes the same of each reply, so
its outcome is the same if its reply is; and written settings are the same text. -/
theorem keys_show_in_requests_only (settings : Settings) (script : List Reply)
    (ops : List (Operation × Clock)) (exchanges : List (Operation × Clock × Reply)) :
    let under (c : Credentials) : Settings := { settings with credentials := c }
    let start (c : Credentials) := (ofClient (.ofSettings (under c))).addReplies script
    let run (c : Credentials) := (start c).runAll ops
    (∀ key key' secret, key ≠ "" → key' ≠ "" →
      (run ⟨key, secret⟩).1 = (run ⟨key', secret⟩).1 ∧
        (run ⟨key, secret⟩).2.SameState (run ⟨key', secret⟩).2 ∧
        List.Forall₂ (fun r r' => r = r' ∨ r.SameButApiKey key key' r')
          (run ⟨key, secret⟩).2.requests (run ⟨key', secret⟩).2.requests) ∧
      (∀ key secret secret', secret ≠ "" → secret' ≠ "" →
        (run ⟨key, secret⟩).1 = (run ⟨key, secret'⟩).1 ∧
          (run ⟨key, secret⟩).2.SameState (run ⟨key, secret'⟩).2 ∧
          List.Forall₂ (fun r r' => r = r' ∨ r.SameButSignature r')
            (run ⟨key, secret⟩).2.requests (run ⟨key, secret'⟩).2.requests) ∧
      (∀ c c' : Credentials, c.complete = c'.complete → (run c).1 = (run c').1) ∧
      (∀ (k : Nat) (op : Operation) (clock : Clock),
        ops[k]? = some (op, clock) → op.call.signed = false →
        ∃ request, ∀ (c : Credentials) (t : Turn), ((start c).turns ops)[k]? = some t →
          t.Exchanges request t.session.nextReply) ∧
      (∀ (k : Nat) (op : Operation) (clock : Clock) (reply : Reply),
        exchanges[k]? = some (op, clock, reply) → op.call.signed = false →
        ∃ request, ∀ c : Credentials,
          ((ofClient (.ofSettings (under c))).runEach exchanges)[k]? =
            some (op.answer clock reply, [request])) ∧
      ∀ c c' : Credentials, (under c).toJson.text = (under c').toJson.text := by
  intro under start run
  refine ⟨?_, ?_, ?_, ?_, ?_, ?_⟩
  · intro key key' secret hkey hkey'
    have hcomplete : Credentials.complete ⟨key, secret⟩ = Credentials.complete ⟨key', secret⟩ := by
      rw [Bool.eq_iff_iff, Credentials.complete_iff, Credentials.complete_iff]
      exact and_congr_left fun _ => iff_of_true hkey hkey'
    obtain ⟨houtcomes, hend⟩ := (alike_ofSettings settings script hcomplete
      (Signer.placedAlike_of_secret_eq key key' secret settings.recvWindow)).runAll ops
    exact ⟨houtcomes, hend.state, hend.requests⟩
  · intro key secret secret' hsecret hsecret'
    have hcomplete : Credentials.complete ⟨key, secret⟩ = Credentials.complete ⟨key, secret'⟩ := by
      rw [Bool.eq_iff_iff, Credentials.complete_iff, Credentials.complete_iff]
      exact and_congr_right fun _ => iff_of_true hsecret hsecret'
    obtain ⟨houtcomes, hend⟩ := (alike_ofSettings settings script hcomplete
      (Signer.placedAlike_of_apiKey_eq key secret secret' settings.recvWindow)).runAll ops
    exact ⟨houtcomes, hend.state, hend.requests⟩
  · intro c c' hcomplete
    have hany : Signer.PlacedAlike (fun _ _ => True) ⟨c, settings.recvWindow⟩
        ⟨c', settings.recvWindow⟩ := fun _ _ _ _ _ => trivial
    exact ((alike_ofSettings settings script hcomplete hany).runAll ops).1
  · intro k op clock hop hsigned
    exact ⟨_, fun c t ht => (start c).exchanges_of_unsigned hop hsigned ht
      (c := .ofSettings settings) rfl⟩
  · intro k op clock reply hop hsigned
    exact ⟨_, fun c => runEach_of_unsigned _ hop hsigned (c := .ofSettings settings) rfl⟩
  · intro c c'
    rfl

end Session

end MarketDesk

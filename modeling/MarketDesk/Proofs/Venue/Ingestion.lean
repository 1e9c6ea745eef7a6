import MarketDesk.Proofs.Venue.Classification

/-!
# Books that arrive

Updating a book sends one request for the depth of a pair's market and turns the reply into a book.
If that succeeds the book is stored under the canonical pair, and what is given back is what the
store has there, for every spelling of the pair; all other books stay.
-/

namespace MarketDesk

namespace Depth

/-- The pair of a snapshot is the one that was asked for; the levels do not depend on it. -/
theorem toSnapshot_pair (d : Depth) (p q : CurrencyPair) (now : Instant) :
    d.toSnapshot q now = (d.toSnapshot p now).map fun s => { s with pair := q } := by
  unfold toSnapshot
  cases readLevels d.bids with
  | error e => rfl
  | ok bids =>
    cases readLevels d.asks with
    | error e => rfl
    | ok asks => rfl

end Depth

namespace Session

/-- The request for the depth of a pair's market. -/
def depthRequest (s : Session) (pair : CurrencyPair) (limit : Option UInt32) (clock : Clock) :
    Http.Request :=
  s.client.place "GET" Venue.depthPath
    (Client.payload none (depthParams (Client.symbolOfPair pair) limit).encode clock.unixMillis)

variable (s : Session) (pair : CurrencyPair) (limit : Option UInt32) (clock : Clock)

theorem fetchBook_eq :
    s.fetchBook pair limit clock =
      (readBook pair clock s.nextReply, s.sent (s.depthRequest pair limit clock)) := rfl

/-- What the store has of a book once it has taken it. -/
def storedBook (book : Snapshot) : Snapshot :=
  { book with pair := pair.canonical, lastUpdated := clock.storage }

theorem updateBook_eq :
    s.updateBook pair limit clock =
      ((readBook pair clock s.nextReply).map (storedBook pair clock),
        { s.sent (s.depthRequest pair limit clock) with
          store := (Operation.updateBook pair limit).books clock s.nextReply s.store }) := by
  rw [updateBook, fetchBook_eq, Operation.books]
  cases readBook pair clock s.nextReply with
  | ok book =>
    have hget := s.store.get_upsert_self ⟨pair, BookStore.spot, book, clock.storage⟩
    dsimp only [sent] at hget ⊢
    rw [hget]
    rfl
  | error e => rfl
  | cancelled => rfl

theorem updateBook_requests :
    (s.updateBook pair limit clock).2.requests =
      s.requests ++ [s.depthRequest pair limit clock] := by
  rw [updateBook_eq]
  rfl

variable {s pair limit clock}

theorem readBook_eq_ok_iff {reply : Reply} {book : Snapshot} :
    readBook pair clock reply = .ok book ↔ ∃ response depth, reply = .response response ∧
      response.isSuccess = true ∧ Depth.decode.run response.body = .ok depth ∧
      depth.toSnapshot pair clock.arrival = .ok book := by
  simp only [readBook, Outcome.bind_eq_ok_iff, Outcome.ofExcept_eq_ok_iff, readReply_eq_ok_iff]
  grind

theorem readBook_ne_book (reply : Reply) (cause : BookError) :
    readBook pair clock reply ≠ .error (.book cause) :=
  fun h => nomatch errs_of_readBook h

theorem updateBook_eq_ok_iff {snapshot : Snapshot} :
    (s.updateBook pair limit clock).1 = .ok snapshot ↔
      ∃ book, readBook pair clock s.nextReply = .ok book ∧
        storedBook pair clock book = snapshot := by
  rw [updateBook_eq, Outcome.map_eq_ok_iff]

theorem updateBook_book? {book : Snapshot} (h : readBook pair clock s.nextReply = .ok book)
    (key : CurrencyPair) (bookType : String) :
    (s.updateBook pair limit clock).2.store.book? key bookType =
      if pair.canonical = key ∧ BookStore.spot = bookType then some (storedBook pair clock book)
      else s.store.book? key bookType := by
  rw [updateBook_eq]
  dsimp only [Operation.books]
  rw [h]
  exact s.store.book?_upsert ⟨pair, BookStore.spot, book, clock.storage⟩ key bookType

variable (s pair limit clock)

/-- Updating a book fails on the way to the book and never at the store. It succeeds just if a
response of success has a body that is the depth of a market, all levels of which can be read, and
gives the book with these levels, under the canonical pair and with the time at which it was stored.
Then the store has it for every spelling of the pair, and gives what it gave before wherever else
it had a book. -/
theorem updateBook_ingests :
    let run := s.updateBook pair limit clock
    (∀ cause, run.1 ≠ .error (.book cause)) ∧
    ∀ snapshot,
      (run.1 = .ok snapshot ↔ ∃ response depth book, s.nextReply = .response response ∧
        (200 ≤ response.status ∧ response.status ≤ 299) ∧
        Depth.decode.run response.body = .ok depth ∧
        depth.toSnapshot pair clock.arrival = .ok book ∧
        snapshot = { book with pair := pair.canonical, lastUpdated := clock.storage }) ∧
      (run.1 = .ok snapshot →
        (∀ other, other.canonical = pair.canonical →
          run.2.store.get other BookStore.spot = .ok snapshot) ∧
        ∀ other bookType, (other.canonical, bookType) ≠ (pair.canonical, BookStore.spot) →
          (s.store.book? other.canonical bookType).isSome →
            run.2.store.get other bookType = s.store.get other bookType) := by
  intro run
  refine ⟨fun cause h => ?_, fun snapshot => ⟨?_, fun hok => ?_⟩⟩
  · rw [show run = _ from updateBook_eq s pair limit clock, Outcome.map_eq_error_iff] at h
    exact readBook_ne_book s.nextReply cause h
  · simp only [run, updateBook_eq_ok_iff, readBook_eq_ok_iff, storedBook,
      Http.Response.isSuccess_eq_true_iff]
    grind
  · obtain ⟨book, hbook, rfl⟩ := updateBook_eq_ok_iff.mp hok
    constructor
    · intro other hother
      refine BookStore.get_of_book? ((updateBook_book? hbook _ _).trans ?_)
      rw [if_pos ⟨hother.symm, rfl⟩]
    · intro other bookType hne hbefore
      obtain ⟨before, hbefore⟩ := Option.isSome_iff_exists.mp hbefore
      have hafter : run.2.store.book? other.canonical bookType = some before := by
        rw [updateBook_book? hbook, if_neg, hbefore]
        rintro ⟨hkey, htype⟩
        exact hne (Prod.ext hkey.symm htype.symm)
      rw [BookStore.get_of_book? hafter, BookStore.get_of_book? hbefore]

end Session

end MarketDesk

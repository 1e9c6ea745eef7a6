import MarketDesk.Proofs.Currency.Symbols
import MarketDesk.Proofs.Decimal.Normal
import MarketDesk.Proofs.Json.Listing
import MarketDesk.Proofs.Time.Rfc3339

/-!
# Snapshots that are written and read again

The parts of a snapshot are read from what is written for them: the pair because its symbols are
trimmed, the levels one by one, and the time part by part. What is read back is the same snapshot,
and the same text is written for it, unless a level has a negative zero. Such a zero is read back
without its sign.
-/

namespace MarketDesk

open Json

namespace Decimal

/-- Decimals of one value with the same number of digits after the point. -/
structure Same (x y : Decimal) : Prop where
  coefficient : x.coefficient = y.coefficient
  scale : x.scale = y.scale

def IsNegativeZero (d : Decimal) : Prop := d.negative = true ∧ d.magnitude = 0

theorem same_withoutZeroSign (d : Decimal) : d.Same d.withoutZeroSign :=
  ⟨d.coefficient_withoutZeroSign.symm, rfl⟩

theorem withoutZeroSign_withoutZeroSign (d : Decimal) :
    d.withoutZeroSign.withoutZeroSign = d.withoutZeroSign :=
  eq_of_parts (by simp [withoutZeroSign, isZero]) rfl rfl

theorem withoutZeroSign_eq_self {d : Decimal} (h : ¬d.IsNegativeZero) : d.withoutZeroSign = d := by
  refine eq_of_parts ?_ rfl rfl
  cases hnegative : d.negative with
  | false => simp [withoutZeroSign, hnegative]
  | true =>
    have hmagnitude : d.magnitude ≠ 0 := fun hzero => h ⟨hnegative, hzero⟩
    simp [withoutZeroSign, isZero, hnegative, hmagnitude]

/-- Only a negative zero is written with a sign that it loses. -/
theorem toText_withoutZeroSign_eq_iff (d : Decimal) :
    d.withoutZeroSign.toText = d.toText ↔ ¬d.IsNegativeZero := by
  constructor
  · rintro h ⟨hnegative, hzero⟩
    have hplain : d.withoutZeroSign.negative = false := by
      simp [withoutZeroSign, isZero, hzero]
    have hlength := congrArg List.length (String.ofList_inj.mp h)
    have hscale : d.withoutZeroSign.scale = d.scale := rfl
    have hmagnitude : d.withoutZeroSign.magnitude = d.magnitude := rfl
    simp only [toChars, hplain, hnegative, hscale, hmagnitude, List.length_append] at hlength
    simp at hlength
  · intro h
    rw [withoutZeroSign_eq_self h]

end Decimal

namespace Level

def plain (l : Level) : Level := ⟨l.price.withoutZeroSign, l.amount.withoutZeroSign⟩

structure Same (l l' : Level) : Prop where
  price : l.price.Same l'.price
  amount : l.amount.Same l'.amount

def HasNegativeZero (l : Level) : Prop := l.price.IsNegativeZero ∨ l.amount.IsNegativeZero

theorem same_plain (l : Level) : l.Same l.plain :=
  ⟨l.price.same_withoutZeroSign, l.amount.same_withoutZeroSign⟩

theorem plain_plain (l : Level) : l.plain.plain = l.plain := by
  rw [plain, plain, Decimal.withoutZeroSign_withoutZeroSign,
    Decimal.withoutZeroSign_withoutZeroSign]

theorem plain_eq_self {l : Level} (h : ¬l.HasNegativeZero) : l.plain = l := by
  rw [HasNegativeZero, not_or] at h
  rw [plain, Decimal.withoutZeroSign_eq_self h.1, Decimal.withoutZeroSign_eq_self h.2]

theorem decode_toJson (l : Level) : decode l.toJson.tree = .ok l.plain := by
  have hrow : Fields.ofItems _ fields [l.price.toJson.tree, l.amount.toJson.tree] =
      .ok (l.price.withoutZeroSign, l.amount.withoutZeroSign, ()) :=
    Fields.ofItems_cons_of_ok (decimal_tree _) <| Fields.ofItems_cons_of_ok (decimal_tree _) rfl
  exact Except.bind_eq_ok_iff.mpr ⟨_, Fields.decode_listing (by decide) rfl hrow, rfl⟩

theorem not_hasNegativeZero_of_tree_eq {l : Level} (h : l.plain.toJson.tree = l.toJson.tree) :
    ¬l.HasNegativeZero := by
  simp only [toJson, plain, Decimal.toJson, Value.tree, Value.memberTrees, Value.pairTree,
    Json.object.injEq, List.cons.injEq, Prod.mk.injEq, Json.string.injEq, Option.some.injEq,
    Decimal.toText_withoutZeroSign_eq_iff] at h
  rw [HasNegativeZero, not_or]
  exact ⟨h.1.1.2, h.1.2.1.2⟩

end Level

theorem CurrencyPair.decode_toJson {p : CurrencyPair} (h : p.HasSymbols) :
    decode p.toJson.tree = .ok p := by
  have hrow : Fields.ofItems _ fields [(Value.string p.base).tree, (Value.string p.quote).tree] =
      .ok (p.base, p.quote, ()) :=
    Fields.ofItems_cons_of_ok (text_tree _) <| Fields.ofItems_cons_of_ok (text_tree _) rfl
  refine Except.bind_eq_ok_iff.mpr ⟨_, Fields.decode_listing (by decide) rfl hrow, ?_⟩
  simp only [h.ofSymbols_eq]
  rfl

theorem Instant.decode_toJson (t : Instant) : decode t.toJson.tree = .ok t := by
  refine Except.bind_eq_ok_iff.mpr ⟨Rfc3339.toText t, rfl, ?_⟩
  rw [Rfc3339.parse?_toText]
  rfl

namespace Snapshot

def plain (s : Snapshot) : Snapshot :=
  ⟨s.pair, s.bids.map Level.plain, s.asks.map Level.plain, s.lastUpdated⟩

/-- The same pair and time, and the same levels in the same order. -/
structure Same (s s' : Snapshot) : Prop where
  pair : s.pair = s'.pair
  bids : List.Forall₂ Level.Same s.bids s'.bids
  asks : List.Forall₂ Level.Same s.asks s'.asks
  lastUpdated : s.lastUpdated = s'.lastUpdated

def HasNegativeZero (s : Snapshot) : Prop := ∃ l ∈ s.bids ++ s.asks, l.HasNegativeZero

/-- A snapshot that was read from a text, or one that was made of a pair, decimals and a time. -/
inductive Obtained : Snapshot → Prop
  | json {t : String} {s : Snapshot} (h : decode.run t = .ok s) : Obtained s
  | parts {pair : CurrencyPair} (h : pair.Obtained) (bids asks : List Level)
      (lastUpdated : Instant) : Obtained ⟨pair, bids, asks, lastUpdated⟩

theorem pair_obtained_of_decode {json : Json} {s : Snapshot} (h : decode json = .ok s) :
    s.pair.Obtained := by
  obtain ⟨⟨pair, bids, asks, lastUpdated, ⟨⟩⟩, hrow, hs⟩ := Except.bind_eq_ok_iff.mp h
  obtain ⟨value, hpair⟩ := Fields.exists_decode_of_required _ _ rfl rfl hrow
  exact Except.ok.inj hs ▸ .json hpair

theorem Obtained.pair_obtained {s : Snapshot} (h : s.Obtained) : s.pair.Obtained := by
  cases h with
  | json h => exact pair_obtained_of_decode (Decoder.run_eq_ok_iff.mp h).1
  | parts h => exact h

theorem same_plain (s : Snapshot) : s.Same s.plain :=
  ⟨rfl, List.forall₂_map_right_iff.mpr (List.forall₂_same.mpr fun l _ => l.same_plain),
    List.forall₂_map_right_iff.mpr (List.forall₂_same.mpr fun l _ => l.same_plain), rfl⟩

theorem plain_plain (s : Snapshot) : s.plain.plain = s.plain := by
  have hplain : Level.plain ∘ Level.plain = Level.plain := funext Level.plain_plain
  simp only [plain, List.map_map, hplain]

theorem plain_eq_self {s : Snapshot} (h : ¬s.HasNegativeZero) : s.plain = s := by
  have hlevels (ls : List Level) (hls : ∀ l ∈ ls, l ∈ s.bids ++ s.asks) : ls.map Level.plain = ls :=
    (List.map_congr_left fun l hl =>
      Level.plain_eq_self fun hzero => h ⟨l, hls l hl, hzero⟩).trans (List.map_id' ls)
  rw [plain, hlevels s.bids fun _ => List.mem_append_left s.asks,
    hlevels s.asks fun _ => List.mem_append_right s.bids]

/-- A text that stays the same has no negative zero in it. -/
theorem not_hasNegativeZero_of_text_eq {s : Snapshot} (h : s.plain.toJson.text = s.toJson.text) :
    ¬s.HasNegativeZero := by
  have htree := Value.tree_eq_of_text_eq h
  simp only [toJson, plain, Value.tree, Value.memberTrees, Value.pairTree, Value.itemTrees_eq_map,
    List.map_map, Json.object.injEq, Json.array.injEq, List.cons.injEq, Prod.mk.injEq, and_true,
    true_and, List.map_inj_left, Function.comp_apply] at htree
  rintro ⟨l, hl, hzero⟩
  rcases List.mem_append.mp hl with hbid | hask
  · exact Level.not_hasNegativeZero_of_tree_eq (htree.1 l hbid) hzero
  · exact Level.not_hasNegativeZero_of_tree_eq (htree.2 l hask) hzero

theorem decode_toJson {s : Snapshot} (h : s.pair.HasSymbols) :
    decode s.toJson.tree = .ok s.plain := by
  have hrow : Fields.ofItems _ fields [s.pair.toJson.tree,
      (Value.array (s.bids.map Level.toJson)).tree, (Value.array (s.asks.map Level.toJson)).tree,
      s.lastUpdated.toJson.tree] =
        .ok (s.pair, s.bids.map Level.plain, s.asks.map Level.plain, s.lastUpdated, ()) :=
    Fields.ofItems_cons_of_ok (CurrencyPair.decode_toJson h) <|
      Fields.ofItems_cons_of_ok (list_tree Level.decode_toJson _) <|
      Fields.ofItems_cons_of_ok (list_tree Level.decode_toJson _) <|
      Fields.ofItems_cons_of_ok (Instant.decode_toJson _) rfl
  exact Except.bind_eq_ok_iff.mpr ⟨_, Fields.decode_listing (by decide) rfl hrow, rfl⟩

theorem run_decode_toJson {s : Snapshot} (h : s.pair.HasSymbols) :
    decode.run s.toJson.text = .ok s.plain := decode.run_text s.toJson (decode_toJson h)

/-- What is written for a snapshot is read back as the same snapshot, for which the same text is
written unless a level has a negative zero. The snapshot that was read back is read back as itself
from then on. -/
theorem rereads_same (s : Snapshot) (h : s.Obtained) :
    ∃ s', decode.run s.toJson.text = .ok s' ∧ s.Same s' ∧
      (s'.toJson.text = s.toJson.text ↔ ¬s.HasNegativeZero) ∧
      decode.run s'.toJson.text = .ok s' := by
  have hsymbols := h.pair_obtained.hasSymbols
  refine ⟨s.plain, run_decode_toJson hsymbols, s.same_plain, ?_, ?_⟩
  · exact ⟨not_hasNegativeZero_of_text_eq, fun hzero => by rw [plain_eq_self hzero]⟩
  · have hagain : s.plain.pair.HasSymbols := hsymbols
    rw [run_decode_toJson hagain, plain_plain]

/-- A price in scientific notation, a time with an offset and symbols with blanks around them. -/
theorem rereads_same_scientific :
    let t := "[[\" a\",\"b \"],[[\"1.50e1\",\"2\"]],[],\"2024-01-02T01:00:05.5+02:00\"]"
    let s : Snapshot := ⟨⟨"a", "b"⟩, [⟨⟨false, 150, 1, by decide, by decide⟩,
      ⟨false, 2, 0, by decide, by decide⟩⟩], [],
      ⟨⟨2024, 1, 1, by decide⟩, 82805, 500000000, by decide, by decide, by decide⟩⟩
    decode.run t = .ok s ∧ ∃ s', decode.run s.toJson.text = .ok s' ∧ s.Same s' ∧
      decode.run s'.toJson.text = .ok s' := by
  intro t s
  have ht : decode.run t = .ok s := by decide +kernel
  obtain ⟨s', hread, hsame, -, hagain⟩ := rereads_same s (.json ht)
  exact ⟨ht, s', hread, hsame, hagain⟩

/-- A price that its exponent takes below the last digit is a negative zero. It is written with a
minus sign, read back without one, and then written without one. -/
theorem text_of_negativeZero_changes :
    let t := "[[\"a\",\"b\"],[[\"-0.1e-28\",\"2\"]],[],\"2024-01-02T03:04:05Z\"]"
    let time : Instant :=
      ⟨⟨2024, 1, 2, by decide⟩, 11045, 0, by decide, by decide, by decide⟩
    let amount : Decimal := ⟨false, 2, 0, by decide, by decide⟩
    let s : Snapshot := ⟨⟨"a", "b"⟩, [⟨⟨true, 0, 28, by decide, by decide⟩, amount⟩], [], time⟩
    let s' : Snapshot := ⟨⟨"a", "b"⟩, [⟨⟨false, 0, 28, by decide, by decide⟩, amount⟩], [], time⟩
    decode.run t = .ok s ∧ decode.run s.toJson.text = .ok s' ∧
      s'.toJson.text ≠ s.toJson.text := by
  decide +kernel

end Snapshot

end MarketDesk

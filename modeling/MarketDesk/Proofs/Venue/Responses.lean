import MarketDesk.Proofs.Json.Listing
import MarketDesk.Proofs.Json.Revision
import MarketDesk.Proofs.Venue.Rejection
import MarketDesk.Venue.Account
import MarketDesk.Venue.Depth
import MarketDesk.Venue.Instruments
import MarketDesk.Venue.OrderReport

/-!
# Responses that change and stay readable

A venue may put the members of its objects in another order and add new ones. For each type of
response it is said which of its objects may be revised in this way, how a value is listed under the
names of its fields, and what of the value is left when it is read back: all but the sign of a
decimal that is zero.
-/

namespace MarketDesk

open Json

namespace Depth

def listLevels (levels : List (String × String)) : Value :=
  .array (levels.map fun level => .array [.string level.1, .string level.2])

def listed (d : Depth) : Value :=
  .object [("lastUpdateId", .integer d.lastUpdateId.toNat), ("bids", listLevels d.bids),
    ("asks", listLevels d.asks)]

def Revised : Json → Json → Prop := ObjectRevised (Fields.names _ fields) fun _ => Eq

theorem decode_tolerates : decode.Tolerates Revised :=
  (Fields.decode_tolerates (Fields.tolerate_eq _ fields)).bind _

theorem levels_listed (levels : List (String × String)) :
    Depth.levels (listLevels levels).tree = .ok levels := by
  have hlevel (level : String × String) : Decode.pair Decode.text Decode.text
      (Value.array [.string level.1, .string level.2]).tree = .ok (id level) := rfl
  have h := list_tree hlevel levels
  rwa [List.map_id] at h

theorem decode_listed (d : Depth) : decode d.listed.tree = .ok d := by
  have hrow : Fields.ofItems _ fields [(Value.integer d.lastUpdateId.toNat).tree,
      (listLevels d.bids).tree, (listLevels d.asks).tree] =
        .ok (d.lastUpdateId, d.bids, d.asks, ()) :=
    Fields.ofItems_cons_of_ok (uint64_tree _) <| Fields.ofItems_cons_of_ok (levels_listed _) <|
      Fields.ofItems_cons_of_ok (levels_listed _) rfl
  exact Except.bind_eq_ok_iff.mpr ⟨_, Fields.decode_listing (by decide) rfl hrow, rfl⟩

end Depth

namespace Market

def listed (m : Market) : Value :=
  .object [("symbol", .string m.symbol), ("status", .string m.status),
    ("baseAsset", .string m.baseAsset), ("quoteAsset", .string m.quoteAsset),
    ("baseAssetPrecision", .integer m.baseAssetPrecision.toNat),
    ("quotePrecision", .integer m.quotePrecision.toNat)]

def Revised : Json → Json → Prop := ObjectRevised (Fields.names _ fields) fun _ => Eq

theorem decode_tolerates : decode.Tolerates Revised :=
  (Fields.decode_tolerates (Fields.tolerate_eq _ fields)).bind _

theorem decode_listed (m : Market) : decode m.listed.tree = .ok m := by
  have hrow : Fields.ofItems _ fields [(Value.string m.symbol).tree, (Value.string m.status).tree,
      (Value.string m.baseAsset).tree, (Value.string m.quoteAsset).tree,
      (Value.integer m.baseAssetPrecision.toNat).tree,
      (Value.integer m.quotePrecision.toNat).tree] =
        .ok (m.symbol, m.status, m.baseAsset, m.quoteAsset, m.baseAssetPrecision,
          m.quotePrecision, ()) :=
    Fields.ofItems_cons_of_ok (text_tree _) <| Fields.ofItems_cons_of_ok (text_tree _) <|
      Fields.ofItems_cons_of_ok (text_tree _) <| Fields.ofItems_cons_of_ok (text_tree _) <|
      Fields.ofItems_cons_of_ok (uint32_tree _) <| Fields.ofItems_cons_of_ok (uint32_tree _) rfl
  exact Except.bind_eq_ok_iff.mpr ⟨_, Fields.decode_listing (by decide) rfl hrow, rfl⟩

end Market

namespace Instruments

def listed (i : Instruments) : Value :=
  .object [("timezone", .string i.timezone), ("serverTime", .integer i.serverTime.toInt),
    ("symbols", .array (i.markets.map Market.listed))]

/-- The markets inside may be revised too. -/
def Revised : Json → Json → Prop :=
  ObjectRevised (Fields.names _ fields) (InsideOf "symbols" (ItemsRevised Market.Revised))

theorem decode_tolerates : decode.Tolerates Revised := by
  have hfields : Fields.Tolerate (InsideOf "symbols" (ItemsRevised Market.Revised)) _ fields :=
    ⟨Field.tolerates_inside _ fun h => absurd h (by decide),
      Field.tolerates_inside _ fun h => absurd h (by decide),
      Field.tolerates_inside _ fun _ => Market.decode_tolerates.list, trivial⟩
  exact (Fields.decode_tolerates hfields).bind _

theorem decode_listed (i : Instruments) : decode i.listed.tree = .ok i := by
  have hmarkets : Decode.list Market.decode (Value.array (i.markets.map Market.listed)).tree =
      .ok i.markets := by
    have hmarket (m : Market) : Market.decode m.listed.tree = .ok (id m) := m.decode_listed
    have h := list_tree hmarket i.markets
    rwa [List.map_id] at h
  have hrow : Fields.ofItems _ fields [(Value.string i.timezone).tree,
      (Value.integer i.serverTime.toInt).tree, (Value.array (i.markets.map Market.listed)).tree] =
        .ok (i.timezone, i.serverTime, i.markets, ()) :=
    Fields.ofItems_cons_of_ok (text_tree _) <| Fields.ofItems_cons_of_ok (int64_tree _) <|
      Fields.ofItems_cons_of_ok hmarkets rfl
  exact Except.bind_eq_ok_iff.mpr ⟨_, Fields.decode_listing (by decide) rfl hrow, rfl⟩

end Instruments

namespace Balance

def listed (b : Balance) : Value :=
  .object [("asset", .string b.asset), ("free", b.free.toJson), ("locked", b.locked.toJson)]

def plain (b : Balance) : Balance :=
  ⟨b.asset, b.free.withoutZeroSign, b.locked.withoutZeroSign⟩

def Revised : Json → Json → Prop := ObjectRevised (Fields.names _ fields) fun _ => Eq

theorem decode_tolerates : decode.Tolerates Revised :=
  (Fields.decode_tolerates (Fields.tolerate_eq _ fields)).bind _

theorem decode_listed (b : Balance) : decode b.listed.tree = .ok b.plain := by
  have hrow : Fields.ofItems _ fields [(Value.string b.asset).tree, b.free.toJson.tree,
      b.locked.toJson.tree] =
        .ok (b.asset, b.free.withoutZeroSign, b.locked.withoutZeroSign, ()) :=
    Fields.ofItems_cons_of_ok (text_tree _) <| Fields.ofItems_cons_of_ok (decimal_tree _) <|
      Fields.ofItems_cons_of_ok (decimal_tree _) rfl
  exact Except.bind_eq_ok_iff.mpr ⟨_, Fields.decode_listing (by decide) rfl hrow, rfl⟩

/-- A balance with a new member, and with its own in another order. -/
def reordered (b : Balance) : Value :=
  .object [("locked", b.locked.toJson), ("", .null), ("asset", .string b.asset),
    ("free", b.free.toJson)]

theorem revised_reordered (b : Balance) : Revised b.listed.tree b.reordered.tree := by
  let asset : Member := (some "asset", (Value.string b.asset).tree)
  let free : Member := (some "free", b.free.toJson.tree)
  let locked : Member := (some "locked", b.locked.toJson.tree)
  let added : Member := (some "", .null)
  have horder : ([asset, free] ++ [locked, added]).Perm ([locked, added] ++ [asset, free]) :=
    List.perm_append_comm
  have hadded : Foreign (Fields.names _ fields) added := .mk (by decide) .nullWord
  exact .of_perm (List.forall_mem_singleton.mpr hadded) horder

end Balance

namespace Account

def listed (a : Account) : Value :=
  .object [("makerCommission", .integer a.makerCommission.toInt),
    ("takerCommission", .integer a.takerCommission.toInt), ("canTrade", .bool a.canTrade),
    ("canWithdraw", .bool a.canWithdraw), ("canDeposit", .bool a.canDeposit),
    ("updateTime", .integer a.updateTime.toInt),
    ("balances", .array (a.balances.map Balance.listed))]

def plain (a : Account) : Account := { a with balances := a.balances.map Balance.plain }

/-- The balances inside may be revised too. -/
def Revised : Json → Json → Prop :=
  ObjectRevised (Fields.names _ fields) (InsideOf "balances" (ItemsRevised Balance.Revised))

theorem decode_tolerates : decode.Tolerates Revised := by
  have hfields : Fields.Tolerate (InsideOf "balances" (ItemsRevised Balance.Revised)) _ fields :=
    ⟨Field.tolerates_inside _ fun h => absurd h (by decide),
      Field.tolerates_inside _ fun h => absurd h (by decide),
      Field.tolerates_inside _ fun h => absurd h (by decide),
      Field.tolerates_inside _ fun h => absurd h (by decide),
      Field.tolerates_inside _ fun h => absurd h (by decide),
      Field.tolerates_inside _ fun h => absurd h (by decide),
      Field.tolerates_inside _ fun _ => Balance.decode_tolerates.list, trivial⟩
  exact (Fields.decode_tolerates hfields).bind _

theorem decode_listed (a : Account) : decode a.listed.tree = .ok a.plain := by
  have hrow : Fields.ofItems _ fields [(Value.integer a.makerCommission.toInt).tree,
      (Value.integer a.takerCommission.toInt).tree, (Value.bool a.canTrade).tree,
      (Value.bool a.canWithdraw).tree, (Value.bool a.canDeposit).tree,
      (Value.integer a.updateTime.toInt).tree,
      (Value.array (a.balances.map Balance.listed)).tree] =
        .ok (a.makerCommission, a.takerCommission, a.canTrade, a.canWithdraw, a.canDeposit,
          a.updateTime, a.balances.map Balance.plain, ()) :=
    Fields.ofItems_cons_of_ok (int64_tree _) <| Fields.ofItems_cons_of_ok (int64_tree _) <|
      Fields.ofItems_cons_of_ok (bool_tree _) <| Fields.ofItems_cons_of_ok (bool_tree _) <|
      Fields.ofItems_cons_of_ok (bool_tree _) <| Fields.ofItems_cons_of_ok (int64_tree _) <|
      Fields.ofItems_cons_of_ok (list_tree Balance.decode_listed _) rfl
  exact Except.bind_eq_ok_iff.mpr ⟨_, Fields.decode_listing (by decide) rfl hrow, rfl⟩

/-- A member whose value fits no type and is only legal. -/
def hugeMember : Member :=
  (some "x", .array [.number ⟨false, ['1'], [], some (false, ['9', '9', '9'])⟩] true)

theorem written_hugeMember : hugeMember.2.Written ['[', '1', 'e', '9', '9', '9', ']'] := by
  have hone : Digits ['1'] := ⟨List.cons_ne_nil _ _, by simp⟩
  have hnines : Digits ['9', '9', '9'] := ⟨List.cons_ne_nil _ _, by simp⟩
  have hnumber : NumberWritten ⟨false, ['1'], [], some (false, ['9', '9', '9'])⟩ _ :=
    .mk hone (fun _ => rfl) .absent (.present (.inl rfl) .absent hnines)
  exact .array (.last (itemWritten_of_written (.number hnumber)))

/-- An account that shows its balances alone, and one with a huge member in front of them. -/
def balancesAlone (balances : List Value) : Value := .object [("balances", .array balances)]

def balancesBehind (balances : List Value) : Json :=
  .object [hugeMember, (some "balances", (Value.array balances).tree)] true

theorem revised_balancesBehind {balances balances' : List Value}
    (h : List.Forall₂ Balance.Revised (Value.itemTrees balances) (Value.itemTrees balances')) :
    Revised (balancesAlone balances).tree (balancesBehind balances') := by
  have hadded : Foreign (Fields.names _ fields) hugeMember :=
    .mk (by decide) written_hugeMember
  exact .object ⟨_, [hugeMember], .cons (.inside (by decide) (.mk (.mk h))) .nil,
    List.forall_mem_singleton.mpr hadded, .swap ..⟩

theorem isTextOf_balancesBehind (balances : List Value) :
    (balancesBehind balances).IsTextOf
      ("\x7b\"x\":[1e999], \"balances\":" ++ (Value.array balances).text ++ "\x7d") := by
  have hspace : Blanks [' '] := by simp [Blanks, isSpace]
  have hbalances : MemberWritten (some "balances", (Value.array balances).tree) _ :=
    .mk hspace (stringWritten_quoteChars "balances") blanks_nil blanks_nil
      (Value.array balances).written blanks_nil
  refine ⟨[], _, [], blanks_nil,
    .object (.more (memberWritten_of_written written_hugeMember) (.last hbalances)), blanks_nil, ?_⟩
  simp [Value.text, quoteChars, quoteChar]

end Account

namespace OrderReport

def listed (r : OrderReport) : Value :=
  .object [("symbol", .string r.symbol), ("orderId", .integer r.orderId.toInt),
    ("clientOrderId", .string r.clientOrderId), ("price", r.price.toJson),
    ("origQty", r.orderedQuantity.toJson), ("executedQty", r.executedQuantity.toJson),
    ("status", .string r.status), ("timeInForce", .string r.timeInForce),
    ("type", .string r.type), ("side", .string r.side), ("time", .integer r.time.toInt),
    ("isWorking", .bool r.isWorking)]

def plain (r : OrderReport) : OrderReport :=
  { r with
    price := r.price.withoutZeroSign
    orderedQuantity := r.orderedQuantity.withoutZeroSign
    executedQuantity := r.executedQuantity.withoutZeroSign }

def Revised : Json → Json → Prop := ObjectRevised (Fields.names _ fields) fun _ => Eq

theorem decode_tolerates : decode.Tolerates Revised :=
  (Fields.decode_tolerates (Fields.tolerate_eq _ fields)).bind _

theorem decode_listed (r : OrderReport) : decode r.listed.tree = .ok r.plain := by
  have hrow : Fields.ofItems _ fields [(Value.string r.symbol).tree,
      (Value.integer r.orderId.toInt).tree, (Value.string r.clientOrderId).tree,
      r.price.toJson.tree, r.orderedQuantity.toJson.tree, r.executedQuantity.toJson.tree,
      (Value.string r.status).tree, (Value.string r.timeInForce).tree,
      (Value.string r.type).tree, (Value.string r.side).tree, (Value.integer r.time.toInt).tree,
      (Value.bool r.isWorking).tree] =
        .ok (r.symbol, r.orderId, r.clientOrderId, r.price.withoutZeroSign,
          r.orderedQuantity.withoutZeroSign, r.executedQuantity.withoutZeroSign, r.status,
          r.timeInForce, r.type, r.side, r.time, r.isWorking, ()) :=
    Fields.ofItems_cons_of_ok (text_tree _) <| Fields.ofItems_cons_of_ok (int64_tree _) <|
      Fields.ofItems_cons_of_ok (text_tree _) <| Fields.ofItems_cons_of_ok (decimal_tree _) <|
      Fields.ofItems_cons_of_ok (decimal_tree _) <| Fields.ofItems_cons_of_ok (decimal_tree _) <|
      Fields.ofItems_cons_of_ok (text_tree _) <| Fields.ofItems_cons_of_ok (text_tree _) <|
      Fields.ofItems_cons_of_ok (text_tree _) <| Fields.ofItems_cons_of_ok (text_tree _) <|
      Fields.ofItems_cons_of_ok (int64_tree _) <| Fields.ofItems_cons_of_ok (bool_tree _) rfl
  exact Except.bind_eq_ok_iff.mpr ⟨_, Fields.decode_listing (by decide) rfl hrow, rfl⟩

end OrderReport

namespace Receipt

def listed (r : Receipt) : Value :=
  .object [("symbol", .string r.symbol), ("orderId", .integer r.orderId.toInt),
    ("clientOrderId", .string r.clientOrderId), ("transactTime", .integer r.transactTime.toInt)]

def Revised : Json → Json → Prop := ObjectRevised (Fields.names _ fields) fun _ => Eq

theorem decode_tolerates : decode.Tolerates Revised :=
  (Fields.decode_tolerates (Fields.tolerate_eq _ fields)).bind _

theorem decode_listed (r : Receipt) : decode r.listed.tree = .ok r := by
  have hrow : Fields.ofItems _ fields [(Value.string r.symbol).tree,
      (Value.integer r.orderId.toInt).tree, (Value.string r.clientOrderId).tree,
      (Value.integer r.transactTime.toInt).tree] =
        .ok (r.symbol, r.orderId, r.clientOrderId, r.transactTime, ()) :=
    Fields.ofItems_cons_of_ok (text_tree _) <| Fields.ofItems_cons_of_ok (int64_tree _) <|
      Fields.ofItems_cons_of_ok (text_tree _) <| Fields.ofItems_cons_of_ok (int64_tree _) rfl
  exact Except.bind_eq_ok_iff.mpr ⟨_, Fields.decode_listing (by decide) rfl hrow, rfl⟩

end Receipt

namespace Cancellation

def listed (c : Cancellation) : Value :=
  .object [("symbol", .string c.symbol), ("origClientOrderId", .string c.cancelledClientOrderId),
    ("orderId", .integer c.orderId.toInt), ("clientOrderId", .string c.clientOrderId)]

def Revised : Json → Json → Prop := ObjectRevised (Fields.names _ fields) fun _ => Eq

theorem decode_tolerates : decode.Tolerates Revised :=
  (Fields.decode_tolerates (Fields.tolerate_eq _ fields)).bind _

theorem decode_listed (c : Cancellation) : decode c.listed.tree = .ok c := by
  have hrow : Fields.ofItems _ fields [(Value.string c.symbol).tree,
      (Value.string c.cancelledClientOrderId).tree, (Value.integer c.orderId.toInt).tree,
      (Value.string c.clientOrderId).tree] =
        .ok (c.symbol, c.cancelledClientOrderId, c.orderId, c.clientOrderId, ()) :=
    Fields.ofItems_cons_of_ok (text_tree _) <| Fields.ofItems_cons_of_ok (text_tree _) <|
      Fields.ofItems_cons_of_ok (int64_tree _) <| Fields.ofItems_cons_of_ok (text_tree _) rfl
  exact Except.bind_eq_ok_iff.mpr ⟨_, Fields.decode_listing (by decide) rfl hrow, rfl⟩

end Cancellation

namespace Rejection

/-- A rejection whose text stands under one of its names. -/
def listedUnder (textName : String) (r : Rejection) : Value :=
  .object [("code", .integer r.code.toInt), (textName, .string r.text)]

def Revised : Json → Json → Prop := ObjectRevised (Fields.names _ fields) fun _ => Eq

theorem decode_tolerates : decode.Tolerates Revised :=
  (Fields.decode_tolerates (Fields.tolerate_eq _ fields)).bind _

theorem decode_listedUnder {textName : String} (h : textName ∈ ["msg", "message"])
    (r : Rejection) : decode (r.listedUnder textName).tree = .ok r := by
  have hkeys : valuesUnder ["code"] [(some "code", (Value.integer r.code.toInt).tree),
        (some textName, .string (some r.text))] = [(Value.integer r.code.toInt).tree] ∧
      valuesUnder ["msg", "message"] [(some "code", (Value.integer r.code.toInt).tree),
        (some textName, .string (some r.text))] = [.string (some r.text)] := by
    rcases List.mem_cons.mp h with rfl | h
    · exact ⟨rfl, rfl⟩
    · rw [List.mem_singleton.mp h]
      exact ⟨rfl, rfl⟩
  refine (r.decode_eq_ok_iff _).mpr (.object ⟨⟨_, hkeys.1, denotes_integer _⟩, hkeys.2, ?_⟩)
  intro member hmem
  rcases List.mem_cons.mp hmem with rfl | hmem
  · exact ⟨_, rfl, fun _ => (Value.written _).wellFormed⟩
  · rw [List.mem_singleton.mp hmem]
    exact ⟨_, rfl, fun _ => rfl⟩

end Rejection

/-- How a type of value is decoded, revised and listed. -/
structure Format (α : Type) where
  decode : Decoder α
  Revised : Json → Json → Prop
  listings : α → List Value
  plain : α → α

/-- Revisions lead to the same value, and listed values are read back. -/
structure Format.Sound {α : Type} (f : Format α) : Prop where
  tolerates : f.decode.Tolerates f.Revised
  reads : ∀ v, ∀ listing ∈ f.listings v, f.decode listing.tree = .ok (f.plain v)

inductive ResponseType
  | depth
  | instruments
  | account
  | order
  | orders
  | receipt
  | cancellation
  | rejection

namespace ResponseType

def Carrier : ResponseType → Type
  | depth => Depth
  | instruments => Instruments
  | account => Account
  | order => OrderReport
  | orders => List OrderReport
  | receipt => Receipt
  | cancellation => Cancellation
  | rejection => Rejection

def format : (t : ResponseType) → Format t.Carrier
  | depth => ⟨Depth.decode, Depth.Revised, fun d => [d.listed], id⟩
  | instruments => ⟨Instruments.decode, Instruments.Revised, fun i => [i.listed], id⟩
  | account => ⟨Account.decode, Account.Revised, fun a => [a.listed], Account.plain⟩
  | order => ⟨OrderReport.decode, OrderReport.Revised, fun r => [r.listed], OrderReport.plain⟩
  | orders =>
      ⟨OrderReport.decodeAll, ItemsRevised OrderReport.Revised,
        fun rs => [.array (rs.map OrderReport.listed)], List.map OrderReport.plain⟩
  | receipt => ⟨Receipt.decode, Receipt.Revised, fun r => [r.listed], id⟩
  | cancellation => ⟨Cancellation.decode, Cancellation.Revised, fun c => [c.listed], id⟩
  | rejection =>
      ⟨Rejection.decode, Rejection.Revised,
        fun r => [r.listedUnder "msg", r.listedUnder "message"], id⟩

theorem format_sound (t : ResponseType) : t.format.Sound := by
  cases t with
  | depth =>
    exact ⟨Depth.decode_tolerates,
      fun d _ h => List.mem_singleton.mp h ▸ Depth.decode_listed d⟩
  | instruments =>
    exact ⟨Instruments.decode_tolerates,
      fun i _ h => List.mem_singleton.mp h ▸ Instruments.decode_listed i⟩
  | account =>
    exact ⟨Account.decode_tolerates, fun a _ h => List.mem_singleton.mp h ▸ Account.decode_listed a⟩
  | order =>
    exact ⟨OrderReport.decode_tolerates,
      fun r _ h => List.mem_singleton.mp h ▸ OrderReport.decode_listed r⟩
  | orders =>
    exact ⟨OrderReport.decode_tolerates.list,
      fun rs _ h => List.mem_singleton.mp h ▸ list_tree OrderReport.decode_listed rs⟩
  | receipt =>
    exact ⟨Receipt.decode_tolerates, fun r _ h => List.mem_singleton.mp h ▸ Receipt.decode_listed r⟩
  | cancellation =>
    exact ⟨Cancellation.decode_tolerates,
      fun c _ h => List.mem_singleton.mp h ▸ Cancellation.decode_listed c⟩
  | rejection =>
    refine ⟨Rejection.decode_tolerates, fun r listing h => ?_⟩
    rcases List.mem_cons.mp h with rfl | h
    · exact Rejection.decode_listedUnder List.mem_cons_self r
    · rw [List.mem_singleton.mp h]
      exact Rejection.decode_listedUnder (List.mem_cons_of_mem _ List.mem_cons_self) r

/-- A text that decodes to a value writes some tree. Whatever text writes a revised tree, with the
members of its objects in another order, with foreign members among them and with any blanks,
decodes to the same value. And the fields of any value under their names decode to this value. -/
theorem decodes_revised_and_listed (t : ResponseType) :
    (∀ s v, t.format.decode.run s = .ok v → ∃ json : Json, json.IsTextOf s ∧
      ∀ json' s', t.format.Revised json json' → json'.IsTextOf s' →
        t.format.decode.run s' = .ok v) ∧
      ∀ v, ∀ listing ∈ t.format.listings v,
        t.format.decode.run listing.text = .ok (t.format.plain v) := by
  refine ⟨fun s v hv => ?_, fun v listing hlisting => ?_⟩
  · have hcomplete := (Decoder.run_eq_ok_iff.mp hv).2
    have hs : (Document.ofText s).root.IsTextOf s :=
      Document.ofText_eq_iff.mp (Document.mk.injEq .. ▸ ⟨rfl, hcomplete⟩)
    exact ⟨_, hs, fun json' s' hrevised hs' => t.format_sound.tolerates.run hs hs' hrevised hv⟩
  · exact t.format.decode.run_text listing (t.format_sound.reads v listing hlisting)

/-- New members before the balances of an account and in one of them, whose other members change
places. -/
theorem decodes_revised_account :
    let v : Account := ⟨0, 0, false, false, false, 0,
      [⟨"BTC", ⟨false, 150, 2, by decide, by decide⟩, .zero⟩]⟩
    let s := "\x7b\"balances\":[\x7b\"asset\":\"BTC\",\"free\":\"1.50\",\"locked\":\"0\"\x7d]\x7d"
    let s' := "\x7b\"x\":[1e999], \"balances\":[\x7b\"locked\":\"0\",\"\":null," ++
      "\"asset\":\"BTC\",\"free\":\"1.50\"\x7d]\x7d"
    Account.decode.run s = .ok v ∧ Account.decode.run s' = .ok v ∧
      Account.decode.run v.listed.text = .ok v := by
  intro v s s'
  let balance : Balance := ⟨"BTC", ⟨false, 150, 2, by decide, by decide⟩, .zero⟩
  have hs : Account.decode.run s = .ok v := by decide +kernel
  have htext : (Account.balancesAlone [balance.listed]).text = s := by decide +kernel
  have htext' : "\x7b\"x\":[1e999], \"balances\":" ++
      (Value.array [balance.reordered]).text ++ "\x7d" = s' := by decide +kernel
  have hrevised : Account.Revised (Account.balancesAlone [balance.listed]).tree
      (Account.balancesBehind [balance.reordered]) :=
    Account.revised_balancesBehind (.cons balance.revised_reordered .nil)
  obtain ⟨hrevisions, hlistings⟩ := decodes_revised_and_listed account
  obtain ⟨json, hjson, hsame⟩ := hrevisions s v hs
  obtain rfl := hjson.unique (htext ▸ Value.isTextOf_text _)
  exact ⟨hs, hsame _ s' hrevised (htext' ▸ Account.isTextOf_balancesBehind _),
    hlistings v _ List.mem_cons_self⟩

end ResponseType

end MarketDesk

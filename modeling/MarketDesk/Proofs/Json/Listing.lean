import MarketDesk.Book.Snapshot
import MarketDesk.Proofs.Decimal.Text
import MarketDesk.Proofs.Json.Printed
import MarketDesk.Proofs.Json.Record

/-!
# Records that are listed

An object that has the values of some fields under the fields' names is read like an array of these
values. The values are printed ones, and each kind of field reads what it was printed from, a
decimal without the sign of a zero.
-/

namespace MarketDesk.Json

section Values

theorem denotes_integer (n : Int) : (Value.integer n).tree.Denotes n := by
  rw [Value.tree, integerToken]
  by_cases hn : n < 0
  · have h := Denotes.negative (Text.digits n.natAbs) (by rw [Text.ofDigitChars_digits]; omega)
    rw [Text.ofDigitChars_digits, ← Int.eq_neg_natAbs_of_nonpos (by omega)] at h
    simpa only [hn, decide_true] using h
  · have h := Denotes.natural (Text.digits n.natAbs)
    rw [Text.ofDigitChars_digits, Int.natAbs_of_nonneg (by omega)] at h
    simpa only [hn, decide_false] using h

theorem text_tree (s : String) : Decode.text (Value.string s).tree = .ok s := rfl

theorem bool_tree (b : Bool) : Decode.bool (Value.bool b).tree = .ok b := rfl

theorem uint32_tree (n : UInt32) : Decode.uint32 (Value.integer n.toNat).tree = .ok n :=
  Decode.uint32_eq_ok_iff.mpr (denotes_integer n.toNat)

theorem uint64_tree (n : UInt64) : Decode.uint64 (Value.integer n.toNat).tree = .ok n :=
  Decode.uint64_eq_ok_iff.mpr (denotes_integer n.toNat)

theorem optional_uint64_tree (n : UInt64) :
    Decode.optional Decode.uint64 (Value.integer n.toNat).tree = .ok (some n) :=
  congrArg (Except.map some) (uint64_tree n)

theorem int64_tree (n : Int64) : Decode.int64 (Value.integer n.toInt).tree = .ok n :=
  Decode.int64_eq_ok_iff.mpr (denotes_integer n.toInt)

theorem decimal_tree (d : Decimal) : Decode.decimal d.toJson.tree = .ok d.withoutZeroSign :=
  Decode.decimal_eq_ok_iff.mpr ⟨d.toText, rfl, d.parse_toText⟩

/-- A list is read from the printed items, one by one. -/
theorem list_tree {α : Type} {decode : Decoder α} {print : α → Value} {plain : α → α}
    (h : ∀ v, decode (print v).tree = .ok (plain v)) (values : List α) :
    Decode.list decode (Value.array (values.map print)).tree = .ok (values.map plain) := by
  refine Decode.list_eq_ok_iff.mpr ⟨_, rfl, ?_⟩
  rw [Value.itemTrees_eq_map, List.map_map]
  induction values with
  | nil => exact .nil
  | cons v values ih => exact .cons (h v) ih

end Values

namespace Fields

/-- Values under the first names of some fields, in the order of the fields. -/
def listing : (αs : List Type) → Fields αs → List Json → List Member
  | _ :: αs, (field, fields), value :: values =>
      (some field.name, value) :: listing αs fields values
  | _, _, _ => []

theorem key_of_mem_listing {αs : List Type} {fields : Fields αs} {values : List Json}
    {member : Member} (h : member ∈ listing αs fields values) :
    ∃ key ∈ names αs fields, member.1 = some key := by
  induction αs generalizing values with
  | nil => exact nomatch h
  | cons α αs ih =>
    obtain ⟨field, fields⟩ := fields
    cases values with
    | nil => exact nomatch h
    | cons value values =>
      rcases List.mem_cons.mp h with rfl | hrest
      · exact ⟨field.name, List.mem_append_left _ List.mem_cons_self, rfl⟩
      · obtain ⟨key, hkey, hmember⟩ := ih hrest
        exact ⟨key, List.mem_append_right _ hkey, hmember⟩

/-- Values that are listed under the names of the fields are read as they are from an array. -/
theorem reads_listing {αs : List Type} {fields : Fields αs} (hnames : (names αs fields).Nodup)
    {values : List Json} (hlength : values.length = αs.length) {row : Row αs}
    (h : ofItems αs fields values = .ok row) :
    Reads αs fields (.vacant αs) (listing αs fields values) row := by
  induction αs generalizing values with
  | nil => exact (reads_nil_iff ..).mpr nofun
  | cons α αs ih =>
    obtain ⟨field, fields⟩ := fields
    obtain ⟨v, row⟩ := row
    cases values with
    | nil => exact nomatch hlength
    | cons value values =>
      obtain ⟨hv, hrest⟩ := (ofItems_cons_cons_eq_ok_iff field fields value values v row).mp h
      have htakes : field.takes (some field.name, value) = true :=
        Field.answersTo_eq_true_iff.mpr List.mem_cons_self
      obtain ⟨-, hfields, hdisjoint⟩ := List.nodup_append.mp hnames
      have hnone : ∀ member ∈ listing αs fields values, field.takes member = false := by
        intro member hmem
        obtain ⟨key, hkey, hmember⟩ := key_of_mem_listing hmem
        refine Field.takes_eq_false_iff.mpr fun key' hkey' hname => ?_
        obtain rfl : key = key' := Option.some.inj (hmember.symm.trans hkey')
        exact hdisjoint key hname key hkey rfl
      have hvalues : field.valuesIn (listing αs fields values) = [] := by
        rw [Field.valuesIn, List.filter_eq_nil_iff.mpr fun member hmem =>
          Bool.eq_false_iff.mp (hnone member hmem), List.map_nil]
      have hleaves : field.leavesOf (listing αs fields values) = listing αs fields values :=
        List.filter_eq_self.mpr fun member hmem => by rw [hnone member hmem, Bool.not_false]
      refine (reads_cons_iff field fields (.vacant αs) _ v row).mpr ⟨⟨some v, ?_, rfl⟩, ?_⟩
      · change field.Fills (field.valuesIn ((some field.name, value) :: _)) none (some v)
        rw [Field.valuesIn_cons_of_takes htakes, hvalues]
        exact .one hv
      · change Reads αs fields (.vacant αs) (field.leavesOf ((some field.name, value) :: _)) row
        rw [Field.leavesOf_cons_of_takes htakes, hleaves]
        exact ih hfields (Nat.succ.inj hlength) hrest

theorem decode_listing {αs : List Type} {fields : Fields αs} (hnames : (names αs fields).Nodup)
    {values : List Json} (hlength : values.length = αs.length) {row : Row αs}
    (h : ofItems αs fields values = .ok row) :
    decode fields (.object (listing αs fields values) true) = .ok row :=
  (decode_eq_ok_iff ..).mpr (.inl ⟨_, rfl, reads_listing hnames hlength h⟩)

end Fields

end MarketDesk.Json

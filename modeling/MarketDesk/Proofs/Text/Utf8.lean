import MarketDesk.Text.Utf8
import Mathlib.Data.List.Basic

/-!
# Texts in front of other bytes

The bytes of a text, followed by any others, are read as the text, followed by what the others are
read as. So a text is read back from its bytes, and what stands behind the bytes of a text is a text
just if the whole is.
-/

namespace MarketDesk.Text.Utf8

section Characters

theorem piecesFrom_cons (state : Option Partial) (b : UInt8) (rest : List UInt8) :
    piecesFrom state (b :: rest) =
      (step state b.toNat).1 ++ piecesFrom (step state b.toNat).2 rest := rfl

/-- A byte that a character under way owes. -/
theorem step_owed {bits owedAfter low high b : Nat} (h : low ≤ b ∧ b ≤ high) :
    step (some ⟨bits, owedAfter + 1, low, high⟩) b =
      ([], some ⟨64 * bits + (b - 0x80), owedAfter, 0x80, 0xBF⟩) := by
  rw [step, if_pos h]

theorem step_last {bits low high b : Nat} (h : low ≤ b ∧ b ≤ high) :
    step (some ⟨bits, 0, low, high⟩) b = ([some (Char.ofNat (64 * bits + (b - 0x80)))], none) := by
  rw [step, if_pos h]

theorem toNat_ofNat {n : Nat} (h : n < 0x100) : (UInt8.ofNat n).toNat = n :=
  UInt8.toNat_ofNat_of_lt' h

variable (n : Nat) (rest : List UInt8)

/-- The last byte of a character. -/
theorem piecesFrom_last {bits low high : Nat} (h : low ≤ n % 64 + 128 ∧ n % 64 + 128 ≤ high)
    (hbits : 64 * bits + n % 64 = n) :
    piecesFrom (some ⟨bits, 0, low, high⟩) (UInt8.ofNat (n % 64 + 128) :: rest) =
      some (Char.ofNat n) :: piecesFrom none rest := by
  rw [piecesFrom_cons, toNat_ofNat (by omega), step_last h, Nat.add_sub_cancel, hbits]
  rfl

/-- The last two bytes of a character. -/
theorem piecesFrom_lastTwo {bits low high : Nat}
    (h : low ≤ n / 64 % 64 + 128 ∧ n / 64 % 64 + 128 ≤ high)
    (hbits : 64 * bits + n / 64 % 64 = n / 64) :
    piecesFrom (some ⟨bits, 1, low, high⟩)
        (UInt8.ofNat (n / 64 % 64 + 128) :: UInt8.ofNat (n % 64 + 128) :: rest) =
      some (Char.ofNat n) :: piecesFrom none rest := by
  rw [piecesFrom_cons, toNat_ofNat (by omega), step_owed h, Nat.add_sub_cancel, hbits]
  exact piecesFrom_last n rest (by omega) (by omega)

/-- The last three bytes of a character. -/
theorem piecesFrom_lastThree {bits low high : Nat}
    (h : low ≤ n / 4096 % 64 + 128 ∧ n / 4096 % 64 + 128 ≤ high)
    (hbits : 64 * bits + n / 4096 % 64 = n / 4096) :
    piecesFrom (some ⟨bits, 2, low, high⟩)
        (UInt8.ofNat (n / 4096 % 64 + 128) :: UInt8.ofNat (n / 64 % 64 + 128) ::
          UInt8.ofNat (n % 64 + 128) :: rest) =
      some (Char.ofNat n) :: piecesFrom none rest := by
  rw [piecesFrom_cons, toNat_ofNat (by omega), step_owed h, Nat.add_sub_cancel, hbits]
  exact piecesFrom_lastTwo n rest (by omega) (by omega)

theorem first_two {b : Nat} (h : 0xC2 ≤ b ∧ b ≤ 0xDF) :
    first b = ([], some ⟨b - 0xC0, 0, 0x80, 0xBF⟩) := by
  rw [first, if_neg (by omega), if_pos h]

/-- After the first of three bytes the bounds of the second leave out what two bytes can hold, and
the surrogates. -/
theorem first_three {b : Nat} (h : 0xE0 ≤ b ∧ b ≤ 0xEF) :
    first b = ([], some ⟨b - 0xE0, 1, if b = 0xE0 then 0xA0 else 0x80,
      if b = 0xED then 0x9F else 0xBF⟩) := by
  unfold first
  grind

/-- After the first of four bytes the bounds of the second leave out what three bytes can hold, and
what lies past the last code point. -/
theorem first_four {b : Nat} (h : 0xF0 ≤ b ∧ b ≤ 0xF4) :
    first b = ([], some ⟨b - 0xF0, 2, if b = 0xF0 then 0x90 else 0x80,
      if b = 0xF4 then 0x8F else 0xBF⟩) := by
  unfold first
  grind

theorem piecesFrom_utf8EncodeChar (c : Char) :
    piecesFrom none (String.utf8EncodeChar c ++ rest) = some c :: piecesFrom none rest := by
  obtain ⟨n, hn⟩ : ∃ n, c.val.toNat = n := ⟨_, rfl⟩
  have hvalid : n < 0xD800 ∨ 0xDFFF < n ∧ n < 0x110000 := hn ▸ c.valid
  have hchar : Char.ofNat n = c := hn ▸ Char.ofNat_toNat c
  simp only [String.utf8EncodeChar, hn]
  rw [← hchar]
  split_ifs with hone htwo hthree
  · have hfirst : first n = ([some (Char.ofNat n)], none) := by rw [first, if_pos hone]
    rw [List.cons_append, piecesFrom_cons, toNat_ofNat (by omega), step, hfirst]
    rfl
  · rw [List.cons_append, piecesFrom_cons, toNat_ofNat (by omega), step, first_two (by omega)]
    simp only [List.cons_append, List.nil_append]
    apply piecesFrom_last <;> omega
  · rw [List.cons_append, piecesFrom_cons, toNat_ofNat (by omega), step, first_three (by omega)]
    simp only [List.cons_append, List.nil_append]
    apply piecesFrom_lastTwo
    · split_ifs <;> omega
    · omega
  · rw [List.cons_append, piecesFrom_cons, toNat_ofNat (by omega), step, first_four (by omega)]
    simp only [List.cons_append, List.nil_append]
    apply piecesFrom_lastThree
    · split_ifs <;> omega
    · omega

end Characters

section Texts

/-- The bytes of a text. -/
def encode (cs : List Char) : List UInt8 := cs.flatMap String.utf8EncodeChar

theorem encode_append (cs ds : List Char) : encode (cs ++ ds) = encode cs ++ encode ds :=
  List.flatMap_append

theorem pieces_encode_append (cs : List Char) (rest : List UInt8) :
    pieces (encode cs ++ rest) = cs.map some ++ pieces rest := by
  induction cs with
  | nil => rfl
  | cons c cs ih =>
    have hbytes : encode (c :: cs) ++ rest = String.utf8EncodeChar c ++ (encode cs ++ rest) :=
      List.append_assoc _ _ _
    rw [hbytes, pieces, piecesFrom_utf8EncodeChar, ← pieces, ih]
    rfl

theorem decode?_encode_append (cs : List Char) (rest : List UInt8) :
    decode? (encode cs ++ rest) = (decode? rest).map (cs ++ ·) := by
  unfold decode?
  rw [pieces_encode_append]
  induction cs with
  | nil => simp
  | cons c cs ih =>
    rw [List.map_cons, List.cons_append, List.mapM_cons, ih]
    cases (pieces rest).mapM id <;> rfl

theorem decode?_encode (cs : List Char) : decode? (encode cs) = some cs := by
  have happend := decode?_encode_append cs []
  have hnil : decode? [] = some [] := rfl
  rwa [List.append_nil, hnil, Option.map_some, List.append_nil] at happend

theorem toList_loop (bs : ByteArray) (i : Nat) (r : List UInt8) :
    ByteArray.toList.loop bs i r = r.reverse ++ bs.data.toList.drop i := by
  induction i, r using ByteArray.toList.loop.induct bs with
  | case1 i r hi ih =>
    have hlength : i < bs.data.toList.length := hi
    have hget : bs.get! i = bs.data.toList[i] := getElem!_pos bs.data i hi
    rw [ByteArray.toList.loop, if_pos hi, ih, List.reverse_cons, List.append_assoc,
      List.drop_eq_getElem_cons hlength, hget]
    rfl
  | case2 i r hi =>
    have hlength : bs.data.toList.length ≤ i := Nat.le_of_not_lt hi
    rw [ByteArray.toList.loop, if_neg hi, List.drop_eq_nil_of_le hlength, List.append_nil]

theorem toList_toUTF8 (s : String) : s.toUTF8.toList = encode s.toList := by
  have hbytes : s.toUTF8 = (encode s.toList).toByteArray := by
    rw [String.toUTF8_eq_toByteArray]
    conv_lhs => rw [← String.ofList_toList (s := s)]
    exact String.toByteArray_ofList
  rw [hbytes, ByteArray.toList, toList_loop, List.toList_data_toByteArray]
  rfl

end Texts

end MarketDesk.Text.Utf8

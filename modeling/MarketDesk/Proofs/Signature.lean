import MarketDesk.Signature

/-!
# The form of a signature

A digest has 32 bytes whatever the message, so a keyed digest is written with 64 hexadecimal digits,
all of them small.

A signed text is cut at the last place where a separator stands. If the separator begins with a
character that occurs neither later in it nor behind it, the last place is the one in front of what
follows.
-/

namespace MarketDesk

namespace Sha256

theorem length_bytesOfNat (n width : Nat) : (bytesOfNat n width).length = width := by
  induction width generalizing n with
  | zero => rfl
  | succ width ih => rw [bytesOfNat, List.length_append, ih, List.length_singleton]

theorem length_digest (message : List UInt8) : (digest message).length = 32 := by
  simp only [digest, State.words, List.flatMap_cons, List.flatMap_nil, List.length_append,
    bytesOfWord, length_bytesOfNat, List.length_nil]

end Sha256

namespace Text

def lowerHexDigits : List Char := "0123456789abcdef".toList

theorem hexDigit_mem (n : Nat) : hexDigit n ∈ lowerHexDigits := by
  have hdigit : ∀ d < 16, Nat.digitChar d ∈ lowerHexDigits := by decide
  exact hdigit (n % 16) (Nat.mod_lt n (by decide))

theorem length_hexBytes (bytes : List UInt8) : (hexBytes bytes).length = 2 * bytes.length := by
  induction bytes with
  | nil => rfl
  | cons b bytes ih =>
    rw [hexBytes, List.flatMap_cons, List.length_append, ← hexBytes, ih, List.length_cons]
    change 2 + 2 * bytes.length = _
    omega

theorem mem_lowerHexDigits_of_mem_hexBytes {bytes : List UInt8} {c : Char}
    (h : c ∈ hexBytes bytes) : c ∈ lowerHexDigits := by
  obtain ⟨b, -, hc⟩ := List.mem_flatMap.mp h
  simp only [hexByte, List.mem_cons, List.not_mem_nil, or_false] at hc
  rcases hc with rfl | rfl
  · exact hexDigit_mem _
  · exact hexDigit_mem _

theorem isUnreserved_of_mem_lowerHexDigits :
    ∀ c ∈ lowerHexDigits, isUnreserved c = true :=
  List.all_eq_true.mp (by decide)

def cutLast? (separator : List Char) : List Char → Option (List Char × List Char)
  | [] => none
  | c :: rest =>
      match cutLast? separator rest with
      | some (front, back) => some (c :: front, back)
      | none =>
          if separator.isPrefixOf (c :: rest) then some ([], (c :: rest).drop separator.length)
          else none

theorem cutLast?_eq_none {c : Char} {separator cs : List Char} (h : c ∉ cs) :
    cutLast? (c :: separator) cs = none := by
  induction cs with
  | nil => rfl
  | cons d rest ih =>
    have hne : c ≠ d := fun hcd => h (hcd ▸ List.mem_cons_self)
    have hrest : c ∉ rest := fun hr => h (List.mem_cons_of_mem d hr)
    rw [cutLast?, ih hrest, List.isPrefixOf_cons_cons, beq_false_of_ne hne]
    rfl

theorem cutLast?_append {c : Char} {separator back : List Char} (hs : c ∉ separator)
    (hb : c ∉ back) (front : List Char) :
    cutLast? (c :: separator) (front ++ c :: separator ++ back) = some (front, back) := by
  induction front with
  | nil =>
    -- Nothing behind the separator begins one, so this is the last place.
    have hnone : cutLast? (c :: separator) (separator ++ back) = none :=
      cutLast?_eq_none fun h => (List.mem_append.mp h).elim hs hb
    have hprefix : (c :: separator).isPrefixOf (c :: (separator ++ back)) = true :=
      List.isPrefixOf_iff_prefix.mpr (List.prefix_append (c :: separator) back)
    rw [List.nil_append, List.cons_append, cutLast?, hnone]
    dsimp only
    rw [if_pos hprefix, List.length_cons, List.drop_succ_cons, List.drop_left]
  | cons d front ih => rw [List.cons_append, List.cons_append, cutLast?, ih]

end Text

namespace Hmac

theorem length_toList_sign (secret message : String) :
    (sign secret message).toList.length = 64 := by
  rw [sign, hexDigest, String.toList_ofList, Text.length_hexBytes, digest, Sha256.length_digest]

theorem mem_lowerHexDigits_of_mem_sign {secret message : String} {c : Char}
    (h : c ∈ (sign secret message).toList) : c ∈ Text.lowerHexDigits := by
  rw [sign, hexDigest, String.toList_ofList] at h
  exact Text.mem_lowerHexDigits_of_mem_hexBytes h

/-- The second test case of RFC 4231. -/
example : sign "Jefe" "what do ya want for nothing?" =
    "5bdcc146bf60754e6a042426089575c75a003f089d2739839dec58b964ec3843" := by decide +kernel

end Hmac

end MarketDesk

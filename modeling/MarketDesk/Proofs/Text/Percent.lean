import MarketDesk.Text.Basic

/-!
# Reading percent-encoded text

A percent sign with two hexadecimal digits stands for a byte and every other character for its own
UTF-8 bytes. What was encoded is read back, whatever the text. The encoded form has only unreserved
characters and percent signs in it, and a text of unreserved characters is its own encoded form.
-/

namespace MarketDesk.Text

def percentBytes? : List Char → Option (List UInt8)
  | [] => some []
  | '%' :: high :: low :: rest => do
      let h ← hexValue? high
      let l ← hexValue? low
      let bytes ← percentBytes? rest
      return UInt8.ofNat (16 * h + l) :: bytes
  | c :: rest =>
      if c = '%' then none
      else (percentBytes? rest).map fun bytes => String.utf8EncodeChar c ++ bytes

def percentDecode? (cs : List Char) : Option String := do
  let bytes ← percentBytes? cs
  let chars ← bytes.toByteArray.utf8Decode?
  return String.ofList chars.toList

theorem percentDigit_mod (n : Nat) : percentDigit n = percentDigit (n % 16) := by
  rw [percentDigit, percentDigit, Nat.mod_mod]

theorem hexValue?_percentDigit (n : Nat) : hexValue? (percentDigit n) = some (n % 16) := by
  have hdigit : ∀ d < 16, hexValue? (percentDigit d) = some d := by decide
  rw [percentDigit_mod]
  exact hdigit (n % 16) (Nat.mod_lt n (by decide))

theorem isUnreserved_percentDigit (n : Nat) : isUnreserved (percentDigit n) = true := by
  have hdigit : ∀ d < 16, isUnreserved (percentDigit d) = true := by decide
  rw [percentDigit_mod]
  exact hdigit (n % 16) (Nat.mod_lt n (by decide))

theorem percentBytes?_cons_of_ne {c : Char} (h : c ≠ '%') (rest : List Char) :
    percentBytes? (c :: rest) =
      (percentBytes? rest).map fun bytes => String.utf8EncodeChar c ++ bytes := by
  rw [percentBytes?, if_neg h]
  exact fun _ _ _ hc => absurd hc h

theorem percentBytes?_percentByte (b : UInt8) (rest : List Char) :
    percentBytes? (percentByte b ++ rest) = (percentBytes? rest).map fun bytes => b :: bytes := by
  have hb : 16 * (b.toNat / 16 % 16) + b.toNat % 16 = b.toNat := by
    have := b.toNat_lt
    omega
  change percentBytes? ('%' :: percentDigit (b.toNat / 16) :: percentDigit b.toNat :: rest) = _
  rw [percentBytes?]
  simp only [hexValue?_percentDigit, Option.bind_eq_bind, Option.bind_some, hb, UInt8.ofNat_toNat]
  cases percentBytes? rest with
  | none => rfl
  | some bytes => rfl

theorem percentBytes?_flatMap_percentByte (bytes : List UInt8) (rest : List Char) :
    percentBytes? (bytes.flatMap percentByte ++ rest) =
      (percentBytes? rest).map fun more => bytes ++ more := by
  induction bytes with
  | nil => exact Option.map_id'.symm
  | cons b bytes ih =>
    rw [List.flatMap_cons, List.append_assoc, percentBytes?_percentByte, ih, Option.map_map]
    rfl

theorem ne_percent_of_isUnreserved {c : Char} (h : isUnreserved c = true) : c ≠ '%' := by
  rintro rfl
  exact absurd h (by decide)

theorem percentBytes?_percentChar (c : Char) (rest : List Char) :
    percentBytes? (percentChar c ++ rest) =
      (percentBytes? rest).map fun bytes => String.utf8EncodeChar c ++ bytes := by
  unfold percentChar
  split
  · next hc => exact percentBytes?_cons_of_ne (ne_percent_of_isUnreserved hc) rest
  · exact percentBytes?_flatMap_percentByte _ rest

theorem percentBytes?_flatMap_percentChar (cs : List Char) :
    percentBytes? (cs.flatMap percentChar) = some (cs.flatMap String.utf8EncodeChar) := by
  induction cs with
  | nil => rfl
  | cons c cs ih => rw [List.flatMap_cons, percentBytes?_percentChar, ih, List.flatMap_cons]; rfl

/-- Encoded text is read back. -/
theorem percentDecode?_percentEncode (s : String) :
    percentDecode? (percentEncode s).toList = some s := by
  have hutf8 : (s.toList.flatMap String.utf8EncodeChar).toByteArray.utf8Decode? =
      some s.toList.toArray := List.utf8Decode?_utf8Encode
  simp only [percentDecode?, percentEncode, String.toList_ofList,
    percentBytes?_flatMap_percentChar, Option.bind_eq_bind, Option.bind_some, hutf8,
    String.ofList_toList, Option.pure_def]

theorem isUnreserved_or_percent_of_mem {s : String} {c : Char} (h : c ∈ (percentEncode s).toList) :
    isUnreserved c = true ∨ c = '%' := by
  rw [percentEncode, String.toList_ofList, List.mem_flatMap] at h
  obtain ⟨d, -, hc⟩ := h
  unfold percentChar at hc
  split at hc
  · next hd =>
    rw [List.mem_singleton] at hc
    exact Or.inl (hc ▸ hd)
  · obtain ⟨b, -, hb⟩ := List.mem_flatMap.mp hc
    simp only [percentByte, List.mem_cons, List.not_mem_nil, or_false] at hb
    rcases hb with rfl | rfl | rfl
    · exact Or.inr rfl
    · exact Or.inl (isUnreserved_percentDigit _)
    · exact Or.inl (isUnreserved_percentDigit _)

/-- Separators of pairs and of names from values do not occur in encoded text. -/
theorem notMem_percentEncode {c : Char} (h : isUnreserved c = false) (hc : c ≠ '%') (s : String) :
    c ∉ (percentEncode s).toList := by
  intro hmem
  rcases isUnreserved_or_percent_of_mem hmem with hun | hper
  · exact absurd (h.symm.trans hun) Bool.false_ne_true
  · exact hc hper

theorem percentEncode_of_isUnreserved {s : String}
    (h : ∀ c ∈ s.toList, isUnreserved c = true) : percentEncode s = s := by
  have hchars : ∀ cs : List Char, (∀ c ∈ cs, isUnreserved c = true) →
      cs.flatMap percentChar = cs := by
    intro cs hcs
    induction cs with
    | nil => rfl
    | cons c cs ih =>
      rw [List.flatMap_cons, ih fun d hd => hcs d (List.mem_cons_of_mem c hd), percentChar,
        if_pos (hcs c List.mem_cons_self)]
      rfl
  rw [percentEncode, hchars s.toList h, String.ofList_toList]

end MarketDesk.Text

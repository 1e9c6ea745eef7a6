import MarketDesk.Json.Printer
import MarketDesk.Proofs.Json.Decode
import MarketDesk.Proofs.Json.Reading
import MarketDesk.Proofs.Text.Numeral
import Mathlib.Tactic.SplitIfs

/-!
# Reading printed values

What is printed for a value is a way to write a tree: an integer is its digits, a floating-point
number the number that it is printed as, and everything else stands for itself. So a reader of the
printed text meets this tree, and a decoder gives what it makes of the tree.
-/

namespace MarketDesk.Json

section Numbers

theorem digits_digits (n : Nat) : Digits (Text.digits n) :=
  ⟨Nat.toDigits_ne_nil, fun _ h => Text.isDigit_of_mem_digits h⟩

theorem length_digits_of_zero {n : Nat} (h : (Text.digits n).head? = some '0') :
    (Text.digits n).length = 1 := by
  rw [Text.head?_digits_eq_zero h]
  rfl

def integerToken (n : Int) : NumberToken := ⟨decide (n < 0), Text.digits n.natAbs, [], none⟩

theorem numberWritten_integer (n : Int) :
    NumberWritten (integerToken n) (Text.signedDigits n) := by
  have h : NumberWritten (integerToken n) _ :=
    .mk (digits_digits n.natAbs) length_digits_of_zero .absent .absent
  by_cases hn : n < 0 <;> simpa [integerToken, Text.signedDigits, hn] using h

/-- The number that a floating-point number is printed as. -/
def floatToken (f : Float) : NumberToken :=
  let bits := f.toBits.toNat
  let negative := decide (1 <<< 63 ≤ bits)
  let (m, e) := binaryParts bits
  if m = 0 then ⟨negative, Text.digits 0, [], some (false, Text.digits 0)⟩
  else if 0 ≤ e then ⟨negative, Text.digits (m <<< e.toNat), [], some (false, Text.digits 0)⟩
  else
    let (m, places) := halve m e.natAbs
    ⟨negative, Text.digits (m * Nat.pow 5 places), [], some (true, Text.digits places)⟩

/-- A whole number with an exponent. -/
theorem numberWritten_scaled (negative below : Bool) (m places : Nat) :
    NumberWritten ⟨negative, Text.digits m, [], some (below, Text.digits places)⟩
      ((if negative then ['-'] else []) ++ Text.digits m ++
        'e' :: ((if below then ['-'] else []) ++ Text.digits places)) := by
  have hsign : SignWritten below (if below then ['-'] else []) := by
    cases below with
    | false => exact .absent
    | true => exact .minus
  have h : NumberWritten ⟨negative, Text.digits m, [], some (below, Text.digits places)⟩ _ :=
    .mk (digits_digits m) length_digits_of_zero .absent
      (.present (.inl rfl) hsign (digits_digits places))
  rwa [List.nil_append, ← List.append_assoc] at h

theorem numberWritten_float (f : Float) : NumberWritten (floatToken f) (floatChars f) := by
  have hzero : Text.digits 0 = ['0'] := rfl
  unfold floatToken floatChars
  dsimp only
  split
  · simpa [hzero] using numberWritten_scaled (decide (1 <<< 63 ≤ f.toBits.toNat)) false 0 0
  · split
    · simpa [hzero] using numberWritten_scaled (decide (1 <<< 63 ≤ f.toBits.toNat)) false _ 0
    · simpa using numberWritten_scaled (decide (1 <<< 63 ≤ f.toBits.toNat)) true _ _

end Numbers

section Strings

/-- A character is printed as itself, as a letter behind a backslash or as its code. -/
theorem exists_part (c : Char) : ∃ part, PartWritten part (quoteChar c) ∧
    (part = .char c ∨ part = .unit c.toNat ∧ c.toNat < 0x20) := by
  have hcode : ∀ n < 0x20,
      unit? '0' '0' (Nat.digitChar (n / 16)) (Nat.digitChar (n % 16)) = some n := by decide
  unfold quoteChar
  split_ifs with hquote hslash hb hf hn hr ht hcontrol
  · exact ⟨_, .escaped (by rw [hquote]; rfl), .inl rfl⟩
  · exact ⟨_, .escaped (by rw [hslash]; rfl), .inl rfl⟩
  · exact ⟨_, .escaped (by rw [hb]; rfl), .inl rfl⟩
  · exact ⟨_, .escaped (by rw [hf]; rfl), .inl rfl⟩
  · exact ⟨_, .escaped (by rw [hn]; rfl), .inl rfl⟩
  · exact ⟨_, .escaped (by rw [hr]; rfl), .inl rfl⟩
  · exact ⟨_, .escaped (by rw [ht]; rfl), .inl rfl⟩
  · exact ⟨_, .unit (hcode c.toNat hcontrol), .inr ⟨rfl, hcontrol⟩⟩
  · exact ⟨_, .plain hquote hslash (Nat.le_of_not_lt hcontrol), .inl rfl⟩

/-- The code of a control character is no half of a surrogate pair. -/
theorem joinParts_control (passed : List Char) {n : Nat} (h : n < 0x20) (parts : List StringPart) :
    joinParts passed (.unit n :: parts) = joinParts (Char.ofNat n :: passed) parts := by
  have hhigh : isHighHalf n = false := by
    rw [isHighHalf, Bool.and_eq_false_iff, decide_eq_false_iff_not]
    exact .inl (by omega)
  have hlow : isLowHalf n = false := by
    rw [isLowHalf, Bool.and_eq_false_iff, decide_eq_false_iff_not]
    exact .inl (by omega)
  rcases parts with - | ⟨_ | _, parts⟩ <;> simp [joinParts, hhigh, hlow]

theorem exists_parts (cs : List Char) : ∃ parts, PartsWritten parts (cs.flatMap quoteChar) ∧
    ∀ passed, joinParts passed parts = some (passed.reverse ++ cs) := by
  induction cs with
  | nil => exact ⟨[], .nil, fun passed => by rw [joinParts, List.append_nil]⟩
  | cons c cs ih =>
    obtain ⟨parts, hparts, hjoin⟩ := ih
    obtain ⟨part, hpart, hc⟩ := exists_part c
    refine ⟨part :: parts, .cons hpart hparts, fun passed => ?_⟩
    have hstep : joinParts passed (part :: parts) = joinParts (c :: passed) parts := by
      rcases hc with rfl | ⟨rfl, hcontrol⟩
      · rw [joinParts]
      · rw [joinParts_control passed hcontrol, Char.ofNat_toNat]
    rw [hstep, hjoin, List.reverse_cons, List.append_assoc, List.singleton_append]

theorem stringWritten_quoteChars (s : String) : StringWritten (some s) (quoteChars s.toList) := by
  obtain ⟨parts, hparts, hjoin⟩ := exists_parts s.toList
  have h := StringWritten.mk hparts
  rwa [hjoin, List.reverse_nil, List.nil_append, Option.map_some, String.ofList_toList] at h

end Strings

theorem blanks_nil : Blanks [] := nofun

theorem itemWritten_of_written {item : Json} {cs : List Char} (h : item.Written cs) :
    ItemWritten item cs := by
  have hitem := ItemWritten.mk blanks_nil h blanks_nil
  rwa [List.append_nil, List.nil_append] at hitem

theorem memberWritten_of_written {key : String} {value : Json} {cs : List Char}
    (h : value.Written cs) :
    MemberWritten (some key, value) (quoteChars key.toList ++ ':' :: cs) := by
  have hmember := MemberWritten.mk blanks_nil (stringWritten_quoteChars key) blanks_nil blanks_nil h
    blanks_nil
  rwa [List.append_nil, List.nil_append, List.nil_append, List.nil_append] at hmember

namespace Value

mutual

/-- What a value is printed as. -/
def tree : Value → Json
  | .null => .null
  | .bool b => .bool b
  | .integer n => .number (integerToken n)
  | .float f => .number (floatToken f)
  | .string s => .string (some s)
  | .array items => .array (itemTrees items) true
  | .object members => .object (memberTrees members) true

def itemTrees : List Value → List Json
  | [] => []
  | item :: rest => item.tree :: itemTrees rest

def memberTrees : List (String × Value) → List (Option String × Json)
  | [] => []
  | member :: rest => pairTree member :: memberTrees rest

def pairTree : String × Value → Option String × Json
  | (key, value) => (some key, value.tree)

end

theorem itemTrees_eq_map (items : List Value) : itemTrees items = items.map tree := by
  induction items with
  | nil => rfl
  | cons item items ih => rw [itemTrees, ih, List.map_cons]

mutual

theorem written : (v : Value) → v.tree.Written v.chars
  | .null => .nullWord
  | .bool true => .trueWord
  | .bool false => .falseWord
  | .integer n => .number (numberWritten_integer n)
  | .float f => .number (numberWritten_float f)
  | .string s => .string (stringWritten_quoteChars s)
  | .array [] => .emptyArray blanks_nil
  | .array (item :: items) => .array (itemsWritten (item :: items) (List.cons_ne_nil item items))
  | .object [] => .emptyObject blanks_nil
  | .object (member :: members) =>
    .object (membersWritten (member :: members) (List.cons_ne_nil member members))

theorem itemsWritten : (items : List Value) → items ≠ [] →
    ItemsWritten (itemTrees items) ([','].intercalate (itemChars items))
  | [], h => absurd rfl h
  | [item], _ => by
    simp only [itemTrees, itemChars, List.intercalate_singleton]
    exact .last (itemWritten_of_written item.written)
  | item :: next :: items, _ => by
    have hrest := itemsWritten (next :: items) (List.cons_ne_nil next items)
    rw [itemTrees, itemChars, itemChars, List.intercalate_cons_cons, List.append_assoc]
    exact .more (itemWritten_of_written item.written) hrest

theorem membersWritten : (members : List (String × Value)) → members ≠ [] →
    MembersWritten (memberTrees members) ([','].intercalate (memberChars members))
  | [], h => absurd rfl h
  | [member], _ => by
    simp only [memberTrees, memberChars, List.intercalate_singleton]
    exact .last (pairWritten member)
  | member :: next :: members, _ => by
    have hrest := membersWritten (next :: members) (List.cons_ne_nil next members)
    rw [memberTrees, memberChars, memberChars, List.intercalate_cons_cons, List.append_assoc]
    exact .more (pairWritten member) hrest

theorem pairWritten : (member : String × Value) → MemberWritten (pairTree member) (pairChars member)
  | (_, value) => memberWritten_of_written value.written

end

theorem isTextOf_text (v : Value) : v.tree.IsTextOf v.text :=
  ⟨[], v.chars, [], blanks_nil, v.written, blanks_nil, by
    rw [text, String.toList_ofList, List.append_nil, List.nil_append]⟩

theorem tree_eq_of_text_eq {v w : Value} (h : v.text = w.text) : v.tree = w.tree :=
  v.isTextOf_text.unique (h ▸ w.isTextOf_text)

end Value

end MarketDesk.Json

namespace MarketDesk

/-- A decoder makes of a printed value what it makes of the tree. -/
theorem Decoder.run_text {α : Type} (decode : Decoder α) (v : Json.Value) {a : α}
    (h : decode v.tree = .ok a) : decode.run v.text = .ok a := by
  rw [run_eq_ok_iff, Document.ofText_eq_iff.mpr v.isTextOf_text]
  exact ⟨h, rfl⟩

end MarketDesk

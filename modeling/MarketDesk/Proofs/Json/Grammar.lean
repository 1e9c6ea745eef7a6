import MarketDesk.Json.Reader

/-!
# The grammar of JSON

`Written json cs` says that the characters `cs` write the value `json`: any blanks may stand between
the parts of a value, any of the ways to escape a character may be used in a string, and the
exponent of a number may have either mark and a plus sign. `IsTextOf` adds the blanks around a whole
text. Nothing is written for a value with a fault in it.
-/

namespace MarketDesk

namespace Json

def Blanks (cs : List Char) : Prop := ∀ c ∈ cs, isSpace c = true

/-- One digit or more. -/
def Digits (ds : List Char) : Prop := ds ≠ [] ∧ ∀ c ∈ ds, c.isDigit = true

inductive FractionWritten : List Char → List Char → Prop
  | absent : FractionWritten [] []
  | present {ds : List Char} (h : Digits ds) : FractionWritten ds ('.' :: ds)

inductive SignWritten : Bool → List Char → Prop
  | absent : SignWritten false []
  | plus : SignWritten false ['+']
  | minus : SignWritten true ['-']

inductive ExponentWritten : Option (Bool × List Char) → List Char → Prop
  | absent : ExponentWritten none []
  | present {mark : Char} {negative : Bool} {sign ds : List Char} (hmark : mark = 'e' ∨ mark = 'E')
      (hsign : SignWritten negative sign) (hds : Digits ds) :
      ExponentWritten (some (negative, ds)) (mark :: (sign ++ ds))

/-- The whole part begins with a zero only if it is one. -/
inductive NumberWritten : NumberToken → List Char → Prop
  | mk {negative : Bool} {whole fraction fractionText exponentText : List Char}
      {exponent : Option (Bool × List Char)} (hwhole : Digits whole)
      (hzero : whole.head? = some '0' → whole.length = 1)
      (hfraction : FractionWritten fraction fractionText)
      (hexponent : ExponentWritten exponent exponentText) :
      NumberWritten ⟨negative, whole, fraction, exponent⟩
        ((if negative then ['-'] else []) ++ (whole ++ (fractionText ++ exponentText)))

inductive PartWritten : StringPart → List Char → Prop
  | plain {c : Char} (hquote : c ≠ '"') (hslash : c ≠ '\\') (hcontrol : 0x20 ≤ c.toNat) :
      PartWritten (.char c) [c]
  | escaped {c e : Char} (h : escaped? c = some e) : PartWritten (.char e) ['\\', c]
  | unit {a b c d : Char} {n : Nat} (h : unit? a b c d = some n) :
      PartWritten (.unit n) ['\\', 'u', a, b, c, d]

inductive PartsWritten : List StringPart → List Char → Prop
  | nil : PartsWritten [] []
  | cons {part : StringPart} {parts : List StringPart} {cs rest : List Char}
      (h : PartWritten part cs) (hrest : PartsWritten parts rest) :
      PartsWritten (part :: parts) (cs ++ rest)

/-- A string with the quotes around it. -/
inductive StringWritten : Option String → List Char → Prop
  | mk {parts : List StringPart} {cs : List Char} (h : PartsWritten parts cs) :
      StringWritten ((joinParts [] parts).map String.ofList) ('"' :: (cs ++ ['"']))

mutual

inductive Written : Json → List Char → Prop
  | nullWord : Written .null ['n', 'u', 'l', 'l']
  | trueWord : Written (.bool true) ['t', 'r', 'u', 'e']
  | falseWord : Written (.bool false) ['f', 'a', 'l', 's', 'e']
  | number {token : NumberToken} {cs : List Char} (h : NumberWritten token cs) :
      Written (.number token) cs
  | string {text : Option String} {cs : List Char} (h : StringWritten text cs) :
      Written (.string text) cs
  | emptyArray {blanks : List Char} (h : Blanks blanks) :
      Written (.array [] true) ('[' :: (blanks ++ [']']))
  | array {items : List Json} {cs : List Char} (h : ItemsWritten items cs) :
      Written (.array items true) ('[' :: (cs ++ [']']))
  | emptyObject {blanks : List Char} (h : Blanks blanks) :
      Written (.object [] true) ('\x7b' :: (blanks ++ ['\x7d']))
  | object {members : List (Option String × Json)} {cs : List Char}
      (h : MembersWritten members cs) : Written (.object members true) ('\x7b' :: (cs ++ ['\x7d']))

/-- One item or more, with commas between them. -/
inductive ItemsWritten : List Json → List Char → Prop
  | last {item : Json} {cs : List Char} (h : ItemWritten item cs) : ItemsWritten [item] cs
  | more {item : Json} {items : List Json} {cs rest : List Char} (h : ItemWritten item cs)
      (hrest : ItemsWritten items rest) : ItemsWritten (item :: items) (cs ++ ',' :: rest)

inductive ItemWritten : Json → List Char → Prop
  | mk {item : Json} {before cs after : List Char} (hbefore : Blanks before)
      (h : Written item cs) (hafter : Blanks after) : ItemWritten item (before ++ (cs ++ after))

/-- One member or more, with commas between them. -/
inductive MembersWritten : List (Option String × Json) → List Char → Prop
  | last {member : Option String × Json} {cs : List Char} (h : MemberWritten member cs) :
      MembersWritten [member] cs
  | more {member : Option String × Json} {members : List (Option String × Json)}
      {cs rest : List Char} (h : MemberWritten member cs) (hrest : MembersWritten members rest) :
      MembersWritten (member :: members) (cs ++ ',' :: rest)

inductive MemberWritten : Option String × Json → List Char → Prop
  | mk {key : Option String} {value : Json} {before keyText behind between cs after : List Char}
      (hbefore : Blanks before) (hkey : StringWritten key keyText) (hbehind : Blanks behind)
      (hbetween : Blanks between) (h : Written value cs) (hafter : Blanks after) :
      MemberWritten (key, value)
        (before ++ (keyText ++ (behind ++ ':' :: (between ++ (cs ++ after)))))

end

/-! A value that can be written has no fault in it. -/

mutual

theorem Written.wellFormed {json : Json} {cs : List Char} :
    Written json cs → json.wellFormed = true
  | .nullWord | .trueWord | .falseWord | .number _ | .string _ | .emptyArray _
  | .emptyObject _ => rfl
  | .array h => h.wellFormed
  | .object h => h.wellFormed

theorem ItemsWritten.wellFormed {items : List Json} {cs : List Char} :
    ItemsWritten items cs → wellFormedItems items = true
  | .last h => by rw [wellFormedItems, h.wellFormed]; rfl
  | .more h hrest => by rw [wellFormedItems, h.wellFormed, hrest.wellFormed]; rfl

theorem ItemWritten.wellFormed {item : Json} {cs : List Char} :
    ItemWritten item cs → item.wellFormed = true
  | .mk _ h _ => h.wellFormed

theorem MembersWritten.wellFormed {members : List (Option String × Json)} {cs : List Char} :
    MembersWritten members cs → wellFormedMembers members = true
  | .last h => by rw [wellFormedMembers, h.wellFormed]; rfl
  | .more h hrest => by rw [wellFormedMembers, h.wellFormed, hrest.wellFormed]; rfl

theorem MemberWritten.wellFormed {member : Option String × Json} {cs : List Char} :
    MemberWritten member cs → wellFormedMember member = true
  | .mk _ _ _ _ h _ => by rw [wellFormedMember]; exact h.wellFormed

end

end Json

/-- The whole of a text writes a value, with any blanks around it. -/
def Json.IsTextOf (json : Json) (s : String) : Prop :=
  ∃ before cs after, Json.Blanks before ∧ json.Written cs ∧ Json.Blanks after ∧
    s.toList = before ++ (cs ++ after)

end MarketDesk

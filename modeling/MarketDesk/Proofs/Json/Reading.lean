import MarketDesk.Proofs.Json.Token

/-!
# Reading what is written

A text is read as a value exactly if it writes that value. The reader has enough fuel for every
text: a value takes two units for each of its characters, and the items or members of one a unit
more.
-/

namespace MarketDesk

namespace Json

/-! ### Blanks -/

theorem skipSpace_append {blanks : List Char} (h : Blanks blanks) (cs : List Char) :
    skipSpace (blanks ++ cs) = skipSpace cs :=
  List.dropWhile_append_of_pos h

theorem skipSpace_cons {c : Char} (h : isSpace c = false) (cs : List Char) :
    skipSpace (c :: cs) = c :: cs :=
  List.dropWhile_cons_of_neg (Bool.eq_false_iff.mp h)

theorem exists_blanks (cs : List Char) : ∃ blanks, Blanks blanks ∧ cs = blanks ++ skipSpace cs :=
  ⟨cs.takeWhile isSpace, fun _ hc => List.all_eq_true.mp List.all_takeWhile _ hc,
    List.takeWhile_append_dropWhile.symm⟩

theorem skipSpace_skipSpace (cs : List Char) : skipSpace (skipSpace cs) = skipSpace cs := by
  obtain ⟨blanks, hblanks, hcs⟩ := exists_blanks cs
  have happend := skipSpace_append hblanks (skipSpace cs)
  rw [← hcs] at happend
  exact happend.symm

theorem readValue_skipSpace (fuel : Nat) (cs : List Char) :
    readValue fuel (skipSpace cs) = readValue fuel cs := by
  cases fuel with
  | zero => rw [readValue, readValue]
  | succ fuel => rw [readValue, readValue, skipSpace_skipSpace]

theorem readValue_append {blanks : List Char} (h : Blanks blanks) (fuel : Nat) (cs : List Char) :
    readValue fuel (blanks ++ cs) = readValue fuel cs := by
  rw [← readValue_skipSpace, skipSpace_append h, readValue_skipSpace]

theorem readItems_skipSpace (fuel : Nat) (cs : List Char) :
    readItems fuel (skipSpace cs) = readItems fuel cs := by
  cases fuel with
  | zero => rw [readItems, readItems]
  | succ fuel => rw [readItems, readItems, readValue_skipSpace]

theorem readMembers_skipSpace (fuel : Nat) (cs : List Char) :
    readMembers fuel (skipSpace cs) = readMembers fuel cs := by
  cases fuel with
  | zero => rw [readMembers, readMembers]
  | succ fuel => rw [readMembers, readMembers, skipSpace_skipSpace]

/-! ### The first character -/

/-- The first character of a number. -/
def beginsNumber (c : Char) : Bool := c == '-' || c.isDigit

theorem NumberWritten.begins {token : NumberToken} {cs : List Char} (h : NumberWritten token cs) :
    ∃ c rest, cs = c :: rest ∧ beginsNumber c = true := by
  obtain ⟨hwhole, -, -, -⟩ := h
  next negative whole fraction fractionText exponentText exponent =>
  obtain ⟨d, ds, rfl⟩ := List.exists_cons_of_ne_nil hwhole.1
  cases negative with
  | false => exact ⟨d, _, rfl, by simp [beginsNumber, hwhole.2 d List.mem_cons_self]⟩
  | true => exact ⟨'-', _, rfl, rfl⟩

/-- A value begins with a character that is no blank and closes nothing. -/
theorem Written.begins {json : Json} {cs : List Char} (h : Written json cs) :
    ∃ c rest, cs = c :: rest ∧ isSpace c = false ∧ c ≠ ']' := by
  cases h with
  | number h =>
    obtain ⟨c, rest, rfl, hc⟩ := h.begins
    refine ⟨c, rest, rfl, ?_, ?_⟩
    · simp only [isSpace, Bool.or_eq_false_iff, beq_eq_false_iff_ne]
      refine ⟨⟨⟨?_, ?_⟩, ?_⟩, ?_⟩ <;> · rintro rfl; exact absurd hc (by decide)
    · rintro rfl
      exact absurd hc (by decide)
  | string h =>
    obtain ⟨inner, rfl, -⟩ := readString_append h
    exact ⟨'"', inner, rfl, rfl, by decide⟩
  | _ => exact ⟨_, _, rfl, rfl, by decide⟩

theorem Written.skipSpace_append {json : Json} {cs : List Char} (h : Written json cs)
    (rest : List Char) : skipSpace (cs ++ rest) = cs ++ rest := by
  obtain ⟨c, tail, rfl, hc, -⟩ := h.begins
  exact skipSpace_cons hc _

theorem readValue_number {cs rest : List Char} {c : Char} {tail : List Char} {token : NumberToken}
    (hskip : skipSpace cs = c :: tail) (hc : beginsNumber c = true)
    (hread : readNumber (c :: tail) = some (token, rest)) (fuel : Nat) :
    readValue (fuel + 1) cs = (.number token, some rest) := by
  rw [readValue, hskip]
  split
  case h_7 => rw [hread]
  all_goals
    next heq =>
      rw [(List.cons.inj heq).1] at hc
      exact absurd hc (by decide)

theorem readValue_array {cs inner : List Char} (hskip : skipSpace cs = '[' :: inner)
    (hopen : (skipSpace inner).head? ≠ some ']') (fuel : Nat) :
    readValue (fuel + 1) cs =
      (.array (readItems fuel inner).1 (readItems fuel inner).2.isSome,
        (readItems fuel inner).2) := by
  simp only [readValue, hskip]
  split
  · next heq => exact absurd (congrArg List.head? heq) hopen
  · rw [readItems_skipSpace]

theorem readValue_object {cs inner : List Char} (hskip : skipSpace cs = '\x7b' :: inner)
    (hopen : (skipSpace inner).head? ≠ some '\x7d') (fuel : Nat) :
    readValue (fuel + 1) cs =
      (.object (readMembers fuel inner).1 (readMembers fuel inner).2.isSome,
        (readMembers fuel inner).2) := by
  simp only [readValue, hskip]
  split
  · next heq => exact absurd (congrArg List.head? heq) hopen
  · rw [readMembers_skipSpace]

theorem ItemWritten.begins {item : Json} {cs : List Char} (h : ItemWritten item cs)
    (rest : List Char) : (skipSpace (cs ++ rest)).head? ≠ some ']' := by
  obtain ⟨hbefore, hwritten, -⟩ := h
  rw [List.append_assoc, Json.skipSpace_append hbefore, List.append_assoc,
    hwritten.skipSpace_append]
  obtain ⟨c, tail, rfl, -, hc⟩ := hwritten.begins
  exact fun hhead => hc (Option.some.inj hhead)

theorem ItemsWritten.begins {items : List Json} {cs : List Char} (h : ItemsWritten items cs)
    (rest : List Char) : (skipSpace (cs ++ rest)).head? ≠ some ']' := by
  cases h with
  | last h => exact h.begins rest
  | more h _ =>
    rw [List.append_assoc]
    exact h.begins _

theorem MemberWritten.begins {member : Option String × Json} {cs : List Char}
    (h : MemberWritten member cs) (rest : List Char) :
    (skipSpace (cs ++ rest)).head? = some '"' := by
  obtain ⟨hbefore, hkey, -, -, -, -⟩ := h
  obtain ⟨inner, rfl, -⟩ := readString_append hkey
  rw [List.append_assoc, Json.skipSpace_append hbefore]
  rfl

theorem MembersWritten.begins {members : List (Option String × Json)} {cs : List Char}
    (h : MembersWritten members cs) (rest : List Char) :
    (skipSpace (cs ++ rest)).head? = some '"' := by
  cases h with
  | last h => exact h.begins rest
  | more h _ =>
    rw [List.append_assoc]
    exact h.begins _

/-! ### What is written is read -/

/-- What is written is read with so much fuel. -/
structure ReadsWritten (fuel : Nat) : Prop where
  value : ∀ {json : Json} {cs : List Char}, Written json cs → 2 * cs.length ≤ fuel →
    ∀ {rest : List Char}, Ends rest → readValue fuel (cs ++ rest) = (json, some rest)
  items : ∀ {items : List Json} {cs : List Char}, ItemsWritten items cs →
    2 * cs.length + 1 ≤ fuel → ∀ rest, readItems fuel (cs ++ ']' :: rest) = (items, some rest)
  members : ∀ {members : List (Option String × Json)} {cs : List Char},
    MembersWritten members cs → 2 * cs.length + 1 ≤ fuel → ∀ rest,
      readMembers fuel (cs ++ '\x7d' :: rest) = (members, some rest)

theorem Ends.append {blanks rest : List Char} (h : Blanks blanks) (hrest : Ends rest) :
    Ends (blanks ++ rest) := by
  cases blanks with
  | nil => exact hrest
  | cons b blanks =>
    refine ends_cons ?_ _
    have hb := h b List.mem_cons_self
    simp only [isSpace, Bool.or_eq_true, beq_iff_eq] at hb
    rcases hb with ((rfl | rfl) | rfl) | rfl <;> decide

variable {fuel : Nat}

theorem ReadsWritten.item (h : ReadsWritten fuel) {item : Json} {cs : List Char}
    (hitem : ItemWritten item cs) (hfuel : 2 * cs.length ≤ fuel) {c : Char}
    (hc : continuesNumber c = false) (hspace : isSpace c = false) (rest : List Char) :
    ∃ behind, readValue fuel (cs ++ c :: rest) = (item, some behind) ∧
      skipSpace behind = c :: rest := by
  obtain ⟨hbefore, hwritten, hafter⟩ := hitem
  next before cs after =>
  simp only [List.length_append] at hfuel
  refine ⟨after ++ c :: rest, ?_, ?_⟩
  · rw [List.append_assoc, readValue_append hbefore, List.append_assoc]
    exact h.value hwritten (by omega) ((ends_cons hc rest).append hafter)
  · rw [skipSpace_append hafter, skipSpace_cons hspace]

/-- The key of a member, the colon and the value, up to what stands behind the member. -/
theorem ReadsWritten.member (h : ReadsWritten fuel) {member : Option String × Json}
    {cs : List Char} (hmember : MemberWritten member cs) (hfuel : 2 * cs.length ≤ fuel) {c : Char}
    (hc : continuesNumber c = false) (hspace : isSpace c = false) (rest : List Char) :
    ∃ keyText behindKey valueText behind, skipSpace (cs ++ c :: rest) = '"' :: keyText ∧
      readString keyText = some (member.1, behindKey) ∧ skipSpace behindKey = ':' :: valueText ∧
      readValue fuel valueText = (member.2, some behind) ∧ skipSpace behind = c :: rest := by
  obtain ⟨hbefore, hkey, hbehind, hbetween, hwritten, hafter⟩ := hmember
  next key value before keyText behind between cs after =>
  obtain ⟨inner, rfl, hread⟩ := readString_append hkey
  simp only [List.length_append, List.length_cons] at hfuel
  let valueText := between ++ (cs ++ (after ++ c :: rest))
  let behindKey := behind ++ ':' :: valueText
  refine ⟨inner ++ behindKey, behindKey, valueText, after ++ c :: rest, ?_, hread behindKey, ?_, ?_,
    ?_⟩
  · rw [List.append_assoc, skipSpace_append hbefore, List.cons_append, List.cons_append,
      skipSpace_cons rfl]
    simp only [valueText, behindKey, List.append_assoc, List.cons_append]
  · rw [skipSpace_append hbehind, skipSpace_cons rfl]
  · rw [readValue_append hbetween]
    exact h.value hwritten (by omega) ((ends_cons hc rest).append hafter)
  · rw [skipSpace_append hafter, skipSpace_cons hspace]

theorem ReadsWritten.succ_value (ih : ReadsWritten fuel) {json : Json} {cs : List Char}
    (h : Written json cs) (hfuel : 2 * cs.length ≤ fuel + 1) {rest : List Char}
    (hrest : Ends rest) : readValue (fuel + 1) (cs ++ rest) = (json, some rest) := by
  have hskip := h.skipSpace_append rest
  cases h with
  | nullWord | trueWord | falseWord => rw [readValue, hskip]; rfl
  | number h =>
    obtain ⟨c, tail, rfl, hc⟩ := h.begins
    exact readValue_number hskip hc (readNumber_append h hrest) fuel
  | string h =>
    obtain ⟨inner, rfl, hread⟩ := readString_append h
    rw [readValue, hskip]
    simp only [List.cons_append, hread]
  | @emptyArray blanks hblanks =>
    have hclose : skipSpace (blanks ++ ']' :: rest) = ']' :: rest := by
      rw [skipSpace_append hblanks, skipSpace_cons rfl]
    rw [readValue, hskip]
    simp only [List.cons_append, List.append_assoc, List.nil_append, hclose]
  | @array items cs h =>
    simp only [List.length_cons, List.length_append, List.length_nil] at hfuel
    rw [List.cons_append, List.append_assoc] at hskip ⊢
    rw [readValue_array hskip (h.begins _), List.singleton_append, ih.items h (by omega)]
    rfl
  | @emptyObject blanks hblanks =>
    have hclose : skipSpace (blanks ++ '\x7d' :: rest) = '\x7d' :: rest := by
      rw [skipSpace_append hblanks, skipSpace_cons rfl]
    rw [readValue, hskip]
    simp only [List.cons_append, List.append_assoc, List.nil_append, hclose]
  | @object members cs h =>
    simp only [List.length_cons, List.length_append, List.length_nil] at hfuel
    have hopen : (skipSpace (cs ++ ['\x7d'] ++ rest)).head? ≠ some '\x7d' := by
      rw [List.append_assoc, h.begins]
      decide
    rw [List.cons_append] at hskip ⊢
    rw [readValue_object hskip hopen, List.append_assoc, List.singleton_append,
      ih.members h (by omega)]
    rfl

theorem ReadsWritten.succ_items (ih : ReadsWritten fuel) {items : List Json} {cs : List Char}
    (h : ItemsWritten items cs) (hfuel : 2 * cs.length ≤ fuel) (rest : List Char) :
    readItems (fuel + 1) (cs ++ ']' :: rest) = (items, some rest) := by
  cases h with
  | @last item cs h =>
    obtain ⟨behind, hread, hskip⟩ := ih.item h hfuel (c := ']') rfl rfl rest
    rw [readItems, hread]
    simp only [hskip]
  | @more item items cs more h hrest =>
    simp only [List.length_append, List.length_cons] at hfuel
    obtain ⟨behind, hread, hskip⟩ := ih.item h (by omega) (c := ',') rfl rfl (more ++ ']' :: rest)
    rw [List.append_assoc, List.cons_append, readItems, hread]
    simp only [hskip, ih.items hrest (by omega)]

theorem ReadsWritten.succ_members (ih : ReadsWritten fuel)
    {members : List (Option String × Json)} {cs : List Char} (h : MembersWritten members cs)
    (hfuel : 2 * cs.length ≤ fuel) (rest : List Char) :
    readMembers (fuel + 1) (cs ++ '\x7d' :: rest) = (members, some rest) := by
  cases h with
  | @last member cs h =>
    obtain ⟨keyText, behindKey, valueText, behind, hkeyText, hkey, hcolon, hvalue, hbehind⟩ :=
      ih.member h hfuel (c := '\x7d') rfl rfl rest
    rw [readMembers, hkeyText]
    simp only [hkey, hcolon, hvalue, hbehind]
  | @more member members cs more h hrest =>
    simp only [List.length_append, List.length_cons] at hfuel
    obtain ⟨keyText, behindKey, valueText, behind, hkeyText, hkey, hcolon, hvalue, hbehind⟩ :=
      ih.member h (by omega) (c := ',') rfl rfl (more ++ '\x7d' :: rest)
    rw [List.append_assoc, List.cons_append, readMembers, hkeyText]
    simp only [hkey, hcolon, hvalue, hbehind, ih.members hrest (by omega)]

theorem readsWritten (fuel : Nat) : ReadsWritten fuel := by
  induction fuel with
  | zero =>
    refine ⟨fun h hfuel => ?_, fun _ hfuel => absurd hfuel (by omega),
      fun _ hfuel => absurd hfuel (by omega)⟩
    obtain ⟨c, rest, rfl, -⟩ := h.begins
    exact absurd hfuel (by simp)
  | succ fuel ih =>
    exact ⟨ih.succ_value, fun h hfuel => ih.succ_items h (Nat.le_of_succ_le_succ hfuel),
      fun h hfuel => ih.succ_members h (Nat.le_of_succ_le_succ hfuel)⟩

/-! ### What is read is written -/

/-- What is read with so much fuel is written there. -/
structure WritesRead (fuel : Nat) : Prop where
  value : ∀ {cs rest : List Char} {json : Json}, readValue fuel cs = (json, some rest) →
    ∃ blanks text, Blanks blanks ∧ Written json text ∧ cs = blanks ++ (text ++ rest)
  items : ∀ {cs rest : List Char} {items : List Json}, readItems fuel cs = (items, some rest) →
    ∃ text, ItemsWritten items text ∧ cs = text ++ ']' :: rest
  members : ∀ {cs rest : List Char} {members : List (Option String × Json)},
    readMembers fuel cs = (members, some rest) →
      ∃ text, MembersWritten members text ∧ cs = text ++ '\x7d' :: rest

theorem WritesRead.item (h : WritesRead fuel) {cs behind rest : List Char} {item : Json} {c : Char}
    (hread : readValue fuel cs = (item, some behind)) (hskip : skipSpace behind = c :: rest) :
    ∃ text, ItemWritten item text ∧ cs = text ++ c :: rest := by
  obtain ⟨before, text, hbefore, hwritten, rfl⟩ := h.value hread
  obtain ⟨after, hafter, hbehind⟩ := exists_blanks behind
  refine ⟨_, .mk hbefore hwritten hafter, ?_⟩
  rw [hbehind, hskip]
  simp

theorem WritesRead.member (h : WritesRead fuel) {cs keyText behindKey valueText behind rest :
    List Char} {key : Option String} {value : Json} {c : Char}
    (hkeyText : skipSpace cs = '"' :: keyText) (hkey : readString keyText = some (key, behindKey))
    (hcolon : skipSpace behindKey = ':' :: valueText)
    (hvalue : readValue fuel valueText = (value, some behind))
    (hskip : skipSpace behind = c :: rest) :
    ∃ text, MemberWritten (key, value) text ∧ cs = text ++ c :: rest := by
  obtain ⟨before, hbefore, hcs⟩ := exists_blanks cs
  obtain ⟨written, hwrittenKey, hkeyEq⟩ := stringWritten_of_readString hkey
  obtain ⟨between, text, hbetween, hwritten, rfl⟩ := h.value hvalue
  obtain ⟨behind', hbehind', hbehindKey⟩ := exists_blanks behindKey
  obtain ⟨after, hafter, hbehind⟩ := exists_blanks behind
  refine ⟨_, .mk hbefore hwrittenKey hbehind' hbetween hwritten hafter, ?_⟩
  rw [hcs, hkeyText, hkeyEq, hbehindKey, hcolon, hbehind, hskip]
  simp

theorem WritesRead.succ_value (ih : WritesRead fuel) {cs rest : List Char} {json : Json}
    (h : readValue (fuel + 1) cs = (json, some rest)) :
    ∃ text, Written json text ∧ skipSpace cs = text ++ rest := by
  rw [readValue] at h
  split at h
  · next inner heq =>
    split at h
    · next text after hread =>
      cases h
      obtain ⟨written, hwritten, hinner⟩ := stringWritten_of_readString hread
      exact ⟨written, .string hwritten, heq.trans hinner⟩
    · exact nomatch h
  · next inner heq =>
    obtain ⟨between, hbetween, hinner⟩ := exists_blanks inner
    split at h
    · next after hclose =>
      cases h
      exact ⟨_, .emptyArray hbetween, by rw [heq, hinner, hclose]; simp⟩
    · cases hitems : readItems fuel (skipSpace inner) with
      | mk items after? =>
        rw [hitems] at h
        cases h
        rw [readItems_skipSpace] at hitems
        obtain ⟨text, hwritten, rfl⟩ := ih.items hitems
        exact ⟨_, .array hwritten, by rw [heq]; simp⟩
  · next inner heq =>
    obtain ⟨between, hbetween, hinner⟩ := exists_blanks inner
    split at h
    · next after hclose =>
      cases h
      exact ⟨_, .emptyObject hbetween, by rw [heq, hinner, hclose]; simp⟩
    · cases hmembers : readMembers fuel (skipSpace inner) with
      | mk members after? =>
        rw [hmembers] at h
        cases h
        rw [readMembers_skipSpace] at hmembers
        obtain ⟨text, hwritten, rfl⟩ := ih.members hmembers
        exact ⟨_, .object hwritten, by rw [heq]; simp⟩
  · next inner heq =>
    cases h
    exact ⟨_, .nullWord, heq⟩
  · next inner heq =>
    cases h
    exact ⟨_, .trueWord, heq⟩
  · next inner heq =>
    cases h
    exact ⟨_, .falseWord, heq⟩
  · split at h
    · next token after hread =>
      cases h
      obtain ⟨text, hwritten, htext⟩ := numberWritten_of_readNumber hread
      exact ⟨text, .number hwritten, htext⟩
    · exact nomatch h

theorem WritesRead.succ_items (ih : WritesRead fuel) {cs rest : List Char} {items : List Json}
    (h : readItems (fuel + 1) cs = (items, some rest)) :
    ∃ text, ItemsWritten items text ∧ cs = text ++ ']' :: rest := by
  rw [readItems] at h
  split at h
  · exact nomatch h
  · next item behind hvalue =>
    split at h
    · next after hclose =>
      cases h
      obtain ⟨text, hwritten, rfl⟩ := ih.item hvalue hclose
      exact ⟨text, .last hwritten, rfl⟩
    · next after hcomma =>
      obtain ⟨text, hwritten, rfl⟩ := ih.item hvalue hcomma
      cases hitems : readItems fuel after with
      | mk more after? =>
        rw [hitems] at h
        cases h
        obtain ⟨moreText, hmore, rfl⟩ := ih.items hitems
        exact ⟨_, .more hwritten hmore, by simp⟩
    · exact nomatch h

theorem WritesRead.succ_members (ih : WritesRead fuel) {cs rest : List Char}
    {members : List (Option String × Json)}
    (h : readMembers (fuel + 1) cs = (members, some rest)) :
    ∃ text, MembersWritten members text ∧ cs = text ++ '\x7d' :: rest := by
  rw [readMembers] at h
  split at h
  · next keyText hkeyText =>
    split at h
    · exact nomatch h
    · next key behindKey hkey =>
      split at h
      · next valueText hcolon =>
        split at h
        · exact nomatch h
        · next value behind hvalue =>
          split at h
          · next after hclose =>
            cases h
            obtain ⟨text, hwritten, rfl⟩ := ih.member hkeyText hkey hcolon hvalue hclose
            exact ⟨text, .last hwritten, rfl⟩
          · next after hcomma =>
            obtain ⟨text, hwritten, rfl⟩ := ih.member hkeyText hkey hcolon hvalue hcomma
            cases hmembers : readMembers fuel after with
            | mk more after? =>
              rw [hmembers] at h
              cases h
              obtain ⟨moreText, hmore, rfl⟩ := ih.members hmembers
              exact ⟨_, .more hwritten hmore, by simp⟩
          · exact nomatch h
      · exact nomatch h
  · exact nomatch h

theorem writesRead (fuel : Nat) : WritesRead fuel := by
  induction fuel with
  | zero => exact ⟨nofun, nofun, nofun⟩
  | succ fuel ih =>
    refine ⟨fun {cs rest json} h => ?_, ih.succ_items, ih.succ_members⟩
    obtain ⟨blanks, hblanks, hcs⟩ := exists_blanks cs
    obtain ⟨text, hwritten, htext⟩ := ih.succ_value h
    exact ⟨blanks, text, hblanks, hwritten, htext ▸ hcs⟩

end Json

/-- A text is read to its end just as the value that it writes. -/
theorem Document.ofText_eq_iff {s : String} {json : Json} :
    ofText s = ⟨json, true⟩ ↔ json.IsTextOf s := by
  constructor
  · intro h
    rw [ofText, ofChars] at h
    split at h
    · exact nomatch h
    · next root rest hread =>
      rw [Document.mk.injEq, List.isEmpty_iff] at h
      obtain ⟨rfl, hrest⟩ := h
      obtain ⟨before, text, hbefore, hwritten, hs⟩ := (Json.writesRead _).value hread
      obtain ⟨after, hafter, hafterRest⟩ := Json.exists_blanks rest
      rw [hrest, List.append_nil] at hafterRest
      exact ⟨before, text, rest, hbefore, hwritten, hafterRest ▸ hafter, hs⟩
  · rintro ⟨before, text, after, hbefore, hwritten, hafter, hs⟩
    have hends : Json.Ends after := by
      have happend := Json.ends_nil.append hafter
      rwa [List.append_nil] at happend
    have hread : Json.readValue (2 * s.toList.length + 2) s.toList = (json, some after) := by
      rw [hs, Json.readValue_append hbefore]
      exact (Json.readsWritten _).value hwritten (by simp only [List.length_append]; omega) hends
    have hclosed : Json.skipSpace after = [] := by
      have happend := Json.skipSpace_append hafter []
      rwa [List.append_nil] at happend
    rw [ofText, ofChars, hread]
    simp only [hclosed, List.isEmpty_nil]

/-- A text writes one value at most. -/
theorem Json.IsTextOf.unique {s : String} {json json' : Json} (h : json.IsTextOf s)
    (h' : json'.IsTextOf s) : json = json' := by
  have hread := Document.ofText_eq_iff.mpr h
  rw [Document.ofText_eq_iff.mpr h'] at hread
  exact (Document.mk.inj hread).1.symm

end MarketDesk

import MarketDesk.Json.Decode
import Mathlib.Data.List.Forall2

/-!
# What decoders read

A decoder reads a text if it reads the value in it and nothing follows. An integer is read from a
number without a fraction and without an exponent, which may be negative if it is not zero. A list
is read item by item.
-/

namespace MarketDesk

theorem Except.bind_eq_ok_iff {ε α β : Type} {x : Except ε α} {f : α → Except ε β} {b : β} :
    (x >>= f) = .ok b ↔ ∃ a, x = .ok a ∧ f a = .ok b := by
  cases x with
  | error e => simp [bind, Except.bind]
  | ok a => simp [bind, Except.bind]

/-- A function that may fail is applied to all items of a list or to none. -/
theorem Except.mapM_eq_ok_iff {ε α β : Type} {f : α → Except ε β} {as : List α} {bs : List β} :
    as.mapM f = .ok bs ↔ List.Forall₂ (fun a b => f a = .ok b) as bs := by
  induction as generalizing bs with
  | nil =>
    rw [List.mapM_nil, List.forall₂_nil_left_iff]
    exact ⟨fun h => (Except.ok.inj h).symm, fun h => h ▸ rfl⟩
  | cons a as ih =>
    simp only [List.mapM_cons, Except.bind_eq_ok_iff, ih, List.forall₂_cons_left_iff]
    constructor
    · rintro ⟨b, hb, bs', hbs, h⟩
      exact ⟨b, bs', hb, hbs, (Except.ok.inj h).symm⟩
    · rintro ⟨b, bs', hb, hbs, rfl⟩
      exact ⟨b, hb, bs', hbs, rfl⟩

/-- A function that fails somewhere in a list gives the error of the first place. -/
theorem Except.mapM_eq_error_iff {ε α β : Type} {f : α → Except ε β} {as : List α} {e : ε} :
    as.mapM f = .error e ↔ ∃ a, as.find? (fun a => !(f a).isOk) = some a ∧ f a = .error e := by
  induction as with
  | nil =>
    rw [List.mapM_nil]
    exact iff_of_false nofun nofun
  | cons a as ih =>
    rw [List.mapM_cons, List.find?_cons]
    cases ha : f a with
    | error e' =>
      constructor
      · intro h
        exact ⟨a, rfl, ha.trans (congrArg Except.error (Except.error.inj h))⟩
      · rintro ⟨a', hfirst, ha'⟩
        rw [← Option.some.inj hfirst, ha] at ha'
        exact congrArg Except.error (Except.error.inj ha')
    | ok b =>
      refine Iff.trans ?_ ih
      cases as.mapM f with
      | error e' => rfl
      | ok bs => exact iff_of_false nofun nofun

theorem Decoder.run_eq_ok_iff {α : Type} {decode : Decoder α} {s : String} {value : α} :
    decode.run s = .ok value ↔
      decode (Document.ofText s).root = .ok value ∧ (Document.ofText s).complete = true := by
  simp only [run, Except.bind_eq_ok_iff]
  cases (Document.ofText s).complete with
  | false => simp [throw, throwThe, MonadExceptOf.throw]
  | true => simp [pure, Except.pure]

namespace Json

/-- A number that is an integer, written as one. -/
inductive Denotes : Json → Int → Prop
  | natural (whole : List Char) :
      Denotes (.number ⟨false, whole, [], none⟩) (Nat.ofDigitChars 10 whole 0)
  | negative (whole : List Char) (h : Nat.ofDigitChars 10 whole 0 ≠ 0) :
      Denotes (.number ⟨true, whole, [], none⟩) (-Nat.ofDigitChars 10 whole 0)

namespace Decode

variable {α : Type} {json : Json}

theorem refuse_ne_ok (json : Json) (value : α) : refuse json ≠ .ok value := by
  unfold refuse
  split <;> exact nofun

theorem text_eq_ok_iff {s : String} : text json = .ok s ↔ json = .string (some s) := by
  unfold text
  split
  · simp
  · next hne =>
    exact iff_of_false (refuse_ne_ok _ _) (hne s)

theorem integer_eq_ok_iff {n : Int} : integer json = .ok n ↔ json.Denotes n := by
  constructor
  · intro h
    unfold integer at h
    split at h
    · next negative whole =>
      cases negative with
      | false => exact Except.ok.inj h ▸ .natural whole
      | true =>
        by_cases hzero : Nat.ofDigitChars 10 whole 0 = 0
        · simp [hzero] at h
        · simp only [if_true, if_neg hzero, Except.ok.injEq] at h
          exact h ▸ .negative whole hzero
    · exact absurd h (refuse_ne_ok _ _)
  · rintro (whole | ⟨whole, hzero⟩)
    · rfl
    · simp [integer, hzero]

theorem integerIn_eq_ok_iff {least greatest n : Int} :
    integerIn least greatest json = .ok n ↔ json.Denotes n ∧ least ≤ n ∧ n ≤ greatest := by
  simp only [integerIn, Except.bind_eq_ok_iff, integer_eq_ok_iff]
  constructor
  · rintro ⟨m, hm, h⟩
    by_cases hin : least ≤ m ∧ m ≤ greatest
    · rw [if_pos hin] at h
      exact Except.ok.inj h ▸ ⟨hm, hin⟩
    · rw [if_neg hin] at h
      exact nomatch h
  · rintro ⟨hn, hin⟩
    exact ⟨n, hn, if_pos hin⟩

theorem int32_eq_ok_iff {n : Int32} : int32 json = .ok n ↔ json.Denotes n.toInt := by
  simp only [int32, Except.bind_eq_ok_iff, integerIn_eq_ok_iff]
  constructor
  · rintro ⟨m, ⟨hm, hleast, hgreatest⟩, h⟩
    have hn : Int32.ofInt m = n := Except.ok.inj h
    rw [← hn, Int32.toInt_ofInt_of_le hleast (Int.lt_add_one_of_le hgreatest)]
    exact hm
  · intro h
    exact ⟨n.toInt, ⟨h, n.minValue_le_toInt, n.toInt_le⟩, congrArg Except.ok (Int32.ofInt_toInt n)⟩

theorem int64_eq_ok_iff {n : Int64} : int64 json = .ok n ↔ json.Denotes n.toInt := by
  simp only [int64, Except.bind_eq_ok_iff, integerIn_eq_ok_iff]
  constructor
  · rintro ⟨m, ⟨hm, hleast, hgreatest⟩, h⟩
    have hn : Int64.ofInt m = n := Except.ok.inj h
    rw [← hn, Int64.toInt_ofInt_of_le hleast (Int.lt_add_one_of_le hgreatest)]
    exact hm
  · intro h
    exact ⟨n.toInt, ⟨h, n.minValue_le_toInt, n.toInt_le⟩, congrArg Except.ok (Int64.ofInt_toInt n)⟩

theorem uint32_eq_ok_iff {n : UInt32} : uint32 json = .ok n ↔ json.Denotes n.toNat := by
  simp only [uint32, Except.bind_eq_ok_iff, integerIn_eq_ok_iff]
  constructor
  · rintro ⟨m, ⟨hm, hleast, hgreatest⟩, h⟩
    have hn : UInt32.ofNat m.toNat = n := Except.ok.inj h
    rw [← hn, UInt32.toNat_ofNat_of_lt' (by omega), Int.toNat_of_nonneg hleast]
    exact hm
  · intro h
    have hbound := n.toNat_lt
    exact ⟨n.toNat, ⟨h, by omega, by simp only [UInt32.size]; omega⟩,
      congrArg Except.ok (UInt32.ofNat_toNat)⟩

theorem uint64_eq_ok_iff {n : UInt64} : uint64 json = .ok n ↔ json.Denotes n.toNat := by
  simp only [uint64, Except.bind_eq_ok_iff, integerIn_eq_ok_iff]
  constructor
  · rintro ⟨m, ⟨hm, hleast, hgreatest⟩, h⟩
    have hn : UInt64.ofNat m.toNat = n := Except.ok.inj h
    rw [← hn, UInt64.toNat_ofNat_of_lt' (by omega), Int.toNat_of_nonneg hleast]
    exact hm
  · intro h
    have hbound := n.toNat_lt
    exact ⟨n.toNat, ⟨h, by omega, by simp only [UInt64.size]; omega⟩,
      congrArg Except.ok (UInt64.ofNat_toNat)⟩

theorem decimal_eq_ok_iff {d : Decimal} :
    decimal json = .ok d ↔ ∃ s, json = .string (some s) ∧ Decimal.parse s = .ok d := by
  simp only [decimal, Except.bind_eq_ok_iff, text_eq_ok_iff]
  refine exists_congr fun s => and_congr_right fun _ => ?_
  cases Decimal.parse s with
  | ok d' => simp [pure, Except.pure]
  | error e => simp [throw, throwThe, MonadExceptOf.throw]

theorem list_eq_ok_iff {decode : Decoder α} {values : List α} :
    list decode json = .ok values ↔ ∃ items, json = .array items true ∧
      List.Forall₂ (fun item value => decode item = .ok value) items values := by
  cases json with
  | array items closed =>
    cases closed <;> simp [list, Except.bind_eq_ok_iff, Except.mapM_eq_ok_iff, throw, throwThe,
      MonadExceptOf.throw, pure, Except.pure]
  | _ => simp [list, refuse_ne_ok]

end Decode

end Json

end MarketDesk

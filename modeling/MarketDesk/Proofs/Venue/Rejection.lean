import MarketDesk.Proofs.Json.Record
import MarketDesk.Venue.Error

/-!
# Texts that are rejections

A rejection is an object with one code and with one text under one of its two names, or an array of
a code and a text. Other members of the object count for nothing, but they must be read.
-/

namespace MarketDesk

open Json

namespace Rejection

/-- A rejection as the members of an object. -/
structure Members (r : Rejection) (members : List Member) : Prop where
  code : ∃ json, valuesUnder ["code"] members = [json] ∧ json.Denotes r.code.toInt
  text : valuesUnder ["msg", "message"] members = [.string (some r.text)]
  others : ∀ member ∈ members, ∃ key, member.1 = some key ∧
    (key ∉ ["code", "msg", "message"] → member.2.wellFormed = true)

/-- A rejection as a value. -/
inductive WrittenAs (r : Rejection) : Json → Prop
  | object {members : List Member} (h : r.Members members) : r.WrittenAs (.object members true)
  | array {code : Json} (h : code.Denotes r.code.toInt) :
      r.WrittenAs (.array [code, .string (some r.text)] true)

/-- The whole of a text is a rejection. -/
def IsIn (r : Rejection) (body : String) : Prop :=
  r.WrittenAs (Document.ofText body).root ∧ (Document.ofText body).complete = true

def codeField : Json.Field Int32 := .required "code" Decode.int32

def textField : Json.Field String := ⟨"msg", some "message", Decode.text, none, none⟩

def row (r : Rejection) : Row [Int32, String] :=
  Fields.rowCons r.code (Fields.rowCons r.text Fields.rowNil)

theorem decode_eq_ok_iff_row (r : Rejection) (json : Json) :
    decode json = .ok r ↔ fields.decode json = .ok r.row := by
  rw [decode, Except.bind_eq_ok_iff]
  constructor
  · rintro ⟨row, hrow, hr⟩
    exact Except.ok.inj hr ▸ hrow
  · exact fun h => ⟨r.row, h, rfl⟩

/-- What neither field takes is read all the same. -/
theorem leaves_iff (members : List Member) :
    (∀ member ∈ textField.leavesOf (codeField.leavesOf members),
        (∃ key, member.1 = some key) ∧ member.2.wellFormed = true) ↔
      ∀ member ∈ members, ∃ key, member.1 = some key ∧
        (key ∉ ["code", "msg", "message"] → member.2.wellFormed = true) := by
  have hnames (key : String) : key ∉ ["code", "msg", "message"] ↔
      key ∉ codeField.names ∧ key ∉ textField.names := by
    rw [← not_or, ← List.mem_append]
    rfl
  simp only [Field.mem_leavesOf, Field.takes_eq_false_iff, hnames]
  constructor
  · rintro h ⟨key?, value⟩ hmem
    cases key? with
    | none => exact absurd (h _ ⟨⟨hmem, nofun⟩, nofun⟩).1 nofun
    | some key =>
      refine ⟨key, rfl, fun ⟨hcode, htext⟩ => (h _ ⟨⟨hmem, ?_⟩, ?_⟩).2⟩
      · exact fun _ hkey => Option.some.inj hkey ▸ hcode
      · exact fun _ hkey => Option.some.inj hkey ▸ htext
  · rintro h member ⟨⟨hmem, hcode⟩, htext⟩
    obtain ⟨key, hkey, hvalue⟩ := h member hmem
    exact ⟨⟨key, hkey⟩, hvalue ⟨hcode key hkey, htext key hkey⟩⟩

theorem reads_fields_iff (r : Rejection) (members : List Member) :
    Fields.Reads _ fields (.vacant _) members r.row ↔ r.Members members := by
  have hfields : fields = Fields.cons codeField (Fields.cons textField Fields.nil) := rfl
  have hvacant : Slots.vacant [Int32, String] =
    Fields.slotsCons none (Fields.slotsCons none Fields.slotsNil) := rfl
  have hdisjoint : ∀ key ∈ textField.names, key ∉ codeField.names := by decide
  have hcode : (∃ json, valuesUnder codeField.names members = [json] ∧
        codeField.decode json = .ok r.code) ↔
      ∃ json, valuesUnder ["code"] members = [json] ∧ json.Denotes r.code.toInt :=
    exists_congr fun json => and_congr_right' Decode.int32_eq_ok_iff
  have htext : (∃ json, valuesUnder textField.names members = [json] ∧
        textField.decode json = .ok r.text) ↔
      valuesUnder ["msg", "message"] members = [.string (some r.text)] := by
    simp only [textField, Decode.text_eq_ok_iff]
    exact exists_eq_right
  rw [hfields, row, hvacant, Fields.reads_cons_iff, Fields.reads_cons_iff, Fields.reads_nil_iff,
    Field.exists_fills_iff_of_required rfl, Field.exists_fills_iff_of_required rfl,
    Field.valuesIn_leavesOf _ _ hdisjoint, Field.valuesIn_eq_valuesUnder,
    Field.valuesIn_eq_valuesUnder, hcode, htext, leaves_iff]
  exact ⟨fun ⟨hcode, htext, hothers⟩ => ⟨hcode, htext, hothers⟩,
    fun ⟨hcode, htext, hothers⟩ => ⟨hcode, htext, hothers⟩⟩

theorem ofItems_fields_iff (r : Rejection) (items : List Json) :
    Fields.ofItems _ fields items = .ok r.row ↔
      ∃ code : Json, code.Denotes r.code.toInt ∧ items = [code, .string (some r.text)] := by
  have hfields : fields = Fields.cons codeField (Fields.cons textField Fields.nil) := rfl
  have hcode (json : Json) : codeField.decode json = .ok r.code ↔ json.Denotes r.code.toInt :=
    Decode.int32_eq_ok_iff
  have htext (json : Json) : textField.decode json = .ok r.text ↔ json = .string (some r.text) :=
    Decode.text_eq_ok_iff
  rw [hfields, row, Fields.ofItems_cons_eq_ok_iff _ _ rfl]
  simp only [Fields.ofItems_cons_eq_ok_iff textField Fields.nil rfl, Fields.ofItems_nil_eq_ok_iff,
    hcode, htext]
  constructor
  · rintro ⟨code, _, rfl, h, _, _, rfl, rfl, rfl⟩
    exact ⟨code, h, rfl⟩
  · rintro ⟨code, h, rfl⟩
    exact ⟨code, _, rfl, h, _, _, rfl, rfl, rfl⟩

theorem decode_eq_ok_iff (r : Rejection) (json : Json) :
    decode json = .ok r ↔ r.WrittenAs json := by
  rw [decode_eq_ok_iff_row, Fields.decode_eq_ok_iff]
  simp only [reads_fields_iff, ofItems_fields_iff]
  constructor
  · rintro (⟨members, rfl, h⟩ | ⟨items, rfl, code, h, rfl⟩)
    · exact .object h
    · exact .array h
  · rintro (h | h)
    · exact Or.inl ⟨_, rfl, h⟩
    · exact Or.inr ⟨_, rfl, _, h, rfl⟩

theorem run_decode_eq_ok_iff (r : Rejection) (body : String) :
    decode.run body = .ok r ↔ r.IsIn body := by
  rw [Decoder.run_eq_ok_iff, decode_eq_ok_iff, IsIn]

end Rejection

end MarketDesk

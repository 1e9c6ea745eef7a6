import MarketDesk.Json.Record
import MarketDesk.Proofs.Json.Decode

/-!
# What a record is read from

A record is read from an object field by field: the members that answer to a field are at most one,
whose value the field decodes, and the other fields are read from the members that are left. Members
that no field claims need a key that is a text and a value without faults. From an array a record is
read item by item.
-/

namespace MarketDesk

namespace Json

abbrev Member := Option String × Json

/-- The values that stand in an object under some names. -/
def valuesUnder (names : List String) (members : List Member) : List Json :=
  (members.filter fun member => member.1.any names.contains).map Prod.snd

namespace Field

variable {α : Type}

def names (f : Field α) : List String := f.name :: f.alternative.toList

theorem answersTo_eq_true_iff {f : Field α} {key : String} :
    f.answersTo key = true ↔ key ∈ f.names := by
  rw [answersTo, Bool.or_eq_true, beq_iff_eq, beq_iff_eq, names, List.mem_cons,
    Option.mem_toList]
  exact or_congr_left eq_comm

def takes (f : Field α) (member : Member) : Bool := member.1.any f.answersTo

theorem takes_eq_false_iff {f : Field α} {member : Member} :
    f.takes member = false ↔ ∀ key, member.1 = some key → key ∉ f.names := by
  rw [takes, Option.any_eq_false]
  exact forall₂_congr fun key _ => Bool.eq_false_iff.trans (not_congr answersTo_eq_true_iff)

def valuesIn (f : Field α) (members : List Member) : List Json :=
  (members.filter f.takes).map Prod.snd

theorem valuesIn_eq_valuesUnder (f : Field α) (members : List Member) :
    f.valuesIn members = valuesUnder f.names members := by
  have hnames : f.answersTo = f.names.contains := funext fun key =>
    Bool.eq_iff_iff.mpr (answersTo_eq_true_iff.trans List.contains_iff_mem.symm)
  rw [valuesUnder, ← hnames]
  rfl

def leavesOf (f : Field α) (members : List Member) : List Member :=
  members.filter fun member => !f.takes member

/-- What the values under its names make of a field's slot. -/
inductive Fills (f : Field α) : List Json → Option α → Option α → Prop
  | none (slot : Option α) : f.Fills [] slot slot
  | one {value : Json} {v : α} (h : f.decode value = .ok v) : f.Fills [value] none (some v)

theorem fills_cons_iff {f : Field α} {value : Json} {values : List Json} {slot slot' : Option α} :
    f.Fills (value :: values) slot slot' ↔
      slot = none ∧ ∃ v, f.decode value = .ok v ∧ f.Fills values (some v) slot' := by
  constructor
  · intro h
    cases h with
    | one h => exact ⟨rfl, _, h, .none _⟩
  · rintro ⟨rfl, v, hv, h⟩
    cases h with
    | none => exact .one hv

/-- A field that nothing stands in for has one value. -/
theorem exists_fills_iff_of_required {f : Field α} (h : f.absent = none) {values : List Json}
    {v : α} : (∃ slot, f.Fills values none slot ∧ (slot <|> f.absent) = some v) ↔
      ∃ value, values = [value] ∧ f.decode value = .ok v := by
  constructor
  · rintro ⟨slot, hfills, hslot⟩
    cases hfills with
    | none => exact nomatch h.symm.trans hslot
    | one hv => exact ⟨_, rfl, Option.some.inj hslot ▸ hv⟩
  · rintro ⟨value, rfl, hv⟩
    exact ⟨some v, .one hv, rfl⟩

theorem mem_leavesOf {f : Field α} {members : List Member} {member : Member} :
    member ∈ f.leavesOf members ↔ member ∈ members ∧ f.takes member = false := by
  rw [leavesOf, List.mem_filter, Bool.not_eq_true']

/-- A field that shares no name with another finds its values among what the other leaves. -/
theorem valuesIn_leavesOf {β : Type} (f : Field α) (g : Field β)
    (h : ∀ key ∈ g.names, key ∉ f.names) (members : List Member) :
    g.valuesIn (f.leavesOf members) = g.valuesIn members := by
  have htakes (member : Member) (hg : g.takes member = true) : f.takes member = false := by
    obtain ⟨key, hkey, hanswers⟩ := (Option.any_eq_true ..).mp hg
    refine takes_eq_false_iff.mpr fun key' hkey' => ?_
    obtain rfl : key = key' := Option.some.inj (hkey.symm.trans hkey')
    exact h key (answersTo_eq_true_iff.mp hanswers)
  rw [valuesIn, valuesIn, leavesOf, List.filter_filter]
  congr 1
  refine List.filter_congr fun member _ => ?_
  cases hg : g.takes member with
  | false => rfl
  | true => rw [htakes member hg]; rfl

theorem valuesIn_cons_of_takes {f : Field α} {member : Member} (h : f.takes member = true)
    (members : List Member) : f.valuesIn (member :: members) = member.2 :: f.valuesIn members := by
  rw [valuesIn, List.filter_cons_of_pos h]
  rfl

theorem valuesIn_cons_of_not {f : Field α} {member : Member} (h : f.takes member = false)
    (members : List Member) : f.valuesIn (member :: members) = f.valuesIn members := by
  rw [valuesIn, List.filter_cons_of_neg (Bool.eq_false_iff.mp h)]
  rfl

theorem leavesOf_cons_of_takes {f : Field α} {member : Member} (h : f.takes member = true)
    (members : List Member) : f.leavesOf (member :: members) = f.leavesOf members := by
  simp [leavesOf, h]

theorem leavesOf_cons_of_not {f : Field α} {member : Member} (h : f.takes member = false)
    (members : List Member) : f.leavesOf (member :: members) = member :: f.leavesOf members := by
  simp [leavesOf, h]

end Field

namespace Fields

section Constructors

/-! Fields, slots and rows are tuples; here they are put together with their types. -/

variable {α : Type} {αs : List Type}

def nil : Fields [] := ()

def cons (field : Field α) (fields : Fields αs) : Fields (α :: αs) := (field, fields)

def slotsNil : Slots [] := ()

def slotsCons (slot : Option α) (slots : Slots αs) : Slots (α :: αs) := (slot, slots)

def rowNil : Row [] := ()

def rowCons (v : α) (row : Row αs) : Row (α :: αs) := (v, row)

end Constructors

theorem absorb_nil_eq_ok_iff (fields : Fields []) (slots slots' : Slots [])
    (members : List Member) :
    absorb [] fields slots members = .ok slots' ↔
      ∀ member ∈ members, (∃ key, member.1 = some key) ∧ member.2.wellFormed = true := by
  induction members with
  | nil => exact iff_of_true rfl fun _ h => nomatch h
  | cons member rest ih =>
    obtain ⟨key?, value⟩ := member
    rw [List.forall_mem_cons]
    cases key? with
    | none => simp [absorb]
    | some key =>
      cases hvalue : value.wellFormed with
      | false => simp [absorb, offer, hvalue]
      | true => simpa [absorb, offer, hvalue] using ih

variable {α : Type} {αs : List Type}

theorem slotsCons_eq_iff {slot slot' : Option α} {slots slots' : Slots αs} :
    slotsCons slot slots = slotsCons slot' slots' ↔ slot = slot' ∧ slots = slots' :=
  ⟨fun h => Prod.mk.inj h, fun ⟨hslot, hslots⟩ => hslot ▸ hslots ▸ rfl⟩

theorem absorb_some (fields : Fields αs) (slots : Slots αs) (key : String) (value : Json)
    (members : List Member) :
    absorb αs fields slots ((some key, value) :: members) =
      match offer αs fields slots key value with
      | .error e => .error e
      | .ok slots => absorb αs fields slots members := rfl

variable (field : Field α) (fields : Fields αs)

theorem offer_of_takes {key : String} {value : Json} (h : field.takes (some key, value) = true)
    (slot : Option α) (slots : Slots αs) :
    offer (α :: αs) (cons field fields) (slotsCons slot slots) key value =
      match slot with
      | some _ => .error (.duplicateField field.name)
      | none => (field.decode value).map fun v => slotsCons (some v) slots :=
  if_pos h

theorem offer_of_not {key : String} {value : Json} (h : field.takes (some key, value) = false)
    (slot : Option α) (slots : Slots αs) :
    offer (α :: αs) (cons field fields) (slotsCons slot slots) key value =
      (offer αs fields slots key value).map (slotsCons slot) :=
  if_neg (Bool.eq_false_iff.mp h)

/-- The first field of a record has the members that answer to it, and the others the rest. -/
theorem absorb_cons_eq_ok_iff (members : List Member) {slot slot' : Option α}
    {slots slots' : Slots αs} :
    absorb (α :: αs) (cons field fields) (slotsCons slot slots) members =
        .ok (slotsCons slot' slots') ↔
      field.Fills (field.valuesIn members) slot slot' ∧
        absorb αs fields slots (field.leavesOf members) = .ok slots' := by
  induction members generalizing slot slots with
  | nil =>
    have hfills : field.Fills [] slot slot' ↔ slot = slot' := by
      refine ⟨fun h => ?_, fun h => h ▸ .none slot⟩
      cases h
      rfl
    simp only [absorb, Except.ok.injEq, slotsCons_eq_iff, Field.valuesIn, Field.leavesOf,
      List.filter_nil, List.map_nil, hfills]
  | cons member rest ih =>
    obtain ⟨key?, value⟩ := member
    cases key? with
    | none =>
      have hnot : field.takes (none, value) = false := rfl
      rw [Field.valuesIn_cons_of_not hnot, Field.leavesOf_cons_of_not hnot]
      simp [absorb]
    | some key =>
      rw [absorb_some]
      cases htakes : field.takes (some key, value) with
      | true =>
        rw [Field.valuesIn_cons_of_takes htakes, Field.leavesOf_cons_of_takes htakes,
          offer_of_takes field fields htakes, Field.fills_cons_iff]
        cases slot with
        | some v => simp
        | none =>
          cases hv : field.decode value with
          | error e => simp [Except.map]
          | ok v => simpa [Except.map, hv] using ih
      | false =>
        rw [Field.valuesIn_cons_of_not htakes, Field.leavesOf_cons_of_not htakes,
          offer_of_not field fields htakes, absorb_some]
        cases offer αs fields slots key value with
        | error e => simp [Except.map]
        | ok slots => exact ih

/-- The names that some fields answer to. -/
def names : (αs : List Type) → Fields αs → List String
  | [], _ => []
  | _ :: αs, (field, fields) => field.names ++ names αs fields

/-- What some fields make of the members of an object, given what they hold already. -/
def Reads (αs : List Type) (fields : Fields αs) (slots : Slots αs) (members : List Member)
    (row : Row αs) : Prop :=
  ∃ slots', absorb αs fields slots members = .ok slots' ∧ finish αs fields slots' = .ok row

theorem reads_nil_iff (fields : Fields []) (slots : Slots []) (members : List Member)
    (row : Row []) :
    Reads [] fields slots members row ↔
      ∀ member ∈ members, (∃ key, member.1 = some key) ∧ member.2.wellFormed = true := by
  rw [← absorb_nil_eq_ok_iff fields slots slots]
  exact ⟨fun ⟨_, h, _⟩ => h, fun h => ⟨slots, h, rfl⟩⟩

theorem map_rowCons_eq_ok_iff {v v' : α} {x : Except DecodeError (Row αs)} {row : Row αs} :
    x.map (rowCons v) = .ok (rowCons v' row) ↔ v = v' ∧ x = .ok row := by
  have hcons (row' : Row αs) : rowCons v row' = rowCons v' row ↔ v = v' ∧ row' = row :=
    ⟨fun h => Prod.mk.inj h, fun ⟨hv, hrow⟩ => hv ▸ hrow ▸ rfl⟩
  cases x with
  | error e => simp [Except.map]
  | ok row' => simp only [Except.map, Except.ok.injEq, hcons]

theorem finish_cons (slot : Option α) (slots : Slots αs) :
    finish (α :: αs) (cons field fields) (slotsCons slot slots) =
      match slot <|> field.absent with
      | none => .error (.missingField field.name)
      | some value => (finish αs fields slots).map (rowCons value) := rfl

theorem finish_cons_eq_ok_iff (slot : Option α) (slots : Slots αs) (v : α) (row : Row αs) :
    finish (α :: αs) (cons field fields) (slotsCons slot slots) = .ok (rowCons v row) ↔
      (slot <|> field.absent) = some v ∧ finish αs fields slots = .ok row := by
  rw [finish_cons]
  cases (slot <|> field.absent) with
  | none => simp
  | some value => simp only [map_rowCons_eq_ok_iff, Option.some.injEq]

theorem reads_cons_iff (slots : Slots αs) (members : List Member) (v : α) (row : Row αs) :
    Reads (α :: αs) (cons field fields) (slotsCons none slots) members (rowCons v row) ↔
      (∃ slot, field.Fills (field.valuesIn members) none slot ∧
        (slot <|> field.absent) = some v) ∧
        Reads αs fields slots (field.leavesOf members) row := by
  constructor
  · rintro ⟨⟨slot, slots'⟩, habsorb, hfinish⟩
    obtain ⟨hfills, hrest⟩ := (absorb_cons_eq_ok_iff field fields members).mp habsorb
    obtain ⟨hv, hrow⟩ := (finish_cons_eq_ok_iff field fields slot slots' v row).mp hfinish
    exact ⟨⟨slot, hfills, hv⟩, slots', hrest, hrow⟩
  · rintro ⟨⟨slot, hfills, hv⟩, slots', hrest, hrow⟩
    exact ⟨slotsCons slot slots', (absorb_cons_eq_ok_iff field fields members).mpr ⟨hfills, hrest⟩,
      (finish_cons_eq_ok_iff field fields slot slots' v row).mpr ⟨hv, hrow⟩⟩

theorem ofItems_nil_eq_ok_iff (fields : Fields []) (items : List Json) (row : Row []) :
    ofItems [] fields items = .ok row ↔ items = [] := by
  cases items with
  | nil => exact iff_of_true rfl rfl
  | cons item items => exact iff_of_false nofun nofun

theorem ofItems_cons_nil :
    ofItems (α :: αs) (cons field fields) [] =
      match field.beyond with
      | none => .error .mismatch
      | some value => (ofItems αs fields []).map (rowCons value) := rfl

theorem ofItems_cons_cons (item : Json) (items : List Json) :
    ofItems (α :: αs) (cons field fields) (item :: items) =
      match field.decode item with
      | .error e => .error e
      | .ok value => (ofItems αs fields items).map (rowCons value) := rfl

theorem ofItems_cons_cons_eq_ok_iff (item : Json) (items : List Json) (v : α) (row : Row αs) :
    ofItems (α :: αs) (cons field fields) (item :: items) = .ok (rowCons v row) ↔
      field.decode item = .ok v ∧ ofItems αs fields items = .ok row := by
  rw [ofItems_cons_cons]
  cases field.decode item with
  | error e => simp
  | ok value => simp only [map_rowCons_eq_ok_iff, Except.ok.injEq]

variable {field fields} in
theorem ofItems_cons_of_ok {item : Json} {items : List Json} {v : α} {row : Row αs}
    (hv : field.decode item = .ok v) (hrow : ofItems αs fields items = .ok row) :
    ofItems (α :: αs) (cons field fields) (item :: items) = .ok (rowCons v row) :=
  (ofItems_cons_cons_eq_ok_iff field fields item items v row).mpr ⟨hv, hrow⟩

theorem ofItems_cons_eq_ok_iff (h : field.beyond = none) (items : List Json) (v : α)
    (row : Row αs) :
    ofItems (α :: αs) (cons field fields) items = .ok (rowCons v row) ↔
      ∃ item rest, items = item :: rest ∧ field.decode item = .ok v ∧
        ofItems αs fields rest = .ok row := by
  cases items with
  | nil =>
    rw [ofItems_cons_nil, h]
    exact iff_of_false nofun nofun
  | cons item rest =>
    rw [ofItems_cons_cons_eq_ok_iff]
    constructor
    · rintro ⟨hv, hrow⟩
      exact ⟨item, rest, rfl, hv, hrow⟩
    · rintro ⟨item, rest, hcons, hv, hrow⟩
      cases hcons
      exact ⟨hv, hrow⟩

theorem decode_eq_ok_iff (json : Json) (row : Row αs) :
    fields.decode json = .ok row ↔
      (∃ members, json = .object members true ∧ Reads αs fields (.vacant αs) members row) ∨
        ∃ items, json = .array items true ∧ ofItems αs fields items = .ok row := by
  cases json with
  | object members closed =>
    cases closed <;> simp [decode, Except.bind_eq_ok_iff, Reads, throw, throwThe,
      MonadExceptOf.throw]
  | array items closed =>
    cases closed <;> simp [decode, Except.bind_eq_ok_iff, throw, throwThe,
      MonadExceptOf.throw, pure, Except.pure]
  | _ => simp [decode, Decode.refuse_ne_ok]

/-- The value of a first field that has no other was read from something. -/
theorem exists_decode_of_required (habsent : field.absent = none) (hbeyond : field.beyond = none)
    {json : Json} {v : α} {row : Row αs}
    (h : decode (cons field fields) json = .ok (rowCons v row)) :
    ∃ value, field.decode value = .ok v := by
  rcases (decode_eq_ok_iff _ json _).mp h with ⟨members, -, hreads⟩ | ⟨items, -, hitems⟩
  · have hfield := ((reads_cons_iff field fields (.vacant αs) members v row).mp hreads).1
    obtain ⟨value, -, hv⟩ := (Field.exists_fills_iff_of_required habsent).mp hfield
    exact ⟨value, hv⟩
  · obtain ⟨value, -, -, hv, -⟩ :=
      (ofItems_cons_eq_ok_iff field fields hbeyond items v row).mp hitems
    exact ⟨value, hv⟩

end Fields

end Json

end MarketDesk

import MarketDesk.Proofs.Json.Reading
import MarketDesk.Proofs.Json.Record

/-!
# Revised objects

An object is revised if its members are put in another order and members that no field of a record
claims are put among them, with any values. The value of a field may be revised as well, in its own
way. A record is read from a revised object just as it was before: each field still has its one
value, and what no field claims must only be legal.
-/

namespace MarketDesk

/-- What a decoder reads, it also reads after a revision. -/
def Decoder.Tolerates {α : Type} (decode : Decoder α) (revised : Json → Json → Prop) : Prop :=
  ∀ ⦃json json' : Json⦄ ⦃v : α⦄, revised json json' → decode json = .ok v → decode json' = .ok v

namespace Json

/-- A member as it was, or one whose value is revised in the way that belongs to its key. -/
inductive MemberRevised (names : List String) (within : String → Json → Json → Prop) :
    Member → Member → Prop
  | same (member : Member) : MemberRevised names within member member
  | inside {key : String} {value value' : Json} (hkey : key ∈ names)
      (h : within key value value') :
      MemberRevised names within (some key, value) (some key, value')

/-- A member under a name that is not one of some names, with any value that can be written. -/
inductive Foreign (names : List String) : Member → Prop
  | mk {key : String} {value : Json} {cs : List Char} (hkey : key ∉ names) (h : value.Written cs) :
      Foreign names (some key, value)

/-- Members that are kept, each as it was or revised, and added ones, in any order. -/
def MembersRevised (names : List String) (within : String → Json → Json → Prop)
    (members members' : List Member) : Prop :=
  ∃ kept added, List.Forall₂ (MemberRevised names within) members kept ∧
    (∀ member ∈ added, Foreign names member) ∧ (kept ++ added).Perm members'

inductive ObjectRevised (names : List String) (within : String → Json → Json → Prop) :
    Json → Json → Prop
  | same (json : Json) : ObjectRevised names within json json
  | object {members members' : List Member} (h : MembersRevised names within members members') :
      ObjectRevised names within (.object members true) (.object members' true)

/-- The value under one key is revised. -/
inductive InsideOf (name : String) (revised : Json → Json → Prop) : String → Json → Json → Prop
  | mk {value value' : Json} (h : revised value value') : InsideOf name revised name value value'

/-- Each item of an array is revised in the same way. -/
inductive ItemsRevised (revised : Json → Json → Prop) : Json → Json → Prop
  | mk {items items' : List Json} (h : List.Forall₂ revised items items') :
      ItemsRevised revised (.array items true) (.array items' true)

variable {α : Type} {known : List String} {within : String → Json → Json → Prop}

/-- The members of an object come in another order, with foreign ones among them. -/
theorem ObjectRevised.of_perm {members added members' : List Member}
    (hadded : ∀ member ∈ added, Foreign known member)
    (horder : (members ++ added).Perm members') :
    ObjectRevised known within (.object members true) (.object members' true) :=
  .object ⟨members, added, List.forall₂_same.mpr fun member _ => .same member, hadded, horder⟩

theorem MemberRevised.key_eq {member member' : Member}
    (h : MemberRevised known within member member') : member'.1 = member.1 := by
  cases h <;> rfl

theorem MemberRevised.takes_eq {member member' : Member}
    (h : MemberRevised known within member member') (f : Field α) :
    f.takes member' = f.takes member := congrArg (Option.any f.answersTo) h.key_eq

namespace Field

variable (f : Field α)

theorem valuesIn_append (members members' : List Member) :
    f.valuesIn (members ++ members') = f.valuesIn members ++ f.valuesIn members' := by
  rw [valuesIn, List.filter_append, List.map_append]
  rfl

theorem leavesOf_append (members members' : List Member) :
    f.leavesOf (members ++ members') = f.leavesOf members ++ f.leavesOf members' :=
  List.filter_append ..

theorem not_takes_of_foreign {member : Member} (h : Foreign (f.names ++ known) member) :
    f.takes member = false := by
  obtain ⟨hkey, -⟩ := h
  refine takes_eq_false_iff.mpr fun key hsome => ?_
  exact Option.some.inj hsome ▸ fun hmem => hkey (List.mem_append_left known hmem)

theorem valuesIn_of_foreign {members : List Member}
    (h : ∀ member ∈ members, Foreign (f.names ++ known) member) : f.valuesIn members = [] := by
  have hnone : members.filter f.takes = [] :=
    List.filter_eq_nil_iff.mpr fun member hmem =>
      Bool.eq_false_iff.mp (f.not_takes_of_foreign (h member hmem))
  rw [valuesIn, hnone, List.map_nil]

theorem leavesOf_of_foreign {members : List Member}
    (h : ∀ member ∈ members, Foreign (f.names ++ known) member) : f.leavesOf members = members :=
  List.filter_eq_self.mpr fun member hmem => by
    rw [f.not_takes_of_foreign (h member hmem), Bool.not_false]

/-- The values of a field are revised one by one if its members are. -/
theorem valuesIn_revised {members kept : List Member}
    (h : List.Forall₂ (MemberRevised known within) members kept) :
    List.Forall₂ (fun value value' => value = value' ∨ ∃ key ∈ f.names, within key value value')
      (f.valuesIn members) (f.valuesIn kept) := by
  induction h with
  | nil => exact .nil
  | @cons member member' members kept hmember _ ih =>
    cases htakes : f.takes member with
    | false =>
      rw [valuesIn_cons_of_not htakes, valuesIn_cons_of_not ((hmember.takes_eq f).trans htakes)]
      exact ih
    | true =>
      rw [valuesIn_cons_of_takes htakes,
        valuesIn_cons_of_takes ((hmember.takes_eq f).trans htakes)]
      refine .cons ?_ ih
      cases hmember with
      | same => exact .inl rfl
      | @inside key _ _ _ hwithin =>
        exact .inr ⟨key, answersTo_eq_true_iff.mp htakes, hwithin⟩

theorem leavesOf_revised {members kept : List Member}
    (h : List.Forall₂ (MemberRevised (f.names ++ known) within) members kept) :
    List.Forall₂ (MemberRevised known within) (f.leavesOf members) (f.leavesOf kept) := by
  induction h with
  | nil => exact .nil
  | @cons member member' members kept hmember _ ih =>
    cases htakes : f.takes member with
    | true =>
      rw [leavesOf_cons_of_takes htakes,
        leavesOf_cons_of_takes ((hmember.takes_eq f).trans htakes)]
      exact ih
    | false =>
      rw [leavesOf_cons_of_not htakes, leavesOf_cons_of_not ((hmember.takes_eq f).trans htakes)]
      refine .cons ?_ ih
      cases hmember with
      | same => exact .same _
      | @inside key _ _ hkey hwithin =>
        have hnot : key ∉ f.names := takes_eq_false_iff.mp htakes key rfl
        exact .inside ((List.mem_append.mp hkey).resolve_left hnot) hwithin

/-- A field is filled with the same value from a revised object. -/
theorem Fills.revised {f : Field α} {members members' : List Member} {slot : Option α}
    (hdecode : ∀ key ∈ f.names, f.decode.Tolerates (within key))
    (h : MembersRevised (f.names ++ known) within members members')
    (hfills : f.Fills (f.valuesIn members) Option.none slot) :
    f.Fills (f.valuesIn members') Option.none slot := by
  obtain ⟨kept, added, hkept, hadded, horder⟩ := h
  have hvalues := f.valuesIn_revised hkept
  have hperm : (f.valuesIn kept).Perm (f.valuesIn members') := by
    have hboth := (horder.filter f.takes).map Prod.snd
    change (f.valuesIn (kept ++ added)).Perm (f.valuesIn members') at hboth
    rwa [valuesIn_append, f.valuesIn_of_foreign hadded, List.append_nil] at hboth
  generalize f.valuesIn members = values at hvalues hfills
  cases hfills with
  | none =>
    rw [List.forall₂_nil_left_iff.mp hvalues] at hperm
    rw [hperm.nil_eq.symm]
    exact .none _
  | @one value v hv =>
    obtain ⟨value', rest, hvalue, hrest, hvalues⟩ := List.forall₂_cons_left_iff.mp hvalues
    rw [hvalues, List.forall₂_nil_left_iff.mp hrest, List.singleton_perm] at hperm
    rw [← hperm]
    refine .one ?_
    rcases hvalue with rfl | ⟨key, hkey, hwithin⟩
    · exact hv
    · exact hdecode key hkey hwithin hv

theorem tolerates_inside {name : String} {revised : Json → Json → Prop}
    (h : name ∈ f.names → f.decode.Tolerates revised) :
    ∀ key ∈ f.names, f.decode.Tolerates (InsideOf name revised key) := by
  rintro key hkey json json' v ⟨hrevised⟩ hdecode
  exact h hkey hrevised hdecode

theorem leavesOf_membersRevised {members members' : List Member}
    (h : MembersRevised (f.names ++ known) within members members') :
    MembersRevised known within (f.leavesOf members) (f.leavesOf members') := by
  obtain ⟨kept, added, hkept, hadded, horder⟩ := h
  refine ⟨f.leavesOf kept, added, f.leavesOf_revised hkept, fun member hmem => ?_, ?_⟩
  · obtain ⟨hkey, hwritten⟩ := hadded member hmem
    exact ⟨fun hname => hkey (List.mem_append_right _ hname), hwritten⟩
  · have hboth := horder.filter fun member => !f.takes member
    change (f.leavesOf (kept ++ added)).Perm (f.leavesOf members') at hboth
    rwa [leavesOf_append, f.leavesOf_of_foreign hadded] at hboth

end Field

namespace Fields

/-- Each field is read the same when its value is revised. -/
def Tolerate (within : String → Json → Json → Prop) : (αs : List Type) → Fields αs → Prop
  | [], _ => True
  | _ :: αs, (field, fields) =>
      (∀ key ∈ field.names, field.decode.Tolerates (within key)) ∧ Tolerate within αs fields

theorem tolerate_eq (αs : List Type) (fields : Fields αs) : Tolerate (fun _ => Eq) αs fields := by
  induction αs with
  | nil => trivial
  | cons α αs ih => exact ⟨fun _ _ _ _ _ heq hdecode => heq ▸ hdecode, ih fields.2⟩

theorem Reads.revised {αs : List Type} {fields : Fields αs} {members members' : List Member}
    {row : Row αs} (htolerate : Tolerate within αs fields)
    (h : MembersRevised (names αs fields) within members members')
    (hreads : Reads αs fields (.vacant αs) members row) :
    Reads αs fields (.vacant αs) members' row := by
  induction αs generalizing members members' with
  | nil =>
    obtain ⟨kept, added, hkept, hadded, horder⟩ := h
    have hsame : kept = members := by
      have heq : List.Forall₂ Eq members kept := hkept.imp fun _ _ hmember => by
        cases hmember with
        | same => rfl
        | inside hkey => exact nomatch hkey
      rw [List.forall₂_eq_eq_eq] at heq
      exact heq.symm
    rw [reads_nil_iff] at hreads ⊢
    intro member hmem
    rcases List.mem_append.mp (horder.mem_iff.mpr hmem) with hmem | hmem
    · exact hreads member (hsame ▸ hmem)
    · obtain ⟨-, hwritten⟩ := hadded member hmem
      exact ⟨⟨_, rfl⟩, hwritten.wellFormed⟩
  | cons α αs ih =>
    obtain ⟨field, fields⟩ := fields
    obtain ⟨v, row⟩ := row
    obtain ⟨hfield, hfields⟩ := htolerate
    obtain ⟨⟨slot, hfills, hslot⟩, hrest⟩ :=
      (reads_cons_iff field fields (.vacant αs) members v row).mp hreads
    exact (reads_cons_iff field fields (.vacant αs) members' v row).mpr
      ⟨⟨slot, hfills.revised hfield h, hslot⟩, ih hfields (field.leavesOf_membersRevised h) hrest⟩

theorem decode_tolerates {αs : List Type} {fields : Fields αs}
    (h : Tolerate within αs fields) :
    (decode fields).Tolerates (ObjectRevised (names αs fields) within) := by
  intro json json' row hrevised hdecode
  cases hrevised with
  | same => exact hdecode
  | object hmembers =>
    rw [decode_eq_ok_iff] at hdecode ⊢
    rcases hdecode with ⟨members, hjson, hreads⟩ | ⟨items, hjson, -⟩
    · cases hjson
      exact .inl ⟨_, rfl, hreads.revised h hmembers⟩
    · exact nomatch hjson

end Fields

end Json

namespace Decoder.Tolerates

variable {α β : Type} {decode : Decoder α} {revised : Json → Json → Prop}

theorem bind (h : decode.Tolerates revised) (f : α → Except DecodeError β) :
    Tolerates (fun json => decode json >>= f) revised := by
  intro json json' b hrevised hb
  obtain ⟨a, ha, hf⟩ := Except.bind_eq_ok_iff.mp hb
  exact Except.bind_eq_ok_iff.mpr ⟨a, h hrevised ha, hf⟩

theorem list (h : decode.Tolerates revised) :
    (Json.Decode.list decode).Tolerates (Json.ItemsRevised revised) := by
  intro json json' values hrevised hvalues
  obtain ⟨hitems⟩ := hrevised
  obtain ⟨items, hjson, hread⟩ := Json.Decode.list_eq_ok_iff.mp hvalues
  cases hjson
  refine Json.Decode.list_eq_ok_iff.mpr ⟨_, rfl, ?_⟩
  clear hvalues
  induction hitems generalizing values with
  | nil => exact hread
  | cons hitem _ ih =>
    obtain ⟨value, rest, hvalue, hrest, rfl⟩ := List.forall₂_cons_left_iff.mp hread
    exact .cons (h hitem hvalue) (ih hrest)

/-- A text that writes a revised value decodes to what the first text decodes to. -/
theorem run (h : decode.Tolerates revised) {json json' : Json} {s t : String} {v : α}
    (hs : json.IsTextOf s) (ht : json'.IsTextOf t) (hrevised : revised json json')
    (hv : decode.run s = .ok v) : decode.run t = .ok v := by
  rw [run_eq_ok_iff, Document.ofText_eq_iff.mpr hs] at hv
  rw [run_eq_ok_iff, Document.ofText_eq_iff.mpr ht]
  exact ⟨h hrevised hv.1, rfl⟩

end Decoder.Tolerates

end MarketDesk

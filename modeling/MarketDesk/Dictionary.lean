/-!
# Dictionaries in insertion order

A dictionary is the list of its entries. Setting a key that is present replaces the value where it
stands, and a new key goes to the end, so the keys keep the order in which they were first set.
-/

namespace MarketDesk

structure Dictionary (α β : Type) where
  entries : List (α × β)
  deriving Repr, DecidableEq

namespace Dictionary

variable {α β : Type} [DecidableEq α]

def empty : Dictionary α β := ⟨[]⟩

instance : Inhabited (Dictionary α β) := ⟨empty⟩

def lookupIn (k : α) : List (α × β) → Option β
  | [] => none
  | (key, value) :: rest => if key = k then some value else lookupIn k rest

def setIn (k : α) (v : β) : List (α × β) → List (α × β)
  | [] => [(k, v)]
  | (key, value) :: rest =>
      if key = k then (key, v) :: rest else (key, value) :: setIn k v rest

def get? (d : Dictionary α β) (k : α) : Option β := lookupIn k d.entries

def set (d : Dictionary α β) (k : α) (v : β) : Dictionary α β := ⟨setIn k v d.entries⟩

/-- Sets the value at a key from what stood there before. -/
def update (d : Dictionary α β) (k : α) (f : Option β → β) : Dictionary α β :=
  d.set k (f (d.get? k))

def contains (d : Dictionary α β) (k : α) : Bool := (d.get? k).isSome

def keys (d : Dictionary α β) : List α := d.entries.map Prod.fst

def size (d : Dictionary α β) : Nat := d.entries.length

def isEmpty (d : Dictionary α β) : Bool := d.entries.isEmpty

def setAll (d : Dictionary α β) (entries : List (α × β)) : Dictionary α β :=
  entries.foldl (fun d e => d.set e.1 e.2) d

def ofList (entries : List (α × β)) : Dictionary α β := empty.setAll entries

theorem get?_empty (k : α) : (empty : Dictionary α β).get? k = none := rfl

theorem lookupIn_setIn (k k' : α) (v : β) (entries : List (α × β)) :
    lookupIn k' (setIn k v entries) = if k = k' then some v else lookupIn k' entries := by
  induction entries with
  | nil => simp [setIn, lookupIn]
  | cons e rest ih =>
    obtain ⟨key, value⟩ := e
    by_cases hk : key = k
    · subst hk
      by_cases hk' : key = k' <;> simp [setIn, lookupIn, hk']
    · by_cases hk' : key = k'
      · subst hk'
        simp [setIn, lookupIn, hk, Ne.symm hk]
      · simp [setIn, lookupIn, hk, hk', ih]

theorem get?_set (d : Dictionary α β) (k k' : α) (v : β) :
    (d.set k v).get? k' = if k = k' then some v else d.get? k' :=
  lookupIn_setIn k k' v d.entries

theorem get?_update (d : Dictionary α β) (k k' : α) (f : Option β → β) :
    (d.update k f).get? k' = if k = k' then some (f (d.get? k)) else d.get? k' :=
  get?_set d k k' _

end Dictionary

end MarketDesk

namespace QuantumDebug

/-!
Tables from texts to values, kept in the order of the texts.
-/

/-- Values by key, in the order of the keys. -/
structure Table (α : Type) where
  entries : List (String × α)
deriving DecidableEq

namespace Table

variable {α : Type}

def empty : Table α := ⟨[]⟩

instance : Inhabited (Table α) := ⟨empty⟩

def findEntry (key : String) : List (String × α) → Option α
  | [] => none
  | (k, v) :: es => if k = key then some v else findEntry key es

/-- Entries in order with one more, which takes the place of another with its key. -/
def insertEntry (key : String) (value : α) : List (String × α) → List (String × α)
  | [] => [(key, value)]
  | (k, v) :: es =>
    if key = k then (key, value) :: es
    else if key < k then (key, value) :: (k, v) :: es
    else (k, v) :: insertEntry key value es

def get? (t : Table α) (key : String) : Option α := findEntry key t.entries

/-- The table with a value for a key. -/
def insert (t : Table α) (key : String) (value : α) : Table α := ⟨insertEntry key value t.entries⟩

def values (t : Table α) : List α := t.entries.map Prod.snd

end Table

end QuantumDebug

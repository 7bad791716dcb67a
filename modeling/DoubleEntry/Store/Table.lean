/-!
# Keyed tables

A table maps keys to records and keeps the order in which the keys came.  Lookups
after an insertion are settled by `get?_insert`.
-/

namespace DoubleEntry

structure Table (κ ν : Type) where
  entries : List (κ × ν)
  deriving DecidableEq, Repr

namespace Table

variable {κ ν : Type}

def empty : Table κ ν := ⟨[]⟩

instance : EmptyCollection (Table κ ν) := ⟨empty⟩

instance : Inhabited (Table κ ν) := ⟨empty⟩

def values (table : Table κ ν) : List ν := table.entries.map Prod.snd

def size (table : Table κ ν) : Nat := table.entries.length

variable [DecidableEq κ]

def find? (key : κ) : List (κ × ν) → Option ν
  | [] => none
  | (k, value) :: entries => if k = key then some value else find? key entries

def get? (table : Table κ ν) (key : κ) : Option ν := find? key table.entries

def contains (table : Table κ ν) (key : κ) : Bool := (table.get? key).isSome

def place (key : κ) (value : ν) : List (κ × ν) → List (κ × ν)
  | [] => [(key, value)]
  | (k, old) :: entries =>
    if k = key then (key, value) :: entries else (k, old) :: place key value entries

/-- A record under a new key comes last, one under a known key replaces the old record. -/
def insert (table : Table κ ν) (key : κ) (value : ν) : Table κ ν :=
  ⟨place key value table.entries⟩

/-- The records of `upper`, and those of `under` whose keys `upper` lacks. -/
def overlay (under upper : Table κ ν) : Table κ ν :=
  upper.entries.foldl (fun table (key, value) => table.insert key value) under

@[simp] theorem get?_empty (key : κ) : (empty : Table κ ν).get? key = none := rfl

private theorem find?_place (key other : κ) (value : ν) (entries : List (κ × ν)) :
    find? other (place key value entries) =
      if key = other then some value else find? other entries := by
  induction entries with
  | nil => simp [place, find?]
  | cons entry entries ih =>
    obtain ⟨k, old⟩ := entry
    by_cases hk : k = key
    · subst hk
      by_cases ho : k = other <;> simp [place, find?, ho]
    · by_cases ho : k = other
      · subst ho
        simp [place, find?, hk, Ne.symm hk]
      · simp [place, find?, hk, ho, ih]

theorem get?_insert (table : Table κ ν) (key other : κ) (value : ν) :
    (table.insert key value).get? other =
      if key = other then some value else table.get? other :=
  find?_place key other value table.entries

@[simp] theorem get?_insert_self (table : Table κ ν) (key : κ) (value : ν) :
    (table.insert key value).get? key = some value := by
  simp [get?_insert]

end Table

end DoubleEntry

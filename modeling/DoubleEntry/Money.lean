/-!
# Money

Amounts are whole minor units confined to 64 bits.  Arithmetic never wraps: a
result outside the range is reported as an `Overflow` that names the operation
that failed.
-/

namespace DoubleEntry

structure Money where
  minorUnits : Int
  lower : -0x8000000000000000 ≤ minorUnits
  upper : minorUnits < 0x8000000000000000
  deriving DecidableEq, Repr

structure Overflow where
  lhs : Money
  operator : Char
  rhs : Money
  deriving DecidableEq, Repr

namespace Money

@[ext] theorem ext {a b : Money} (h : a.minorUnits = b.minorUnits) : a = b := by
  cases a; cases b; cases h; rfl

def ofInt? (units : Int) : Option Money :=
  if h : -0x8000000000000000 ≤ units ∧ units < 0x8000000000000000 then
    some ⟨units, h.1, h.2⟩
  else none

def zero : Money := ⟨0, by decide, by decide⟩

instance : Inhabited Money := ⟨zero⟩

instance : Zero Money := ⟨zero⟩

instance : LT Money := ⟨fun a b => a.minorUnits < b.minorUnits⟩

instance : LE Money := ⟨fun a b => a.minorUnits ≤ b.minorUnits⟩

instance (a b : Money) : Decidable (a < b) :=
  inferInstanceAs (Decidable (a.minorUnits < b.minorUnits))

instance (a b : Money) : Decidable (a ≤ b) :=
  inferInstanceAs (Decidable (a.minorUnits ≤ b.minorUnits))

instance : Ord Money := ⟨fun a b => compare a.minorUnits b.minorUnits⟩

instance : ToString Money := ⟨fun a => toString a.minorUnits⟩

def isZero (a : Money) : Bool := a.minorUnits = 0

def isPositive (a : Money) : Bool := 0 < a.minorUnits

def isNegative (a : Money) : Bool := a.minorUnits < 0

/-! ## Checked arithmetic -/

def checked (lhs : Money) (operator : Char) (rhs : Money) (units : Int) :
    Except Overflow Money :=
  match ofInt? units with
  | some result => .ok result
  | none => .error ⟨lhs, operator, rhs⟩

def add (a b : Money) : Except Overflow Money :=
  checked a '+' b (a.minorUnits + b.minorUnits)

def sub (a b : Money) : Except Overflow Money :=
  checked a '-' b (a.minorUnits - b.minorUnits)

/-- Fails for the least amount only, as the subtraction from zero that it is. -/
def neg (a : Money) : Except Overflow Money :=
  checked zero '-' a (-a.minorUnits)

def abs (a : Money) : Except Overflow Money :=
  if a.isNegative then a.neg else .ok a

/-- Adds from left to right and stops at the first partial sum out of range. -/
def sum (amounts : List Money) : Except Overflow Money :=
  amounts.foldlM add zero

private theorem ofInt?_eq_some_iff {units : Int} {a : Money} :
    ofInt? units = some a ↔ a.minorUnits = units := by
  constructor
  · intro h
    unfold ofInt? at h
    split at h
    · cases h; rfl
    · cases h
  · intro h
    subst h
    rw [ofInt?, dif_pos ⟨a.lower, a.upper⟩]

theorem checked_eq_ok_iff {lhs rhs result : Money} {operator : Char} {units : Int} :
    checked lhs operator rhs units = .ok result ↔ result.minorUnits = units := by
  rw [← ofInt?_eq_some_iff]
  unfold checked
  cases ofInt? units <;> simp

theorem add_eq_ok_iff {a b c : Money} :
    a.add b = .ok c ↔ c.minorUnits = a.minorUnits + b.minorUnits :=
  checked_eq_ok_iff

theorem sub_eq_ok_iff {a b c : Money} :
    a.sub b = .ok c ↔ c.minorUnits = a.minorUnits - b.minorUnits :=
  checked_eq_ok_iff

theorem neg_eq_ok_iff {a c : Money} : a.neg = .ok c ↔ c.minorUnits = -a.minorUnits :=
  checked_eq_ok_iff

end Money

def Overflow.message (o : Overflow) : String :=
  s!"Arithmetic overflow: {o.lhs} {o.operator} {o.rhs}"

end DoubleEntry

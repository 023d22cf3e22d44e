namespace Trifold

abbrev Fields (α : Type) := List (String × α)

namespace Fields

variable {α β : Type}

def get? (key : String) : Fields α → Option α
  | [] => none
  | (name,value) :: rest => if name = key then some value else get? key rest

def has (key : String) (fields : Fields α) : Bool := (get? key fields).isSome

def keys (fields : Fields α) : List String := fields.map (·.1)

def isDigit (c : Char) : Bool := '0' ≤ c && c ≤ '9'

def numeral (digits : List Char) : Nat := digits.foldl (fun n c => 10 * n + (c.toNat - 48)) 0

-- A position is written without a leading zero and lies below 2^32 - 1.
def position? (key : String) : Option Nat :=
  match key.toList with
  | [] => none
  | ['0'] => some 0
  | c :: rest =>
      if c != '0' && (c :: rest).all isDigit && rest.length < 10 && numeral (c :: rest) < 4294967295 then
        some (numeral (c :: rest))
      else none

def precedes (listed key : String) : Bool :=
  match position? key, position? listed with
  | none, _ => true
  | some new, some old => old < new
  | some _, none => false

def insert (key : String) (value : α) : Fields α → Fields α
  | [] => [(key,value)]
  | (name,old) :: rest =>
      if precedes name key then (name,old) :: insert key value rest else (key,value) :: (name,old) :: rest

def replace (key : String) (value : α) : Fields α → Fields α
  | [] => []
  | (name,old) :: rest => if name = key then (name,value) :: rest else (name,old) :: replace key value rest

-- A name already listed keeps its place.
def put (key : String) (value : α) (fields : Fields α) : Fields α :=
  if has key fields then replace key value fields else insert key value fields

def remove (key : String) (fields : Fields α) : Fields α := fields.filter (·.1 != key)

def putAll (fields : Fields α) (entries : List (String × α)) : Fields α :=
  entries.foldl (fun out entry => put entry.1 entry.2 out) fields

def ofEntries (entries : List (String × α)) : Fields α := putAll [] entries

def mapValues (f : α → β) (fields : Fields α) : Fields β := fields.map fun (name,value) => (name,f value)

theorem get?_nil (key : String) : get? key ([] : Fields α) = none := rfl

theorem get?_cons (key name : String) (value : α) (rest : Fields α) :
    get? key ((name,value) :: rest) = if name = key then some value else get? key rest := rfl

theorem get?_insert (key other : String) (value : α) (fields : Fields α) (fresh : get? key fields = none) :
    get? other (insert key value fields) = if key = other then some value else get? other fields := by
  induction fields with
  | nil => simp [insert,get?]
  | cons entry rest ih =>
    obtain ⟨name,old⟩ := entry
    by_cases same : name = key
    · simp [get?,same] at fresh
    · simp only [get?,same,if_false] at fresh
      simp only [insert]
      split
      · simp only [get?,ih fresh]
        by_cases here : name = other
        · have apart : ¬ key = other := fun h => same (here.trans h.symm)
          simp [here,apart]
        · simp [here]
      · simp [get?]

theorem get?_replace (key other : String) (value : α) (fields : Fields α) (listed : (get? key fields).isSome) :
    get? other (replace key value fields) = if key = other then some value else get? other fields := by
  induction fields with
  | nil => simp [get?] at listed
  | cons entry rest ih =>
    obtain ⟨name,old⟩ := entry
    by_cases same : name = key
    · subst same
      simp only [replace,if_true,get?]
      split <;> simp_all
    · simp only [get?,same,if_false] at listed
      simp only [replace,same,if_false,get?,ih listed]
      by_cases here : name = other
      · have apart : ¬ key = other := fun h => same (here.trans h.symm)
        simp [here,apart]
      · simp [here]

theorem get?_put (key other : String) (value : α) (fields : Fields α) :
    get? other (put key value fields) = if key = other then some value else get? other fields := by
  unfold put has
  split
  · exact get?_replace key other value fields (by assumption)
  · exact get?_insert key other value fields (by simp_all)

end Fields

end Trifold

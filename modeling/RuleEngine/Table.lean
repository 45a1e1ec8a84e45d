set_option autoImplicit false

/-! # Tables

A table maps texts to values and lists its entries by increasing key. Keys are ordered by code
point. `insert` and `erase` keep the order; `ofList` builds a table in which the last entry of a
key counts. -/

namespace RuleEngine

/-- Entries by key; the operations keep the keys increasing. -/
abbrev Table (α : Type) := List (String × α)

namespace Table

variable {α : Type}

/-- Every key is below the keys that follow it. -/
def Sorted (t : Table α) : Prop := t.Pairwise fun a b => a.1 < b.1

def get? : Table α → String → Option α
  | [], _ => none
  | (k, v) :: rest, key => if k = key then some v else get? rest key

def contains (t : Table α) (key : String) : Bool := (get? t key).isSome

def insert : Table α → String → α → Table α
  | [], key, value => [(key, value)]
  | (k, v) :: rest, key, value =>
    if key < k then (key, value) :: (k, v) :: rest
    else if key = k then (key, value) :: rest
    else (k, v) :: insert rest key value

def erase : Table α → String → Table α
  | [], _ => []
  | (k, v) :: rest, key => if k = key then rest else (k, v) :: erase rest key

def keys (t : Table α) : List String := t.map (·.1)

/-- The table of a list of entries; of several with one key the last counts. -/
def ofList (entries : List (String × α)) : Table α :=
  entries.foldl (fun t e => insert t e.1 e.2) []

/-- Put an entry in place; every key keeps its order. -/
def mapValues {β : Type} (f : α → β) (t : Table α) : Table β := t.map fun e => (e.1, f e.2)

/-! ## Look-up after a change -/

theorem get?_insert (t : Table α) (key key' : String) (value : α) :
    get? (insert t key value) key' = if key = key' then some value else get? t key' := by
  induction t with
  | nil => simp [insert, get?]
  | cons e rest ih =>
    obtain ⟨k, v⟩ := e
    simp only [insert]
    split
    · simp [get?]
    · split
      · rename_i h
        subst h
        simp only [get?]
        split <;> simp_all
      · simp only [get?, ih]
        split
        · rename_i h1 h2 h3
          subst h3
          simp [h2]
        · rfl

theorem get?_insert_self (t : Table α) (key : String) (value : α) :
    get? (insert t key value) key = some value := by
  simp [get?_insert]

end Table

end RuleEngine

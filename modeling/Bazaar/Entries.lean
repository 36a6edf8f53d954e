/-!
# Entries in order

Values by key in the order in which the keys first came.  A key that comes again keeps its place
and takes the new value.  When two keys count as one is a parameter, since numbers of different
types may do so; for names it is equality.  The statements say what is found after an insertion.
-/

namespace Bazaar

namespace Keyed

/-- The value of the first key that counts as the given one. -/
def find? (same : κ → κ → Bool) (key : κ) : List (κ × α) → Option α
  | [] => none
  | (k, a) :: rest => if same k key then some a else find? same key rest

/-- Sets a key: in its place if it is there, else at the end. -/
def insert (same : κ → κ → Bool) (key : κ) (value : α) : List (κ × α) → List (κ × α)
  | [] => [(key, value)]
  | (k, a) :: rest =>
    if same k key then (k, value) :: rest else (k, a) :: insert same key value rest

/-- Entries from pairs, the later ones inserted after the earlier ones. -/
def ofPairs (same : κ → κ → Bool) (pairs : List (κ × α)) : List (κ × α) :=
  pairs.foldl (fun entries (key, value) => insert same key value entries) []

theorem find?_insert_self {same : κ → κ → Bool} {key : κ} (reflexive : same key key = true)
    (value : α) (entries : List (κ × α)) :
    find? same key (insert same key value entries) = some value := by
  induction entries with
  | nil => simp [insert, find?, reflexive]
  | cons entry rest ih =>
    by_cases equal : same entry.1 key = true
    · simp [insert, find?, equal]
    · simp [insert, find?, equal, ih]

end Keyed

/-- Values by name in order; a name is a text or something else that can be compared. -/
abbrev Entries (α : Type) (ν : Type := String) := List (ν × α)

namespace Entries

variable {ν : Type} [DecidableEq ν]

/-- The value of a name. -/
def get? (entries : Entries α ν) (name : ν) : Option α :=
  Keyed.find? (· == ·) name entries

/-- Sets a name. -/
def insert (entries : Entries α ν) (name : ν) (value : α) : Entries α ν :=
  Keyed.insert (· == ·) name value entries

/-- Entries from pairs; a repeated name keeps its first place and its last value. -/
def ofPairs (pairs : List (ν × α)) : Entries α ν :=
  Keyed.ofPairs (· == ·) pairs

omit [DecidableEq ν] in
/-- The names in order. -/
def names (entries : Entries α ν) : List ν :=
  entries.map (·.1)

theorem get?_insert_self (entries : Entries α ν) (name : ν) (value : α) :
    (entries.insert name value).get? name = some value :=
  Keyed.find?_insert_self (by simp) value entries

theorem get?_insert_of_ne (entries : Entries α ν) {name other : ν} (different : other ≠ name)
    (value : α) : (entries.insert name value).get? other = entries.get? other := by
  unfold insert get?
  induction entries with
  | nil => simp [Keyed.insert, Keyed.find?, Ne.symm different]
  | cons entry rest ih =>
    by_cases equal : entry.1 = name
    · subst equal
      simp [Keyed.insert, Keyed.find?, Ne.symm different]
    · by_cases found : entry.1 = other
      · subst found
        simp [Keyed.insert, Keyed.find?, equal]
      · simp [Keyed.insert, Keyed.find?, equal, found, ih]

end Entries

end Bazaar

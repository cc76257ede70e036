/-!
# Ordered tables

A table from names to values that remembers the order in which names were first
put in. Putting a known name again replaces its value and keeps its place.
-/

namespace LineRules

/-- A table from names to values, in the order of first insertion. -/
abbrev Keyed (α : Type) := List (String × α)

namespace Keyed

variable {α β : Type}

/-- The value at a name. -/
def get? (table : Keyed α) (name : String) : Option α :=
  match table with
  | [] => none
  | (key, value) :: rest => if key = name then some value else get? rest name

/-- Whether the table has the name. -/
def has (table : Keyed α) (name : String) : Bool :=
  (table.get? name).isSome

/-- Sets the value at a name, in its place if the name is known and else at the end. -/
def put (table : Keyed α) (name : String) (value : α) : Keyed α :=
  match table with
  | [] => [(name, value)]
  | (key, old) :: rest =>
    if key = name then (key, value) :: rest else (key, old) :: put rest name value

/-- Puts every entry of `other` into the table, in order. -/
def update (table other : Keyed α) : Keyed α :=
  other.foldl (fun acc entry => acc.put entry.1 entry.2) table

/-- The table without a name. -/
def erase (table : Keyed α) (name : String) : Keyed α :=
  table.filter fun entry => entry.1 ≠ name

/-- The table of a list of entries, in which a later entry replaces an earlier one. -/
def ofList (entries : List (String × α)) : Keyed α :=
  update [] entries

/-- The names, in order. -/
def names (table : Keyed α) : List String :=
  table.map Prod.fst

/-- What was put is what is found, and nothing else changes. -/
theorem get?_put (table : Keyed α) (name other : String) (value : α) :
    (table.put name value).get? other = if name = other then some value else table.get? other := by
  induction table with
  | nil => simp [put, get?]
  | cons entry rest hyp =>
    obtain ⟨key, old⟩ := entry
    by_cases same : key = name
    · subst same
      by_cases found : key = other <;> simp [put, get?, found]
    · by_cases found : key = other
      · subst found
        simp [put, get?, same, Ne.symm same]
      · simp [put, get?, same, found, hyp]

/-- A name is in the table exactly when it is one of its names. -/
theorem has_iff (table : Keyed α) (name : String) :
    table.has name = true ↔ name ∈ table.names := by
  induction table with
  | nil => simp [has, get?, names]
  | cons entry rest hyp =>
    obtain ⟨key, value⟩ := entry
    simp only [has, names] at hyp
    by_cases same : key = name
    · simp [has, get?, names, same]
    · simp [has, get?, names, same, hyp, Ne.symm same]

/-- A known name keeps its place, a new one comes last. -/
theorem names_put (table : Keyed α) (name : String) (value : α) :
    (table.put name value).names
      = if name ∈ table.names then table.names else table.names ++ [name] := by
  induction table with
  | nil => simp [put, names]
  | cons entry rest hyp =>
    obtain ⟨key, old⟩ := entry
    by_cases same : key = name
    · subst same
      simp [put, names]
    · simp only [names] at hyp ⊢
      by_cases known : name ∈ rest.map Prod.fst <;>
        simp [put, same, Ne.symm same, hyp, known]

end Keyed

end LineRules

import EntityForge.Text.Basic

/-! # Named entries

Settings, the members of an object and the artifacts of a run are named entries in the order in
which their names were first mentioned. Writing to a name that is there already replaces the value
and keeps the place; so the last value given to a name wins, at the first place of that name.
-/

namespace EntityForge

universe u

/-- Named entries in the order of first mention. -/
abbrev Entries (α : Type u) := List (Text × α)

namespace Entries

variable {α : Type u}

/-- The value of a name. -/
def lookup? : Entries α → Text → Option α
  | [], _ => none
  | (name, value) :: rest, key => if name = key then some value else lookup? rest key

/-- Is there an entry of that name? -/
def has (entries : Entries α) (key : Text) : Bool := (entries.lookup? key).isSome

/-- Writes a value: in place if the name is there, at the end otherwise. -/
def put : Entries α → Text → α → Entries α
  | [], key, value => [(key, value)]
  | (name, old) :: rest, key, value =>
      if name = key then (name, value) :: rest else (name, old) :: put rest key value

/-- Writes all entries of `more`, in order. -/
def putAll (entries more : Entries α) : Entries α :=
  more.foldl (fun all entry => all.put entry.1 entry.2) entries

/-- The entries of a list of pairs in which names may come back. -/
def ofPairs (pairs : List (Text × α)) : Entries α := putAll [] pairs

/-- The names, in order. -/
def names (entries : Entries α) : List Text := entries.map Prod.fst

/-- The entries without the one of that name. -/
def without (entries : Entries α) (key : Text) : Entries α :=
  entries.filter fun entry => entry.1 ≠ key

@[simp]
theorem lookup?_nil (key : Text) : lookup? ([] : Entries α) key = none := rfl

@[simp]
theorem lookup?_put_self (entries : Entries α) (key : Text) (value : α) :
    (entries.put key value).lookup? key = some value := by
  induction entries with
  | nil => simp [put, lookup?]
  | cons entry rest ih =>
      simp only [put]
      split
      · next h => simp [lookup?, h]
      · next h => simp [lookup?, h, ih]

theorem lookup?_put_of_ne (entries : Entries α) {key other : Text} (value : α)
    (hne : other ≠ key) : (entries.put key value).lookup? other = entries.lookup? other := by
  induction entries with
  | nil => simp [put, lookup?, hne.symm]
  | cons entry rest ih =>
      obtain ⟨name, old⟩ := entry
      simp only [put]
      split
      · next h =>
          subst h
          simp [lookup?, hne.symm]
      · next h => simp only [lookup?, ih]

theorem names_put (entries : Entries α) (key : Text) (value : α) :
    (entries.put key value).names =
      if key ∈ entries.names then entries.names else entries.names ++ [key] := by
  induction entries with
  | nil => simp [put, names]
  | cons entry rest ih =>
      obtain ⟨name, old⟩ := entry
      simp only [put]
      split
      · next h => simp [names, h]
      · next h =>
          have hne : key ≠ name := fun he => h he.symm
          simp only [names, List.map_cons, List.mem_cons, hne, false_or] at ih ⊢
          rw [ih]
          split <;> simp [*]

/-- Writing never makes a name occur twice. -/
theorem nodup_names_put {entries : Entries α} (h : entries.names.Nodup) (key : Text) (value : α) :
    (entries.put key value).names.Nodup := by
  rw [names_put]
  split
  · exact h
  · next hnew =>
      rw [List.nodup_append]
      refine ⟨h, by simp, ?_⟩
      intro a ha b hb hab
      simp only [List.mem_singleton] at hb
      exact hnew (hb ▸ hab ▸ ha)

end Entries

end EntityForge

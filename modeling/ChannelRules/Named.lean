/-!
# Finite maps keyed by name

A map from names is written as its entries in increasing order of name. The order of names is the
order of their code points. `insert` keeps the entries ordered and without repetition, so two maps
that hold the same entries are equal.
-/

namespace ChannelRules

/-- A finite map from names: its entries, in increasing order of name. -/
abbrev Named (α : Type) := List (String × α)

namespace Named

variable {α : Type}

def get? : Named α → String → Option α
  | [], _ => none
  | (key, value) :: rest, name => if key = name then some value else get? rest name

def has (map : Named α) (name : String) : Bool := (get? map name).isSome

/-- Set the entry of a name. -/
def insert : Named α → String → α → Named α
  | [], name, value => [(name, value)]
  | (key, old) :: rest, name, value =>
    if name < key then (name, value) :: (key, old) :: rest
    else if name = key then (name, value) :: rest
    else (key, old) :: insert rest name value

def remove (map : Named α) (name : String) : Named α := map.filter fun entry => entry.1 != name

/-- The names with an entry, in increasing order. -/
def names (map : Named α) : List String := map.map Prod.fst

/-- The map with the given entries; of two entries for one name the later one counts. -/
def ofEntries (entries : List (String × α)) : Named α :=
  entries.foldl (fun map entry => insert map entry.1 entry.2) []

/-- The entries stand in increasing order of name. -/
def Ordered (map : Named α) : Prop := map.Pairwise fun a b => a.1 < b.1

@[simp] theorem get?_nil (name : String) : get? ([] : Named α) name = none := rfl

theorem get?_insert_self (map : Named α) (name : String) (value : α) :
    get? (insert map name value) name = some value := by
  induction map with
  | nil => simp [insert, get?]
  | cons entry rest ih =>
    obtain ⟨key, old⟩ := entry
    by_cases hlt : name < key
    · simp [insert, get?, hlt]
    · by_cases heq : name = key
      · simp [insert, get?, heq]
      · simp [insert, get?, hlt, heq, Ne.symm heq, ih]

theorem get?_insert_of_ne (map : Named α) {name other : String} (value : α) (h : other ≠ name) :
    get? (insert map name value) other = get? map other := by
  induction map with
  | nil => simp [insert, get?, Ne.symm h]
  | cons entry rest ih =>
    obtain ⟨key, old⟩ := entry
    by_cases hlt : name < key
    · simp [insert, get?, hlt, Ne.symm h]
    · by_cases heq : name = key
      · subst heq
        simp [insert, get?, Ne.symm h]
      · simp [insert, get?, hlt, heq, ih]

end Named

/-- A finite set of names, in increasing order. -/
abbrev NameSet := List String

namespace NameSet

def insert : NameSet → String → NameSet
  | [], name => [name]
  | key :: rest, name =>
    if name < key then name :: key :: rest
    else if name = key then key :: rest
    else key :: insert rest name

def ofNames (names : List String) : NameSet := names.foldl insert []

theorem mem_insert {set : NameSet} {name other : String} :
    other ∈ insert set name ↔ other = name ∨ other ∈ set := by
  induction set with
  | nil => simp [insert]
  | cons key rest ih =>
    by_cases hlt : name < key
    · simp [insert, hlt]
    · by_cases heq : name = key
      · subst heq
        simp [insert]
      · simp only [insert, hlt, heq, if_false, List.mem_cons, ih]
        constructor <;> rintro (h | h | h) <;> simp [h]

end NameSet

end ChannelRules

/-
Dictionaries keyed by text that remember the order in which their keys first
came. A later entry for a known key replaces the value where the key stands;
an entry for a new key goes to the end. JSON objects, slot maps and the values
a caller supplies are all of this kind.

The three lemmas beside each operation say what it does to `get?`.
-/
namespace PageTemplate

/-- Entries in the order in which their keys first came. -/
abbrev Dictionary (α : Type) := List (String × α)

namespace Dictionary

variable {α : Type}

/-- The value of the first entry for a key. -/
def get? : Dictionary α → String → Option α
  | [], _ => none
  | (k, v) :: rest, key => if k = key then some v else get? rest key

/-- Whether some entry has the key. -/
def contains (d : Dictionary α) (key : String) : Bool := (d.get? key).isSome

/-- Replaces the value of a known key in place and appends an unknown one. -/
def insert : Dictionary α → String → α → Dictionary α
  | [], key, value => [(key, value)]
  | (k, v) :: rest, key, value =>
    if k = key then (k, value) :: rest else (k, v) :: insert rest key value

/-- Drops every entry for a key and keeps the order of the others. -/
def erase (d : Dictionary α) (key : String) : Dictionary α := d.filter fun entry => entry.1 != key

/-- The keys in entry order. -/
def keys (d : Dictionary α) : List String := d.map (·.1)

/-- Inserts every entry of `other`, from the left, into `d`. -/
def update (d other : Dictionary α) : Dictionary α :=
  other.foldl (fun acc entry => acc.insert entry.1 entry.2) d

/-- The dictionary of a list of entries: of two with one key the later value stands at the
earlier place. -/
def ofEntries (entries : List (String × α)) : Dictionary α := update [] entries

/-- No key stands twice. -/
def Distinct (d : Dictionary α) : Prop := d.keys.Nodup

theorem get?_insert_self (d : Dictionary α) (k : String) (v : α) :
    (d.insert k v).get? k = some v := by
  induction d with
  | nil => simp [insert, get?]
  | cons p d ih =>
    obtain ⟨a, b⟩ := p
    by_cases h : a = k <;> simp [insert, get?, h, ih]

theorem get?_insert_other (d : Dictionary α) {k k' : String} (v : α) (hne : k' ≠ k) :
    (d.insert k v).get? k' = d.get? k' := by
  induction d with
  | nil => simp [insert, get?, Ne.symm hne]
  | cons p d ih =>
    obtain ⟨a, b⟩ := p
    by_cases h : a = k
    · subst h; simp [insert, get?, Ne.symm hne]
    · by_cases h' : a = k'
      · subst h'; simp [insert, get?, h]
      · simp [insert, get?, h, h', ih]

theorem get?_erase_self (d : Dictionary α) (k : String) : (d.erase k).get? k = none := by
  induction d with
  | nil => rfl
  | cons p d ih =>
    obtain ⟨a, b⟩ := p
    by_cases h : a = k
    · simpa [erase, h] using ih
    · simpa [erase, h, get?] using ih

theorem get?_erase_other (d : Dictionary α) {k k' : String} (hne : k' ≠ k) :
    (d.erase k).get? k' = d.get? k' := by
  induction d with
  | nil => rfl
  | cons p d ih =>
    obtain ⟨a, b⟩ := p
    by_cases h : a = k
    · subst h; simpa [erase, get?, Ne.symm hne] using ih
    · by_cases h' : a = k'
      · subst h'; simp [erase, get?, h]
      · simpa [erase, get?, h, h'] using ih

end Dictionary

end PageTemplate

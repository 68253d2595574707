/-!
# Dictionaries that remember insertion

A dictionary keeps its keys in the order in which they were first put in.
Putting a key again replaces its value and leaves it in its place.
-/

namespace StreamLinks

/-- Values by key, in the order in which the keys came in. -/
structure Dictionary (α : Type) where
  entries : List (String × α)
deriving DecidableEq

namespace Dictionary

variable {α : Type}

def empty : Dictionary α := ⟨[]⟩

/-- The value of the first entry with the given key. -/
def find? (key : String) : List (String × α) → Option α
  | [] => none
  | (other, value) :: rest => if key = other then some value else find? key rest

/-- The entries with the value of a key replaced, or with a new last entry. -/
def replaceOrAppend (key : String) (value : α) : List (String × α) → List (String × α)
  | [] => [(key, value)]
  | (other, old) :: rest =>
      if key = other then (other, value) :: rest
      else (other, old) :: replaceOrAppend key value rest

def get? (dictionary : Dictionary α) (key : String) : Option α :=
  find? key dictionary.entries

/-- The dictionary with a value for a key. -/
def put (dictionary : Dictionary α) (key : String) (value : α) : Dictionary α :=
  ⟨replaceOrAppend key value dictionary.entries⟩

/-- The dictionary with further pairs put in, in their order. -/
def putAll (dictionary : Dictionary α) (pairs : List (String × α)) : Dictionary α :=
  pairs.foldl (fun found (key, value) => found.put key value) dictionary

/-- The dictionary of a list of pairs; of equal keys the last one counts. -/
def ofPairs (pairs : List (String × α)) : Dictionary α :=
  empty.putAll pairs

def keys (dictionary : Dictionary α) : List String :=
  dictionary.entries.map Prod.fst

def values (dictionary : Dictionary α) : List α :=
  dictionary.entries.map Prod.snd

@[simp] theorem get?_empty (key : String) : (empty : Dictionary α).get? key = none := rfl

/-- A key has the value put in last, and the other keys keep theirs. -/
theorem get?_put (dictionary : Dictionary α) (key other : String) (value : α) :
    (dictionary.put key value).get? other =
      if other = key then some value else dictionary.get? other := by
  obtain ⟨entries⟩ := dictionary
  simp only [put, get?]
  induction entries with
  | nil => simp [replaceOrAppend, find?]
  | cons entry rest ih =>
      obtain ⟨bound, old⟩ := entry
      by_cases hbound : key = bound
      · subst hbound
        by_cases hother : other = key <;> simp [replaceOrAppend, find?, hother]
      · simp only [replaceOrAppend, if_neg hbound, find?, ih]
        by_cases hother : other = bound
        · simp [hother, Ne.symm hbound]
        · simp [hother]

end Dictionary

end StreamLinks

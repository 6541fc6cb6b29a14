/-!
# Keyed lists

Lists of keys with values, ascending by key and without repetition. Texts are ordered by the code
points of their characters.
-/

namespace TextTemplate.Keyed

variable {α β : Type}

/-- Puts the value under the key, in place of what was there. -/
def insert (key : String) (value : α) : List (String × α) → List (String × α)
  | [] => [(key, value)]
  | (other, kept) :: rest =>
    if key < other then (key, value) :: (other, kept) :: rest
    else if key = other then (key, value) :: rest
    else (other, kept) :: insert key value rest

/-- The value under exactly the key. -/
def get? (key : String) : List (String × α) → Option α
  | [] => none
  | (other, value) :: rest => if key = other then some value else get? key rest

/-- Inserts all pairs in turn, so that of two pairs with one key the later one stays. -/
def ofPairs (pairs : List (String × α)) : List (String × α) :=
  pairs.foldl (fun entries (key, value) => insert key value entries) []

end TextTemplate.Keyed

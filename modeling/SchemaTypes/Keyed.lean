/-!
Lists of pairs that keep their keys in the order of first arrival.
-/
namespace SchemaTypes.Keyed

/-- A key that is present keeps its place and takes the new value; a new key goes to the end. -/
def insert {κ α : Type} [DecidableEq κ] : List (κ × α) → κ → α → List (κ × α)
  | [], key, value => [(key, value)]
  | (k, v) :: rest, key, value =>
    if k = key then (key, value) :: rest else (k, v) :: insert rest key value

/-- Inserts the pairs from left to right. -/
def insertAll {κ α : Type} [DecidableEq κ] (entries pairs : List (κ × α)) : List (κ × α) :=
  pairs.foldl (fun entries pair => insert entries pair.1 pair.2) entries

def ofPairs {κ α : Type} [DecidableEq κ] (pairs : List (κ × α)) : List (κ × α) :=
  insertAll [] pairs

def keys {κ α : Type} (entries : List (κ × α)) : List κ := entries.map (·.1)

end SchemaTypes.Keyed

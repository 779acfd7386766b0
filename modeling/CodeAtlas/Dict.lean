/-!
Dictionaries with text keys, as association lists in ascending key order. The order of a text is
the order of its code points, which is also the order of its UTF-8 bytes.
-/
namespace CodeAtlas

abbrev Dict (β : Type) := List (String × β)

namespace Dict

variable {β : Type}

/-- The entry stands under `key`; an entry that stood there is replaced. -/
def insert (key : String) (value : β) : Dict β → Dict β
  | [] => [(key, value)]
  | (k, v) :: rest =>
    if key < k then (key, value) :: (k, v) :: rest
    else if key = k then (key, value) :: rest
    else (k, v) :: insert key value rest

def find? (key : String) : Dict β → Option β
  | [] => none
  | (k, v) :: rest => if key = k then some v else find? key rest

def contains (key : String) (d : Dict β) : Bool := (d.find? key).isSome

def erase (key : String) (d : Dict β) : Dict β := d.filter fun e => e.1 ≠ key

def keys (d : Dict β) : List String := d.map (·.1)

def values (d : Dict β) : List β := d.map (·.2)

/-- Entries in any order; of several under one key the last stays. -/
def ofList (entries : List (String × β)) : Dict β :=
  entries.foldl (fun d e => d.insert e.1 e.2) []

/-- The entries of a list that an earlier one did not have. -/
def news [BEq β] (before after : List (String × β)) : List (String × β) :=
  after.filter fun e => !((before.lookup e.1).any (· == e.2))

def Sorted (d : Dict β) : Prop := d.keys.Pairwise (· < ·)

end Dict

end CodeAtlas

/-!
# Ordered Maps

Finite maps that remember the order in which their keys were first given.

A document's registries, paths, methods, status codes and media types are maps,
and the order in which the document lists them decides the order of the output
and which of several entries is chosen. The entries are therefore kept as a list.
That no key occurs twice is part of the type: it is what makes `get?` the only
entry of a key, and every operation below keeps it.

Giving a key again replaces its value and leaves its place unchanged.

## Main definitions

* `OrderedMap`: Entries in order, with pairwise distinct keys.
* `OrderedMap.get?`, `OrderedMap.contains`: Look-up.
* `OrderedMap.insert`: A new last entry, or a new value in the old place.
* `OrderedMap.ofList`: The map that a list of entries leaves behind.
* `OrderedMap.filter`: The entries that pass a test.

## Theorems

* `OrderedMap.keys_insert`: What insertion does to the keys.
-/

namespace RouteTypes

/-- A finite map whose entries stand in the order of their first insertion. -/
structure OrderedMap (κ α : Type) where
  entries : List (κ × α)
  nodup : (entries.map Prod.fst).Nodup := by decide

namespace OrderedMap

variable {κ α β : Type}

/-- The keys in order. -/
def keys (m : OrderedMap κ α) : List κ :=
  m.entries.map Prod.fst

/-- The values in order. -/
def values (m : OrderedMap κ α) : List α :=
  m.entries.map Prod.snd

/-- The map without entries. -/
def empty : OrderedMap κ α where
  entries := []
  nodup := List.nodup_nil

instance : Inhabited (OrderedMap κ α) := ⟨empty⟩

/-- Whether the map has no entry. -/
def isEmpty (m : OrderedMap κ α) : Bool :=
  m.entries.isEmpty

/-- The entries that pass a test, in their order. -/
def filter (p : κ → α → Bool) (m : OrderedMap κ α) : OrderedMap κ α where
  entries := m.entries.filter fun e => p e.1 e.2
  nodup := (List.filter_sublist.map Prod.fst).nodup m.nodup

/-- Another value for each key. -/
def mapValues (f : κ → α → β) (m : OrderedMap κ α) : OrderedMap κ β where
  entries := m.entries.map fun e => (e.1, f e.1 e.2)
  nodup := by simpa [List.map_map, Function.comp_def] using m.nodup

variable [DecidableEq κ]

/-- The value of a key in a list of entries: that of its first entry. -/
def find? (k : κ) : List (κ × α) → Option α
  | [] => none
  | (k', v) :: rest => if k' = k then some v else find? k rest

/-- The value of a key. -/
def get? (m : OrderedMap κ α) (k : κ) : Option α :=
  find? k m.entries

/-- Whether the map has an entry for a key. -/
def contains (m : OrderedMap κ α) (k : κ) : Bool :=
  (m.get? k).isSome

/-- The entries after giving a key a value: in the old place when the key was
    there, at the end when it is new. -/
def put (k : κ) (v : α) : List (κ × α) → List (κ × α)
  | [] => [(k, v)]
  | (k', v') :: rest => if k' = k then (k, v) :: rest else (k', v') :: put k v rest

theorem map_fst_put (k : κ) (v : α) (es : List (κ × α)) :
    (put k v es).map Prod.fst =
      if k ∈ es.map Prod.fst then es.map Prod.fst else es.map Prod.fst ++ [k] := by
  induction es with
  | nil => simp [put]
  | cons e es ih =>
    obtain ⟨k', v'⟩ := e
    by_cases h : k' = k
    · simp [put, h]
    · have h' : ¬ k = k' := fun hk => h hk.symm
      simp only [put, h, if_false, List.map_cons, ih, List.mem_cons, h', false_or]
      split <;> simp

/-- The map with a value for a key, in the key's old place if it had one. -/
def insert (m : OrderedMap κ α) (k : κ) (v : α) : OrderedMap κ α where
  entries := put k v m.entries
  nodup := by
    rw [map_fst_put]
    split
    · exact m.nodup
    · next h =>
      refine List.nodup_append.mpr ⟨m.nodup, by simp, ?_⟩
      intro a ha b hb hab
      rw [List.mem_singleton] at hb
      exact h (hb ▸ hab ▸ ha)

/-- Inserting leaves the keys as they are when the key is among them, and adds it
    as the last one otherwise. -/
theorem keys_insert (m : OrderedMap κ α) (k : κ) (v : α) :
    (m.insert k v).keys = if k ∈ m.keys then m.keys else m.keys ++ [k] :=
  map_fst_put k v m.entries

/-- The map that inserting the entries one after another leaves behind: each key
    in the place of its first entry with the value of its last one. -/
def ofList (es : List (κ × α)) : OrderedMap κ α :=
  es.foldl (fun m e => m.insert e.1 e.2) empty

end OrderedMap

end RouteTypes

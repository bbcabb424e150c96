/-!
# Insertion-ordered maps

A map from names to values that remembers the order in which its names first
appeared. Giving a present name a new value keeps the name's place; a new name
goes to the end. Every name occurs once, which the type records.
-/

namespace RequestFilter

universe u v

/-- Replace the value of `name` where it stands, or add the pair at the end. -/
def insertEntry {α : Type u} (name : String) (value : α) :
    List (String × α) → List (String × α)
  | [] => [(name, value)]
  | (key, old) :: rest =>
      if key = name then (key, value) :: rest
      else (key, old) :: insertEntry name value rest

def findEntry? {α : Type u} (name : String) : List (String × α) → Option α
  | [] => none
  | (key, value) :: rest => if key = name then some value else findEntry? name rest

/-- The names after an insertion: the same names when `name` was present, one more otherwise. -/
theorem map_fst_insertEntry {α : Type u} (name : String) (value : α)
    (entries : List (String × α)) :
    (insertEntry name value entries).map Prod.fst =
      if name ∈ entries.map Prod.fst then entries.map Prod.fst
      else entries.map Prod.fst ++ [name] := by
  induction entries with
  | nil => simp [insertEntry]
  | cons entry rest ih =>
      obtain ⟨key, old⟩ := entry
      unfold insertEntry
      by_cases h : key = name
      · simp [h]
      · have hne : name ≠ key := fun e => h e.symm
        simp only [h, if_false, List.map_cons, ih, List.mem_cons, hne, false_or]
        split <;> simp

theorem nodup_map_fst_insertEntry {α : Type u} (name : String) (value : α)
    {entries : List (String × α)} (h : (entries.map Prod.fst).Nodup) :
    ((insertEntry name value entries).map Prod.fst).Nodup := by
  rw [map_fst_insertEntry]
  split
  · exact h
  · rename_i hmem
    refine List.nodup_append.mpr ⟨h, by simp, ?_⟩
    intro a ha b hb
    rw [List.mem_singleton] at hb
    subst hb
    exact fun e => hmem (e ▸ ha)

/-- A map with distinct names, listed by first appearance. -/
structure OrderedMap (α : Type u) where
  entries : List (String × α)
  nodup : (entries.map Prod.fst).Nodup

namespace OrderedMap

variable {α : Type u}

def empty : OrderedMap α := ⟨[], List.nodup_nil⟩

instance : EmptyCollection (OrderedMap α) := ⟨empty⟩

instance : Inhabited (OrderedMap α) := ⟨empty⟩

/-- Give `name` a value; a present name keeps its place. -/
def insert (map : OrderedMap α) (name : String) (value : α) : OrderedMap α :=
  ⟨insertEntry name value map.entries, nodup_map_fst_insertEntry name value map.nodup⟩

def insertMany (map : OrderedMap α) (pairs : List (String × α)) : OrderedMap α :=
  pairs.foldl (fun built pair => built.insert pair.1 pair.2) map

/-- The map of a list of pairs: each name where it first occurs, with its last value. -/
def ofList (pairs : List (String × α)) : OrderedMap α :=
  insertMany empty pairs

def find? (map : OrderedMap α) (name : String) : Option α :=
  findEntry? name map.entries

def contains (map : OrderedMap α) (name : String) : Bool :=
  (map.find? name).isSome

def names (map : OrderedMap α) : List String :=
  map.entries.map Prod.fst

def size (map : OrderedMap α) : Nat :=
  map.entries.length

def isEmpty (map : OrderedMap α) : Bool :=
  map.entries.isEmpty

def filter (map : OrderedMap α) (keep : String → α → Bool) : OrderedMap α where
  entries := map.entries.filter fun entry => keep entry.1 entry.2
  nodup := List.Nodup.sublist (List.Sublist.map _ List.filter_sublist) map.nodup

@[simp]
theorem entries_empty : (empty : OrderedMap α).entries = [] := rfl

@[simp]
theorem entries_insert (map : OrderedMap α) (name : String) (value : α) :
    (map.insert name value).entries = insertEntry name value map.entries := rfl

@[simp]
theorem entries_filter (map : OrderedMap α) (keep : String → α → Bool) :
    (map.filter keep).entries = map.entries.filter fun entry => keep entry.1 entry.2 := rfl

end OrderedMap

end RequestFilter

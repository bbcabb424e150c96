import Mathlib.Data.Finset.Card
import Mathlib.Data.List.Forall2
import RequestFilter.OrderedMap

/-!
# Entries of ordered maps

What a lookup answers in terms of the entries, and where the entries of a built
map come from.
-/

namespace RequestFilter

universe u v

variable {α : Type u} {name : String} {value : α}

theorem mem_of_findEntry_eq_some {entries : List (String × α)}
    (h : findEntry? name entries = some value) : (name, value) ∈ entries := by
  induction entries with
  | nil => cases h
  | cons entry rest ih =>
      unfold findEntry? at h
      split at h
      next hkey =>
        cases h
        subst hkey
        exact List.mem_cons_self
      next => exact List.mem_cons_of_mem _ (ih h)

theorem findEntry?_of_mem {entries : List (String × α)} (hnodup : (entries.map Prod.fst).Nodup)
    (h : (name, value) ∈ entries) : findEntry? name entries = some value := by
  induction entries with
  | nil => cases h
  | cons entry rest ih =>
      obtain ⟨hfresh, hrest⟩ := List.nodup_cons.mp hnodup
      unfold findEntry?
      rcases List.mem_cons.mp h with rfl | hmem
      · exact if_pos rfl
      · have hne : entry.1 ≠ name := fun e => hfresh (e ▸ List.mem_map_of_mem hmem)
        exact (if_neg hne).trans (ih hrest hmem)

/-- An insertion adds no entry but its own. -/
theorem mem_of_mem_insertEntry {entries : List (String × α)} {entry : String × α}
    (h : entry ∈ insertEntry name value entries) : entry = (name, value) ∨ entry ∈ entries := by
  induction entries with
  | nil => exact Or.inl (List.mem_singleton.mp h)
  | cons first rest ih =>
      unfold insertEntry at h
      split at h
      next hkey =>
        subst hkey
        exact (List.mem_cons.mp h).imp_right (List.mem_cons_of_mem _)
      next =>
        rcases List.mem_cons.mp h with rfl | hmem
        · exact Or.inr List.mem_cons_self
        · exact (ih hmem).imp_right (List.mem_cons_of_mem _)

theorem findEntry?_map {γ : Type u} (f : α → γ) (entries : List (String × α)) :
    findEntry? name (entries.map fun entry => (entry.1, f entry.2)) =
      Option.map f ( findEntry? name entries) := by
  induction entries with
  | nil => rfl
  | cons entry rest ih =>
      simp only [List.map_cons, findEntry?, ih]
      split <;> rfl

/-- A new name goes to the end. -/
theorem insertEntry_of_not_mem {entries : List (String × α)}
    (h : name ∉ entries.map Prod.fst) :
    insertEntry name value entries = entries ++ [(name, value)] := by
  induction entries with
  | nil => rfl
  | cons entry rest ih =>
      simp only [List.map_cons, List.mem_cons, not_or] at h
      rw [insertEntry, if_neg (Ne.symm h.1), ih h.2, List.cons_append]

theorem findEntry?_eq_none_iff {entries : List (String × α)} :
    findEntry? name entries = none ↔ name ∉ entries.map Prod.fst := by
  induction entries with
  | nil => simp [ findEntry?]
  | cons entry rest ih =>
      by_cases hkey : entry.1 = name
      · simp [ findEntry?, hkey]
      · simp [ findEntry?, hkey, ih, Ne.symm hkey]

theorem findEntry?_insertEntry_self (entries : List (String × α)) :
    findEntry? name (insertEntry name value entries) = some value := by
  induction entries with
  | nil => simp [insertEntry, findEntry?]
  | cons entry rest ih =>
      by_cases hkey : entry.1 = name <;> simp [insertEntry, findEntry?, hkey, ih]

theorem findEntry?_insertEntry_of_ne {other : String} (h : other ≠ name)
    (entries : List (String × α)) :
    findEntry? other (insertEntry name value entries) = findEntry? other entries := by
  induction entries with
  | nil => simp [insertEntry, findEntry?, h.symm]
  | cons entry rest ih =>
      by_cases hkey : entry.1 = name
      · simp [insertEntry, findEntry?, hkey, h.symm]
      · simp [insertEntry, findEntry?, hkey, ih]

theorem findEntry?_append (entries more : List (String × α)) :
    findEntry? name (entries ++ more) =
      ( findEntry? name entries).or ( findEntry? name more) := by
  induction entries with
  | nil => rfl
  | cons entry rest ih => by_cases hkey : entry.1 = name <;> simp [ findEntry?, hkey, ih]

theorem findEntry?_eq_head? (entries : List (String × α)) :
    findEntry? name entries =
      (entries.filter fun entry => entry.1 = name).head?.map Prod.snd := by
  induction entries with
  | nil => rfl
  | cons entry rest ih => by_cases hkey : entry.1 = name <;> simp [ findEntry?, hkey, ih]

/-- From behind, the first entry of a name is the last one. -/
theorem findEntry?_reverse (entries : List (String × α)) :
    findEntry? name entries.reverse =
      (entries.filter fun entry => entry.1 = name).getLast?.map Prod.snd := by
  rw [findEntry?_eq_head?, List.filter_reverse, List.head?_reverse]

/-- The value given last is the one that stays. -/
theorem insertEntry_insertEntry (earlier : α) (entries : List (String × α)) :
    insertEntry name value (insertEntry name earlier entries) = insertEntry name value entries := by
  induction entries with
  | nil => simp [insertEntry]
  | cons entry rest ih => by_cases hkey : entry.1 = name <;> simp [insertEntry, hkey, ih]

theorem eraseDups_of_nodup {names : List String} (h : names.Nodup) : names.eraseDups = names := by
  induction names with
  | nil => rfl
  | cons name rest ih =>
      obtain ⟨hfresh, hrest⟩ := List.nodup_cons.mp h
      have hkept : rest.filter (fun other => !other == name) = rest := by
        refine List.filter_eq_self.mpr fun other hother => ?_
        have hne : other ≠ name := fun e => hfresh (e ▸ hother)
        simpa using hne
      rw [List.eraseDups_cons, hkept, ih hrest]

namespace OrderedMap

theorem ext_entries {map map' : OrderedMap α} (h : map.entries = map'.entries) : map = map' := by
  cases map
  cases map'
  cases h
  rfl

theorem find?_eq_none_iff (map : OrderedMap α) : map.find? name = none ↔ name ∉ map.names :=
  findEntry?_eq_none_iff

theorem contains_eq_true_iff (map : OrderedMap α) :
    map.contains name = true ↔ name ∈ map.names := by
  rw [contains, Option.isSome_iff_ne_none, Ne, find?_eq_none_iff, not_not]

theorem find?_insert_self (map : OrderedMap α) : (map.insert name value).find? name = some value :=
  findEntry?_insertEntry_self map.entries

theorem find?_insert_of_ne (map : OrderedMap α) {other : String} (h : other ≠ name) :
    (map.insert name value).find? other = map.find? other :=
  findEntry?_insertEntry_of_ne h map.entries

theorem names_insert (map : OrderedMap α) :
    (map.insert name value).names =
      if name ∈ map.names then map.names else map.names ++ [name] :=
  map_fst_insertEntry name value map.entries

/-- Where every step gives a value to the key of its item, the names are the keys in the order of
their first occurrence, behind the names that were there. -/
theorem names_foldl_of_insert {γ : Type v} {step : OrderedMap α → γ → OrderedMap α}
    {key : γ → String} (hstep : ∀ map item, ∃ value, step map item = map.insert (key item) value)
    (map : OrderedMap α) (items : List γ) :
    (items.foldl step map).names = (map.names ++ items.map key).eraseDups := by
  induction items generalizing map with
  | nil =>
      rw [List.map_nil, List.append_nil]
      exact (eraseDups_of_nodup map.nodup).symm
  | cons item rest ih =>
      obtain ⟨value, hitem⟩ := hstep map item
      rw [List.foldl_cons, ih, hitem, names_insert, List.map_cons]
      by_cases hmem : key item ∈ map.names
      · have hremoved : (key item :: rest.map key).removeAll map.names =
            (rest.map key).removeAll map.names := by
          simp [List.removeAll, hmem]
        rw [if_pos hmem, List.eraseDups_append, List.eraseDups_append, hremoved]
      · rw [if_neg hmem, List.append_assoc, List.singleton_append]

/-- Each name stands where it occurs first among the pairs. -/
theorem names_ofList (pairs : List (String × α)) :
    (ofList pairs).names = (pairs.map Prod.fst).eraseDups := by
  have hstep : ∀ (map : OrderedMap α) (pair : String × α),
      ∃ value, map.insert pair.1 pair.2 = map.insert (Prod.fst pair) value :=
    fun _ pair => ⟨pair.2, rfl⟩
  exact names_foldl_of_insert hstep empty pairs

theorem insertMany_append (map : OrderedMap α) (pairs more : List (String × α)) :
    map.insertMany (pairs ++ more) = (map.insertMany pairs).insertMany more :=
  List.foldl_append

/-- Of the values given for a name, the last one is found. -/
theorem find?_insertMany (map : OrderedMap α) (pairs : List (String × α)) :
    (map.insertMany pairs).find? name = ( findEntry? name pairs.reverse).or (map.find? name) := by
  induction pairs generalizing map with
  | nil => rfl
  | cons pair rest ih =>
      rw [insertMany, List.foldl_cons, ← insertMany, ih, List.reverse_cons, findEntry?_append,
        Option.or_assoc]
      congr 1
      by_cases hkey : pair.1 = name
      · subst hkey
        rw [find?_insert_self, findEntry?, if_pos rfl, Option.some_or]
      · rw [find?_insert_of_ne _ (Ne.symm hkey), findEntry?, if_neg hkey, findEntry?,
          Option.none_or]

/-- Of the pairs of a name, the last one tells its value. -/
theorem find?_ofList (pairs : List (String × α)) :
    (ofList pairs).find? name =
      (pairs.filter fun pair => pair.1 = name).getLast?.map Prod.snd := by
  rw [ofList, find?_insertMany, findEntry?_reverse]
  exact Option.or_none

/-- The names of a map are those of the pairs that it is made of. -/
theorem mem_names_ofList {pairs : List (String × α)} :
    name ∈ (ofList pairs).names ↔ name ∈ pairs.map Prod.fst := by
  rw [names_ofList, List.mem_eraseDups]

theorem insert_insert (map : OrderedMap α) (earlier : α) :
    (map.insert name earlier).insert name value = map.insert name value :=
  ext_entries (insertEntry_insertEntry earlier map.entries)

/-- Other values under the same names. -/
def map {γ : Type u} (f : α → γ) (source : OrderedMap α) : OrderedMap γ where
  entries := source.entries.map fun entry => (entry.1, f entry.2)
  nodup := by
    rw [List.map_map]
    exact source.nodup

theorem find?_map {γ : Type u} (f : α → γ) (source : OrderedMap α) :
    (source.map f).find? name = (source.find? name).map f :=
  findEntry?_map f source.entries

/-- Names are distinct, so a lookup finds the one entry of its name. -/
theorem find?_eq_some_iff (map : OrderedMap α) :
    map.find? name = some value ↔ (name, value) ∈ map.entries :=
  ⟨mem_of_findEntry_eq_some, findEntry?_of_mem map.nodup⟩

/-- The entries pair every name with what is found under it. -/
theorem map_some_entries (map : OrderedMap α) :
    map.entries.map (fun entry => (entry.1, some entry.2)) =
      map.names.map fun name => (name, map.find? name) := by
  rw [names, List.map_map]
  refine List.map_congr_left fun entry hentry => ?_
  have hfind : map.find? entry.1 = some entry.2 := map.find?_eq_some_iff.mpr hentry
  rw [Function.comp_apply, hfind]

/-- There are as many entries as names, each counted once. -/
theorem size_eq_card_names (map : OrderedMap α) : map.size = map.names.toFinset.card := by
  have hcard : map.names.toFinset.card = map.names.length :=
    List.toFinset_card_of_nodup map.nodup
  rw [hcard, names, List.length_map, size]

theorem isEmpty_eq_true_iff (map : OrderedMap α) : map.isEmpty = true ↔ map.names = [] := by
  rw [isEmpty, names, List.isEmpty_iff, List.map_eq_nil_iff]

/-- The entries of two maps with the same names stand side by side. -/
theorem forall₂_entries {map map' : OrderedMap α} (hnames : map.names = map'.names) :
    List.Forall₂ (fun entry entry' => entry.1 = entry'.1 ∧
      map.find? entry.1 = some entry.2 ∧ map'.find? entry'.1 = some entry'.2)
      map.entries map'.entries := by
  have hfst : List.Forall₂ (fun entry entry' : String × α => entry.1 = entry'.1)
      map.entries map'.entries := by
    refine List.forall₂_map_left_iff.mp (List.forall₂_map_right_iff.mp ?_)
    rw [List.forall₂_eq_eq_eq]
    exact hnames
  refine List.forall₂_iff_zip.mpr ⟨hfst.length_eq, fun {entry entry'} hpair => ?_⟩
  have hmem := List.of_mem_zip hpair
  exact ⟨List.forall₂_zip hfst hpair, map.find?_eq_some_iff.mpr hmem.1,
    map'.find?_eq_some_iff.mpr hmem.2⟩

/-- A map is known by its names in their order and by what it finds under each of them. -/
theorem ext_find? {map map' : OrderedMap α} (hnames : map.names = map'.names)
    (hfind : ∀ name, map.find? name = map'.find? name) : map = map' := by
  apply ext_entries
  rw [← List.forall₂_eq_eq_eq]
  refine (forall₂_entries hnames).imp fun entry entry' hpair => ?_
  obtain ⟨hname, hvalue, hvalue'⟩ := hpair
  rw [hfind, hname, hvalue'] at hvalue
  exact Prod.ext hname (Option.some.inj hvalue.symm)

/-- Values may be changed before or after the pairs are made into a map. -/
theorem map_ofList {γ : Type u} (f : α → γ) (pairs : List (String × α)) :
    (ofList pairs).map f = ofList (pairs.map fun pair => (pair.1, f pair.2)) := by
  apply ext_find?
  · have hnames : ((ofList pairs).map f).names = (ofList pairs).names := by
      rw [names, map, List.map_map]
      rfl
    rw [hnames, names_ofList, names_ofList, List.map_map]
    rfl
  · intro name
    rw [find?_map, find?_ofList, find?_ofList, List.filter_map, List.getLast?_map, Option.map_map,
      Option.map_map]
    rfl

/-- The names after an insertion have none in common with other names but the inserted one. -/
theorem names_insert_disjoint {map : OrderedMap α} {names : List String}
    (hdisjoint : map.names.Disjoint names) (hname : name ∉ names) :
    (map.insert name value).names.Disjoint names := by
  rw [names_insert]
  split
  · exact hdisjoint
  · exact List.disjoint_append_left.mpr ⟨hdisjoint, List.singleton_disjoint.mpr hname⟩

/-- Entries with other names, each given once, follow those that are there. -/
theorem entries_insertMany_of_disjoint {map : OrderedMap α} {pairs : List (String × α)}
    (hnodup : (pairs.map Prod.fst).Nodup) (hdisjoint : map.names.Disjoint (pairs.map Prod.fst)) :
    (map.insertMany pairs).entries = map.entries ++ pairs := by
  induction pairs generalizing map with
  | nil => exact (List.append_nil _).symm
  | cons pair rest ih =>
      obtain ⟨hfresh, hrest⟩ := List.nodup_cons.mp hnodup
      rw [List.map_cons, List.disjoint_cons_right] at hdisjoint
      have hentries : (map.insert pair.1 pair.2).entries = map.entries ++ [pair] :=
        insertEntry_of_not_mem hdisjoint.1
      have hnames : (map.insert pair.1 pair.2).names.Disjoint (rest.map Prod.fst) :=
        names_insert_disjoint hdisjoint.2 hfresh
      rw [insertMany, List.foldl_cons, ← insertMany, ih hrest hnames, hentries, List.append_assoc,
        List.singleton_append]

/-- A map is made of its own entries. -/
theorem ofList_entries (map : OrderedMap α) : ofList map.entries = map :=
  ext_entries (entries_insertMany_of_disjoint map.nodup (List.disjoint_nil_left _))

/-- What holds of all pairs holds of all entries of the map that they make. -/
theorem forall_entries_ofList {motive : String × α → Prop} {pairs : List (String × α)}
    (h : ∀ pair ∈ pairs, motive pair) : ∀ entry ∈ (ofList pairs).entries, motive entry := by
  suffices hmany : ∀ map : OrderedMap α, (∀ entry ∈ map.entries, motive entry) →
      ∀ entry ∈ (map.insertMany pairs).entries, motive entry by
    exact hmany empty (by simp)
  induction pairs with
  | nil => exact fun map hmap => hmap
  | cons pair rest ih =>
      intro map hmap
      refine ih (fun other hother => h other (List.mem_cons_of_mem _ hother)) _ ?_
      intro entry hentry
      rcases mem_of_mem_insertEntry hentry with rfl | hold
      · exact h pair List.mem_cons_self
      · exact hmap entry hold

end OrderedMap

end RequestFilter

import RequestFilter.Proofs.Bag.Document

/-!
# The history of a bag

A bag is made from nothing, from pairs or from the object of a document, and is
then given one value after the other. Whatever was given to it in this way, it is
known by the whole history: each field stands where it was given first and has
the value that it was given last.
-/

namespace RequestFilter

namespace Bag

/-- The bags that a history starts with, each with the pairs that it was made of. -/
inductive StartsWith : Bag → List (String × Value) → Prop
  | empty : StartsWith ∅ []
  | collected (pairs : List (String × Value)) : StartsWith (OrderedMap.ofList pairs) pairs
  | tree {members : List (String × Json)} {bag : Bag} (h : ofJson (.object members) = .ok bag) :
      StartsWith bag (members.map fun member => (member.1, Value.ofJson member.2))
  /-- The members as the text gives them, repeated ones included. -/
  | document {text : String} {read : List (String × Json)} {bag : Bag} (hread : IsRead text read)
      (h : parse text = .ok bag ∨ parseMembers text = .ok bag) :
      StartsWith bag (read.map fun member => (member.1, Value.ofJson member.2))

/-- A text gives its object the same members whichever way it is looked at. -/
theorem IsRead.unique {text : String} {read read' : List (String × Json)} (h : IsRead text read)
    (h' : IsRead text read') : read = read' := by
  have hrun : (Json.Reader.members Json.maxLevels "a map").run text = .ok read :=
    Json.run_members_eq_ok_iff.mpr h
  have hrun' : (Json.Reader.members Json.maxLevels "a map").run text = .ok read' :=
    Json.run_members_eq_ok_iff.mpr h'
  rw [hrun] at hrun'
  exact Except.ok.inj hrun'

/-- However a bag was made, it is the map of its pairs. -/
theorem StartsWith.eq_ofList {bag : Bag} {pairs : List (String × Value)}
    (h : StartsWith bag pairs) : bag = OrderedMap.ofList pairs := by
  cases h with
  | empty => rfl
  | collected => rfl
  | tree h => exact (Except.ok.inj h).symm
  | document hread h =>
      obtain ⟨read, hother, rfl⟩ : ∃ read, IsRead _ read ∧ bag = ofMembers read :=
        h.elim parse_eq_ok_iff_isRead.mp parseMembers_eq_ok_iff_isRead.mp
      rw [hread.unique hother]
      rfl

/-- A bag that is given further values is the map of its whole history. -/
theorem StartsWith.foldl_insert {start : Bag} {pairs : List (String × Value)}
    (h : StartsWith start pairs) (steps : List (String × Value)) :
    steps.foldl (fun bag step => bag.insert step.1 step.2) start =
      OrderedMap.ofList (pairs ++ steps) := by
  rw [h.eq_ofList]
  exact (OrderedMap.insertMany_append ∅ pairs steps).symm

/-- Whatever a bag was made of and whatever it was given since, its fields stand in the order in
which they were given first, each once, and hold what they were given last; nothing else is in it.
It is the bag that is collected from its history, and collecting is inserting into an empty bag. -/
theorem inserted_remembers_history {start : Bag} {pairs : List (String × Value)}
    (hstart : StartsWith start pairs) (steps : List (String × Value)) :
    let bag := steps.foldl (fun bag step => bag.insert step.1 step.2) start
    let history := pairs ++ steps
    bag.names = (history.map Prod.fst).eraseDups ∧
      bag.names.Nodup ∧
      (∀ field, bag.find? field =
        (history.filter fun step => step.1 = field).getLast?.map Prod.snd) ∧
      (∀ field, (bag.contains field = true ↔ (bag.find? field).isSome = true) ∧
        (bag.contains field = true ↔ field ∈ bag.names)) ∧
      bag.entries.map (fun entry => (entry.1, some entry.2)) =
        bag.names.map (fun field => (field, bag.find? field)) ∧
      bag.size = (history.map Prod.fst).toFinset.card ∧
      (bag.isEmpty = true ↔ (history.map Prod.fst).toFinset = ∅) ∧
      bag = OrderedMap.ofList history ∧
      OrderedMap.ofList history =
        history.foldl (fun bag step => bag.insert step.1 step.2) ∅ := by
  intro bag history
  have hbag : bag = OrderedMap.ofList history := hstart.foldl_insert steps
  have hnames : bag.names = (history.map Prod.fst).eraseDups := by
    rw [hbag, OrderedMap.names_ofList]
  have hfields : bag.names.toFinset = (history.map Prod.fst).toFinset := by
    ext field
    rw [List.mem_toFinset, List.mem_toFinset, hnames, List.mem_eraseDups]
  refine ⟨hnames, bag.nodup, fun field => ?_, fun field => ⟨Iff.rfl, bag.contains_eq_true_iff⟩,
    bag.map_some_entries, ?_, ?_, hbag, rfl⟩
  · rw [hbag, OrderedMap.find?_ofList]
  · rw [bag.size_eq_card_names, hfields]
  · rw [bag.isEmpty_eq_true_iff, ← hfields, List.toFinset_eq_empty_iff]

/-- An object that gives one of its members twice. -/
def repeatingText : String := "\x7b\"b\":true,\"a\":[\"x\"],\"b\":null\x7d"

def repeatingMembers : List (String × Json) :=
  [("b", .bool true), ("a", .array [.string "x"]), ("b", .null)]

theorem isRead_repeatingText : IsRead repeatingText repeatingMembers := by
  let members : List (String × Json.Written) :=
    [("b", .bool true), ("a", .array [.string "x"]), ("b", .null)]
  have htext : String.ofList (Json.Written.object members).chars = repeatingText := by rfl
  exact ⟨members, htext ▸ Json.isTextOf_chars _, rfl⟩

/-- A field of a document with a repeated member is replaced, and another one is added. -/
theorem inserted_remembers_history_repeating :
    IsRead repeatingText repeatingMembers ∧
      ∃ start, parse repeatingText = .ok start ∧
        let bag := (start.insert "c" .null).insert "a" (.scalar (.bool false))
        bag.names = ["b", "a", "c"] ∧ bag.find? "b" = some .null ∧
          bag.find? "a" = some (.scalar (.bool false)) ∧ bag.size = 3 := by
  have hparse : parse repeatingText = .ok (ofMembers repeatingMembers) :=
    parse_eq_ok_iff_isRead.mpr ⟨_, isRead_repeatingText, rfl⟩
  obtain ⟨hnames, -, hfind, -, -, hsize, -⟩ :=
    inserted_remembers_history (.document isRead_repeatingText (.inl hparse))
      [("c", .null), ("a", .scalar (.bool false))]
  refine ⟨isRead_repeatingText, _, hparse, hnames.trans (by decide), ?_, ?_,
    hsize.trans (by decide)⟩
  · exact (hfind "b").trans (by simp [repeatingMembers, Value.ofJson])
  · exact (hfind "a").trans (by simp [repeatingMembers])

end Bag

end RequestFilter

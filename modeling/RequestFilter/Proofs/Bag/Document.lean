import RequestFilter.Bag
import RequestFilter.Proofs.Json.Spelled
import RequestFilter.Proofs.OrderedMap

/-!
# The bag of a document

A bag can be made of the whole tree of a document or of the members of an object
as they come. Both ways accept the same texts, and what they make of them is told
from the members that the text gives to its object.
-/

namespace RequestFilter

namespace Bag

open Json

theorem find?_ofMembers (members : List (String × Json)) (name : String) :
    (ofMembers members).find? name =
      (members.filter fun member => member.1 = name).getLast?.map
        fun member => Value.ofJson member.2 := by
  rw [ofMembers, OrderedMap.find?_ofList, List.filter_map, List.getLast?_map, Option.map_map]
  rfl

theorem names_ofMembers (members : List (String × Json)) :
    (ofMembers members).names = (members.map Prod.fst).eraseDups := by
  rw [ofMembers, OrderedMap.names_ofList, List.map_map]
  rfl

/-- Members that are given again are overwritten in a tree as they are in a bag. -/
theorem ofMembers_distinctMembers (members : List (String × Json)) :
    ofMembers (distinctMembers members) = ofMembers members := by
  calc ofMembers (distinctMembers members)
    _ = OrderedMap.ofList ((OrderedMap.ofList members).map Value.ofJson).entries := rfl
    _ = (OrderedMap.ofList members).map Value.ofJson := OrderedMap.ofList_entries _
    _ = ofMembers members := OrderedMap.map_ofList Value.ofJson members

/-- The members of the object that a text gives, each with the tree of its value, in the order of
the text and as often as they are given. -/
def IsRead (text : String) (read : List (String × Json)) : Prop :=
  ∃ members, IsTextOf (.object members) text ∧
    Written.readMembers (maxLevels - 1) members = .ok read

theorem read_eq_object_iff {levels : Nat} {written : Written} {members : List (String × Json)} :
    written.read (levels + 1) = .ok (.object members) ↔
      ∃ given read, written = .object given ∧ Written.readMembers levels given = .ok read ∧
        members = distinctMembers read := by
  constructor
  · intro h
    cases Written.isTree_of_read h with
    | object hread => exact ⟨_, _, rfl, hread, rfl⟩
  · rintro ⟨given, read, rfl, hread, rfl⟩
    rw [Written.read, hread]
    rfl

/-- The tree of a text gives the bag that its members give. -/
theorem parse_eq_ok_iff_isRead {text : String} {bag : Bag} :
    parse text = .ok bag ↔ ∃ read, IsRead text read ∧ bag = ofMembers read := by
  constructor
  · intro h
    cases hparse : Json.parse text with
    | error error =>
        rw [parse, hparse] at h
        cases h
    | ok document =>
        rw [parse, hparse] at h
        cases document with
        | object members =>
            obtain ⟨written, htext, hread⟩ := Json.parse_eq_ok_iff.mp hparse
            obtain ⟨given, read, rfl, hgiven, rfl⟩ := read_eq_object_iff.mp hread
            cases h
            exact ⟨read, ⟨given, htext, hgiven⟩, ofMembers_distinctMembers read⟩
        | _ => cases h
  · rintro ⟨read, ⟨given, htext, hgiven⟩, rfl⟩
    have hread : (Written.object given).read maxLevels = .ok (.object (distinctMembers read)) :=
      read_eq_object_iff.mpr ⟨given, read, rfl, hgiven, rfl⟩
    rw [parse, Json.parse_eq_ok_iff.mpr ⟨_, htext, hread⟩, ← ofMembers_distinctMembers]
    rfl

/-- The text of an object that cannot be read is refused for the first fault of its members. -/
theorem parse_of_readMembers_eq_error {text : String} {members : List (String × Written)}
    (htext : IsTextOf (.object members) text) {fault : Fault}
    (h : Written.readMembers (maxLevels - 1) members = .error fault) :
    ∃ place, parse text = .error (.malformed ⟨fault, place⟩) := by
  have hread : (Written.object members).read maxLevels = .error fault := by
    change (Written.readMembers (maxLevels - 1) members >>= _) = _
    rw [h]
    rfl
  have hparse := parse_mapError_fault htext
  rw [hread] at hparse
  cases htree : Json.parse text with
  | ok document =>
      rw [htree] at hparse
      cases hparse
  | error error =>
      rw [htree] at hparse
      cases hparse
      refine ⟨error.place, ?_⟩
      rw [parse, htree]

theorem run_map {α β : Type} (f : α → β) (reader : Reader α) (text : String) :
    Reader.run (do return f (← reader)) text = (reader.run text).map f := by
  rw [Reader.run, Reader.run]
  change (((reader (Cursor.start text.toList)) >>= fun answer => pure (f answer.1, answer.2)) >>=
    _) = _
  cases reader (Cursor.start text.toList) with
  | error error => rfl
  | ok answer =>
      change (Reader.atEnd answer.2 >>= fun _ => Except.ok (f answer.1)) =
        (Reader.atEnd answer.2 >>= fun _ => Except.ok answer.1).map f
      cases Reader.atEnd answer.2 with
      | error error => rfl
      | ok ended => rfl

theorem parseMembers_eq_ok_iff_isRead {text : String} {bag : Bag} :
    parseMembers text = .ok bag ↔ ∃ read, IsRead text read ∧ bag = ofMembers read := by
  have hrun : ∀ {read}, (Reader.members maxLevels "a map").run text = .ok read ↔ IsRead text read :=
    run_members_eq_ok_iff
  rw [parseMembers, reader, run_map]
  cases hmembers : (Reader.members maxLevels "a map").run text with
  | error error =>
      constructor
      · intro h
        cases h
      · rintro ⟨read, hread, -⟩
        rw [hrun.mpr hread] at hmembers
        cases hmembers
  | ok read =>
      constructor
      · intro h
        cases h
        exact ⟨read, hrun.mp hmembers, rfl⟩
      · rintro ⟨read', hread, rfl⟩
        rw [hrun.mpr hread] at hmembers
        cases hmembers
        rfl

theorem toOption_eq_some_iff {ε α : Type} {result : Except ε α} {a : α} :
    result.toOption = some a ↔ result = .ok a := by
  cases result <;> simp [Except.toOption]

/-- Both ways of making a bag of a text accept the same texts and give the same bag: the names of
the object's members, each once and where it occurs first, with the last values given for them. -/
theorem parse_agrees_with_parseMembers (text : String) :
    (parse text).toOption = (parseMembers text).toOption ∧
      ∀ bag, parse text = .ok bag ↔ ∃ read, IsRead text read ∧
        bag.names = (read.map Prod.fst).eraseDups ∧
        ∀ name, bag.find? name = (read.filter fun member => member.1 = name).getLast?.map
          fun member => Value.ofJson member.2 := by
  constructor
  · ext bag
    rw [toOption_eq_some_iff, toOption_eq_some_iff, parse_eq_ok_iff_isRead,
      parseMembers_eq_ok_iff_isRead]
  · intro bag
    rw [parse_eq_ok_iff_isRead]
    refine exists_congr fun read => and_congr_right fun _ => ?_
    constructor
    · rintro rfl
      exact ⟨names_ofMembers read, find?_ofMembers read⟩
    · rintro ⟨hnames, hfind⟩
      apply OrderedMap.ext_find?
      · rw [hnames, names_ofMembers]
      · exact fun name => (hfind name).trans (find?_ofMembers read name).symm

/-- A member that is given again keeps its first place. -/
example : (parseMembers "\x7b\"a\": 1, \"b\": null, \"a\": [true, \"x\"]\x7d ").toOption.map
      (fun bag => bag.entries.map fun entry => (entry.1, entry.2.scalars)) =
    some [("a", [.bool true, .string "x"]), ("b", [])] := by
  decide +kernel

end Bag

end RequestFilter

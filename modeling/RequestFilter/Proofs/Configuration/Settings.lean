import Mathlib.Data.List.Induction
import RequestFilter.Configuration.Read
import RequestFilter.Proofs.Json.Shapes

/-!
# The settings of a document

What a configuration file declares is told from its document: each setting is what
the members of its name give, of which there may be one. The readers of the format
come to these settings, in whatever order the members stand.
-/

namespace RequestFilter

open Json (AreBlank Accepts Decides Denotes EndsNumeral Goes IsTextOf ItemsAt MembersAt Refuses
  Spelling TypedReader Written maxLevels once?)

namespace Json.Written

/-- The values that the members of an object give to a name. -/
def givenFor (name : String) (members : List (String × Written)) : List Written :=
  (members.filter fun member => member.1 = name).map Prod.snd

/-- What is given once at most. -/
def atMostOnce? {α : Type} (meaning : Written → Option α) : List Written → Option (Option α)
  | [] => some none
  | [written] => (meaning written).map some
  | _ => none

/-- A further member adds its value to those of its name, and leaves the other names alone. -/
theorem givenFor_append_singleton (name : String) (members : List (String × Written))
    (member : String × Written) :
    givenFor name (members ++ [member]) =
      if member.1 = name then givenFor name members ++ [member.2] else givenFor name members := by
  unfold givenFor
  rw [List.filter_append, List.map_append]
  split
  next h => simp [h]
  next h => simp [h]

/-- A value that is given after others is taken if there is none before it. -/
theorem atMostOnce?_append_singleton {α : Type} (meaning : Written → Option α)
    (values : List Written) (written : Written) :
    atMostOnce? meaning (values ++ [written]) =
      (atMostOnce? meaning values).bind fun present => (once? meaning present written).map some := by
  match values with
  | [] => rfl
  | [first] => cases hfirst : meaning first <;> simp [atMostOnce?, once?, hfirst]
  | _ :: _ :: _ => simp [atMostOnce?]

/-- What a record holds of a value that may be missing is what it takes in of one that is given. -/
theorem bind_map_some {α β : Type} (value : Option α) (record : Option α → β) :
    ((value.map some).bind fun present => some (record present)) =
      value.map fun given => record (some given) := by
  cases value <;> rfl

end Json.Written

namespace ConfigurationFile

open Json.Written

/-- A record that takes one member more by a step is what the steps of all members come to. -/
theorem foldlM_eq_of_append_singleton {σ β : Type} {take : σ → β → Option σ} {start : σ}
    (record? : List β → Option σ) (hnil : record? [] = some start)
    (hstep : ∀ members member, record? (members ++ [member]) =
      (record? members).bind fun record => take record member) (members : List β) :
    members.foldlM take start = record? members := by
  induction members using List.reverseRecOn with
  | nil => exact hnil.symm
  | append_singleton members member ih =>
      rw [List.foldlM_append, ih, hstep]
      exact congrArg _ (funext fun record => bind_pure _)

section Tables

/-- What a member changes in the record of a table. -/
def takeTable (record : TableRecord) (member : String × Written) : Option TableRecord :=
  if member.1 = "schema" then
    (once? nullableText? record.schema member.2).map fun schema =>
      { record with schema := some schema }
  else if member.1 = "name" then
    (once? text? record.name member.2).map fun name => { record with name := some name }
  else if member.1 = "alias" then
    (once? nullableText? record.knownAs member.2).map fun knownAs =>
      { record with knownAs := some knownAs }
  else some record

/-- The reader of table members changes the record as the member tells. -/
theorem accepts_tableMember : Accepts tableMember takeTable where
  taken := by
    intro name read hread record written cs before behind rest hplain h hbefore hbehind hrest
    unfold tableMember at hread
    unfold takeTable
    split at hread
    next hname =>
      cases hread
      rw [if_pos hname]
      exact (Json.decides_once Json.denotes_nullableString name _ hplain h hbefore hbehind
        hrest).bind_pure _
    next hschema =>
    split at hread
    next hname =>
      cases hread
      rw [if_neg hschema, if_pos hname]
      exact (Json.decides_once Json.denotes_string name _ hplain h hbefore hbehind hrest).bind_pure _
    next hname =>
    split at hread
    next halias =>
      cases hread
      rw [if_neg hschema, if_neg hname, if_pos halias]
      exact (Json.decides_once Json.denotes_nullableString name _ hplain h hbefore hbehind
        hrest).bind_pure _
    next => cases hread
  passed := by
    intro name hname record written
    unfold tableMember at hname
    unfold takeTable
    split_ifs at hname ⊢
    rfl

/-- What the members of an object give for a table. -/
def tableRecord? (members : List (String × Written)) : Option TableRecord := do
  let schema ← atMostOnce? nullableText? (givenFor "schema" members)
  let name ← atMostOnce? text? (givenFor "name" members)
  let knownAs ← atMostOnce? nullableText? (givenFor "alias" members)
  return ⟨schema, name, knownAs⟩

/-- The settings of a table with one member more are those before, changed by the member. -/
theorem tableRecord?_append_singleton (members : List (String × Written))
    (member : String × Written) :
    tableRecord? (members ++ [member]) =
      (tableRecord? members).bind fun record => takeTable record member := by
  unfold tableRecord? takeTable
  simp only [givenFor_append_singleton]
  -- all settings but the one that the member gives stay what they are
  cases hschema : atMostOnce? nullableText? (givenFor "schema" members) with
  | none => split_ifs <;> simp [atMostOnce?_append_singleton, hschema]
  | some schema =>
  cases hname : atMostOnce? text? (givenFor "name" members) with
  | none => split_ifs <;> simp [atMostOnce?_append_singleton, hschema, hname]
  | some name =>
  cases halias : atMostOnce? nullableText? (givenFor "alias" members) with
  | none => split_ifs <;> simp [atMostOnce?_append_singleton, hschema, hname, halias]
  | some knownAs =>
  split_ifs <;> simp_all [atMostOnce?_append_singleton, bind_map_some]

/-- Member by member, the record of a table becomes what the settings are. -/
theorem foldlM_takeTable (members : List (String × Written)) :
    members.foldlM takeTable ⟨none, none, none⟩ = tableRecord? members :=
  foldlM_eq_of_append_singleton tableRecord? rfl tableRecord?_append_singleton members

/-- A table needs a name. -/
def tableOf? (members : List (String × Written)) : Option TableSettings :=
  (tableRecord? members).bind fun record =>
    record.name.map fun name => ⟨record.schema.join, name, record.knownAs.join⟩

/-- A table whose settings are listed has two or three of them. -/
def listedTable? : List Written → Option TableSettings
  | [schema, name] => do return ⟨← schema.nullableText?, ← name.text?, none⟩
  | [schema, name, knownAs] => do
      return ⟨← schema.nullableText?, ← name.text?, ← knownAs.nullableText?⟩
  | _ => none

/-- The members of a table decide its settings, in whatever order they stand. -/
theorem decides_tableMembers {given : List (String × Written)} (hplain : IsPlain (.object given))
    {cs : List Char} (h : MembersAt true given cs) (rest : List Char) :
    Decides tableMembers (cs ++ rest) (tableOf? given) ('\x7d' :: rest) := by
  unfold tableMembers tableOf?
  refine (Json.Reader.goes_fuelLeft _).ofReader.decides ?_
  have hall := Json.decides_membersInto accepts_tableMember hplain.member h
    (Json.lt_fuelLeft cs rest) ⟨none, none, none⟩ rest
  rw [foldlM_takeTable] at hall
  refine hall.bind fun record => ?_
  cases record.name with
  | none => exact (Json.refuses_refuse _).decides _ _
  | some name => exact .pure _ _

/-- A setting of a listed table that may be missing at the end. -/
def optionalItem (first : Bool) : TypedReader (Option String) := do
  if ← TypedReader.ofReader (TypedReader.hasItem first) then
    TypedReader.ofReader Json.Reader.nullableString
  else pure none

theorem optionalItem_bind {β : Type} (first : Bool) (next : Option String → TypedReader β) :
    optionalItem first >>= next = (do
      if ← TypedReader.ofReader (TypedReader.hasItem first) then do
        let setting ← TypedReader.ofReader Json.Reader.nullableString
        next setting
      else do
        let setting ← pure none
        next setting) := by
  rw [optionalItem, bind_assoc]
  exact congrArg _ (funext fun found => by cases found <;> rfl)

theorem tableItems_eq : tableItems = (do
    let schema ← optionalItem true
    if ← TypedReader.ofReader (TypedReader.hasItem false) then
      let name ← TypedReader.ofReader Json.Reader.string
      let knownAs ← optionalItem false
      pure ⟨schema, name, knownAs⟩
    else TypedReader.refuse (.wrongLength 1 "struct TableSettings with 3 elements")) := by
  simp only [optionalItem_bind]
  rfl

/-- At the end of a list, an optional item is missing. -/
theorem goes_optionalItem_nil {first : Bool} {cs : List Char} (h : ItemsAt first [] cs)
    (rest : List Char) : Goes (optionalItem first) (cs ++ rest) none (']' :: rest) :=
  (Json.goes_hasItem_nil h rest).ofReader.bind (.pure none _)

/-- An optional item that is there is decided, and the reader stops in front of the next one. -/
theorem exists_decides_optionalItem {first : Bool} {item : Written} {items : List Written}
    {cs : List Char} (h : ItemsAt first (item :: items) cs) (hplain : item.IsPlain) :
    ∃ tail, Json.ItemsBehind items tail ∧
      ∀ rest, Decides (optionalItem first) (cs ++ rest) item.nullableText? (tail ++ rest) := by
  obtain ⟨inside, tail, hspelling, htail, -, hgoes⟩ := Json.exists_item h
  refine ⟨tail, htail, fun rest => (hgoes rest).ofReader.decides ?_⟩
  exact (Json.denotes_nullableString hplain hspelling Json.areBlank_nil
    (htail.endsNumeral rest)).ofReader

/-- What a listed table is by the settings behind its schema. -/
def listedFrom? (schema : Option String) : List Written → Option TableSettings
  | [name] => do return ⟨schema, ← name.text?, none⟩
  | [name, knownAs] => do return ⟨schema, ← name.text?, ← knownAs.nullableText?⟩
  | _ => none

theorem listedTable?_cons (schema : Written) (others : List Written) :
    listedTable? (schema :: others) =
      schema.nullableText?.bind fun found => listedFrom? found others := by
  match others with
  | [] | _ :: _ :: _ :: _ => exact (Option.bind_fun_none _).symm
  | [_] => rfl
  | [_, _] => rfl

/-- Settings of a table that are listed come to a table if there are two or three of them. -/
theorem decides_tableItems {given : List Written} (hplain : IsPlain (.array given))
    {cs : List Char} (h : ItemsAt true given cs) (rest : List Char) :
    Decides (TypedReader.list tableItems) (cs ++ rest) (listedTable? given) rest := by
  have hitems := hplain.item
  cases given with
  | nil =>
      refine Decides.list ?_
      rw [tableItems_eq]
      refine (goes_optionalItem_nil h rest).decides ?_
      refine (Json.goes_hasItem_end Json.areBlank_nil false rest).ofReader.decides ?_
      exact (Json.refuses_refuse _).decides _ _
  | cons schema others =>
      obtain ⟨hschema, hothers⟩ := List.forall_mem_cons.mp hitems
      obtain ⟨tail, htail, hread⟩ := exists_decides_optionalItem h hschema
      rw [listedTable?_cons]
      cases others with
      | nil =>
          refine Decides.list ?_
          rw [tableItems_eq]
          refine (hread rest).bind fun found => ?_
          refine (Json.goes_hasItem_nil (.next htail) rest).ofReader.decides ?_
          exact (Json.refuses_refuse _).decides _ _
      | cons name others =>
          obtain ⟨hname, hothers⟩ := List.forall_mem_cons.mp hothers
          obtain ⟨inside, behind, hspelling, hbehind, -, hgoes⟩ := Json.exists_item (.next htail)
          have hreadName := (Json.denotes_string hname hspelling Json.areBlank_nil
            (hbehind.endsNumeral rest)).ofReader
          cases others with
          | nil =>
              refine Decides.list ?_
              rw [tableItems_eq]
              refine (hread rest).bind fun found => ?_
              refine (hgoes rest).ofReader.decides (hreadName.bind fun value => ?_)
              exact (goes_optionalItem_nil (.next hbehind) rest).decides (.pure _ _)
          | cons knownAs others =>
              obtain ⟨hknownAs, -⟩ := List.forall_mem_cons.mp hothers
              obtain ⟨last, hlast, hreadAlias⟩ :=
                exists_decides_optionalItem (.next hbehind) hknownAs
              have hall : Decides tableItems (cs ++ rest) (schema.nullableText?.bind fun found =>
                  listedFrom? found [name, knownAs]) (last ++ rest) := by
                rw [tableItems_eq]
                refine (hread rest).bind fun found => ?_
                refine (hgoes rest).ofReader.decides (hreadName.bind fun value => ?_)
                exact (hreadAlias rest).bind fun found => .pure _ _
              cases others with
              | nil => exact hall.list_behind hlast
              | cons more others =>
                  rw [show (fun found => listedFrom? found (name :: knownAs :: more :: others)) =
                    fun _ => none from rfl, Option.bind_fun_none]
                  exact Json.decides_list_longer hlast hall

end Tables

/-- A table is an object of its settings or a list of them. -/
theorem denotes_tableSettings : Denotes tableSettings (Json.recordOf? tableOf? listedTable?) :=
  Json.denotes_record (fun _ _ _ hplain h => decides_tableMembers hplain h _)
    fun _ _ _ hplain h => decides_tableItems hplain h _

section Fields

/-- A field that is declared by an object has one name, and an operator once at most. -/
def detailedOf? (members : List (String × Written)) : Option FieldDeclaration := do
  let name ← atMostOnce? text? (givenFor "name" members)
  let operator ← atMostOnce? nullableText? (givenFor "operator" members)
  name.map fun name => .detailed name operator.join

def fieldOf? : Written → Option FieldDeclaration
  | .string name => some (.bare name)
  | .object members => detailedOf? members
  | _ => none

/-- What is given for a name is read value by value. -/
theorem forall₂_givenFor {levels : Nat} {members : List (String × Written)}
    {read : List (String × Json)} (h : readMembers levels members = .ok read) (name : String) :
    List.Forall₂ (fun written document => written.read levels = .ok document)
      (givenFor name members) (valuesOf name read) := by
  unfold givenFor valuesOf
  rw [List.forall₂_map_left_iff, List.forall₂_map_right_iff]
  have hfilter := List.rel_filter (p := fun member => decide (member.1 = name))
    (q := fun entry => decide (entry.1 = name)) ?_ (forall₂_of_readMembers h)
  · exact hfilter.imp fun _ _ hread => hread.2
  · rintro member entry ⟨hname, -⟩
    simp only [hname]

/-- A field with details is told from the written members as from the ones that were read. -/
theorem detailedField?_eq {levels : Nat} {members : List (String × Written)}
    {read : List (String × Json)} (h : readMembers levels members = .ok read) :
    detailedField? read = detailedOf? members := by
  have hnames := forall₂_givenFor h "name"
  have hoperators := forall₂_givenFor h "operator"
  unfold detailedField? detailedOf?
  generalize givenFor "name" members = names at hnames ⊢
  generalize givenFor "operator" members = operators at hoperators ⊢
  generalize valuesOf "name" read = readNames at hnames ⊢
  generalize valuesOf "operator" read = readOperators at hoperators ⊢
  -- one name decides, then no operator or one, and by each what kind of document it is
  rcases hnames with _ | ⟨hname, _ | ⟨_, _⟩⟩
  · cases hoperator : atMostOnce? nullableText? operators <;> rfl
  · rcases hoperators with _ | ⟨hoperator, _ | ⟨_, _⟩⟩
    · cases isTree_of_read hname <;> rfl
    · cases isTree_of_read hname <;> cases isTree_of_read hoperator <;> rfl
    · cases isTree_of_read hname <;> simp [atMostOnce?]
  · simp [atMostOnce?]

/-- A field is a name alone or an object with details. -/
theorem denotes_field : Denotes field fieldOf? := by
  intro written cs blanks rest hplain h hblanks hrest
  obtain ⟨document, hread⟩ := hplain.exists_read (maxLevels - 2) (by decide)
  have hvalue := Json.goes_value h hread Json.areBlank_nil hrest
  have hrefused : Decides (TypedReader.refuse (α := FieldDeclaration)
      (.noMatch "FieldDeclaration")) rest none rest := (Json.refuses_refuse _).decides _ _
  unfold field
  by_cases hobject : ∃ members, written = .object members
  · obtain ⟨members, rfl⟩ := hobject
    obtain ⟨read, hread⟩ := hplain.exists_readMembers (maxLevels - 3) (by decide)
    have hmembers := Json.comes_objectMembers h (maxLevels - 3) "a map" Json.areBlank_nil rest
    rw [hread] at hmembers
    obtain ⟨c, others, rfl, hopens⟩ := h.exists_opens
    obtain rfl := hopens.object.mpr ⟨members, rfl⟩
    rw [List.cons_append]
    refine (Json.Reader.goes_peekToken_cons hblanks hopens.notBlank _).ofReader.decides ?_
    refine (Goes.ofReader hmembers).decides ?_
    rw [fieldOf?, ← detailedField?_eq hread]
    cases detailedField? read with
    | some declaration => exact .pure declaration rest
    | none => exact hrefused
  · obtain ⟨c, others, rfl, hopens⟩ := h.exists_opens
    rw [List.cons_append]
    refine (Json.Reader.goes_peekToken_cons hblanks hopens.notBlank _).ofReader.decides ?_
    have hc := hopens.object.not.mpr hobject
    dsimp only
    split
    next heq => exact absurd (Option.some.inj heq) hc
    next =>
      refine hvalue.ofReader.decides ?_
      cases isTree_of_read hread with
      | string name => exact .pure (FieldDeclaration.bare name) rest
      | object => exact absurd ⟨_, rfl⟩ hobject
      | null | bool | numeral | array => exact hrefused

def fieldsOf? : Written → Option (List FieldDeclaration)
  | .array items => items.mapM fieldOf?
  | _ => none

/-- The fields are a list, each item of which is a field. -/
theorem denotes_fieldList : Denotes fieldList fieldsOf? := by
  intro written cs blanks rest hplain h hblanks hrest
  obtain ⟨c, others, rfl, hopens⟩ := h.exists_opens
  rw [List.cons_append]
  refine (Json.Reader.goes_peekToken_cons hblanks hopens.notBlank _).decides ?_
  dsimp only
  by_cases hlist : ∃ items, written = .array items
  · obtain ⟨items, rfl⟩ := hlist
    obtain rfl := hopens.list.mpr ⟨items, rfl⟩
    rw [if_pos rfl]
    refine (Json.Reader.goes_skip _ _).decides (Decides.list ?_)
    refine (Json.Reader.goes_fuelLeft _).ofReader.decides ?_
    exact Json.decides_items denotes_field hplain.item (.first h)
      (Json.lt_fuelLeft others rest) rest
  · have hnone : fieldsOf? written = none := by
      cases written with
      | array items => exact absurd ⟨items, rfl⟩ hlist
      | _ => rfl
    rw [if_neg (hopens.list.not.mpr hlist), hnone]
    exact (Json.refuses_refuseType _).decides _ _

end Fields

section Files

/-- What a member changes in the record of a file. -/
def takeFile (record : Record) (member : String × Written) : Option Record :=
  if member.1 = "version" then
    (once? (tree? (maxLevels - 1)) record.version member.2).map fun version =>
      { record with version := some version }
  else if member.1 = "table" then
    (once? (Json.recordOf? tableOf? listedTable?) record.table member.2).map fun table =>
      { record with table := some table }
  else if member.1 = "fields" then
    (once? fieldsOf? record.fields member.2).map fun fields =>
      { record with fields := some fields }
  else if member.1 = "customRulePrefix" then
    (once? nullableText? record.rulePrefix member.2).map fun rulePrefix =>
      { record with rulePrefix := some rulePrefix }
  else some record

/-- The reader of file members changes the record as the member tells. -/
theorem accepts_fileMember : Accepts fileMember takeFile where
  taken := by
    intro name read hread record written cs before behind rest hplain h hbefore hbehind hrest
    unfold fileMember at hread
    unfold takeFile
    split at hread
    next hname =>
      cases hread
      rw [if_pos hname]
      exact (Json.decides_once (Json.denotes_value _) name _ hplain h hbefore hbehind
        hrest).bind_pure _
    next hversion =>
    split at hread
    next hname =>
      cases hread
      rw [if_neg hversion, if_pos hname]
      exact (Json.decides_once denotes_tableSettings name _ hplain h hbefore hbehind
        hrest).bind_pure _
    next htable =>
    split at hread
    next hname =>
      cases hread
      rw [if_neg hversion, if_neg htable, if_pos hname]
      exact (Json.decides_once denotes_fieldList name _ hplain h hbefore hbehind hrest).bind_pure _
    next hfields =>
    split at hread
    next hname =>
      cases hread
      rw [if_neg hversion, if_neg htable, if_neg hfields, if_pos hname]
      exact (Json.decides_once Json.denotes_nullableString name _ hplain h hbefore hbehind
        hrest).bind_pure _
    next => cases hread
  passed := by
    intro name hname record written
    unfold fileMember at hname
    unfold takeFile
    split_ifs at hname ⊢
    rfl

/-- What the members of an object give for a file. -/
def fileRecord? (members : List (String × Written)) : Option Record := do
  let version ← atMostOnce? (tree? (maxLevels - 1)) (givenFor "version" members)
  let table ← atMostOnce? (Json.recordOf? tableOf? listedTable?) (givenFor "table" members)
  let fields ← atMostOnce? fieldsOf? (givenFor "fields" members)
  let rulePrefix ← atMostOnce? nullableText? (givenFor "customRulePrefix" members)
  return ⟨version, table, fields, rulePrefix⟩

/-- The settings of a file with one member more are those before, changed by the member. -/
theorem fileRecord?_append_singleton (members : List (String × Written))
    (member : String × Written) :
    fileRecord? (members ++ [member]) =
      (fileRecord? members).bind fun record => takeFile record member := by
  unfold fileRecord? takeFile
  simp only [givenFor_append_singleton]
  cases hversion : atMostOnce? (tree? (maxLevels - 1)) (givenFor "version" members) with
  | none => split_ifs <;> simp [atMostOnce?_append_singleton, hversion]
  | some version =>
  cases htable : atMostOnce? (Json.recordOf? tableOf? listedTable?) (givenFor "table" members) with
  | none => split_ifs <;> simp [atMostOnce?_append_singleton, hversion, htable]
  | some table =>
  cases hfields : atMostOnce? fieldsOf? (givenFor "fields" members) with
  | none => split_ifs <;> simp [atMostOnce?_append_singleton, hversion, htable, hfields]
  | some fields =>
  cases hprefix : atMostOnce? nullableText? (givenFor "customRulePrefix" members) with
  | none => split_ifs <;> simp [atMostOnce?_append_singleton, hversion, htable, hfields, hprefix]
  | some rulePrefix =>
  split_ifs <;> simp_all [atMostOnce?_append_singleton, bind_map_some]

/-- Member by member, the record of a file becomes what the settings are. -/
theorem foldlM_takeFile (members : List (String × Written)) :
    members.foldlM takeFile ⟨none, none, none, none⟩ = fileRecord? members :=
  foldlM_eq_of_append_singleton fileRecord? rfl fileRecord?_append_singleton members

/-- A file needs a table. -/
def fileOf? (members : List (String × Written)) : Option ConfigurationFile :=
  (fileRecord? members).bind fun record =>
    record.table.map fun table => ⟨table, record.fields.getD [], record.rulePrefix.join⟩

/-- The members of a file decide its settings, in whatever order they stand. -/
theorem decides_fileMembers {given : List (String × Written)} (hplain : IsPlain (.object given))
    {cs : List Char} (h : MembersAt true given cs) (rest : List Char) :
    Decides fileMembers (cs ++ rest) (fileOf? given) ('\x7d' :: rest) := by
  unfold fileMembers fileOf?
  refine (Json.Reader.goes_fuelLeft _).ofReader.decides ?_
  have hall := Json.decides_membersInto accepts_fileMember hplain.member h
    (Json.lt_fuelLeft cs rest) ⟨none, none, none, none⟩ rest
  rw [foldlM_takeFile] at hall
  refine hall.bind fun record => ?_
  cases record.table with
  | none => exact (Json.refuses_refuse _).decides _ _
  | some table => exact .pure _ _

end Files

section Version

/-- What a member changes in the version that has been found. -/
def takeVersion (present : Option Json) (member : String × Written) : Option (Option Json) :=
  if member.1 = "version" then (once? (tree? (maxLevels - 1)) present member.2).map some
  else some present

/-- The reader of a version member. -/
def readVersion (name : String) : Option (Option Json → TypedReader (Option Json)) :=
  if name = "version" then some fun present =>
    some <$> TypedReader.once name present (Json.Reader.value (maxLevels - 1))
  else none

/-- Of all members, only those of the version change what was found. -/
theorem accepts_readVersion : Accepts readVersion takeVersion where
  taken := by
    intro name read hread record written cs before behind rest hplain h hbefore hbehind hrest
    unfold readVersion at hread
    unfold takeVersion
    split at hread
    next hname =>
      cases hread
      rw [if_pos hname]
      exact (Json.decides_once (Json.denotes_value _) name _ hplain h hbefore hbehind hrest).map _
    next => cases hread
  passed := by
    intro name hname record written
    unfold readVersion at hname
    unfold takeVersion
    split_ifs at hname ⊢
    rfl

/-- The version that the members of an object give, which is null if there is none. -/
def versionOf? (members : List (String × Written)) : Option Json :=
  (atMostOnce? (tree? (maxLevels - 1)) (givenFor "version" members)).map (·.getD .null)

/-- Member by member, the version that is found becomes what is given for it. -/
theorem foldlM_takeVersion (members : List (String × Written)) :
    members.foldlM takeVersion none =
      atMostOnce? (tree? (maxLevels - 1)) (givenFor "version" members) := by
  refine foldlM_eq_of_append_singleton (fun members =>
    atMostOnce? (tree? (maxLevels - 1)) (givenFor "version" members)) rfl ?_ members
  intro members member
  simp only [givenFor_append_singleton, takeVersion]
  split_ifs
  · exact atMostOnce?_append_singleton _ _ _
  · exact (bind_pure _).symm

/-- The members of a file decide its version, whatever the others are. -/
theorem decides_versionMember {given : List (String × Written)} (hplain : IsPlain (.object given))
    {cs : List Char} (h : MembersAt true given cs) (rest : List Char) :
    Decides versionMember (cs ++ rest) (versionOf? given) ('\x7d' :: rest) := by
  refine (Json.Reader.goes_fuelLeft _).ofReader.decides ?_
  have hall := Json.decides_membersInto accepts_readVersion hplain.member h
    (Json.lt_fuelLeft cs rest) none rest
  rw [foldlM_takeVersion] at hall
  exact hall.bind_pure _

end Version

section Texts

variable {members : List (String × Written)} {text : String}

/-- The first pass over a document finds its version. -/
theorem version_run (h : IsTextOf (.object members) text) (hplain : IsPlain (.object members)) :
    ∀ found, versionOf? members = some found → version.run text = .ok found := by
  obtain ⟨front, cs, back, hfront, hspelling, hback, htext⟩ := h
  have hdecides : Decides version text.toList (versionOf? members) back := by
    rw [htext]
    exact Json.decides_record_object hspelling hfront fun _ h => decides_versionMember hplain h _
  exact (hdecides.run hback).1

/-- The second pass finds the settings, or fails where there are none. -/
theorem settings_run (h : IsTextOf (.object members) text) (hplain : IsPlain (.object members)) :
    (∀ file, fileOf? members = some file → settings.run text = .ok file) ∧
      (fileOf? members = none → ∃ error, settings.run text = .error error) := by
  obtain ⟨front, cs, back, hfront, hspelling, hback, htext⟩ := h
  have hdecides : Decides settings text.toList (fileOf? members) back := by
    rw [htext]
    exact Json.decides_record_object hspelling hfront fun _ h => decides_fileMembers hplain h _
  exact hdecides.run hback

/-- A file of the known version has the settings of its document, or it is malformed. -/
theorem parse_of_isKnownVersion (h : IsTextOf (.object members) text)
    (hplain : IsPlain (.object members)) {found : Json} (hfound : versionOf? members = some found)
    (hknown : isKnownVersion found = true) :
    (∀ file, fileOf? members = some file → parse text = .ok file) ∧
      (fileOf? members = none → ∃ error, parse text = .error (.malformed error)) := by
  obtain ⟨hok, herror⟩ := settings_run h hplain
  rw [parse, version_run h hplain found hfound]
  simp only [hknown, if_true]
  constructor
  · intro file hfile
    rw [hok file hfile]
  · intro hnone
    obtain ⟨error, hrefused⟩ := herror hnone
    exact ⟨error, by rw [hrefused]⟩

end Texts

end ConfigurationFile

end RequestFilter

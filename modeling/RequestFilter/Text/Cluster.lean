import RequestFilter.Text.ClusterTable
import RequestFilter.Text.PrintableTable
import RequestFilter.Text.CharRange

/-!
# Clusters of characters

A text falls into clusters: a character with the marks that attach to it, a
carriage return with its line feed, a Hangul syllable, a conjunct of consonants
tied by linking marks, two regional indicators, or pictographs tied together by
joiners. The rules are those of Unicode's extended grapheme clusters.
-/

namespace RequestFilter

/-- What a character does to the boundaries around it. -/
inductive ClusterClass where
  | carriageReturn
  | lineFeed
  | control
  | extend
  /-- A mark that links the consonants around it. -/
  | linker
  /-- A mark that keeps consonants apart. -/
  | nonJoiner
  | joiner
  | regional
  | prepend
  | spacing
  | leading
  | vowel
  | trailing
  | leadingVowel
  | syllable
  | consonant
  | pictograph
  | other
deriving DecidableEq

namespace ClusterClass

/-- The class of a code point beyond ASCII. -/
def ofCodePoint (n : Nat) : ClusterClass :=
  if n = 0x200D then .joiner
  else if n = 0x200C then .nonJoiner
  else if inRanges linkerRanges n then .linker
  else if inRanges controlRanges n then .control
  else if inRanges extendingRanges n || (0x1F3FB ≤ n && n ≤ 0x1F3FF) then .extend
  else if 0x1F1E6 ≤ n ∧ n ≤ 0x1F1FF then .regional
  else if inRanges prependRanges n then .prepend
  else if inRanges spacingMarkRanges n then .spacing
  else if inRanges [(0x1100, 0x115F), (0xA960, 0xA97C)] n then .leading
  else if inRanges [(0x1160, 0x11A7), (0xD7B0, 0xD7C6), (0x16D63, 0x16D63),
      (0x16D67, 0x16D6A)] n then .vowel
  else if inRanges [(0x11A8, 0x11FF), (0xD7CB, 0xD7FB)] n then .trailing
  else if 0xAC00 ≤ n ∧ n ≤ 0xD7A3 then
    if (n - 0xAC00) % 28 = 0 then .leadingVowel else .syllable
  else if inRanges consonantRanges n then .consonant
  else if inRanges pictographRanges n then .pictograph
  else .other

def of (c : Char) : ClusterClass :=
  if isAscii c then
    if c = '\r' then .carriageReturn
    else if c = '\n' then .lineFeed
    else if c.toNat < 32 ∨ c.toNat = 127 then .control
    else .other
  else ofCodePoint c.toNat

/-- Whether a boundary stands next to this class whatever is on its other side. -/
def isBreaking : ClusterClass → Bool
  | .carriageReturn | .lineFeed | .control => true
  | _ => false

/-- Whether a mark of this class attaches to whatever is before it. -/
def isMark : ClusterClass → Bool
  | .extend | .linker | .nonJoiner => true
  | _ => false

/-- Whether a conjunct of consonants can go on after this class. -/
def keepsConjunct : ClusterClass → Bool
  | .extend | .linker | .joiner => true
  | _ => false

end ClusterClass

/-- What the rules need to know of the cluster read so far. -/
structure ClusterState where
  last : ClusterClass
  /-- The cluster ends in a single regional indicator that waits for its partner. -/
  oddRegional : Bool
  /-- The cluster ends in a consonant and marks after it. -/
  consonantOpen : Bool
  /-- The cluster ends in a consonant and marks after it, one of which links. -/
  consonantLinked : Bool
  /-- The cluster ends in a pictograph and marks after it. -/
  pictographOpen : Bool
  /-- The cluster ends in a pictograph, marks and a joiner. -/
  pictographJoined : Bool

namespace ClusterState

/-- The state after the first character of a cluster. -/
def start (first : ClusterClass) : ClusterState where
  last := first
  oddRegional := first = .regional
  consonantOpen := first = .consonant
  consonantLinked := false
  pictographOpen := first = .pictograph
  pictographJoined := false

def advance (state : ClusterState) (next : ClusterClass) : ClusterState where
  last := next
  oddRegional := next = .regional && !state.oddRegional
  consonantOpen := next = .consonant || (state.consonantOpen && next.keepsConjunct)
  consonantLinked :=
    (state.consonantOpen && next = .linker) || (state.consonantLinked && next.keepsConjunct)
  pictographOpen := next = .pictograph || (state.pictographOpen && next.isMark)
  pictographJoined := state.pictographOpen && next = .joiner

/-- Whether the next character belongs to the cluster. -/
def takes (state : ClusterState) (next : ClusterClass) : Bool :=
  if state.last = .carriageReturn ∧ next = .lineFeed then true
  else if state.last.isBreaking || next.isBreaking then false
  else if state.last = .leading ∧
      (next = .leading ∨ next = .vowel ∨ next = .leadingVowel ∨ next = .syllable) then true
  else if (state.last = .leadingVowel ∨ state.last = .vowel) ∧
      (next = .vowel ∨ next = .trailing) then true
  else if (state.last = .syllable ∨ state.last = .trailing) ∧ next = .trailing then true
  else if next.isMark || next = .joiner || next = .spacing then true
  else if state.last = .prepend then true
  else if state.consonantLinked ∧ next = .consonant then true
  else if state.pictographJoined ∧ next = .pictograph then true
  else state.oddRegional && next = .regional

end ClusterState

/-- A cluster, in reading order. -/
abbrev Cluster := List Char

/-- The clusters of the remaining characters, given the one in progress with its last
character first. -/
def clustersFrom (state : ClusterState) (current : List Char) : List Char → List Cluster
  | [] => [current.reverse]
  | c :: rest =>
      let next := ClusterClass.of c
      if state.takes next then clustersFrom (state.advance next) (c :: current) rest
      else current.reverse :: clustersFrom (.start next) [c] rest

/-- The clusters of a text, in order; together they are the text. -/
def clusters : List Char → List Cluster
  | [] => []
  | c :: rest => clustersFrom (.start (ClusterClass.of c)) [c] rest

theorem flatten_clustersFrom (state : ClusterState) (current cs : List Char) :
    (clustersFrom state current cs).flatten = current.reverse ++ cs := by
  induction cs generalizing state current with
  | nil => simp [clustersFrom]
  | cons c rest ih =>
      simp only [clustersFrom]
      split <;> simp [ih]

/-- Nothing is lost when a text is cut into clusters. -/
theorem flatten_clusters (cs : List Char) : (clusters cs).flatten = cs := by
  cases cs with
  | nil => rfl
  | cons c rest => simp [clusters, flatten_clustersFrom]

end RequestFilter

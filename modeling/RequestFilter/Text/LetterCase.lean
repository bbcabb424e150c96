import RequestFilter.Text.CaseTable
import RequestFilter.Text.CharRange

/-!
# Upper and lower case

Full case mappings, by which one character may become several. A sigma in lower
case has its final form after a letter when no letter follows.
-/

namespace RequestFilter

namespace CaseRun

/-- The other case of `n`, if the run has it. -/
def otherCase? (run : CaseRun) (n : Nat) : Option Nat :=
  if run.first ≤ n ∧ n ≤ run.last ∧ (n - run.first) % run.step = 0 then
    some ((n : Int) + run.shift).toNat
  else none

end CaseRun

/-- The mapping of a code point by a table of expansions and a table of runs. -/
def caseMapping (expansions : List (Nat × List Nat)) (runs : List CaseRun) (c : Char) :
    List Char :=
  match expansions.lookup c.toNat with
  | some points => points.map Char.ofNat
  | none =>
      match runs.findSome? fun run => run.otherCase? c.toNat with
      | some point => [Char.ofNat point]
      | none => [c]

def upperChar (c : Char) : List Char :=
  if isAscii c then [c.toUpper]
  else caseMapping upperExpansions upperRuns c

/-- The lower case of a character, wherever it stands. -/
def lowerChar (c : Char) : List Char :=
  if isAscii c then [c.toLower]
  else caseMapping lowerExpansions lowerRuns c

def isCased (c : Char) : Bool :=
  inRanges casedRanges c.toNat

def isCaseIgnorable (c : Char) : Bool :=
  inRanges caseIgnorableRanges c.toNat

/-- Whether the first character that counts for case is a letter. -/
def meetsLetter (cs : List Char) : Bool :=
  match cs.dropWhile isCaseIgnorable with
  | [] => false
  | c :: _ => isCased c

def upperChars (cs : List Char) : List Char :=
  cs.flatMap upperChar

/-- Lower case of the characters after those already read, the latest of them first. -/
def lowerAfter (before : List Char) : List Char → List Char
  | [] => []
  | c :: rest =>
      let mapped :=
        if c = 'Σ' then [if meetsLetter before && !meetsLetter rest then 'ς' else 'σ']
        else lowerChar c
      mapped ++ lowerAfter (c :: before) rest

def lowerChars (cs : List Char) : List Char :=
  lowerAfter [] cs

end RequestFilter

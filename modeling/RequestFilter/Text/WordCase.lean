import RequestFilter.Text.Cluster
import RequestFilter.Text.LetterCase

/-!
# Words of a name

A name in any of the usual spellings falls into words: at separators, where
the case rises, between letters and digits, and before the last capital of an
acronym. Joining the words with their first letters in upper case makes
spellings agree that differ only in separators and case.
-/

namespace RequestFilter

namespace Cluster

/-- Underscores, hyphens and spaces part words and belong to none. -/
def isSeparator (cluster : Cluster) : Bool :=
  cluster = ['_'] || cluster = ['-'] || cluster = [' ']

def isUpper (cluster : Cluster) : Bool :=
  upperChars cluster ≠ lowerChars cluster && cluster = upperChars cluster

def isLower (cluster : Cluster) : Bool :=
  upperChars cluster ≠ lowerChars cluster && cluster = lowerChars cluster

def isDigit (cluster : Cluster) : Bool :=
  cluster.all Char.isDigit

/-- Whether a word ends after a cluster, given the clusters that follow it. -/
def endsWord (cluster : Cluster) : List Cluster → Bool
  | [] => false
  | next :: rest =>
      (cluster.isLower && next.isUpper) ||
      (cluster.isLower && next.isDigit) ||
      (cluster.isUpper && next.isDigit) ||
      (cluster.isDigit && next.isLower) ||
      (cluster.isDigit && next.isUpper) ||
      match rest with
      | [] => false
      | third :: _ => cluster.isUpper && next.isUpper && third.isLower

end Cluster

/-- Cut clusters into words, given the clusters of the word in progress; words may be empty. -/
def splitWords (current : List Cluster) : List Cluster → List (List Cluster)
  | [] => [current]
  | cluster :: rest =>
      if cluster.isSeparator then current :: splitWords [] rest
      else if cluster.endsWord rest then (current ++ [cluster]) :: splitWords [] rest
      else splitWords (current ++ [cluster]) rest

/-- The words of a text, none of them empty. -/
def words (cs : List Char) : List (List Char) :=
  ((splitWords [] (clusters cs)).map List.flatten).filter fun word => !word.isEmpty

/-- A word with its first character in upper case and the others in lower case. -/
def capitalize : List Char → List Char
  | [] => []
  | c :: rest => upperChar c ++ lowerChars rest

/-- The capitalized words of a text, joined without separators. -/
def pascalChars (cs : List Char) : List Char :=
  ((words cs).map capitalize).flatten

def pascalCase (name : String) : String :=
  String.ofList (pascalChars name.toList)

end RequestFilter

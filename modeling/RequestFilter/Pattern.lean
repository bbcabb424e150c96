/-!
# Containment patterns

The pattern that is matched by the texts containing a given text. Characters
with a meaning in patterns are escaped, so that they match themselves.
-/

namespace RequestFilter

def isPatternSpecial (c : Char) : Bool :=
  c = '%' || c = '_' || c = '\\'

/-- The pattern that only a given text matches. -/
def escapePattern : List Char → List Char
  | [] => []
  | c :: rest =>
      if isPatternSpecial c then '\\' :: c :: escapePattern rest
      else c :: escapePattern rest

def containsChars (cs : List Char) : List Char :=
  '%' :: escapePattern cs ++ ['%']

/-- The pattern of the texts that contain `text`. -/
def containsPattern (text : String) : String :=
  String.ofList (containsChars text.toList)

end RequestFilter

import HostBinder.Text.Letter
import HostBinder.Text.Mark

set_option autoImplicit false

/-!
The words of a name and the two ways of writing them with underscores. A word ends at an underscore, hyphen
or space, where letters and digits meet, before a capital that follows a small letter, and before the last
capital of a run that a small letter follows. The text is read by perceived characters: a letter with the
marks that attach to it.
-/

namespace HostBinder.Text

/-- Whether `c` belongs to one perceived character with `last`, the character before it. -/
def joined (last c : Char) : Bool :=
  (last == '\r' && c == '\n') ||
    (!isSeparating last && !isSeparating c && (joinsBefore c || joinsAfter last))

def clusters : List Char → List (List Char)
  | [] => []
  | [c] => [[c]]
  | c :: d :: rest =>
    match clusters (d :: rest) with
    | cluster :: more => if joined c d then (c :: cluster) :: more else [c] :: cluster :: more
    | [] => [[c]]

def isDelimiter (cluster : List Char) : Bool := cluster == ['_'] || cluster == ['-'] || cluster == [' ']

def isDigitCluster (cluster : List Char) : Bool := cluster.all (·.isDigit)

def isCapital (cluster : List Char) : Bool :=
  upperText cluster != lowerText cluster && upperText cluster == cluster

def isSmall (cluster : List Char) : Bool :=
  upperText cluster != lowerText cluster && lowerText cluster == cluster

/-- Whether a word ends after the cluster `a`, in front of `rest`. -/
def endsWord (a : List Char) : List (List Char) → Bool
  | [] => false
  | b :: rest =>
    (isSmall a && isCapital b) || (isSmall a && isDigitCluster b) || (isCapital a && isDigitCluster b) ||
      (isDigitCluster a && isSmall b) || (isDigitCluster a && isCapital b) ||
      (isCapital a && isCapital b &&
        match rest with
        | c :: _ => isSmall c
        | [] => false)

/-- The words of a text of which `word` has been read; delimiters separate words, also empty ones. -/
def wordsFrom (word : List Char) : List (List Char) → List (List Char)
  | [] => [word]
  | a :: rest =>
    if isDelimiter a then word :: wordsFrom [] rest
    else if endsWord a rest then (word ++ a) :: wordsFrom [] rest
    else wordsFrom (word ++ a) rest

def words (cs : List Char) : List (List Char) := wordsFrom [] (clusters cs)

def snakeCase (s : String) : String :=
  String.ofList (List.intercalate ['_'] ((words s.toList).map lowerText))

def upperSnakeCase (s : String) : String :=
  String.ofList (List.intercalate ['_'] ((words s.toList).map upperText))

end HostBinder.Text

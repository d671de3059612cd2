set_option autoImplicit false

namespace HostBinder.Text

def afterLastColons? : List Char → Option (List Char)
  | [] => none
  | c :: cs =>
    match afterLastColons? cs with
    | some rest => some rest
    | none =>
      match c, cs with
      | ':', ':' :: rest => some rest
      | _, _ => none

def lastSegment (path : String) : String :=
  match afterLastColons? path.toList with
  | some rest => String.ofList rest
  | none => path

/-- Each double colon, from the left, replaced by an underscore. -/
def underscored : List Char → List Char
  | ':' :: ':' :: rest => '_' :: underscored rest
  | c :: rest => c :: underscored rest
  | [] => []

/-- The lines of a text; behind the last line feed there is a line only if there is text. -/
def linesOf : List Char → List (List Char)
  | [] => []
  | '\r' :: '\n' :: cs => [] :: linesOf cs
  | c :: cs =>
    if c = '\n' then [] :: linesOf cs
    else
      match linesOf cs with
      | l :: ls => (c :: l) :: ls
      | [] => [[c]]

def lines (s : String) : List String := (linesOf s.toList).map String.ofList

def unlines (ls : List String) : String := String.join (ls.map fun l => l ++ "\n")

end HostBinder.Text

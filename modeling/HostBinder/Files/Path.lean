set_option autoImplicit false

namespace HostBinder.Files

def splitSlashes : List Char → List (List Char)
  | [] => [[]]
  | c :: cs =>
    if c = '/' then [] :: splitSlashes cs
    else
      match splitSlashes cs with
      | w :: ws => (c :: w) :: ws
      | [] => [[c]]

def pathNames (path : String) : List String :=
  ((splitSlashes path.toList).filter fun w => !w.isEmpty).map String.ofList

def isAbsolute (path : String) : Bool := path.toList.head? = some '/'

def isSlashed (path : String) : Bool := path.toList.getLast? = some '/'

/-- The path of something that is named relative to a directory. An absolute name stands for itself. -/
def joinPath (directory name : String) : String :=
  if isAbsolute name || directory.isEmpty then name
  else if isSlashed directory then directory ++ name
  else directory ++ "/" ++ name

def maxNameLength : Nat := 255

def maxPathLength : Nat := 4095

end HostBinder.Files

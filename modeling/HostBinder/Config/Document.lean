import HostBinder.Config.Quoted
import HostBinder.Config.Scalar

set_option autoImplicit false

namespace HostBinder.Config

def skipBlanks (cs : List Char) : List Char := cs.dropWhile isBlank

def skipComment? (cs : List Char) : Option (List Char) :=
  match cs with
  | '#' :: rest =>
    let rest := rest.dropWhile fun c => !isControl c
    match rest with
    | [] => some []
    | _ => (afterBreak? rest).map fun _ => rest
  | cs => some cs

def skipFiller? : Nat → List Char → Option (List Char)
  | 0, _ => none
  | fuel + 1, cs => do
    let cs ← skipComment? (skipBlanks cs)
    match afterBreak? cs with
    | some rest => skipFiller? fuel rest
    | none => some cs

def endLine? (cs : List Char) : Option (List Char) := do
  match ← skipComment? (skipBlanks cs) with
  | [] => some []
  | cs => afterBreak? cs

def isKeyChar (c : Char) : Bool := c.isAlphanum || c = '_' || c = '-'

def keyPart? (cs : List Char) : Option (String × List Char) :=
  match string? false cs with
  | some r => some r
  | none =>
    let k := cs.takeWhile isKeyChar
    if k.isEmpty then none else some (String.ofList k, cs.dropWhile isKeyChar)

def key? : Nat → List Char → Option (List String × List Char)
  | 0, _ => none
  | fuel + 1, cs => do
    let (k, rest) ← keyPart? (skipBlanks cs)
    match skipBlanks rest with
    | '.' :: rest => (key? fuel rest).map fun r => (k :: r.1, r.2)
    | rest => some ([k], rest)

/-- A key of one part at least, as the way to its table and its last part. -/
def splitKey? (parts : List String) : Option (List String × String) :=
  parts.getLast?.map fun last => (parts.dropLast, last)

abbrev ValueReader := List Char → Option (ConfigValue × List Char)

def elements? (value : ValueReader) : Nat → List Char → Option (List ConfigValue × List Char)
  | 0, _ => none
  | fuel + 1, cs => do
    match ← skipFiller? (cs.length + 1) cs with
    | ']' :: rest => some ([], rest)
    | cs =>
      let (v, rest) ← value cs
      match ← skipFiller? (rest.length + 1) rest with
      | ',' :: rest => (elements? value fuel rest).map fun r => (v :: r.1, r.2)
      | ']' :: rest => some ([v], rest)
      | _ => none

def entry? (value : ValueReader) (t : ConfigTable) (cs : List Char) : Option (ConfigTable × List Char) := do
  let (parts, rest) ← key? (cs.length + 1) cs
  let (path, key) ← splitKey? parts
  let (v, rest) ← value (skipBlanks (← skip? '=' rest))
  return (← t.assignAt path key v, rest)

def entries? (value : ValueReader) : Nat → ConfigTable → List Char → Option (ConfigTable × List Char)
  | 0, _, _ => none
  | fuel + 1, t, cs => do
    match ← skipFiller? (cs.length + 1) cs with
    | '}' :: rest => some (t, rest)
    | cs =>
      let (t, rest) ← entry? value t cs
      match ← skipFiller? (rest.length + 1) rest with
      | ',' :: rest => entries? value fuel t rest
      | '}' :: rest => some (t, rest)
      | _ => none

def value? : Nat → ValueReader
  | 0, _ => none
  | depth + 1, cs =>
    match cs with
    | '[' :: rest =>
      (elements? (value? depth) (rest.length + 1) rest).map fun r => (.array false r.1, r.2)
    | '{' :: rest =>
      (entries? (value? depth) (rest.length + 1) ⟨.inline, []⟩ rest).map fun r => (r.1.value, r.2)
    | _ =>
      match string? true cs with
      | some (s, rest) => some (.string s, rest)
      | none =>
        let (w, rest) := word cs
        (scalar? w).map fun v => (v, rest)

def maxDepth : Nat := 80

/-- The document read so far and the path of the table that the next keys belong to. -/
structure Progress where
  root : ConfigTable
  section_ : List String

def header? (closing : List Char) (cs : List Char) : Option (List String × List Char) := do
  let (parts, rest) ← key? (cs.length + 1) cs
  if rest.take closing.length = closing then some (parts, rest.drop closing.length) else none

def openSection (element : Bool) (parts : List String) (p : Progress) : Option Progress := do
  let (path, key) ← splitKey? parts
  let root ← p.root.descend false
    (if element then ConfigTable.openElement key else ConfigTable.openTable key) path
  return ⟨root, parts⟩

def readEntry (p : Progress) (cs : List Char) : Option (Progress × List Char) := do
  let (parts, rest) ← key? (cs.length + 1) cs
  let (path, key) ← splitKey? parts
  let (v, rest) ← value? (maxDepth + 1) (skipBlanks (← skip? '=' rest))
  let root ← p.root.descend false (ConfigTable.assignAt path key v) p.section_
  return ({ p with root }, rest)

def readLine (p : Progress) (cs : List Char) : Option (Progress × List Char) :=
  match skipBlanks cs with
  | [] => some (p, [])
  | '#' :: rest => some (p, '#' :: rest)
  | '[' :: '[' :: rest => do
    let (parts, rest) ← header? [']', ']'] rest
    return (← openSection true parts p, rest)
  | '[' :: rest => do
    let (parts, rest) ← header? [']'] rest
    return (← openSection false parts p, rest)
  | cs => if (afterBreak? cs).isSome then some (p, cs) else readEntry p cs

def readLines : Nat → Progress → List Char → Option Progress
  | 0, _, _ => none
  | _, p, [] => some p
  | fuel + 1, p, cs => do
    let (p, rest) ← readLine p cs
    readLines fuel p (← endLine? rest)

/-- The table that a document describes; a byte order mark in front is dropped. -/
def document? (s : String) : Option (List (String × ConfigValue)) :=
  let cs := match s.toList with
    | '\ufeff' :: cs => cs
    | cs => cs
  (readLines (cs.length + 1) ⟨⟨.header, []⟩, []⟩ cs).map fun p => p.root.entries

end HostBinder.Config

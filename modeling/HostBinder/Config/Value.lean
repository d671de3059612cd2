set_option autoImplicit false

/-!
Configuration documents as values, and how tables come about: by headers, by dotted keys, or in place. A
table is opened by a header at most once, keys with dots extend only what keys with dots began, and what is
written in place is never extended.
-/

namespace HostBinder

inductive TableOrigin where
  | header
  | implied
  | dotted
  | inline
  deriving DecidableEq, Repr

inductive FloatValue where
  | decimal (negative : Bool) (coefficient : Nat) (exponent : Int)
  | infinite (negative : Bool)
  | notANumber
  deriving DecidableEq, Repr

inductive ConfigValue where
  | string (s : String)
  | integer (n : Int)
  | float (f : FloatValue)
  | boolean (b : Bool)
  | moment
  /-- An array; `growing` if its elements are tables with headers. -/
  | array (growing : Bool) (elements : List ConfigValue)
  | table (origin : TableOrigin) (entries : List (String × ConfigValue))

structure ConfigTable where
  origin : TableOrigin
  entries : List (String × ConfigValue)

namespace ConfigTable

def value (t : ConfigTable) : ConfigValue := .table t.origin t.entries

def get? (t : ConfigTable) (key : String) : Option ConfigValue := t.entries.lookup key

def set (t : ConfigTable) (key : String) (v : ConfigValue) : ConfigTable :=
  if (t.get? key).isSome then
    { t with entries := t.entries.map fun e => if e.1 = key then (key, v) else e }
  else { t with entries := t.entries ++ [(key, v)] }

/-- Change the table at the end of a path of keys; tables on the way that are missing are begun. `dotted`
says that the path belongs to a key with dots. -/
def descend (dotted : Bool) (change : ConfigTable → Option ConfigTable) :
    List String → ConfigTable → Option ConfigTable
  | [], t => change t
  | key :: path, t =>
    match t.get? key with
    | none =>
      (descend dotted change path ⟨if dotted then .dotted else .implied, []⟩).map fun sub => t.set key sub.value
    | some (.table origin entries) =>
      if origin = .inline || (dotted && origin = .header) then none
      else (descend dotted change path ⟨origin, entries⟩).map fun sub => t.set key sub.value
    | some (.array true elements) =>
      match elements.getLast? with
      | some (.table origin entries) =>
        (descend dotted change path ⟨origin, entries⟩).map fun sub =>
          t.set key (.array true (elements.dropLast ++ [sub.value]))
      | _ => none
    | some _ => none

/-- Give a key a value, in a table that was begun the same way as the key is written. -/
def assign (dotted : Bool) (key : String) (v : ConfigValue) (t : ConfigTable) : Option ConfigTable :=
  if (t.origin = .dotted) != dotted || (t.get? key).isSome then none else some (t.set key v)

def assignAt (path : List String) (key : String) (v : ConfigValue) (t : ConfigTable) : Option ConfigTable :=
  t.descend (!path.isEmpty) (assign (!path.isEmpty) key v) path

def openTable (key : String) (t : ConfigTable) : Option ConfigTable :=
  match t.get? key with
  | none => some (t.set key (.table .header []))
  | some (.table .implied entries) => some (t.set key (.table .header entries))
  | some _ => none

def openElement (key : String) (t : ConfigTable) : Option ConfigTable :=
  match t.get? key with
  | none => some (t.set key (.array true [.table .header []]))
  | some (.array true elements) => some (t.set key (.array true (elements ++ [.table .header []])))
  | some _ => none

end ConfigTable

end HostBinder

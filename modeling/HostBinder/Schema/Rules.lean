import HostBinder.RoutedErrors
import HostBinder.Schema.Basic

set_option autoImplicit false

namespace HostBinder

inductive NameFault where
  | empty
  | tooLong (ident : String) (limit : Nat)
  | malformed (ident : String)
  deriving DecidableEq, Repr

def NameFault.message : NameFault → String
  | .empty => "ident is empty"
  | .tooLong ident limit => s!"ident '{ident}' exceeds max length {limit}"
  | .malformed ident => s!"ident '{ident}' is not a valid ASCII identifier"

def isPlainNameChar (c : Char) : Bool := c.isAlphanum || c == '_'

def isPlainName : List Char → Bool
  | [] => false
  | c :: cs => (c.isAlpha || c == '_') && cs.all isPlainNameChar

/-- The first rule on names that `ident` breaks; `limit?` bounds its length in UTF-8 bytes. -/
def nameFault? (limit? : Option Nat) (ident : String) : Option NameFault :=
  if ident = "" then some .empty
  else
    match limit? with
    | some limit =>
      if limit < ident.utf8ByteSize then some (.tooLong ident limit)
      else if isPlainName ident.toList then none else some (.malformed ident)
    | none => if isPlainName ident.toList then none else some (.malformed ident)

def maxTypeNameLength : Nat := 64

def typeNameFault? (ident : String) : Option NameFault := nameFault? (some maxTypeNameLength) ident

def fieldNameFault? (field : String) : Option NameFault := nameFault? none field

inductive Violation where
  | name (fault : NameFault)
  | emptyParent (component : String)
  | ownParent (component : String)
  | untypedField (field : String)
  | reboundField (field : String)
  | cyclicHierarchy (cycle : List String)
  deriving DecidableEq, Repr

def Violation.message : Violation → String
  | .name fault => fault.message
  | .emptyParent component => s!"component '{component}' extends an empty path"
  | .ownParent component => s!"component '{component}' cannot extend itself"
  | .untypedField field => s!"field '{field}' has no declared type"
  | .reboundField field => s!"field '{field}' is bound more than once"
  | .cyclicHierarchy cycle => "component hierarchy contains a cycle: " ++ String.intercalate " -> " cycle

def RoutedErrors.addAll {μ : Type} (t : RoutedErrors μ) (ms : List μ) : RoutedErrors μ := ms.foldl add t

def Component.violations (c : Component) : List Violation :=
  ((typeNameFault? c.name.ident).map Violation.name).toList ++
    match c.extends? with
    | none => []
    | some parent =>
      if parent = "" then [.emptyParent c.name.ident]
      else if parent = c.name.path then [.ownParent c.name.ident]
      else []

/-- The rules one binding breaks, where `before` lists the fields bound ahead of it. -/
def Binding.violations (b : Binding) (before : List String) : List Violation :=
  ((fieldNameFault? b.field).map Violation.name).toList ++
    (if b.type = "" then [.untypedField b.field] else []) ++
    (if before.contains b.field then [.reboundField b.field] else [])

def reportBindings : List String → List Binding → RoutedErrors Violation → RoutedErrors Violation
  | _, [], report => report
  | before, b :: rest, report =>
    reportBindings (before ++ [b.field]) rest
      (report.addChild b.field (RoutedErrors.empty.addAll (b.violations before)))

def Component.report (c : Component) : RoutedErrors Violation := RoutedErrors.empty.addAll c.violations

def Host.report (h : Host) : RoutedErrors Violation :=
  reportBindings [] h.bindings
    (RoutedErrors.empty.addAll ((typeNameFault? h.name.ident).map Violation.name).toList)

def Node.report : Node → RoutedErrors Violation
  | .component c => c.report
  | .host h => h.report

namespace Schema

def reportNodes (s : Schema) : RoutedErrors Violation :=
  s.nodes.entries.foldl (fun report e => report.addChild e.1 e.2.report) .empty

def reportCycle (s : Schema) (report : RoutedErrors Violation) : RoutedErrors Violation :=
  match s.hierarchy.cycle? with
  | some cycle => report.add (.cyclicHierarchy cycle)
  | none => report

def report (s : Schema) : RoutedErrors Violation := s.reportCycle s.reportNodes

def check (s : Schema) : Except (RoutedErrors Violation) Unit := s.report.result

end Schema

end HostBinder

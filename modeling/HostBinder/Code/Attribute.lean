import HostBinder.Code.Shape

set_option autoImplicit false

namespace HostBinder.Code.Parser

def pathWords : List String := ["super", "self", "Self", "crate"]

def startsPlainSegment (ts : Tokens) : Bool := startsName ts || startsWordIn pathWords ts

def plainSegmentsLoop (starts : Tokens → Bool) : Nat → Parser (List Segment)
  | 0 => throw .tooDeep
  | fuel + 1 => do
    if !starts (← rest) then expected "path segment after `::`" else
    let s : Segment := ⟨← anyIdent, none⟩
    if !startsColons (← rest) then return [s]
    let _ ← mark "::"
    return s :: (← plainSegmentsLoop starts fuel)

/-- A path whose segments have no arguments; `starts` tells where a segment starts. -/
def plainPath (starts : Tokens → Bool) : Parser CodePath := do
  let root ← mark? "::"
  if !starts (← rest) then
    let _ ← name
  return ⟨!root.isEmpty, ← plainSegmentsLoop starts ((← rest).length + 1)⟩

def attributeValue (g : Grammar) : Parser Expr := do
  match literal? (← rest) with
  | some (t, []) =>
    setRest []
    return ⟨.literal t, t⟩
  | _ =>
    if startsOp "#" (← rest) && startsGroup .bracket (next (← rest)) then
      throw (.notAllowed "unexpected attribute inside of attribute")
    g.expr true

def attributeContent (g : Grammar) : Parser Attribute := do
  let path ←
    if startsWord "unsafe" (← rest) then
      let i ← anyIdent
      pure (CodePath.ofIdent i)
    else plainPath startsPlainSegment
  match ← rest with
  | .group d body :: after =>
    setRest after
    return ⟨path, .group d body⟩
  | ts =>
    if startsOp "=" ts then
      let _ ← mark "="
      return ⟨path, .value (← attributeValue g).written⟩
    return ⟨path, .bare⟩

def outerAttributeParser (g : Grammar) : Parser Attribute := do
  let _ ← mark "#"
  inside .bracket (attributeContent g)

def outerAttributes (g : Grammar) : Parser (List Attribute) :=
  many (fun ts => !startsOp "#" ts) (outerAttributeParser g)

def innerAttributes (g : Grammar) : Parser Tokens := do
  let attributes ← many (fun ts => !(startsOp "#" ts && startsOp "!" (next ts))) do
    let _ ← mark "#"
    let _ ← mark "!"
    return op "#" ++ op "!" ++ [brackets (← inside .bracket (attributeContent g)).content]
  return attributes.flatten

def attributesWritten (attributes : List Attribute) : Tokens := attributes.flatMap Attribute.written

end HostBinder.Code.Parser

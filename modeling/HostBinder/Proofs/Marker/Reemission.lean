import HostBinder.Proofs.Marker.Acceptance

set_option autoImplicit false

namespace HostBinder

open Code

namespace Code

def Field.keeping (keep : Attribute → Bool) (f : Field) : Tokens :=
  Parser.attributesWritten (f.attributes.filter keep) ++ f.visibility ++ .ident f.name :: op ":" ++ f.type.written

def Item.keeping (keep : Attribute → Bool) (i : Item) (fields : Parser.Separated Field) : Tokens :=
  Parser.attributesWritten i.attributes ++ i.visibility ++ [word "struct", .ident i.name] ++ i.bounds ++
    [braces (fields.written (Field.keeping keep) ",")]

theorem Field.written_eq_keeping (f : Field) : f.written = f.keeping fun _ => true := by
  rw [Field.written, Field.keeping, List.filter_true]

theorem Parser.Separated.written_map {α β : Type} (text : β → Tokens) (separator : String) (g : α → β)
    (l : Parser.Separated α) :
    Parser.Separated.written text separator { l with items := l.items.map g } =
      l.written (fun a => text (g a)) separator := by
  simp [Parser.Separated.written, Function.comp_def]

theorem Item.writtenAs_named {i : Item} (hplain : i.parameters = []) (fields : Parser.Separated Field) :
    i.writtenAs (.struct (.named fields)) =
      Parser.attributesWritten i.attributes ++ i.visibility ++ [word "struct", .ident i.name] ++ i.bounds ++
        [braces (fields.written Field.written ",")] := by
  simp [Item.writtenAs, parametersWritten, hplain, fieldsWritten]

theorem Item.writtenAs_eq_keeping {i : Item} (hplain : i.parameters = []) (fields : Parser.Separated Field) :
    i.writtenAs (.struct (.named fields)) = i.keeping (fun _ => true) fields := by
  rw [Item.writtenAs_named hplain, Item.keeping, funext Field.written_eq_keeping]

end Code

namespace Marker

theorem written_unmarked (f : Field) : (unmarked f).written = f.keeping fun a => ¬IsMark a := by
  have hkeep : (fun a => !isBind a) = fun a => decide ¬IsMark a := by
    funext a
    rw [decide_not, Bool.eq_iff_iff.mpr (isBind_iff.trans decide_eq_true_iff.symm)]
  rw [Field.written, Field.keeping, unmarked, hkeep]

theorem writtenAs_unmarked {i : Item} (hplain : i.parameters = []) (fields : Parser.Separated Field) :
    i.writtenAs (.struct (.named { fields with items := fields.items.map unmarked })) =
      i.keeping (fun a => ¬IsMark a) fields := by
  rw [Item.writtenAs_named hplain, Parser.Separated.written_map, funext written_unmarked, Item.keeping]

/-- How a marked field is recorded: by its name without the sign of a raw identifier, the path of the component inside
its type, and the id that its one mark gives. -/
inductive IsEntryOf (roots : CrateRoots) (f : Field) : Tokens → Prop where
  | entry {mark : Attribute} {d : Delimiter} {body component : Tokens} {id : Expr} :
    marks f = [mark] → mark.body = .group d body → exprOf body = .ok id → IsBoundOf f.type component →
    IsEntryOf roots f
      (within roots.schema ["node", "Binding"] ++
        [braces (initialised "ident" [quoted f.name.name] ++ initialised "ty" (pathConstant roots component) ++
          initialised "id" id.written)])

theorem isEntryOf_bindingCode {f : Field} {b : BoundField} (h : Binds f b) (roots : CrateRoots) :
    IsEntryOf roots f (bindingCode roots b) := by
  cases h with
  | bound hmarks hbody hid htype => exact .entry hmarks hbody hid htype

theorem binds_filter {fields : List Field} (h : ∀ f ∈ fields, IsMarked f → ∃ b, Binds f b) :
    List.Forall₂ Binds (fields.filter (IsMarked ·)) ((fields.filterMap boundField?).filterMap Except.toOption) := by
  induction fields with
  | nil => exact .nil
  | cons f fields ih =>
    obtain ⟨hf, hfields⟩ := List.forall_mem_cons.mp h
    by_cases hmarked : IsMarked f
    · obtain ⟨b, hb⟩ := hf hmarked
      have hkept : (Except.ok b : Except Refusal BoundField).toOption = some b := rfl
      rw [List.filter_cons_of_pos (by simpa using hmarked), List.filterMap_cons_some (boundField?_of_binds hb),
        List.filterMap_cons_some hkept]
      exact .cons hb (ih hfields)
    · rw [List.filter_cons_of_neg (by simpa using hmarked),
        List.filterMap_cons_none (boundField?_eq_none_iff.mpr hmarked)]
      exact ih hfields

theorem binds_of_boundFields {fields : List Field} {bound : List BoundField} (h : boundFields fields = .ok bound) :
    List.Forall₂ Binds (fields.filter (IsMarked ·)) bound := by
  rw [boundFields_eq] at h
  split at h
  · rename_i hnil
    cases h
    exact binds_filter (refusals_eq_nil_iff.mp hnil).2
  · cases h

def hostNode (roots : CrateRoots) (type : Ident) (entries : List Tokens) : Tokens :=
  within roots.schema ["node", "Host"] ++
    [braces (initialised "def" (typeName roots type) ++
      initialised "bindings" (op "&" ++ [brackets (List.intercalate (op ",") entries)]))]

def insertion (roots : CrateRoots) (constant : Ident) : Tokens :=
  [word "fn", word "__ctor", parens [],
    braces (within roots.schema ["build", "schema_write"] ++ parens [] :: op "." ++
      [word "insert_node", parens (within roots.schema ["node", "SchemaNode", "Host"] ++ [parens [.ident constant]])] ++
      op ";")]

/-- Code in which a constant has the value `node`, and which ends in a function that inserts it into the schema. -/
structure EntersNode (roots : CrateRoots) (constant : Ident) (node code : Tokens) : Prop where
  value : [word "const", .ident constant] ++ op ":" ++ within roots.schema ["node", "Host"] ++ op "=" ++ node ++
    op ";" <:+: code
  inserted : insertion roots constant <:+ code

theorem entersNode_registration (roots : CrateRoots) (constant : Ident) (node front : Tokens) :
    EntersNode roots constant node (front ++ registration .host roots constant node) := by
  have hsplit : registration .host roots constant node =
      outerAttribute [word "doc", parens [word "hidden"]] ++ outerAttribute [word "allow", parens [word "dead_code"]] ++
        ([word "const", .ident constant] ++ op ":" ++ within roots.schema ["node", "Host"] ++ op "=" ++ node ++
          op ";") ++ (atStart roots ++ insertion roots constant) := by
    simp only [registration, kindName, insertion, List.append_assoc, List.cons_append, List.nil_append]
  rw [hsplit, ← List.append_assoc]
  constructor
  · rw [← List.append_assoc front]
    exact List.infix_append _ _ _
  · rw [← List.append_assoc]
    exact List.suffix_append _ _

/-- The code of a host: the struct, printed as it was read but for the marks of its fields, and behind it the node that
enters the schema. The entries of the node are those of the marked fields, one for each and in order. -/
theorem expandHost_keeps {roots : CrateRoots} {args item code : Tokens} (h : expandHost roots args item = .ok code) :
    ∃ i fields constant entries added, markedItem item = .ok i ∧ i.kind = .struct (.named fields) ∧
      i.writtenAs i.kind = i.keeping (fun _ => true) fields ∧
      List.Forall₂ (IsEntryOf roots) (fields.items.filter (IsMarked ·)) entries ∧
      constantName .host i.name = .ok constant ∧
      code = i.keeping (fun a => ¬IsMark a) fields ++ added ∧
      EntersNode roots constant (hostNode roots i.name entries) added := by
  have hstruct : args = [] ∧ ∃ i fields, IsHostStruct item i fields := by
    by_contra hnot
    obtain ⟨e, he, _⟩ := expandHost_of_not_isHostStruct roots hnot
    rw [he] at h
    cases h
  obtain ⟨rfl, i, items, hstruct⟩ := hstruct
  obtain ⟨trailing, hkind⟩ := hstruct.named
  rw [expandHost_eq_of_plain hstruct.declared hstruct.plain, hkind, Attempt.bind_eq_ok_iff] at h
  obtain ⟨bound, hbound, h⟩ := h
  rw [writtenAs_unmarked hstruct.plain, expansion, Attempt.bind_eq_ok_iff] at h
  obtain ⟨constant, hconstant, h⟩ := h
  have hbinds := binds_of_boundFields (Attempt.mapError_eq_ok_iff.mp hbound)
  rw [Attempt.pure_eq_ok_iff, List.append_assoc, List.append_assoc, ← List.append_assoc (pathImplementation _ _)] at h
  refine ⟨i, ⟨items, trailing⟩, constant, bound.map (bindingCode roots), _, hstruct.declared, hkind, ?_, ?_,
    Attempt.mapError_eq_ok_iff.mp hconstant, h.symm, entersNode_registration roots constant _ _⟩
  · rw [hkind, Item.writtenAs_eq_keeping hstruct.plain]
  · rw [List.forall₂_map_right_iff]
    exact hbinds.imp fun _ _ hb => isEntryOf_bindingCode hb roots

def mixedItem : Tokens :=
  (lex? "#[x] pub struct Form where u8: Copy \x7b #[bind(3)] #[bind::x] pub r#type: a::Bound<T>, plain: u8 \x7d").getD []

theorem expandHost_keeps_mixed :
    ∃ code, expandHost (.resolve .none) [] mixedItem = .ok code ∧
      ∃ i fields entries, markedItem mixedItem = .ok i ∧ i.kind = .struct (.named fields) ∧
        i.keeping (fun a => ¬IsMark a) fields <+: code ∧
        List.Forall₂ (IsEntryOf (.resolve .none)) (fields.items.filter (IsMarked ·)) entries := by
  have hok : (expandHost (.resolve .none) [] mixedItem).isOk = true := by decide +kernel
  cases hcode : expandHost (.resolve .none) [] mixedItem with
  | error e =>
    rw [hcode] at hok
    cases hok
  | ok code =>
    obtain ⟨i, fields, constant, entries, added, hi, hkind, _, hentries, _, rfl, _⟩ := expandHost_keeps hcode
    exact ⟨_, rfl, i, fields, entries, hi, hkind, List.prefix_append _ _, hentries⟩

/-- A struct with an empty clause of bounds, and with the field of a field as an id. -/
def respelledItem : Tokens := (lex? "struct S where \x7b #[bind(t.0.1)] f : Bound < T > \x7d").getD []

def respelledStruct : Tokens := (lex? "struct S where \x7b f : Bound < T > \x7d").getD []

/-- Not all tokens that are read are printed again: the clause is left out, and the number is printed as two. -/
theorem respelledItem_not_kept :
    (∃ code, expandHost (.resolve .none) [] respelledItem = .ok code ∧
      textOf (code.take 3) = "struct S \x7b f : Bound < T > \x7d" ∧ ¬respelledStruct <+: code) ∧
    ∃ id, exprOf ((lex? "t.0.1").getD []) = .ok id ∧ textOf id.written = "t . 0 . 1" ∧
      textOf ((lex? "t.0.1").getD []) = "t . 0.1" := by
  have hstruct : (expandHost (.resolve .none) [] respelledItem).toOption.map (fun code => textOf (code.take 3)) =
      some "struct S \x7b f : Bound < T > \x7d" := by decide +kernel
  have hid : (exprOf ((lex? "t.0.1").getD [])).toOption.map (fun id => textOf id.written) = some "t . 0 . 1" := by
    decide +kernel
  constructor
  · cases hcode : expandHost (.resolve .none) [] respelledItem with
    | error e =>
      rw [hcode] at hstruct
      cases hstruct
    | ok code =>
      rw [hcode] at hstruct
      have htext : textOf (code.take 3) = "struct S \x7b f : Bound < T > \x7d" := Option.some.inj hstruct
      refine ⟨code, rfl, htext, ?_⟩
      rintro ⟨rest, rfl⟩
      have hlength : 3 ≤ respelledStruct.length := by decide +kernel
      have hclause : textOf (respelledStruct.take 3) = "struct S where" := by decide +kernel
      rw [List.take_append_of_le_length hlength, hclause] at htext
      exact absurd htext (by decide)
  · cases hread : exprOf ((lex? "t.0.1").getD []) with
    | error e =>
      rw [hread] at hid
      cases hid
    | ok id =>
      rw [hread] at hid
      exact ⟨id, rfl, Option.some.inj hid, by decide +kernel⟩

end Marker

end HostBinder

import HostBinder.Binder.Unit
import HostBinder.Proofs.Code.Constants

set_option autoImplicit false

namespace HostBinder

open Code

namespace Code

def inner : List String → Tokens
  | [] => []
  | s :: rest => .mark ':' true :: .mark ':' false :: .ident ⟨s, false⟩ :: inner rest

def turbofish (type : Tokens) : Tokens :=
  [.mark ':' true, .mark ':' false, .mark '<' false] ++ type ++ [.mark '>' false]

/-- The statement `target.field = Bound::<type>::cast(target.find_view_by_id(id), id, "name",)?;`, where the bounded
type is reached from `core`. -/
def AssignsField (core : Tokens) (field : Ident) (type : Tokens) (id : Int) (name : String) (statement : Tokens) :
    Prop :=
  ∃ arguments looked given named,
    statement = [.ident ⟨"target", false⟩, .mark '.' false, .ident field, .mark '=' false] ++
      core ++ inner ["view", "Bound"] ++ turbofish type ++ inner ["cast"] ++
        [.group .paren arguments, .mark '?' false, .mark ';' false] ∧
    splitCommas arguments = [[.ident ⟨"target", false⟩, .mark '.' false, .ident ⟨"find_view_by_id", false⟩,
      .group .paren looked], given, named, []] ∧
    numberOf? looked = some id ∧ numberOf? given = some id ∧ stringOf? named = some name

/-- The method `inject` on a target of the type `host`, with the given statements in front of its success. -/
def IsInjectMethod (core : Tokens) (host : Ident) (statements method : Tokens) : Prop :=
  method = [.ident ⟨"pub", false⟩, .ident ⟨"fn", false⟩, .ident ⟨"inject", false⟩,
      .group .paren [.ident ⟨"target", false⟩, .mark ':' false, .mark '&' false, .ident ⟨"mut", false⟩, .ident host,
        .mark ',' false], .mark '-' true, .mark '>' false] ++
    inner ["core", "result", "Result"] ++ [.mark '<' false, .group .paren [], .mark ',' false] ++
    core ++ inner ["error", "InjectError"] ++ [.mark '>' false,
      .group .brace (statements ++ inner ["core", "result", "Result", "Ok"] ++ [.group .paren [.group .paren []]])]

/-- Code that ends in a function that runs at the start of the program and registers the method `inject` of `binder`,
for hosts of the type `host`, under `key`. -/
def RegistersUnder (core : Tokens) (host binder : Ident) (key : String) (code : Tokens) : Prop :=
  ∃ front settings arguments named,
    code = front ++ [.mark '#' false,
      .group .bracket (core ++ inner ["__reexports", "ctor", "ctor"] ++ [.group .paren settings]),
      .ident ⟨"fn", false⟩, .ident ⟨"__register", false⟩, .group .paren [],
      .group .brace (core ++ inner ["registry", "register"] ++ turbofish [.ident host] ++
        [.group .paren arguments, .mark ';' false])] ∧
    splitCommas arguments = [named, .ident binder :: inner ["inject"]] ∧ stringOf? named = some key

def registeredKey? (code : Tokens) : Option String :=
  match code.getLast? with
  | some (.group .brace statement) =>
    match statement.reverse with
    | .mark ';' _ :: .group .paren arguments :: _ => (splitCommas arguments).head?.bind stringOf?
    | _ => none
  | _ => none

theorem RegistersUnder.registeredKey? {core : Tokens} {host binder : Ident} {key : String} {code : Tokens}
    (h : RegistersUnder core host binder key code) : registeredKey? code = some key := by
  obtain ⟨front, settings, arguments, named, rfl, harguments, hkey⟩ := h
  simp [Code.registeredKey?, harguments, hkey]

theorem within_eq_append (root : Tokens) (segments : List String) : within root segments = root ++ inner segments := by
  induction segments generalizing root with
  | nil => rfl
  | cons s segments ih =>
    have hcons : within root (s :: segments) = within (root ++ (op "::" ++ [word s])) segments := by
      simp [within]
    have hstep : op "::" ++ [word s] = [.mark ':' true, .mark ':' false, .ident ⟨s, false⟩] := rfl
    rw [hcons, ih, hstep, List.append_assoc]
    rfl

end Code

inductive TypeRef.CodedAs : TypeRef → Tokens → Prop
  | imported {name : String} {i : Ident} (h : nameOfText? name = some i) : CodedAs (.imported name) [.ident i]
  | qualified {path : String} {p : CodePath} (h : pathOfText? ("::" ++ path) = some p) :
      CodedAs (.qualified path) p.written

theorem TypeRef.codedAs_of_tokens? {r : TypeRef} {type : Tokens} (h : r.tokens? = some type) : r.CodedAs type := by
  cases r with
  | imported name =>
    obtain ⟨i, hi, rfl⟩ := Option.map_eq_some_iff.mp h
    exact .imported hi
  | qualified path =>
    obtain ⟨p, hp, rfl⟩ := Option.map_eq_some_iff.mp h
    exact .qualified hp

namespace BinderUnit

theorem statement?_eq_ok {roots : CrateRoots} {a : Assignment} {field : Ident} {type : Tokens}
    (hfield : fieldIdent? a.field = .ok (some field)) (htype : a.type.tokens? = some type) :
    statement? roots a = .ok (statement roots field type a) := by
  rw [statement?, hfield, htype]
  rfl

theorem body_eq_ok {u : BinderUnit} {host binder : Ident} {statements : List Tokens} (hhost : identOf u.host = .ok host)
    (hbinder : identOf u.name = .ok binder) (hstatements : u.assignments.mapM (statement? u.roots) = .ok statements) :
    u.body = .ok (word "use" :: within u.roots.core ["traits", "FindView"] ++ [word "as", word "_"] ++ op ";" ++
      [word "pub", word "struct", .ident binder] ++ op ";" ++
      [word "impl", .ident binder, braces (injectMethod u.roots host statements.flatten)] ++
      registration u.roots host binder u.registeredName) := by
  rw [body, hhost, hbinder, hstatements]
  rfl

theorem assignsField_statement (roots : CrateRoots) (field : Ident) (type : Tokens) (a : Assignment) :
    AssignsField roots.core field type a.id.toInt a.field (statement roots field type a) := by
  refine ⟨word "target" :: op "." ++ [word "find_view_by_id", parens (number a.id.toInt)] ++ op "," ++
    number a.id.toInt ++ op "," ++ quoted a.field :: op ",", number a.id.toInt, number a.id.toInt, [quoted a.field],
    ?_, ?_, numberOf?_number _, numberOf?_number _, stringOf?_quoted _⟩
  · simp only [statement, within_eq_append, turbofish, List.append_assoc, List.cons_append, List.nil_append]
    rfl
  · have hlooked : ∀ joint, .mark ',' joint ∉ word "target" :: op "." ++
        [word "find_view_by_id", parens (number a.id.toInt)] := by
      simp [word, op, marks, parens]
    have hnamed : ∀ joint, .mark ',' joint ∉ [quoted a.field] := by simp [quoted]
    have hpieces := splitCommas_append hnamed false []
    have hgiven := splitCommas_append (comma_not_mem_number a.id.toInt) false ([quoted a.field] ++ [.mark ',' false])
    have hall := splitCommas_append hlooked false
      (number a.id.toInt ++ .mark ',' false :: ([quoted a.field] ++ [.mark ',' false]))
    rw [hpieces] at hgiven
    rw [hgiven] at hall
    simp only [List.append_assoc] at hall ⊢
    exact hall

theorem isInjectMethod_injectMethod (roots : CrateRoots) (host : Ident) (statements : Tokens) :
    IsInjectMethod roots.core host statements (injectMethod roots host statements) := by
  simp only [IsInjectMethod, injectMethod, success, rooted, within_eq_append, List.append_assoc, List.cons_append,
    List.nil_append]
  rfl

end BinderUnit

end HostBinder

import HostBinder.Proofs.Code.PathTokens
import HostBinder.Proofs.Marker.ConstantNames
import HostBinder.Proofs.Marker.RecordedFields

set_option autoImplicit false

/-!
Which hosts are expanded, and what is refused about the others. Fields are looked at one by one: what is refused about
one of them does not depend on the others, and only a struct without marked fields is refused as a whole. A host that
passes is still not expanded if its constant has no name, as is so for raw names.
-/

namespace HostBinder

open Code

theorem Code.Parser.listLoop_items_ne_nil {α : Type} {stop : Tokens → Bool} {separator : String} {item : Parser α}
    {fuel : Nat} {c c' : Cursor} {l : Separated α} (h : listLoop stop separator item fuel c = .ok (l, c'))
    (hstop : stop c.rest = false) : l.items ≠ [] := by
  cases fuel with
  | zero => cases h
  | succ fuel =>
    rw [listLoop, rest_bind, hstop, if_neg (by decide)] at h
    obtain ⟨a, c₁, _, h⟩ := bind_eq_ok_iff.mp h
    rw [rest_bind] at h
    split at h
    · obtain ⟨rfl, _⟩ := pure_eq_ok_iff.mp h
      simp
    · obtain ⟨_, c₂, _, h⟩ := bind_eq_ok_iff.mp h
      obtain ⟨more, c₃, _, h⟩ := bind_eq_ok_iff.mp h
      obtain ⟨rfl, _⟩ := pure_eq_ok_iff.mp h
      simp

theorem Argument.ofTokens_eq_ok_nil_iff {args : Tokens} : Argument.ofTokens args = .ok [] ↔ args = [] := by
  constructor
  · intro h
    obtain ⟨c, hlist, _⟩ := Parser.all_eq_ok h
    obtain ⟨l, c', hlist, hitems⟩ := Parser.bind_eq_ok_iff.mp hlist
    obtain ⟨hnil, _⟩ := Parser.pure_eq_ok_iff.mp hitems
    rw [Parser.list, Parser.rest_bind] at hlist
    by_contra hargs
    have hstop : args.isEmpty = false := by simpa using hargs
    exact Parser.listLoop_items_ne_nil hlist hstop hnil
  · rintro rfl
    rfl

namespace Marker

/-- An attribute marks a field if its path is the name `bind` alone. -/
def IsMark (a : Attribute) : Prop := a.path = .ofIdent ⟨"bind", false⟩

theorem isBind_iff {a : Attribute} : isBind a = true ↔ IsMark a := by
  rw [isBind, IsMark, CodePath.isIdent, beq_iff_eq]
  constructor
  · intro h
    unfold CodePath.ident? at h
    split at h
    · rename_i hpath
      rw [hpath, Option.some.inj h]
      rfl
    · cases h
  · intro h
    rw [h]
    rfl

instance : DecidablePred IsMark := fun _ => decidable_of_iff _ isBind_iff

def marks (f : Field) : List Attribute := f.attributes.filter (IsMark ·)

theorem filter_isBind (f : Field) : f.attributes.filter isBind = marks f :=
  List.filter_congr fun _ _ => Bool.eq_iff_iff.mpr (by rw [isBind_iff, decide_eq_true_iff])

def IsMarked (f : Field) : Prop := ∃ a ∈ f.attributes, IsMark a

instance : DecidablePred IsMarked := fun f => inferInstanceAs (Decidable (∃ a ∈ f.attributes, IsMark a))

theorem marks_eq_nil_iff {f : Field} : marks f = [] ↔ ¬IsMarked f := by
  simp [marks, IsMarked]

/-- A type that is a path with `Bound` as its last segment and one argument there, the given type. -/
def IsBoundOf (type : Ty) (component : Tokens) : Prop :=
  ∃ p turbofish trailing, type = .path p ∧
    p.lastSegment? = some ⟨⟨"Bound", false⟩, some ⟨turbofish, ⟨[.type component], trailing⟩⟩⟩

theorem boundType?_eq_some_iff {type : Ty} {component : Tokens} :
    boundType? type = some component ↔ IsBoundOf type component := by
  constructor
  · intro h
    unfold boundType? at h
    split at h
    · rename_i p
      split at h
      · rename_i name turbofish arg trailing hlast
        split at h
        · rename_i hname
          cases arg with
          | type written =>
            cases h
            exact ⟨p, turbofish, trailing, rfl, by rw [hlast, hname]⟩
          | lifetime written => cases h
          | other written => cases h
        · cases h
      · cases h
    · cases h
  · rintro ⟨p, turbofish, trailing, rfl, hlast⟩
    simp [boundType?, hlast, GenericArg.type?]

/-- How a field is bound: marked once, by an id that is one expression, with the component inside its type. -/
inductive Binds (f : Field) : BoundField → Prop where
  | bound {mark : Attribute} {d : Delimiter} {body : Tokens} {id : Expr} {component : Tokens} :
    marks f = [mark] → mark.body = .group d body → exprOf body = .ok id → IsBoundOf f.type component →
    Binds f ⟨f.name, component, id.written⟩

inductive Refuses (f : Field) : Refusal → Prop where
  | twice {mark second : Attribute} {others : List Attribute} :
    marks f = mark :: second :: others → Refuses f .boundTwice
  | bare {mark : Attribute} : marks f = [mark] → mark.body = .bare → Refuses f .bareBind
  | assigned {mark : Attribute} {value : Tokens} :
    marks f = [mark] → mark.body = .value value → Refuses f .assignedBind
  | malformed {mark : Attribute} {d : Delimiter} {body : Tokens} {fault : Fault} :
    marks f = [mark] → mark.body = .group d body → exprOf body = .error fault → Refuses f (.malformedId fault)
  | notWrapped {mark : Attribute} {d : Delimiter} {body : Tokens} {id : Expr} :
    marks f = [mark] → mark.body = .group d body → exprOf body = .ok id →
    (∀ component, ¬IsBoundOf f.type component) → Refuses f (.notWrapped f.name.text)

theorem boundField?_eq_none_iff {f : Field} : boundField? f = none ↔ ¬IsMarked f := by
  rw [boundField?, filter_isBind, ← marks_eq_nil_iff]
  cases marks f <;> simp

theorem boundField?_of_binds {f : Field} {b : BoundField} (h : Binds f b) : boundField? f = some (.ok b) := by
  cases h with
  | bound hmarks hbody hid htype =>
    rw [← boundType?_eq_some_iff] at htype
    rw [boundField?, filter_isBind, hmarks]
    simp [bindField, bindId, hbody, hid, htype, Except.mapError, bind, Except.bind, pure, Except.pure]

theorem boundField?_of_refuses {f : Field} {r : Refusal} (h : Refuses f r) : boundField? f = some (.error r) := by
  rw [boundField?, filter_isBind]
  cases h with
  | twice hmarks =>
    rw [hmarks]
    rfl
  | bare hmarks hbody =>
    rw [hmarks]
    simp [bindField, bindId, hbody, bind, Except.bind]
  | assigned hmarks hbody =>
    rw [hmarks]
    simp [bindField, bindId, hbody, bind, Except.bind]
  | malformed hmarks hbody hid =>
    rw [hmarks]
    simp [bindField, bindId, hbody, hid, Except.mapError, bind, Except.bind]
  | notWrapped hmarks hbody hid htype =>
    have hnone : boundType? f.type = none :=
      Option.eq_none_iff_forall_not_mem.mpr fun component hc => htype component (boundType?_eq_some_iff.mp hc)
    rw [hmarks]
    simp [bindField, bindId, hbody, hid, hnone, Except.mapError, bind, Except.bind, throw, throwThe,
      MonadExceptOf.throw]

theorem binds_or_refuses {f : Field} (h : IsMarked f) : (∃ b, Binds f b) ∨ ∃ r, Refuses f r := by
  cases hmarks : marks f with
  | nil => exact absurd h (marks_eq_nil_iff.mp hmarks)
  | cons mark others =>
    cases others with
    | cons second others => exact .inr ⟨_, .twice hmarks⟩
    | nil =>
      cases hbody : mark.body with
      | bare => exact .inr ⟨_, .bare hmarks hbody⟩
      | value value => exact .inr ⟨_, .assigned hmarks hbody⟩
      | group d body =>
        cases hid : exprOf body with
        | error fault => exact .inr ⟨_, .malformed hmarks hbody hid⟩
        | ok id =>
          by_cases htype : ∃ component, IsBoundOf f.type component
          · obtain ⟨component, htype⟩ := htype
            exact .inl ⟨_, .bound hmarks hbody hid htype⟩
          · exact .inr ⟨_, .notWrapped hmarks hbody hid (not_exists.mp htype)⟩

theorem boundField?_eq_some_iff {f : Field} {result : Except Refusal BoundField} :
    boundField? f = some result ↔
      (∃ b, Binds f b ∧ result = .ok b) ∨ ∃ r, Refuses f r ∧ result = .error r := by
  constructor
  · intro h
    have hmarked : IsMarked f := by
      by_contra hnot
      rw [boundField?_eq_none_iff.mpr hnot] at h
      cases h
    rcases binds_or_refuses hmarked with ⟨b, hb⟩ | ⟨r, hr⟩
    · rw [boundField?_of_binds hb] at h
      exact .inl ⟨b, hb, (Option.some.inj h).symm⟩
    · rw [boundField?_of_refuses hr] at h
      exact .inr ⟨r, hr, (Option.some.inj h).symm⟩
  · rintro (⟨b, hb, rfl⟩ | ⟨r, hr, rfl⟩)
    · exact boundField?_of_binds hb
    · exact boundField?_of_refuses hr

def Offends (f : Field) : Prop := IsMarked f ∧ ¬∃ b, Binds f b

def CanBind (fields : List Field) : Prop :=
  (∃ f ∈ fields, IsMarked f) ∧ ∀ f ∈ fields, IsMarked f → ∃ b, Binds f b

def refusal? (f : Field) : Option Refusal :=
  match boundField? f with
  | some (.error r) => some r
  | _ => none

theorem refusal?_eq_some_iff {f : Field} {r : Refusal} : refusal? f = some r ↔ Refuses f r := by
  have hrefused : refusal? f = some r ↔ boundField? f = some (.error r) := by
    unfold refusal?
    split
    · rename_i r' heq
      simp [heq]
    · rename_i hne
      simpa using hne r
  rw [hrefused, boundField?_eq_some_iff]
  simp

theorem isSome_refusal?_iff {f : Field} : (refusal? f).isSome = true ↔ Offends f := by
  simp only [Option.isSome_iff_exists, refusal?_eq_some_iff]
  constructor
  · rintro ⟨r, hr⟩
    have hsome := boundField?_of_refuses hr
    refine ⟨?_, fun ⟨b, hb⟩ => ?_⟩
    · by_contra hnot
      rw [boundField?_eq_none_iff.mpr hnot] at hsome
      cases hsome
    · rw [boundField?_of_binds hb] at hsome
      cases hsome
  · rintro ⟨hmarked, hnot⟩
    exact (binds_or_refuses hmarked).resolve_left hnot

instance : DecidablePred Offends := fun _ => decidable_of_iff _ isSome_refusal?_iff

theorem canBind_iff {fields : List Field} :
    CanBind fields ↔ (∃ f ∈ fields, IsMarked f) ∧ ∀ f ∈ fields, ¬Offends f := by
  simp only [CanBind, Offends, not_and, not_not]

theorem refuses_filter (fields : List Field) :
    List.Forall₂ Refuses (fields.filter (Offends ·)) (fields.filterMap refusal?) := by
  induction fields with
  | nil => exact .nil
  | cons f fields ih =>
    cases hrefusal : refusal? f with
    | none =>
      have hnot : ¬Offends f := by simp [← isSome_refusal?_iff, hrefusal]
      rw [List.filterMap_cons_none hrefusal, List.filter_cons_of_neg (by simpa using hnot)]
      exact ih
    | some r =>
      have hoffends : Offends f := by simp [← isSome_refusal?_iff, hrefusal]
      rw [List.filterMap_cons_some hrefusal, List.filter_cons_of_pos (by simpa using hoffends)]
      exact .cons (refusal?_eq_some_iff.mp hrefusal) ih

def refusals (fields : List Field) : List Refusal :=
  fields.filterMap refusal? ++ if ∃ f ∈ fields, IsMarked f then [] else [.noBoundField]

theorem refusals_eq_nil_iff {fields : List Field} : refusals fields = [] ↔ CanBind fields := by
  have hnone : fields.filterMap refusal? = [] ↔ ∀ f ∈ fields, ¬Offends f := by
    simp [List.filterMap_eq_nil_iff, ← isSome_refusal?_iff]
  rw [refusals, List.append_eq_nil_iff, hnone, canBind_iff, and_comm]
  by_cases hmarked : ∃ f ∈ fields, IsMarked f <;> simp [hmarked]

theorem filterMap_refused {g : Except Refusal BoundField → Option Refusal} (herror : ∀ r, g (.error r) = some r)
    (hok : ∀ b, g (.ok b) = none) (fields : List Field) :
    (fields.filterMap boundField?).filterMap g = fields.filterMap refusal? := by
  rw [List.filterMap_filterMap]
  refine List.filterMap_congr fun f _ => ?_
  unfold refusal?
  cases boundField? f with
  | none => rfl
  | some result =>
    cases result with
    | error r => exact herror r
    | ok b => exact hok b

theorem boundFields_eq (fields : List Field) :
    boundFields fields =
      if refusals fields = [] then .ok ((fields.filterMap boundField?).filterMap Except.toOption)
      else .error (refusals fields) := by
  have hempty : (fields.filterMap boundField?).isEmpty = true ↔ ¬∃ f ∈ fields, IsMarked f := by
    simp [List.filterMap_eq_nil_iff, boundField?_eq_none_iff]
  unfold boundFields
  simp only [hempty]
  rw [filterMap_refused (fun _ => rfl) fun _ => rfl]
  by_cases hmarked : ∃ f ∈ fields, IsMarked f
  · simp [refusals, hmarked]
  · have hnone : fields.filterMap refusal? = [] := by
      rw [List.filterMap_eq_nil_iff]
      intro f hf
      rw [← Option.not_isSome_iff_eq_none, isSome_refusal?_iff]
      exact fun hoffends => hmarked ⟨f, hf, hoffends.1⟩
    simp [refusals, hmarked, hnone]

structure IsHostStruct (item : Tokens) (i : Item) (fields : List Field) : Prop where
  declared : markedItem item = .ok i
  named : ∃ trailing, i.kind = .struct (.named ⟨fields, trailing⟩)
  plain : i.parameters = []

theorem expandHost_eq_of_plain {roots : CrateRoots} {item : Tokens} {i : Item} (hitem : markedItem item = .ok i)
    (hplain : i.parameters = []) :
    expandHost roots [] item =
      match i.kind with
      | .struct (.named fields) =>
        (boundFields fields.items).mapError .refused >>= fun bound =>
          expansion .host roots i.name
            (i.writtenAs (.struct (.named { fields with items := fields.items.map unmarked })))
            (bindingsField roots bound)
      | .struct _ => refuse .positionalFields
      | _ => refuse (.notStruct .host) := by
  have hargs := Argument.ofTokens_eq_ok_nil_iff.mpr rfl
  obtain ⟨attributes, visibility, name, parameters, bounds, kind⟩ := i
  obtain rfl : parameters = [] := hplain
  rw [expandHost, hargs, hitem]
  rfl

theorem expandHost_of_generic {roots : CrateRoots} {item : Tokens} {i : Item} (hitem : markedItem item = .ok i)
    (hgeneric : i.parameters ≠ []) : expandHost roots [] item = refuse (.generic .host) := by
  have hargs := Argument.ofTokens_eq_ok_nil_iff.mpr rfl
  obtain ⟨attributes, visibility, name, parameters, bounds, kind⟩ := i
  obtain ⟨p, ps, rfl⟩ := List.exists_cons_of_ne_nil hgeneric
  rw [expandHost, hargs, hitem]
  rfl

theorem expandHost_of_isHostStruct (roots : CrateRoots) {item : Tokens} {i : Item} {fields : List Field}
    (h : IsHostStruct item i fields) :
    ∃ written, expandHost roots [] item =
      ((boundFields fields).mapError .refused >>= fun bound =>
        expansion .host roots i.name written (bindingsField roots bound)) := by
  obtain ⟨trailing, hkind⟩ := h.named
  rw [expandHost_eq_of_plain h.declared h.plain, hkind]
  exact ⟨_, rfl⟩

/-- An error that answers: it says what is wrong with the arguments or the item. -/
def IsAnswer : ExpansionError → Prop
  | .arguments _ => True
  | .item _ => True
  | .refused refusals => refusals ≠ []
  | .unnameable _ => False

theorem expandHost_of_not_isHostStruct (roots : CrateRoots) {args item : Tokens}
    (h : ¬(args = [] ∧ ∃ i fields, IsHostStruct item i fields)) :
    ∃ e, expandHost roots args item = .error e ∧ IsAnswer e := by
  cases hargs : Argument.ofTokens args with
  | error f => exact ⟨.arguments f, by rw [expandHost, hargs]; rfl, trivial⟩
  | ok arguments =>
    cases arguments with
    | cons a arguments => exact ⟨.refused [.hostArguments], by rw [expandHost, hargs]; rfl, List.cons_ne_nil _ _⟩
    | nil =>
      cases hitem : itemOf item with
      | error f => exact ⟨.item f, by rw [expandHost, hargs, markedItem, hitem]; rfl, trivial⟩
      | ok i =>
        have hmarked : markedItem item = .ok i := by rw [markedItem, hitem]; rfl
        obtain rfl := Argument.ofTokens_eq_ok_nil_iff.mp hargs
        by_cases hplain : i.parameters = []
        · rw [expandHost_eq_of_plain hmarked hplain]
          cases hkind : i.kind with
          | struct fields =>
            cases fields with
            | named fields => exact absurd ⟨rfl, i, fields.items, hmarked, ⟨fields.trailing, hkind⟩, hplain⟩ h
            | positional written => exact ⟨_, rfl, List.cons_ne_nil _ _⟩
            | unit => exact ⟨_, rfl, List.cons_ne_nil _ _⟩
          | enumeration written => exact ⟨_, rfl, List.cons_ne_nil _ _⟩
          | union fields => exact ⟨_, rfl, List.cons_ne_nil _ _⟩
        · exact ⟨_, expandHost_of_generic hmarked hplain, List.cons_ne_nil _ _⟩

theorem expansion_eq_ok_iff {marker : Marker} {roots : CrateRoots} {type : Ident} {item fields : Tokens} :
    (∃ code, expansion marker roots type item fields = .ok code) ↔ ∃ c, constantName marker type = .ok c := by
  rw [expansion]
  cases constantName marker type with
  | ok c => simp [Except.mapError, bind, Except.bind, pure, Except.pure]
  | error m => simp [Except.mapError, bind, Except.bind]

theorem expansion_eq_error_iff {marker : Marker} {roots : CrateRoots} {type : Ident} {item fields : Tokens}
    {e : ExpansionError} :
    expansion marker roots type item fields = .error e ↔ ∃ m, constantName marker type = .error m ∧ e = .unnameable m := by
  rw [expansion]
  cases constantName marker type with
  | ok c => simp [Except.mapError, bind, Except.bind, pure, Except.pure]
  | error m => simp [Except.mapError, bind, Except.bind, eq_comm]

theorem expandHost_struct (roots : CrateRoots) {item : Tokens} {i : Item} {fields : List Field}
    (h : IsHostStruct item i fields) :
    (¬CanBind fields ∧ expandHost roots [] item = .error (.refused (refusals fields))) ∨
      CanBind fields ∧ ∃ written bound,
        expandHost roots [] item = expansion .host roots i.name written (bindingsField roots bound) := by
  obtain ⟨written, heq⟩ := expandHost_of_isHostStruct roots h
  rw [boundFields_eq] at heq
  by_cases hcan : CanBind fields
  · rw [if_pos (refusals_eq_nil_iff.mpr hcan)] at heq
    simp only [Except.mapError, bind, Except.bind] at heq
    exact .inr ⟨hcan, written, _, heq⟩
  · rw [if_neg (mt refusals_eq_nil_iff.mp hcan)] at heq
    exact .inl ⟨hcan, heq⟩

theorem expandHost_unnameable_iff {roots : CrateRoots} {args item : Tokens} {m : MalformedIdent} :
    expandHost roots args item = .error (.unnameable m) ↔
      args = [] ∧ ∃ i fields, IsHostStruct item i fields ∧ CanBind fields ∧ constantName .host i.name = .error m := by
  constructor
  · intro hm
    by_cases hstruct : args = [] ∧ ∃ i fields, IsHostStruct item i fields
    · obtain ⟨rfl, i, fields, hstruct⟩ := hstruct
      rcases expandHost_struct roots hstruct with ⟨_, herror⟩ | ⟨hcan, written, bound, hexpansion⟩
      · rw [herror] at hm
        cases hm
      · rw [hexpansion, expansion_eq_error_iff] at hm
        obtain ⟨m', hname, hm⟩ := hm
        cases hm
        exact ⟨rfl, i, fields, hstruct, hcan, hname⟩
    · obtain ⟨e, he, hanswer⟩ := expandHost_of_not_isHostStruct roots hstruct
      rw [he] at hm
      cases hm
      exact hanswer.elim
  · rintro ⟨rfl, i, fields, hstruct, hcan, hname⟩
    rcases expandHost_struct roots hstruct with ⟨hnot, _⟩ | ⟨_, written, bound, hexpansion⟩
    · exact absurd hcan hnot
    · rw [hexpansion, expansion_eq_error_iff]
      exact ⟨m, hname, rfl⟩

/-- A host is expanded exactly if nothing is given to the attribute, the item is a struct with named fields and without
generic parameters, at least one field is marked, all that are can be bound, and the constant can be named. A struct
with fields that do not pass has one refusal for each offending field, in order, and one if no field is marked. Only a
struct that passes otherwise is stopped by its name, and of names that source text can have only the raw ones do so. -/
theorem expandHost_accepts (roots : CrateRoots) (args item : Tokens) :
    ((∃ code, expandHost roots args item = .ok code) ↔
      args = [] ∧ ∃ i fields, IsHostStruct item i fields ∧ CanBind fields ∧
        ∃ constant, constantName .host i.name = .ok constant) ∧
    (∀ i fields, IsHostStruct item i fields → ¬CanBind fields →
      ∃ found, List.Forall₂ Refuses (fields.filter (Offends ·)) found ∧
        expandHost roots [] item =
          .error (.refused (found ++ if ∃ f ∈ fields, IsMarked f then [] else [.noBoundField]))) ∧
    (∀ m, expandHost roots args item = .error (.unnameable m) ↔
      args = [] ∧ ∃ i fields, IsHostStruct item i fields ∧ CanBind fields ∧ constantName .host i.name = .error m) ∧
    ∀ type : Ident, type.IsToken → ((∃ constant, constantName .host type = .ok constant) ↔ type.raw = false) := by
  refine ⟨?_, ?_, ?_, fun type htoken => exists_constantName_iff_not_raw htoken⟩
  · constructor
    · rintro ⟨code, hcode⟩
      by_cases hstruct : args = [] ∧ ∃ i fields, IsHostStruct item i fields
      · obtain ⟨rfl, i, fields, hstruct⟩ := hstruct
        rcases expandHost_struct roots hstruct with ⟨_, herror⟩ | ⟨hcan, written, bound, hexpansion⟩
        · rw [herror] at hcode
          cases hcode
        · rw [hexpansion] at hcode
          exact ⟨rfl, i, fields, hstruct, hcan, expansion_eq_ok_iff.mp ⟨code, hcode⟩⟩
      · obtain ⟨e, he, _⟩ := expandHost_of_not_isHostStruct roots hstruct
        rw [he] at hcode
        cases hcode
    · rintro ⟨rfl, i, fields, hstruct, hcan, hname⟩
      rcases expandHost_struct roots hstruct with ⟨hnot, _⟩ | ⟨_, written, bound, hexpansion⟩
      · exact absurd hcan hnot
      · rw [hexpansion]
        exact expansion_eq_ok_iff.mpr hname
  · intro i fields hstruct hnot
    rcases expandHost_struct roots hstruct with ⟨_, herror⟩ | ⟨hcan, _⟩
    · exact ⟨_, refuses_filter fields, herror⟩
    · exact absurd hcan hnot
  · exact fun m => expandHost_unnameable_iff

theorem exists_isHostStruct {item : Tokens} {i : Item} (hitem : markedItem item = .ok i) (hplain : i.parameters = [])
    (hnames : markedNames i ≠ []) : ∃ fields, IsHostStruct item i fields := by
  unfold markedNames at hnames
  split at hnames
  · rename_i fields hkind
    exact ⟨fields.items, hitem, ⟨fields.trailing, hkind⟩, hplain⟩
  · exact absurd rfl hnames

def expansionError? {α : Type} : Expansion α → Option ExpansionError
  | .ok _ => none
  | .error e => some e

theorem expansionError?_eq_some_iff {α : Type} {x : Expansion α} {e : ExpansionError} :
    expansionError? x = some e ↔ x = .error e := by
  cases x <;> simp [expansionError?]

def faultyItem : Tokens :=
  (lex? "struct S \x7b #[bind(1)] #[bind(2)] a: Bound<L>, #[bind] b: u32, d: u8, #[bind(3)] c: u32 \x7d").getD []

theorem expandHost_accepts_faultyItem :
    ∃ i fields, IsHostStruct faultyItem i fields ∧ ¬CanBind fields ∧
      List.Forall₂ Refuses (fields.filter (Offends ·)) [.boundTwice, .bareBind, .notWrapped "c"] ∧
      expandHost (.resolve .none) [] faultyItem = .error (.refused [.boundTwice, .bareBind, .notWrapped "c"]) := by
  have hshape : (markedItem faultyItem).toOption.map (fun i => (markedNames i, i.parameters.isEmpty)) =
      some ([⟨"a", false⟩, ⟨"b", false⟩, ⟨"c", false⟩], true) := by decide +kernel
  have herror : expandHost (.resolve .none) [] faultyItem =
      .error (.refused [.boundTwice, .bareBind, .notWrapped "c"]) :=
    expansionError?_eq_some_iff.mp (by decide +kernel)
  obtain ⟨_, hrefused, _⟩ := expandHost_accepts (.resolve .none) [] faultyItem
  cases hitem : markedItem faultyItem with
  | error e =>
    rw [hitem] at hshape
    cases hshape
  | ok i =>
    rw [hitem] at hshape
    obtain ⟨hnames, hplain⟩ := Prod.mk.inj (Option.some.inj hshape)
    obtain ⟨fields, hstruct⟩ :=
      exists_isHostStruct hitem (List.isEmpty_iff.mp hplain) (by rw [hnames]; exact List.cons_ne_nil _ _)
    have hnot : ¬CanBind fields := by
      rcases expandHost_struct (.resolve .none) hstruct with ⟨hnot, _⟩ | ⟨_, written, bound, hexpansion⟩
      · exact hnot
      · obtain ⟨_, _, hm⟩ := expansion_eq_error_iff.mp (hexpansion.symm.trans herror)
        cases hm
    obtain ⟨found, hfound, hresult⟩ := hrefused i fields hstruct hnot
    have hlist := ExpansionError.refused.inj (Except.error.inj (herror.symm.trans hresult))
    by_cases hmarked : ∃ f ∈ fields, IsMarked f
    · rw [if_pos hmarked, List.append_nil] at hlist
      exact ⟨i, fields, hstruct, hnot, hlist ▸ hfound, herror⟩
    · rw [if_neg hmarked] at hlist
      have hlast := congrArg List.getLast? hlist
      simp at hlast

def rawItem : Tokens := (lex? "struct r#type \x7b #[bind(1)] f: Bound<T> \x7d").getD []

theorem rawItem_not_expanded :
    ∃ i fields, IsHostStruct rawItem i fields ∧ CanBind fields ∧
      ¬∃ code, expandHost (.resolve .none) [] rawItem = .ok code := by
  have herror : expandHost (.resolve .none) [] rawItem = .error (.unnameable ⟨"__R#TYPE_HOST_SCHEMA"⟩) :=
    expansionError?_eq_some_iff.mp (by decide +kernel)
  obtain ⟨_, i, fields, hstruct, hcan, _⟩ := expandHost_unnameable_iff.mp herror
  refine ⟨i, fields, hstruct, hcan, ?_⟩
  rintro ⟨code, hcode⟩
  rw [herror] at hcode
  cases hcode

end Marker

end HostBinder

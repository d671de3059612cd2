import HostBinder.Proofs.Binder.Emission
import HostBinder.Proofs.Binder.LocalNames
import HostBinder.Proofs.Code.UseItems

set_option autoImplicit false

/-!
What the type references of a unit stand for. A local name is that of one import only, which is the import of the
declared type; a full path is the declared type itself, and there is no import for it. Where the declared type is a
plain path, the line of the import reads as an item that binds the local name to it.
-/

namespace HostBinder

open Code

/-- Names with double colons between them, each one that source text can have. -/
def IsUsePath (cs : List Char) : Prop := IsPlainPath (fun i => i.isName = true ∧ (i.raw = true → i.name ∉ unrawable)) cs

/-- What the line of an import binds, as it is read: one name for the path, given by `as` exactly if the local name is
not the path's last segment. -/
structure Import.Binds (i : Import) (n : Ident) : Prop where
  spelled : n.text = i.localName
  isName : n.isName = true
  read : ∃ item, (lex? (BinderUnit.importLine i)).bind UseItem.ofTokens? = some item ∧ item.path = i.path ∧
    item.bound? = some n ∧ (item.alias?.isSome = true ↔ i.localName ≠ Text.lastSegment i.path)

theorem text_of_identOf {s : String} {i : Ident} (h : identOf s = .ok i) : i.text = s := by
  unfold identOf at h
  split at h
  · rename_i name hs
    unfold rawIdent at h
    split at h
    · cases h
      refine String.toList_injective ?_
      simp [Ident.text, hs]
    · cases h
  · split at h
    · cases h
      rfl
    · cases h

theorem not_mem_unrawable_append {name : String} {n : Nat} : name ++ toString n ∉ unrawable := by
  have hletters : unrawable.all (fun w => w.toList.all fun c => !c.isDigit) = true := by decide
  intro hmem
  have hchars := List.all_eq_true.mp (List.all_eq_true.mp hletters _ hmem)
  have hdigits : (toString n).toList = Nat.toDigits 10 n := by simp
  obtain ⟨c, hc⟩ := List.exists_mem_of_ne_nil _ (Nat.toDigits_ne_nil (b := 10) (n := n))
  have hdigit := Nat.isDigit_of_mem_toDigits (by decide) (by decide) hc
  have hnodigit := hchars c (by rw [String.toList_append, hdigits]; exact List.mem_append_right _ hc)
  rw [hdigit] at hnodigit
  cases hnodigit

theorem exists_isToken_candidateName {i : Ident} (h : i.IsToken) (n : Nat) :
    ∃ i' : Ident, i'.IsToken ∧ i'.text = candidateName i.text n := by
  unfold candidateName
  split
  · exact ⟨i, h, rfl⟩
  · refine ⟨⟨i.name ++ toString (n + 1), i.raw⟩, ⟨?_, fun _ => not_mem_unrawable_append⟩, ?_⟩
    · obtain ⟨c, cs, hname, hstart, hrest⟩ := isIdentText_eq_cons h.text
      have hdigits : (toString (n + 1)).toList = Nat.toDigits 10 (n + 1) := by simp
      rw [String.toList_append, hname, hdigits, List.cons_append, isIdentText, hstart, List.all_append,
        List.all_eq_true.mpr hrest, Bool.true_and, Bool.true_and, List.all_eq_true]
      intro d hd
      simp [Text.isIdentRest, Char.isAlphanum, Nat.isDigit_of_mem_toDigits (by decide) (by decide) hd]
    · simp only [Ident.text]
      split
      · rw [String.append_assoc]
      · rfl

theorem importLine_binds {i : Import} {front : List Ident} {last n : Ident} (hpath : i.path.toList = pathChars front last)
    (h : ∀ j ∈ front ++ [last], j.IsToken) (hname : n.text = i.localName) (hn : n.IsToken) (hisName : n.isName = true) :
    i.Binds n := by
  have hsegment := lastSegment_of_pathChars hpath (h last (List.mem_append_right _ List.mem_cons_self)).text
  have hitem : ∀ alias?, (⟨front ++ [last], alias?⟩ : UseItem).path = i.path := by
    intro alias?
    rw [UseItem.path, ← pathChars_eq_intercalate, ← hpath, String.ofList_toList]
  refine ⟨hname, hisName, ?_⟩
  by_cases halias : i.isAliased = true
  · rw [BinderUnit.importLine, if_pos halias]
    rw [Import.isAliased, bne_iff_ne] at halias
    exact ⟨_, useItem?_use_as hpath h hname.symm hn, hitem _, rfl, by simp [halias.symm]⟩
  · rw [BinderUnit.importLine, if_neg halias]
    rw [Import.isAliased, bne_iff_ne, not_not] at halias
    have hlast : n = last := hn.eq_of_text_eq (h last (List.mem_append_right _ List.mem_cons_self))
      (by rw [hname, ← halias, hsegment])
    exact ⟨_, useItem?_use hpath h, hitem _, by simp [UseItem.bound?, hlast], by simp [halias]⟩

/-- What an assignment made for a declaration refers to. -/
structure BinderUnit.Resolves (u : BinderUnit) (conforms : FieldDecl → Bool) (a : Assignment) (d : FieldDecl) :
    Prop where
  field : a.field = d.field
  id : a.id = d.id
  /-- A local name is that of one import, of the declared type. It is not the name of the host or of the binder. The
  code refers by it to what the line of the import binds, and no host or binder is declared in its place. -/
  imported : ∀ name, a.type = .imported name → conforms d = true ∧ name ≠ u.host ∧ name ≠ u.name ∧
    ∃ i, (u.imports.entries.filter fun j => j.localName = name) = [i] ∧ i.path = d.type ∧
      (IsUsePath d.type.toList → ∃ n, i.Binds n ∧ a.type.tokens? = some [.ident n] ∧
        identOf u.host ≠ .ok n ∧ identOf u.name ≠ .ok n)
  qualified : ∀ path, a.type = .qualified path → conforms d = false ∧ path = d.type ∧
    ∀ i ∈ u.imports.entries, i.path ≠ path

namespace ImportTable

variable {t : ImportTable} {reserved : List String} {ds : List FieldDecl} {path name : String}

theorem mem_of_local? (h : t.local? path = some name) : ∃ i ∈ t.entries, i.path = path ∧ i.localName = name := by
  obtain ⟨i, hi, rfl⟩ := Option.map_eq_some_iff.mp h
  exact ⟨i, List.mem_of_find?_eq_some hi, by simpa using List.find?_some hi, rfl⟩

theorem local?_eq_none_iff : t.local? path = none ↔ ∀ i ∈ t.entries, i.path ≠ path := by
  rw [local?, Option.map_eq_none_iff, get?, List.find?_eq_none]
  simp

theorem binds_of_nameOfText? {i : Import} {n : Ident} (hi : i ∈ (withReserved reserved ds).entries)
    (hplain : IsUsePath i.path.toList) (hn : nameOfText? i.localName = some n) : i.Binds n := by
  obtain ⟨front, last, hpath, hsegments⟩ := hplain.exists_pathChars
  have htokens : ∀ j ∈ front ++ [last], j.IsToken := fun j hj => ⟨(hsegments j hj).2, (hsegments j hj).1.2⟩
  have hlast : last ∈ front ++ [last] := List.mem_append_right _ List.mem_cons_self
  have hsegment := lastSegment_of_pathChars hpath (htokens last hlast).text
  obtain ⟨k, hname, _⟩ := exists_candidate hi
  obtain ⟨n', hn', htext⟩ := exists_isToken_candidateName (htokens last hlast) k
  rw [← hsegment, ← hname] at htext
  rw [← htext, nameOfText?_text hn'] at hn
  split at hn
  · rename_i hisName
    obtain rfl := Option.some.inj hn
    exact importLine_binds hpath htokens htext hn' hisName
  · cases hn

theorem filter_localName {i : Import} (hi : i ∈ (withReserved reserved ds).entries) :
    ((withReserved reserved ds).entries.filter fun j => j.localName = i.localName) = [i] := by
  have hnodup := nodup_localName reserved ds
  obtain ⟨before, after, hsplit⟩ := List.append_of_mem hi
  rw [hsplit] at hnodup ⊢
  rw [List.map_append, List.map_cons, List.nodup_append, List.nodup_cons] at hnodup
  obtain ⟨_, ⟨hafter, _⟩, hbefore⟩ := hnodup
  have hnone : ∀ j ∈ before, j.localName ≠ i.localName := fun j hj heq =>
    hbefore _ (List.mem_map_of_mem hj) _ List.mem_cons_self heq
  have hnone' : ∀ j ∈ after, j.localName ≠ i.localName := fun j hj heq =>
    hafter (heq ▸ List.mem_map_of_mem hj)
  rw [List.filter_append, List.filter_cons, List.filter_eq_nil_iff.mpr (by simpa using hnone),
    List.filter_eq_nil_iff.mpr (by simpa using hnone')]
  simp

end ImportTable

namespace HostGroup

variable {g : HostGroup} {conforms : FieldDecl → Bool} {policy : InvalidFieldPolicy} {roots : CrateRoots}
  {d : FieldDecl}

theorem resolves_of_typeRef? {ref : TypeRef} {tokens : Tokens} (hc : ByType conforms) (hd : d ∈ g.declarations)
    (href : typeRef? (g.imports conforms) policy d.type = some ref) (htokens : ref.tokens? = some tokens)
    (assignments : List Assignment) :
    (g.unit conforms roots assignments).Resolves conforms ⟨d.field, ref, d.id⟩ d where
  field := rfl
  id := rfl
  imported := by
    rintro name rfl
    have hlocal := typeRef?_eq_imported_iff.mp href
    have hconforms := isSome_local?_imports hc hd
    rw [hlocal] at hconforms
    obtain ⟨i, hi, hpath, rfl⟩ := ImportTable.mem_of_local? hlocal
    -- the names of the host and of its binder are reserved, and no import is given a reserved name
    have hfree : i.localName ∉ [g.host, binderName g.host] := fun hmem =>
      ImportTable.not_denies_localName hi (.inl hmem)
    simp only [List.mem_cons, List.not_mem_nil, or_false, not_or] at hfree
    refine ⟨hconforms.symm, hfree.1, hfree.2, i, ImportTable.filter_localName hi, hpath, fun hplain => ?_⟩
    obtain ⟨n, hn, rfl⟩ := Option.map_eq_some_iff.mp htokens
    have hbinds := ImportTable.binds_of_nameOfText? hi (hpath ▸ hplain) hn
    have hother : ∀ s, i.localName ≠ s → identOf s ≠ .ok n := fun s hs hident =>
      hs (hbinds.spelled.symm.trans (text_of_identOf hident))
    exact ⟨n, hbinds, htokens, hother _ hfree.1, hother _ hfree.2⟩
  qualified := by
    rintro path rfl
    obtain ⟨hnone, _, rfl⟩ := typeRef?_eq_qualified_iff.mp href
    have hconforms := isSome_local?_imports hc hd
    rw [hnone] at hconforms
    exact ⟨hconforms.symm, rfl, ImportTable.local?_eq_none_iff.mp hnone⟩

/-- Each declaration of a host in turn is left out, refused or assigned, and every assignment of the host's unit refers
to the type of the declaration that it is made for. -/
theorem emit_resolves {u : BinderUnit} {reports : List Diagnostic} (hc : ByType conforms)
    (he : g.emit conforms policy roots = .ok ⟨some u, reports⟩) :
    u.host = g.host ∧ u.name = binderName g.host ∧ ∃ results, u.assignments = assignmentsOf results ∧
      List.Forall₂ (fun d r => Treated u.imports policy g.path d r ∧ ∀ a, r = some (.ok a) → u.Resolves conforms a d)
        g.declarations results := by
  obtain ⟨_, results, htreated, rfl⟩ := (emit_eq_ok_iff.mp he).eq_unit rfl
  refine ⟨rfl, rfl, results, rfl, ?_⟩
  have hboth := (List.forall₂_and_left _ _).mpr ⟨fun _ hd => hd, htreated⟩
  refine hboth.imp fun d r ⟨hd, htreated⟩ => ⟨htreated, ?_⟩
  rintro a rfl
  cases htreated with
  | assigned href _ htokens => exact resolves_of_typeRef? hc hd href htokens _

def labelHost : HostGroup where
  package := "app"
  host := "Label"
  declarations := [⟨"app", "Label", "inner", "w::Label", 1⟩, ⟨"app", "Label", "text", "std::string::String", 2⟩,
    ⟨"app", "Label", "binder", "w::LabelViewBinder", 3⟩]

def holdsView (d : FieldDecl) : Bool := d.type != "std::string::String"

theorem emit_labelHost_resolves :
    ByType holdsView ∧
      ∃ u, labelHost.emit holdsView .emit (.resolve .none) = .ok ⟨some u, []⟩ ∧
        u.assignments = [⟨"inner", .imported "Label2", 1⟩, ⟨"text", .qualified "std::string::String", 2⟩,
          ⟨"binder", .imported "LabelViewBinder2", 3⟩] ∧
        u.host = "Label" ∧ u.name = "LabelViewBinder" ∧ ∃ results, u.assignments = assignmentsOf results ∧
          List.Forall₂ (fun d r => Treated u.imports .emit "app::Label" d r ∧
            ∀ a, r = some (.ok a) → u.Resolves holdsView a d)
            labelHost.declarations results := by
  have hc : ByType holdsView := by
    intro d e h
    rw [holdsView, holdsView, h]
  refine ⟨hc, ?_⟩
  have hresult : (labelHost.emit holdsView .emit (.resolve .none)).map
      (fun e => (e.unit.map BinderUnit.assignments, e.diagnostics)) =
        .ok (some [⟨"inner", .imported "Label2", 1⟩, ⟨"text", .qualified "std::string::String", 2⟩,
          ⟨"binder", .imported "LabelViewBinder2", 3⟩], []) := by
    decide +kernel
  cases he : labelHost.emit holdsView .emit (.resolve .none) with
  | error e =>
    rw [he] at hresult
    cases hresult
  | ok e =>
    obtain ⟨unit, reports⟩ := e
    rw [he] at hresult
    simp only [Except.map, Except.ok.injEq, Prod.mk.injEq] at hresult
    obtain ⟨hunit, rfl⟩ := hresult
    obtain ⟨u, rfl, hassignments⟩ := Option.map_eq_some_iff.mp hunit
    exact ⟨u, rfl, hassignments, emit_resolves hc he⟩

/-- A host with a field whose type ends the item of its import and has the rest of the line in a comment. -/
def commentHost : HostGroup where
  package := "app"
  host := "Main"
  declarations := [⟨"app", "Main", "title", "w::A as B; //::Label", 1⟩]

/-- The field is assigned by a name that its import does not bind. -/
theorem emit_commentHost_binds_other :
    ∃ u i, commentHost.emit (fun _ => true) .skip (.resolve .none) = .ok ⟨some u, []⟩ ∧
      u.assignments = [⟨"title", .imported "Label", 1⟩] ∧ u.imports.entries = [i] ∧
      i.path = "w::A as B; //::Label" ∧ i.localName = "Label" ∧
      BinderUnit.importLine i = "use ::w::A as B; //::Label;\n" ∧
      (lex? (BinderUnit.importLine i)).bind UseItem.ofTokens? = some ⟨[⟨"w", false⟩, ⟨"A", false⟩], some ⟨"B", false⟩⟩ ∧
      ∀ n, ¬i.Binds n := by
  have hresult : (commentHost.emit (fun _ => true) .skip (.resolve .none)).map
      (fun e => (e.unit.map fun u => (u.assignments, u.imports.entries), e.diagnostics)) =
        .ok (some ([⟨"title", .imported "Label", 1⟩],
          [⟨"w::A as B; //::Label", "Label", ⟨"app", "Main", "title", "w::A as B; //::Label", 1⟩⟩]), []) := by
    decide +kernel
  cases he : commentHost.emit (fun _ => true) .skip (.resolve .none) with
  | error e =>
    rw [he] at hresult
    cases hresult
  | ok e =>
    obtain ⟨unit, reports⟩ := e
    rw [he] at hresult
    simp only [Except.map, Except.ok.injEq, Prod.mk.injEq] at hresult
    obtain ⟨hunit, rfl⟩ := hresult
    obtain ⟨u, rfl, hu⟩ := Option.map_eq_some_iff.mp hunit
    obtain ⟨hassignments, himports⟩ := Prod.mk.inj hu
    have hread : (lex? "use ::w::A as B; //::Label;\n").bind UseItem.ofTokens? =
        some ⟨[⟨"w", false⟩, ⟨"A", false⟩], some ⟨"B", false⟩⟩ := by
      decide +kernel
    have hline : BinderUnit.importLine ⟨"w::A as B; //::Label", "Label",
        ⟨"app", "Main", "title", "w::A as B; //::Label", 1⟩⟩ = "use ::w::A as B; //::Label;\n" := by
      decide +kernel
    refine ⟨u, _, rfl, hassignments, himports, rfl, rfl, hline, by rw [hline]; exact hread, fun n hn => ?_⟩
    obtain ⟨item, hitem, _, hbound, _⟩ := hn.read
    rw [hline, hread] at hitem
    obtain rfl := Option.some.inj hitem
    obtain rfl : (⟨"B", false⟩ : Ident) = n := Option.some.inj hbound
    exact absurd hn.spelled (by decide)

end HostGroup

end HostBinder

import HostBinder.Proofs.Binder.Accounting
import HostBinder.Proofs.Binder.RegistryKeys
import HostBinder.Proofs.Code.Names
import HostBinder.Proofs.Code.PlainPaths
import HostBinder.Proofs.Text.LastSegment

set_option autoImplicit false

namespace HostBinder

open Code

def Code.Ident.IsWritten (i : Ident) (text : String) : Prop :=
  text = i.text ∧ i.isName = true ∧ isIdentText i.name.toList = true

/-- A path of names, none of its segments a word of the language. -/
def IsNamePath (cs : List Char) : Prop := IsPlainPath (fun i => i.isName = true) cs

/-- A line that brings into scope the names in a module, or one type, perhaps by another name. -/
inductive IsUseItem : String → Prop
  | contents {path : String} (hpath : IsNamePath path.toList) : IsUseItem ("use ::" ++ path ++ "::*;\n")
  | type {path : String} (hpath : IsNamePath path.toList) : IsUseItem ("use ::" ++ path ++ ";\n")
  | alias {path name : String} {i : Ident} (hpath : IsNamePath path.toList) (hname : i.IsWritten name) :
      IsUseItem ("use ::" ++ path ++ " as " ++ name ++ ";\n")

def Schema.HasNamePaths (s : Schema) : Prop :=
  ∀ e ∈ s.nodes.entries, e.2.name.modulePath = "" ∨ IsNamePath e.2.name.modulePath.toList

/-- What is known of an import. -/
structure Import.Named (i : Import) (s : Schema) (settings : Settings) : Prop where
  /-- The type is the base type or a component. The latter has an identifier for its name, and so has the import. -/
  type : i.path = settings.baseType ∨
    ∃ c, s.get? i.path = some (.component c) ∧ IsIdentifier c.name.ident ∧ ∃ n : Ident, n.IsWritten i.localName
  /-- The local name reads as a name, and is one if nothing in the path is dropped on reading. -/
  localName : ∃ n, nameOfText? i.localName = some n ∧ (NothingDropped i.path.toList → n.IsWritten i.localName)
  path : s.HasNamePaths → IsNamePath settings.baseType.toList → IsNamePath i.path.toList

/-- What is known of the package and the imports of a unit. -/
structure BinderUnit.Named (u : BinderUnit) (s : Schema) (settings : Settings) : Prop where
  package : ∃ h ∈ s.boundHosts, u.package = h.name.modulePath
  /-- The package reads as a path. It is a plain one, of names and of words that can be segments, unless it has a
  separator in front, arguments, or something that is dropped on reading. -/
  packageReads : ∃ p, pathOfText? u.package = some p ∧
    (p.rooted = false → p.isPlain = true → NothingDropped u.package.toList →
      IsPlainPath Ident.IsSegment u.package.toList)
  imports : ∀ i ∈ u.imports.entries, i.Named s settings
  /-- Where modules and the base type have paths of names, the package and each import make one item. -/
  items : s.HasNamePaths → IsNamePath settings.baseType.toList →
    (∃ item, IsUseItem item ∧ u.packageSection =
      "// @generated by viewbind for " ++ u.hostPath ++ "\npub mod " ++ u.moduleName ++ " \x7b\n" ++ item) ∧
    ∃ items, (∀ item ∈ items, IsUseItem item) ∧ items.length = u.imports.entries.length ∧
      u.importSection = String.join items

theorem nothingDropped_of_isIdentifier {s : String} (h : IsIdentifier s) : NothingDropped s.toList :=
  nothingDropped_of_all_isIdentRest (all_isIdentRest_of_isIdentText (isIdentText_of_isIdentifier h))

theorem nothingDropped_candidateName {simple : String} (h : NothingDropped simple.toList) (n : Nat) :
    NothingDropped (candidateName simple n).toList := by
  unfold candidateName
  split
  · exact h
  · rw [String.toList_append]
    refine h.append (nothingDropped_of_all_isIdentRest fun c hc => ?_)
    have hdigits : (toString (n + 1)).toList = Nat.toDigits 10 (n + 1) := by simp
    rw [hdigits] at hc
    have hdigit := Nat.isDigit_of_mem_toDigits (by decide) (by decide) hc
    simp [Text.isIdentRest, Char.isAlphanum, hdigit]

theorem not_mem_reservedWords_of_nameOfText? {s : String} {n : Ident} (h : nameOfText? s = some n) :
    s ∉ reservedWords := by
  have hidents : reservedWords.all (fun w => isIdentText w.toList) = true := by decide +kernel
  intro hmem
  rw [nameOfText?_of_isIdentText (List.all_eq_true.mp hidents s hmem), if_pos hmem] at h
  cases h

theorem binderName_not_mem_reservedWords (host : String) : binderName host ∉ reservedWords := by
  have hsuffix : ∀ w ∈ reservedWords, ¬binderSuffix.toList <:+ w.toList := by decide +kernel
  intro hmem
  refine hsuffix _ hmem ?_
  rw [binderName, String.toList_append]
  exact List.suffix_append _ _

theorem isNamePath_of_isIdentifier {s : String} (h : IsIdentifier s) (hreserved : s ∉ reservedWords) :
    IsNamePath s.toList := by
  have hname : (⟨s, false⟩ : Ident).isName = true := by simpa [Ident.isName] using hreserved
  have htext : isIdentText (⟨s, false⟩ : Ident).name.toList = true := isIdentText_of_isIdentifier h
  exact IsPlainPath.single hname htext

namespace Schema

variable {s : Schema} {settings : Settings} {roots : CrateRoots} {h : Host} {path : String} {c : Component}

theorem mem_entries_of_get? {n : Node} (hget : s.get? path = some n) : (path, n) ∈ s.nodes.entries := by
  obtain ⟨before, after, hentries, _⟩ := List.lookup_eq_some_iff.mp hget
  rw [hentries]
  simp

theorem isIdentifier_of_component (hcheck : s.check = .ok ()) (hget : s.get? path = some (.component c)) :
    IsIdentifier c.name.ident := by
  have hrules := (Nat.add_eq_zero_iff.mp (check_eq_ok_iff.mp hcheck)).1
  rw [List.sum_eq_zero_iff] at hrules
  have hnode : c.brokenRules = 0 := hrules _ (List.mem_map.mpr ⟨_, mem_entries_of_get? hget, rfl⟩)
  simp only [Component.brokenRules, Nat.add_eq_zero_iff, ite_eq_left_iff, one_ne_zero, imp_false, not_not] at hnode
  exact hnode.1.1

theorem eq_or_exists_component_of_reaches {base : String} (h : s.Reaches path base) :
    path = base ∨ ∃ c, s.get? path = some (.component c) := by
  rcases Relation.ReflTransGen.cases_head h with heq | ⟨parent, ⟨c, hget, _⟩, _⟩
  · exact .inl heq
  · exact .inr ⟨c, hget⟩

theorem lastSegment_of_component (hget : s.get? path = some (.component c)) (hident : IsIdentifier c.name.ident) :
    Text.lastSegment path = c.name.ident := by
  have hpath : path = c.name.path := s.keyed _ (mem_entries_of_get? hget)
  rw [hpath, TypeName.path]
  split
  · exact Text.lastSegment_eq_self (colon_not_mem_of_isIdentifier hident)
  · exact Text.lastSegment_append (colon_not_mem_of_isIdentifier hident)

theorem isNamePath_of_component (hmodules : s.HasNamePaths) (hget : s.get? path = some (.component c))
    (hident : IsNamePath c.name.ident.toList) : IsNamePath path.toList := by
  have hpath : path = c.name.path := s.keyed _ (mem_entries_of_get? hget)
  rw [hpath, TypeName.path]
  split
  · exact hident
  · rename_i hmodule
    rcases hmodules _ (mem_entries_of_get? hget) with hempty | hplain
    · exact absurd hempty hmodule
    · have hchars : (c.name.modulePath ++ "::" ++ c.name.ident).toList =
          c.name.modulePath.toList ++ ':' :: ':' :: c.name.ident.toList := by
        simp
      rw [hchars]
      exact IsPlainPath.append hplain hident

end Schema

section CleanHost

variable {s : Schema} {settings : Settings} {roots : CrateRoots} {h : Host}

structure Host.Clean (h : Host) (s : Schema) (settings : Settings) : Prop where
  nameable : h.group.isNameable = true
  reaches : h.AllReach s settings.baseType
  written : ∀ b ∈ h.bindings, ¬h.IsUnwritten s settings b

theorem Host.clean_of_made {u : BinderUnit}
    (hok : ∃ e, h.group.emit (s.conforming settings.baseType) settings.invalidFields roots = .ok e)
    (hmade : s.Made settings roots h u) (herrors : errorCount (s.reports settings roots h) = 0) :
    h.Clean s settings := by
  rw [Schema.errorCount_reports hok, if_pos hmade.tried] at herrors
  have hinvalid : (h.bindings.countP fun b => ¬s.Reaches b.type settings.baseType) = 0 := by omega
  have hunwritten : (h.bindings.countP fun b => h.IsUnwritten s settings b) = 0 := by omega
  rw [List.countP_eq_zero] at hinvalid hunwritten
  exact ⟨hmade.tried.2, fun b hb => by simpa using hinvalid b hb, fun b hb => by simpa using hunwritten b hb⟩

namespace Host.Clean

variable {i : Import} (hclean : h.Clean s settings)
  (hi : i ∈ (h.group.imports (s.conforming settings.baseType)).entries)

include hi in
theorem exists_binding : ∃ b ∈ h.bindings, b.type = i.path := by
  obtain ⟨d, hd, htype⟩ := ImportTable.isSome_get?_withReserved.mp
    (ImportTable.isSome_get?_iff.mpr (List.mem_map_of_mem hi))
  obtain ⟨b, hb, rfl⟩ := List.mem_map.mp (List.mem_filter.mp hd).1
  exact ⟨b, hb, htype⟩

include hi in
theorem nothingDropped_localName (hwhole : NothingDropped (Text.lastSegment i.path).toList) :
    NothingDropped i.localName.toList := by
  obtain ⟨hmem, n, hlocal⟩ := named_of_mem_nameImports hi
  have htype := type_of_mem_firstByType hmem
  rw [hlocal, FieldDecl.typeName, htype]
  exact nothingDropped_candidateName hwhole n

include hi in
theorem isWritten_localName {n : Ident} (hn : nameOfText? i.localName = some n)
    (hwhole : NothingDropped (Text.lastSegment i.path).toList) : n.IsWritten i.localName :=
  eq_text_of_nameOfText? hn (nothingDropped_localName hi hwhole)

include hclean hi

theorem nameOfText?_localName : ∃ n, nameOfText? i.localName = some n := by
  obtain ⟨b, hb, htype⟩ := exists_binding hi
  have hlocal : (h.group.imports (s.conforming settings.baseType)).local? i.path = some i.localName :=
    ImportTable.local?_of_mem hi
  have hfield : h.fieldType? s settings b = some (.imported i.localName) := by
    unfold Host.fieldType?
    rw [htype]
    exact typeRef?_eq_imported_iff.mpr hlocal
  cases hname : nameOfText? i.localName with
  | some n => exact ⟨n, rfl⟩
  | none =>
    refine absurd ⟨.inl (hclean.reaches b hb), .inr ?_⟩ (hclean.written b hb)
    rw [hfield]
    simp [TypeRef.tokens?, hname]

/-- The last segment of a type's path is no reserved word, as it is the name of the import or was taken. -/
theorem lastSegment_not_mem_reservedWords : Text.lastSegment i.path ∉ reservedWords := by
  have htaken : ∀ t ∈ [h.name.ident, binderName h.name.ident], t ∉ reservedWords := by
    have hnameable := hclean.nameable
    unfold HostGroup.isNameable at hnameable
    rw [Bool.and_eq_true] at hnameable
    obtain ⟨n, hn⟩ := Option.isSome_iff_exists.mp hnameable.1
    simp only [List.forall_mem_cons, List.not_mem_nil, false_implies, implies_true, and_true]
    exact ⟨not_mem_reservedWords_of_nameOfText? hn, binderName_not_mem_reservedWords _⟩
  have hlocals : ∀ j ∈ (h.group.imports (s.conforming settings.baseType)).entries, j.localName ∉ reservedWords := by
    intro j hj
    obtain ⟨n, hn⟩ := hclean.nameOfText?_localName hj
    exact not_mem_reservedWords_of_nameOfText? hn
  have htype := type_of_mem_firstByType (named_of_mem_nameImports hi).1
  have hname := typeName_of_nameImports htaken hlocals i hi
  unfold FieldDecl.typeName at hname
  rwa [htype] at hname

theorem named (hcheck : s.check = .ok ()) : i.Named s settings := by
  obtain ⟨b, hb, htype⟩ := exists_binding hi
  have hreaches := hclean.reaches b hb
  rw [htype] at hreaches
  obtain ⟨n, hn⟩ := hclean.nameOfText?_localName hi
  have hcases := Schema.eq_or_exists_component_of_reaches hreaches
  refine ⟨?_, ⟨n, hn, fun hwhole => ?_⟩, ?_⟩
  · rcases hcases with heq | ⟨c, hget⟩
    · exact .inl heq
    · have hident := Schema.isIdentifier_of_component hcheck hget
      have hwhole : NothingDropped (Text.lastSegment i.path).toList := by
        rw [Schema.lastSegment_of_component hget hident]
        exact nothingDropped_of_isIdentifier hident
      exact .inr ⟨c, hget, hident, n, isWritten_localName hi hn hwhole⟩
  · exact isWritten_localName hi hn fun c hc => hwhole c (Text.toList_lastSegment_subset i.path hc)
  · intro hmodules hbase
    rcases hcases with heq | ⟨c, hget⟩
    · rwa [heq]
    · have hident := Schema.isIdentifier_of_component hcheck hget
      have hreserved := hclean.lastSegment_not_mem_reservedWords hi
      rw [Schema.lastSegment_of_component hget hident] at hreserved
      exact Schema.isNamePath_of_component hmodules hget (isNamePath_of_isIdentifier hident hreserved)

end Host.Clean

end CleanHost

theorem Import.Named.isUseItem {i : Import} {s : Schema} {settings : Settings} (hi : i.Named s settings)
    (hmodules : s.HasNamePaths) (hbase : IsNamePath settings.baseType.toList) :
    IsUseItem (BinderUnit.importLine i) := by
  have hpath := hi.path hmodules hbase
  obtain ⟨n, _, hwritten⟩ := hi.localName
  unfold BinderUnit.importLine
  split
  · exact .alias hpath (hwritten hpath.nothingDropped)
  · exact .type hpath

theorem BinderUnit.named_of_clean {s : Schema} {settings : Settings} {roots : CrateRoots} {h : Host}
    {assignments : List Assignment} (hcheck : s.check = .ok ()) (hh : h ∈ s.boundHosts) (hclean : h.Clean s settings) :
    (h.group.unit (s.conforming settings.baseType) roots assignments).Named s settings := by
  have himports : ∀ i ∈ (h.group.imports (s.conforming settings.baseType)).entries, i.Named s settings :=
    fun i hi => hclean.named hi hcheck
  have hnameable := hclean.nameable
  unfold HostGroup.isNameable at hnameable
  rw [Bool.and_eq_true] at hnameable
  obtain ⟨p, hp⟩ := Option.isSome_iff_exists.mp hnameable.2
  refine ⟨⟨h, hh, rfl⟩, ⟨p, hp, isPlainPath_of_pathOfText? hp⟩, himports, ?_⟩
  intro hmodules hbase
  constructor
  · -- a host that can be named has a module
    have hpackage : IsNamePath h.name.modulePath.toList := by
      obtain ⟨e, he, rfl⟩ := List.mem_map.mp (List.mem_filter.mp hh).1
      rcases hmodules _ (Schema.mem_hosts.mp he) with hempty | hplain
      · exact absurd hempty (HostGroup.package_ne_empty hclean.nameable)
      · exact hplain
    refine ⟨_, .contents hpackage, ?_⟩
    unfold packageSection
    simp only [String.append_assoc]
    rfl
  · refine ⟨(h.group.imports (s.conforming settings.baseType)).entries.map importLine, ?_, List.length_map _, rfl⟩
    intro item hitem
    obtain ⟨i, hi, rfl⟩ := List.mem_map.mp hitem
    exact (himports i hi).isUseItem hmodules hbase

/-- Where a schema has passed its check and a pass over it has no errors, each unit's package was read as a path and
each of its imports goes by a name, and they are well-formed as far as the modules and the base type are. -/
theorem generate_named {s : Schema} {settings : Settings} {roots : CrateRoots} {g : Generation}
    (hcheck : s.check = .ok ()) (hg : generate s settings roots = .ok g) (herrors : errorCount g.diagnostics = 0) :
    ∀ u ∈ g.units, u.Named s settings := by
  intro u hu
  rw [eq_shares_of_generate hg] at hu herrors
  obtain ⟨h, hh, hkept, _⟩ := Schema.host_of_mem_shares hu
  have hok := exists_generate_iff.mp ⟨g, hg⟩ h hh
  have hmade := Schema.made_of_kept? hok hkept
  have hreports : errorCount (s.reports settings roots h) = 0 := by
    rw [errorCount, List.countP_eq_zero] at herrors ⊢
    exact fun d hd => herrors d (List.mem_flatMap.mpr ⟨h, hh, hd⟩)
  obtain ⟨_, _, _, rfl⟩ := (Schema.emitted_emission hok).eq_unit hmade.draft
  exact BinderUnit.named_of_clean hcheck hh (Host.clean_of_made hok hmade hreports)

theorem generate_labelScreen_named :
    (labelScreen "app" [⟨"title", "w::Label", 1⟩]).check = .ok () ∧
      ∃ g, generate (labelScreen "app" [⟨"title", "w::Label", 1⟩]) .default (.resolve .none) = .ok g ∧
        errorCount g.diagnostics = 0 ∧ g.units.length = 1 ∧
          ∀ u ∈ g.units, u.Named (labelScreen "app" [⟨"title", "w::Label", 1⟩]) .default := by
  have hcheck : (labelScreen "app" [⟨"title", "w::Label", 1⟩]).check = .ok () :=
    Schema.check_eq_ok_iff.mpr (by decide +kernel)
  have hcounts : (generate (labelScreen "app" [⟨"title", "w::Label", 1⟩]) .default (.resolve .none)).map
      (fun g => (errorCount g.diagnostics, g.units.length)) = .ok (0, 1) := by
    decide +kernel
  refine ⟨hcheck, ?_⟩
  cases hg : generate (labelScreen "app" [⟨"title", "w::Label", 1⟩]) .default (.resolve .none) with
  | error e =>
    rw [hg] at hcounts
    cases hcounts
  | ok g =>
    rw [hg] at hcounts
    simp only [Except.map, Except.ok.injEq, Prod.mk.injEq] at hcounts
    exact ⟨g, rfl, hcounts.1, hcounts.2, generate_named hcheck hg hcounts.1⟩

/-- A package with a separator in front is read as the path that it is, and then written behind a second separator,
with nothing reported. -/
theorem rooted_package_unreported :
    (labelScreen "::app" [⟨"title", "w::Label", 1⟩]).check = .ok () ∧
      (generate (labelScreen "::app" [⟨"title", "w::Label", 1⟩]) .default (.resolve .none)).map
        (fun g => (errorCount g.diagnostics, g.units.map BinderUnit.package)) = .ok (0, ["::app"]) ∧
      ¬IsPlainPath Ident.IsSegment "::app".toList := by
  refine ⟨Schema.check_eq_ok_iff.mpr (by decide +kernel), by decide +kernel, ?_⟩
  intro hplain
  obtain ⟨c, _, hcs, hstart⟩ := hplain.exists_isIdentStart
  obtain ⟨rfl, _⟩ := List.cons.inj hcs
  revert hstart
  decide

end HostBinder

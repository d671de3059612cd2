import HostBinder.Config.Document
import HostBinder.Proofs.Entries

set_option autoImplicit false

/-!
The keys of a document. A key that a table has already is given no second value, by whichever of the ways in which
tables come about; so in every table that is read from a text each key stands once.
-/

namespace HostBinder

/-- In every table of a value each key stands once. -/
inductive ConfigValue.KeyedOnce : ConfigValue → Prop
  | string (s : String) : (string s).KeyedOnce
  | integer (n : Int) : (integer n).KeyedOnce
  | float (f : FloatValue) : (float f).KeyedOnce
  | boolean (b : Bool) : (boolean b).KeyedOnce
  | moment : moment.KeyedOnce
  | array {growing : Bool} {elements : List ConfigValue} (helements : ∀ v ∈ elements, v.KeyedOnce) :
      (array growing elements).KeyedOnce
  | table {origin : TableOrigin} {entries : List (String × ConfigValue)} (hdiffer : KeysDiffer entries)
      (hentries : ∀ e ∈ entries, e.2.KeyedOnce) : (table origin entries).KeyedOnce

namespace ConfigTable

open ConfigValue

def KeyedOnce (t : ConfigTable) : Prop := t.value.KeyedOnce

variable {t t' : ConfigTable} {key : String} {v : ConfigValue} {dotted : Bool}

theorem keyedOnce_iff : t.KeyedOnce ↔ KeysDiffer t.entries ∧ ∀ e ∈ t.entries, e.2.KeyedOnce := by
  constructor
  · intro h
    cases h with
    | table hdiffer hentries => exact ⟨hdiffer, hentries⟩
  · intro h
    exact .table h.1 h.2

theorem keyedOnce_nil (origin : TableOrigin) : KeyedOnce ⟨origin, []⟩ := .table List.Pairwise.nil (by simp)

theorem KeyedOnce.get? (ht : t.KeyedOnce) (hv : t.get? key = some v) : v.KeyedOnce := by
  obtain ⟨before, after, hentries, _⟩ := List.lookup_eq_some_iff.mp hv
  exact (keyedOnce_iff.mp ht).2 (key, v) (by simp [hentries])

theorem KeyedOnce.set (ht : t.KeyedOnce) (hv : v.KeyedOnce) : (t.set key v).KeyedOnce := by
  obtain ⟨hdiffer, hentries⟩ := keyedOnce_iff.mp ht
  unfold ConfigTable.set
  cases hget : t.get? key with
  | some old =>
    rw [Option.isSome_some, if_pos rfl, keyedOnce_iff]
    constructor
    · -- the value changes, and the keys stay as they are
      refine List.pairwise_map.mpr (hdiffer.imp fun {a b} hab => ?_)
      split <;> split <;> simp_all
    · intro e he
      obtain ⟨old, hold, rfl⟩ := List.mem_map.mp he
      split
      · exact hv
      · exact hentries old hold
  | none =>
    rw [Option.isSome_none, if_neg Bool.false_ne_true, keyedOnce_iff]
    have hnew : ∀ e ∈ t.entries, e.1 ≠ key := by
      intro e he heq
      have := List.lookup_eq_none_iff.mp hget e he
      simp [heq] at this
    constructor
    · exact List.pairwise_append.mpr ⟨hdiffer, List.pairwise_singleton _ _, by simpa using fun a b => hnew (a, b)⟩
    · exact List.forall_mem_append.mpr ⟨hentries, by simpa using hv⟩

theorem KeyedOnce.descend {change : ConfigTable → Option ConfigTable}
    (hchange : ∀ t t', t.KeyedOnce → change t = some t' → t'.KeyedOnce) {path : List String} (ht : t.KeyedOnce)
    (h : t.descend dotted change path = some t') : t'.KeyedOnce := by
  induction path generalizing t t' with
  | nil => exact hchange t t' ht h
  | cons key path ih =>
    rw [ConfigTable.descend] at h
    cases hget : t.get? key with
    | none =>
      rw [hget] at h
      obtain ⟨sub, hsub, rfl⟩ := Option.map_eq_some_iff.mp h
      exact ht.set (ih (keyedOnce_nil _) hsub)
    | some v =>
      have hv := ht.get? hget
      rw [hget] at h
      cases hv with
      | table hdiffer hentries =>
        dsimp only at h
        split at h
        · cases h
        · obtain ⟨sub, hsub, rfl⟩ := Option.map_eq_some_iff.mp h
          exact ht.set (ih (.table hdiffer hentries) hsub)
      | @array growing elements helements =>
        cases growing with
        | false => cases h
        | true =>
          dsimp only at h
          split at h
          · rename_i origin entries hlast
            have hmem := List.mem_of_getLast? hlast
            obtain ⟨sub, hsub, rfl⟩ := Option.map_eq_some_iff.mp h
            refine ht.set (.array (List.forall_mem_append.mpr ⟨fun v hv => ?_, ?_⟩))
            · exact helements v ((List.dropLast_sublist elements).subset hv)
            · exact List.forall_mem_singleton.mpr (ih (t := ⟨origin, entries⟩) (helements _ hmem) hsub)
          · cases h
      | _ => cases h

theorem KeyedOnce.assign (ht : t.KeyedOnce) (hv : v.KeyedOnce) (h : t.assign dotted key v = some t') :
    t'.KeyedOnce := by
  rw [ConfigTable.assign] at h
  split at h
  · cases h
  · obtain rfl := Option.some.inj h
    exact ht.set hv

theorem KeyedOnce.assignAt {path : List String} (ht : t.KeyedOnce) (hv : v.KeyedOnce)
    (h : t.assignAt path key v = some t') : t'.KeyedOnce :=
  ht.descend (fun _ _ ht => ht.assign hv) h

theorem KeyedOnce.openTable (ht : t.KeyedOnce) (h : t.openTable key = some t') : t'.KeyedOnce := by
  rw [ConfigTable.openTable] at h
  split at h
  · obtain rfl := Option.some.inj h
    exact ht.set (keyedOnce_nil .header)
  · rename_i entries hget
    obtain rfl := Option.some.inj h
    have hentries : KeyedOnce ⟨.implied, entries⟩ := ht.get? hget
    exact ht.set (.table (keyedOnce_iff.mp hentries).1 (keyedOnce_iff.mp hentries).2)
  · cases h

theorem KeyedOnce.openElement (ht : t.KeyedOnce) (h : t.openElement key = some t') : t'.KeyedOnce := by
  rw [ConfigTable.openElement] at h
  split at h
  · obtain rfl := Option.some.inj h
    exact ht.set (.array (List.forall_mem_singleton.mpr (keyedOnce_nil .header)))
  · rename_i elements hget
    obtain rfl := Option.some.inj h
    cases ht.get? hget with
    | array helements =>
      exact ht.set (.array (List.forall_mem_append.mpr
        ⟨helements, List.forall_mem_singleton.mpr (keyedOnce_nil .header)⟩))
  · cases h

end ConfigTable

namespace Config

open ConfigTable

theorem keyedOnce_of_integer? {cs : List Char} {v : ConfigValue} (h : integer? cs = some v) : v.KeyedOnce := by
  unfold integer? at h
  dsimp only at h
  split at h <;> obtain ⟨_, _, rfl⟩ := Option.map_eq_some_iff.mp h <;> exact .integer _

theorem keyedOnce_of_float? {cs : List Char} {v : ConfigValue} (h : float? cs = some v) : v.KeyedOnce := by
  unfold float? at h
  simp only [Option.bind_eq_bind, Option.pure_def] at h
  split at h
  · obtain rfl := Option.some.inj h
    exact .float _
  split at h
  · obtain rfl := Option.some.inj h
    exact .float _
  split at h
  · cases h
  · obtain ⟨_, _, h⟩ := Option.bind_eq_some_iff.mp h
    split at h <;> simp only [Option.bind_eq_some_iff, Option.some.injEq] at h <;>
      obtain ⟨_, _, _, _, rfl⟩ := h <;> exact .float _

theorem keyedOnce_of_moment? {cs : List Char} {v : ConfigValue} (h : moment? cs = some v) : v.KeyedOnce := by
  unfold moment? at h
  dsimp only at h
  split at h
  · obtain rfl := Option.some.inj h
    exact .moment
  · cases h

theorem keyedOnce_of_scalar? {cs : List Char} {v : ConfigValue} (h : scalar? cs = some v) : v.KeyedOnce := by
  unfold scalar? at h
  split at h
  · obtain rfl := Option.some.inj h
    exact .boolean true
  split at h
  · obtain rfl := Option.some.inj h
    exact .boolean false
  simp only [Option.orElse_eq_orElse, Option.orElse_eq_or, Option.or_eq_some_iff] at h
  rcases h with h | ⟨_, h | ⟨_, h⟩⟩
  · exact keyedOnce_of_integer? h
  · exact keyedOnce_of_float? h
  · exact keyedOnce_of_moment? h

def ReadsKeyedOnce (value : ValueReader) : Prop := ∀ cs v rest, value cs = some (v, rest) → v.KeyedOnce

section Nested

variable {value : ValueReader} (hvalue : ReadsKeyedOnce value)

include hvalue

theorem keyedOnce_of_elements? {fuel : Nat} {cs rest : List Char} {vs : List ConfigValue}
    (h : elements? value fuel cs = some (vs, rest)) : ∀ v ∈ vs, v.KeyedOnce := by
  induction fuel generalizing cs vs rest with
  | zero => cases h
  | succ fuel ih =>
    simp only [elements?, Option.bind_eq_bind, Option.bind_eq_some_iff] at h
    obtain ⟨cs', _, h⟩ := h
    split at h
    · cases h
      simp
    · simp only [Option.bind_eq_some_iff] at h
      obtain ⟨⟨v, behind⟩, hv, next, _, h⟩ := h
      split at h
      · obtain ⟨⟨more, _⟩, hmore, heq⟩ := Option.map_eq_some_iff.mp h
        cases heq
        exact List.forall_mem_cons.mpr ⟨hvalue _ _ _ hv, ih hmore⟩
      · cases h
        exact List.forall_mem_singleton.mpr (hvalue _ _ _ hv)
      · cases h

theorem keyedOnce_of_entry? {t t' : ConfigTable} {cs rest : List Char} (ht : t.KeyedOnce)
    (h : entry? value t cs = some (t', rest)) : t'.KeyedOnce := by
  simp only [ entry?, Option.bind_eq_bind, Option.bind_eq_some_iff, Option.pure_def, Option.some.injEq,
    Prod.mk.injEq] at h
  obtain ⟨_, _, ⟨path, key⟩, _, behind, _, ⟨v, _⟩, hv, _, hassign, rfl, _⟩ := h
  exact ht.assignAt (hvalue _ _ _ hv) hassign

theorem keyedOnce_of_entries? {fuel : Nat} {t t' : ConfigTable} {cs rest : List Char} (ht : t.KeyedOnce)
    (h : entries? value fuel t cs = some (t', rest)) : t'.KeyedOnce := by
  induction fuel generalizing t cs with
  | zero => cases h
  | succ fuel ih =>
    simp only [entries?, Option.bind_eq_bind, Option.bind_eq_some_iff] at h
    obtain ⟨cs', _, h⟩ := h
    split at h
    · cases h
      exact ht
    · simp only [Option.bind_eq_some_iff] at h
      obtain ⟨⟨u, behind⟩, hu, next, _, h⟩ := h
      have hu := keyedOnce_of_entry? hvalue ht hu
      split at h
      · exact ih hu h
      · cases h
        exact hu
      · cases h

end Nested

theorem readsKeyedOnce_value? (depth : Nat) : ReadsKeyedOnce (value? depth) := by
  induction depth with
  | zero =>
    intro cs v rest h
    cases h
  | succ depth ih =>
    intro cs v rest h
    unfold value? at h
    split at h
    · obtain ⟨⟨vs, _⟩, hvs, heq⟩ := Option.map_eq_some_iff.mp h
      cases heq
      exact .array (keyedOnce_of_elements? ih hvs)
    · obtain ⟨⟨t, _⟩, ht, heq⟩ := Option.map_eq_some_iff.mp h
      cases heq
      exact keyedOnce_of_entries? ih (keyedOnce_nil .inline) ht
    · split at h
      · cases h
        exact .string _
      · obtain ⟨w, hw, heq⟩ := Option.map_eq_some_iff.mp h
        cases heq
        exact keyedOnce_of_scalar? hw

theorem keyedOnce_of_openSection {element : Bool} {parts : List String} {p p' : Progress} (hp : p.root.KeyedOnce)
    (h : openSection element parts p = some p') : p'.root.KeyedOnce := by
  simp only [openSection, Option.bind_eq_bind, Option.bind_eq_some_iff, Option.pure_def, Option.some.injEq] at h
  obtain ⟨⟨path, key⟩, _, root, hroot, rfl⟩ := h
  refine hp.descend (fun t t' ht hopen => ?_) hroot
  cases element with
  | true => exact ht.openElement hopen
  | false => exact ht.openTable hopen

theorem keyedOnce_of_readEntry {p p' : Progress} {cs rest : List Char} (hp : p.root.KeyedOnce)
    (h : readEntry p cs = some (p', rest)) : p'.root.KeyedOnce := by
  simp only [readEntry, Option.bind_eq_bind, Option.bind_eq_some_iff, Option.pure_def, Option.some.injEq,
    Prod.mk.injEq] at h
  obtain ⟨_, _, ⟨path, key⟩, _, behind, _, ⟨v, _⟩, hv, root, hroot, rfl, _⟩ := h
  exact hp.descend (fun _ _ ht => ht.assignAt (readsKeyedOnce_value? _ _ _ _ hv)) hroot

theorem keyedOnce_of_readLine {p p' : Progress} {cs rest : List Char} (hp : p.root.KeyedOnce)
    (h : readLine p cs = some (p', rest)) : p'.root.KeyedOnce := by
  unfold readLine at h
  split at h
  · cases h
    exact hp
  · cases h
    exact hp
  · simp only [Option.bind_eq_bind, Option.bind_eq_some_iff, Option.pure_def, Option.some.injEq, Prod.mk.injEq] at h
    obtain ⟨_, _, q, hq, rfl, _⟩ := h
    exact keyedOnce_of_openSection hp hq
  · simp only [Option.bind_eq_bind, Option.bind_eq_some_iff, Option.pure_def, Option.some.injEq, Prod.mk.injEq] at h
    obtain ⟨_, _, q, hq, rfl, _⟩ := h
    exact keyedOnce_of_openSection hp hq
  · split at h
    · cases h
      exact hp
    · exact keyedOnce_of_readEntry hp h

theorem keyedOnce_of_readLines {fuel : Nat} {p p' : Progress} {cs : List Char} (hp : p.root.KeyedOnce)
    (h : readLines fuel p cs = some p') : p'.root.KeyedOnce := by
  induction fuel generalizing p cs with
  | zero => cases h
  | succ fuel ih =>
    cases cs with
    | nil =>
      cases h
      exact hp
    | cons c cs =>
      simp only [readLines, Option.bind_eq_bind, Option.bind_eq_some_iff] at h
      obtain ⟨⟨q, _⟩, hq, _, _, h⟩ := h
      exact ih (keyedOnce_of_readLine hp hq) h

theorem keyedOnce_of_document? {text : String} {entries : List (String × ConfigValue)}
    (h : document? text = some entries) (origin : TableOrigin) : (ConfigValue.table origin entries).KeyedOnce := by
  obtain ⟨p, hp, rfl⟩ := Option.map_eq_some_iff.mp h
  obtain ⟨hdiffer, hentries⟩ := keyedOnce_iff.mp (keyedOnce_of_readLines (keyedOnce_nil .header) hp)
  exact .table hdiffer hentries

end Config

end HostBinder

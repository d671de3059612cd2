import HostBinder.Config.Decode
import HostBinder.Proofs.Attempt
import HostBinder.Proofs.Config.TableKeys

set_option autoImplicit false

namespace HostBinder

open Config

def ConfigValue.IsText (v : ConfigValue) (text : String) : Prop := v = string text

/-- An array or a table with nothing in it. -/
inductive ConfigValue.IsVoid : ConfigValue → Prop
  | array (growing : Bool) : (array growing []).IsVoid
  | table (origin : TableOrigin) : (table origin []).IsVoid

/-- A value that stands for a policy: its name, or a table with its name as the only key and nothing under it. -/
inductive ConfigValue.NamesPolicy : ConfigValue → InvalidFieldPolicy → Prop
  | name (p : InvalidFieldPolicy) : (string p.name).NamesPolicy p
  | key {payload : ConfigValue} (origin : TableOrigin) (p : InvalidFieldPolicy) (hvoid : payload.IsVoid) :
      (table origin [(p.name, payload)]).NamesPolicy p

inductive Chosen {α : Type} (Means : ConfigValue → α → Prop) (standard : α) : Option ConfigValue → α → Prop
  | standard : Chosen Means standard none standard
  | given {v : ConfigValue} {x : α} (hmeans : Means v x) : Chosen Means standard (some v) x

/-- The settings `s` are the settings `start`, but for those that have a value. -/
structure Settings.Given (start : Settings) (baseType? invalidFields? output? : Option ConfigValue) (s : Settings) :
    Prop where
  baseType : Chosen ConfigValue.IsText start.baseType baseType? s.baseType
  invalidFields : Chosen ConfigValue.NamesPolicy start.invalidFields invalidFields? s.invalidFields
  output : Chosen ConfigValue.IsText start.output output? s.output

def Settings.GivenAmong (start : Settings) (entries : List (String × ConfigValue)) (s : Settings) : Prop :=
  start.Given (entries.lookup "base_type") (entries.lookup "invalid_fields") (entries.lookup "output") s

/-- The settings that are written as one value: as a table of settings, or as an array that lists them in order. -/
inductive ConfigValue.Gives : ConfigValue → Settings → Prop
  | table {origin : TableOrigin} {entries : List (String × ConfigValue)} {s : Settings}
      (hkeys : ∀ e ∈ entries, e.1 ∈ settingNames)
      (hgiven : Settings.default.GivenAmong entries s) : (table origin entries).Gives s
  | array {growing : Bool} {elements : List ConfigValue} {s : Settings}
      (hgiven : Settings.default.Given elements[0]? elements[1]? elements[2]? s) : (array growing elements).Gives s

/-- The settings that a document gives. -/
structure Settings.GivenBy (s : Settings) (entries : List (String × ConfigValue)) : Prop where
  keys : ∀ e ∈ entries, e.1 = "build"
  build : Chosen ConfigValue.Gives .default (entries.lookup "build") s

section Chosen

variable {α : Type} {Means : ConfigValue → α → Prop} {standard x : α} {v : ConfigValue}

@[simp] theorem chosen_none_iff : Chosen Means standard none x ↔ x = standard := by
  constructor
  · intro h
    cases h
    rfl
  · intro h
    rw [h]
    exact .standard

@[simp] theorem chosen_some_iff : Chosen Means standard (some v) x ↔ Means v x := by
  constructor
  · intro h
    cases h
    assumption
  · exact .given

end Chosen

theorem ConfigValue.text_eq_ok_iff {v : ConfigValue} {text : String} : v.text = .ok text ↔ v.IsText text := by
  unfold ConfigValue.text IsText
  cases v <;> simp

theorem InvalidFieldPolicy.ofName?_eq_some_iff {name : String} {p : InvalidFieldPolicy} :
    ofName? name = some p ↔ p.name = name := by
  constructor
  · intro h
    have hname := List.find?_some (p := fun p : InvalidFieldPolicy => decide (p.name = name)) h
    exact of_decide_eq_true hname
  · rintro rfl
    cases p <;> rfl

theorem policyOfName_eq_ok_iff {name : String} {p : InvalidFieldPolicy} :
    policyOfName name = .ok p ↔ p.name = name := by
  rw [policyOfName, ← InvalidFieldPolicy.ofName?_eq_some_iff]
  cases InvalidFieldPolicy.ofName? name <;> simp

theorem emptyPayload_eq_ok_iff {v : ConfigValue} : emptyPayload v = .ok () ↔ v.IsVoid := by
  constructor
  · intro h
    unfold emptyPayload at h
    split at h
    · split at h
      · rename_i hempty
        rw [List.isEmpty_iff.mp hempty]
        exact .array _
      · cases h
    · split at h
      · rename_i hempty
        rw [List.isEmpty_iff.mp hempty]
        exact .table _
      · cases h
    · cases h
  · intro h
    cases h <;> rfl

theorem policyOfValue_eq_ok_iff {v : ConfigValue} {p : InvalidFieldPolicy} :
    policyOfValue v = .ok p ↔ v.NamesPolicy p := by
  constructor
  · intro h
    unfold policyOfValue at h
    split at h
    · obtain rfl := policyOfName_eq_ok_iff.mp h
      exact .name p
    · simp only [Attempt.bind_eq_ok_iff, Attempt.pure_eq_ok_iff] at h
      obtain ⟨q, hname, _, hvoid, rfl⟩ := h
      obtain rfl := policyOfName_eq_ok_iff.mp hname
      exact .key _ q (emptyPayload_eq_ok_iff.mp hvoid)
    · cases h
    · cases h
  · intro h
    cases h with
    | name => exact policyOfName_eq_ok_iff.mpr rfl
    | key _ _ hvoid =>
      simp only [policyOfValue, Attempt.bind_eq_ok_iff, Attempt.pure_eq_ok_iff]
      exact ⟨p, policyOfName_eq_ok_iff.mpr rfl, (), emptyPayload_eq_ok_iff.mpr hvoid, rfl⟩

section Sorted

variable {entries entries' : List (String × ConfigValue)}

theorem keysIncrease_sortedEntries (entries : List (String × ConfigValue)) : KeysIncrease (sortedEntries entries) :=
  SortedTable.increasing _

theorem lookup_sortedEntries (hdiffer : KeysDiffer entries) (key : String) :
    (sortedEntries entries).lookup key = entries.lookup key := by
  have hget := SortedTable.get?_foldl_insert id hdiffer (∅ : SortedTable ConfigValue) key
  have hempty : (∅ : SortedTable ConfigValue).get? key = none := rfl
  rwa [hempty, Option.or_none, Option.map_id] at hget

theorem mem_sortedEntries (hdiffer : KeysDiffer entries) {e : String × ConfigValue} :
    e ∈ sortedEntries entries ↔ e ∈ entries := by
  rw [(keysIncrease_sortedEntries entries).differ.mem_iff_lookup, lookup_sortedEntries hdiffer,
    ← hdiffer.mem_iff_lookup]

theorem sortedEntries_eq_of_perm (hdiffer : KeysDiffer entries) (hperm : entries.Perm entries') :
    sortedEntries entries' = sortedEntries entries := by
  have hdiffer' : KeysDiffer entries' := hperm.pairwise hdiffer fun h => Ne.symm h
  refine (keysIncrease_sortedEntries entries').eq_of_perm (keysIncrease_sortedEntries entries) ?_
  rw [List.perm_ext_iff_of_nodup (keysIncrease_sortedEntries _).differ.nodup
    (keysIncrease_sortedEntries _).differ.nodup]
  intro e
  rw [mem_sortedEntries hdiffer, mem_sortedEntries hdiffer', hperm.mem_iff]

end Sorted

section Settings

variable {start s : Settings} {entries rest : List (String × ConfigValue)} {key : String} {v : ConfigValue}

theorem Settings.given_iff {baseType? invalidFields? output? : Option ConfigValue} :
    start.Given baseType? invalidFields? output? s ↔
      Chosen ConfigValue.IsText start.baseType baseType? s.baseType ∧
        Chosen ConfigValue.NamesPolicy start.invalidFields invalidFields? s.invalidFields ∧
          Chosen ConfigValue.IsText start.output output? s.output := by
  constructor
  · intro h
    exact ⟨h.baseType, h.invalidFields, h.output⟩
  · intro h
    exact ⟨h.1, h.2.1, h.2.2⟩

theorem readSetting_baseType : readSetting start ("base_type", v) = .ok s ↔
    ∃ text, v.IsText text ∧ { start with baseType := text } = s := by
  rw [readSetting, if_pos rfl, Attempt.bind_eq_ok_iff]
  simp only [Attempt.pure_eq_ok_iff, ConfigValue.text_eq_ok_iff]

theorem readSetting_invalidFields : readSetting start ("invalid_fields", v) = .ok s ↔
    ∃ p, v.NamesPolicy p ∧ { start with invalidFields := p } = s := by
  have hbase : "invalid_fields" ≠ "base_type" := by decide
  rw [readSetting, if_neg hbase, if_pos rfl, Attempt.bind_eq_ok_iff]
  simp only [Attempt.pure_eq_ok_iff, policyOfValue_eq_ok_iff]

theorem readSetting_output : readSetting start ("output", v) = .ok s ↔
    ∃ text, v.IsText text ∧ { start with output := text } = s := by
  have hbase : "output" ≠ "base_type" := by decide
  have hinvalid : "output" ≠ "invalid_fields" := by decide
  rw [readSetting, if_neg hbase, if_neg hinvalid, if_pos rfl, Attempt.bind_eq_ok_iff]
  simp only [Attempt.pure_eq_ok_iff, ConfigValue.text_eq_ok_iff]

theorem readSetting_of_not_mem (hkey : key ∉ settingNames) :
    readSetting start (key, v) = .error (.unknownSetting key) := by
  simp only [settingNames, List.mem_cons, List.not_mem_nil, or_false, not_or] at hkey
  rw [readSetting, if_neg hkey.1, if_neg hkey.2.1, if_neg hkey.2.2]
  rfl

theorem givenAmong_nil_iff : start.GivenAmong [] s ↔ start = s := by
  cases start
  cases s
  simp [Settings.GivenAmong, Settings.given_iff, eq_comm]

theorem givenAmong_cons_iff (hdiffer : KeysDiffer ((key, v) :: rest)) (hkey : key ∈ settingNames) :
    start.GivenAmong ((key, v) :: rest) s ↔
      ∃ start', readSetting start (key, v) = .ok start' ∧ start'.GivenAmong rest s := by
  have hrest := lookup_eq_none_of_head hdiffer
  simp only [settingNames, List.mem_cons, List.not_mem_nil, or_false] at hkey
  rcases hkey with rfl | rfl | rfl
  · simp [readSetting_baseType, Settings.GivenAmong, Settings.given_iff, List.lookup_cons, hrest]
  · simp [readSetting_invalidFields, Settings.GivenAmong, Settings.given_iff, List.lookup_cons, hrest, and_left_comm]
  · simp [readSetting_output, Settings.GivenAmong, Settings.given_iff, List.lookup_cons, hrest, and_assoc, and_comm,
      and_left_comm]

theorem foldlM_readSetting_eq_ok_iff (hdiffer : KeysDiffer entries) :
    entries.foldlM readSetting start = .ok s ↔ (∀ e ∈ entries, e.1 ∈ settingNames) ∧ start.GivenAmong entries s := by
  induction entries generalizing start with
  | nil =>
    rw [List.foldlM_nil, Attempt.pure_eq_ok_iff, givenAmong_nil_iff]
    simp
  | cons e rest ih =>
    obtain ⟨key, v⟩ := e
    rw [List.foldlM_cons, Attempt.bind_eq_ok_iff, List.forall_mem_cons]
    simp only [ih (List.pairwise_cons.mp hdiffer).2]
    by_cases hkey : key ∈ settingNames
    · rw [givenAmong_cons_iff hdiffer hkey]
      constructor
      · intro hx
        obtain ⟨start', hread, hkeys, hgiven⟩ := hx
        exact ⟨⟨hkey, hkeys⟩, start', hread, hgiven⟩
      · intro hx
        obtain ⟨⟨_, hkeys⟩, start', hread, hgiven⟩ := hx
        exact ⟨start', hread, hkeys, hgiven⟩
    · simp [readSetting_of_not_mem hkey, hkey]

theorem givenAmong_zip_iff {elements : List ConfigValue} :
    start.GivenAmong (settingNames.zip elements) s ↔ start.Given elements[0]? elements[1]? elements[2]? s := by
  match elements with
  | [] => rfl
  | [_] => rfl
  | [_, _] => rfl
  | _ :: _ :: _ :: _ => rfl

theorem keysDiffer_zip (elements : List ConfigValue) : KeysDiffer (settingNames.zip elements) := by
  match elements with
  | [] => exact List.Pairwise.nil
  | [_] => exact List.pairwise_singleton _ _
  | [_, _] => simp [KeysDiffer, settingNames]
  | _ :: _ :: _ :: _ => simp [KeysDiffer, settingNames]

theorem settingsOfValue_eq_ok_iff (hv : v.KeyedOnce) : settingsOfValue v = .ok s ↔ v.Gives s := by
  cases hv with
  | @table origin entries hdiffer _ =>
    have hkeys : (∀ e ∈ sortedEntries entries, e.1 ∈ settingNames) ↔ ∀ e ∈ entries, e.1 ∈ settingNames := by
      simp only [mem_sortedEntries hdiffer]
    rw [settingsOfValue, foldlM_readSetting_eq_ok_iff (keysIncrease_sortedEntries entries).differ, hkeys,
      Settings.GivenAmong]
    simp only [lookup_sortedEntries hdiffer]
    constructor
    · intro hx
      exact .table hx.1 hx.2
    · intro hx
      cases hx with
      | table hkeys hgiven => exact ⟨hkeys, hgiven⟩
  | @array growing elements _ =>
    have hkeys : ∀ e ∈ settingNames.zip elements, e.1 ∈ settingNames := fun e he => (List.of_mem_zip he).1
    rw [settingsOfValue, foldlM_readSetting_eq_ok_iff (keysDiffer_zip elements), and_iff_right hkeys,
      givenAmong_zip_iff]
    constructor
    · exact .array
    · intro hx
      cases hx with
      | array hgiven => exact hgiven
  | _ =>
    constructor
    · intro hx
      cases hx
    · intro hx
      cases hx

theorem foldlM_settingsOfValue_eq_ok_iff (hdiffer : KeysDiffer entries) (hkeyed : ∀ e ∈ entries, e.2.KeyedOnce) :
    entries.foldlM (fun _ e => if e.1 = "build" then settingsOfValue e.2 else throw (.unknownTable e.1)) start = .ok s ↔
      (∀ e ∈ entries, e.1 = "build") ∧ Chosen ConfigValue.Gives start (entries.lookup "build") s := by
  induction entries generalizing start with
  | nil =>
    rw [List.foldlM_nil, Attempt.pure_eq_ok_iff]
    simp [eq_comm]
  | cons e rest ih =>
    obtain ⟨key, v⟩ := e
    obtain ⟨hv, hkeyed⟩ := List.forall_mem_cons.mp hkeyed
    rw [List.foldlM_cons, Attempt.bind_eq_ok_iff, List.forall_mem_cons]
    simp only [ih (List.pairwise_cons.mp hdiffer).2 hkeyed]
    by_cases hkey : key = "build"
    · subst hkey
      simp [lookup_eq_none_of_head hdiffer, settingsOfValue_eq_ok_iff hv, and_comm]
    · simp [hkey, Attempt.throw_eq_ok_iff]

theorem settingsOfEntries_eq_ok_iff {origin : TableOrigin} (hkeyed : (ConfigValue.table origin entries).KeyedOnce) :
    settingsOfEntries entries = .ok s ↔ s.GivenBy entries := by
  cases hkeyed with
  | table hdiffer hentries =>
    have hsorted : ∀ e ∈ sortedEntries entries, e.2.KeyedOnce := by
      intro e he
      exact hentries e ((mem_sortedEntries hdiffer).mp he)
    have hkeys : (∀ e ∈ sortedEntries entries, e.1 = "build") ↔ ∀ e ∈ entries, e.1 = "build" := by
      simp only [mem_sortedEntries hdiffer]
    rw [settingsOfEntries, foldlM_settingsOfValue_eq_ok_iff (keysIncrease_sortedEntries entries).differ hsorted, hkeys,
      lookup_sortedEntries hdiffer]
    constructor
    · intro hx
      exact ⟨hx.1, hx.2⟩
    · intro hx
      exact ⟨hx.keys, hx.build⟩

theorem settingsOfText_eq_ok_iff {text : String} :
    settingsOfText text = .ok s ↔ ∃ entries, document? text = some entries ∧ s.GivenBy entries := by
  unfold settingsOfText
  cases hdocument : document? text with
  | none => simp
  | some entries => simp [settingsOfEntries_eq_ok_iff (keyedOnce_of_document? hdocument .header)]

theorem settingsOfValue_eq_of_perm {entries' : List (String × ConfigValue)} (hdiffer : KeysDiffer entries)
    (hperm : entries.Perm entries') (origin : TableOrigin) :
    settingsOfValue (.table origin entries') = settingsOfValue (.table origin entries) := by
  rw [settingsOfValue, settingsOfValue, sortedEntries_eq_of_perm hdiffer hperm]

end Settings

end HostBinder

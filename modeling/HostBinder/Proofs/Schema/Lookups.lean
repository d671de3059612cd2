import HostBinder.Proofs.Schema.BrokenRules
import HostBinder.Proofs.Text.ByteOrder
import HostBinder.Proofs.Text.LastSegment

set_option autoImplicit false

namespace HostBinder

open Text

variable {α β : Type}

/-- Whether `n` is registered, and no node of its path after it. -/
def Node.IsLastIn (n : Node) (ns : List Node) : Prop :=
  ∃ before after, ns = before ++ n :: after ∧ ∀ m ∈ after, m.path ≠ n.path

theorem Node.find?_reverse_eq_some_iff {ns : List Node} {path : String} {n : Node} :
    ns.reverse.find? (fun m => m.path = path) = some n ↔ n.path = path ∧ n.IsLastIn ns := by
  rw [List.find?_eq_some_iff_append, decide_eq_true_iff]
  refine and_congr_right fun hpath => ?_
  subst hpath
  constructor
  · rintro ⟨after, before, hns, hafter⟩
    refine ⟨before.reverse, after.reverse, by simpa using congrArg List.reverse hns, fun m hm => ?_⟩
    simpa using hafter m (List.mem_reverse.mp hm)
  · rintro ⟨before, after, rfl, hafter⟩
    refine ⟨after.reverse, before.reverse, by simp, fun m hm => ?_⟩
    simpa using hafter m (List.mem_reverse.mp hm)

namespace Schema

variable {s : Schema} {ns : List Node} {path : String}

theorem get?_insert (s : Schema) (n : Node) (path : String) :
    (s.insert n).get? path = if n.path = path then some n else s.get? path := by
  split
  · rename_i heq
    subst heq
    exact s.nodes.get?_insert_self n.path n
  · rename_i hne
    exact s.nodes.get?_insert_of_ne n (Ne.symm hne)

theorem get?_foldl_insert (s : Schema) (ns : List Node) (path : String) :
    (ns.foldl insert s).get? path = (ns.reverse.find? fun n => n.path = path).or (s.get? path) := by
  induction ns generalizing s with
  | nil => rfl
  | cons n ns ih =>
    rw [List.foldl_cons, ih, get?_insert, List.reverse_cons, List.find?_append, Option.or_assoc]
    by_cases hpath : n.path = path <;> simp [hpath]

theorem get?_ofNodes (ns : List Node) (path : String) :
    (ofNodes ns).get? path = ns.reverse.find? fun n => n.path = path := by
  rw [ofNodes, get?_foldl_insert]
  exact Option.or_none

theorem mem_entries_iff {n : Node} : (path, n) ∈ s.nodes.entries ↔ s.get? path = some n :=
  s.nodes.increasing.differ.mem_iff_lookup

theorem get?_ofNodes_eq_none_iff : (ofNodes ns).get? path = none ↔ ∀ n ∈ ns, n.path ≠ path := by
  simp [get?_ofNodes]

def listed (s : Schema) (select : Node → Option α) : List (String × α) :=
  s.nodes.entries.filterMap fun e => (select e.2).map (e.1, ·)

def cast (s : Schema) (select : Node → Option α) (kind : NodeKind) (path : String) : Except LookupError α := do
  match select (← s.get path) with
  | some a => .ok a
  | none => .error (.wrongKind path kind)

theorem mem_listed_iff {select : Node → Option α} {a : α} :
    (path, a) ∈ s.listed select ↔ ∃ n, s.get? path = some n ∧ select n = some a := by
  rw [listed, List.mem_filterMap]
  constructor
  · rintro ⟨⟨k, n⟩, hn, hselect⟩
    obtain ⟨b, hb, heq⟩ := Option.map_eq_some_iff.mp hselect
    obtain ⟨rfl, rfl⟩ := Prod.mk.inj heq
    exact ⟨n, mem_entries_iff.mp hn, hb⟩
  · rintro ⟨n, hn, ha⟩
    exact ⟨(path, n), mem_entries_iff.mpr hn, by simp [ha]⟩

theorem mem_map_listed_iff {select : Node → Option α} :
    path ∈ (s.listed select).map (·.1) ↔ ∃ n, s.get? path = some n ∧ (select n).isSome = true := by
  simp only [List.mem_map, Prod.exists, exists_and_right, exists_eq_right, mem_listed_iff, Option.isSome_iff_exists]
  constructor
  · rintro ⟨a, n, hn, ha⟩
    exact ⟨n, hn, a, ha⟩
  · rintro ⟨n, hn, a, ha⟩
    exact ⟨a, n, hn, ha⟩

theorem cast_of_none (h : s.get? path = none) (select : Node → Option α) (kind : NodeKind) :
    s.cast select kind path = .error (.notFound path) := by
  rw [cast, get, h]
  rfl

theorem cast_of_some {n : Node} (h : s.get? path = some n) (select : Node → Option α) (kind : NodeKind) :
    s.cast select kind path = (select n).elim (.error (.wrongKind path kind)) .ok := by
  rw [cast, get, h]
  show (match select n with | some a => _ | none => _) = _
  cases select n <;> rfl

/-- How the nodes of a kind are looked up, where `ns` have been registered: `answer` is the answer for a path, and
`same` and `others` are the listings of the kind and of the other one. -/
structure Answers (ns : List Node) (kind : NodeKind) (answer : String → Except LookupError α)
    (same : List (String × α)) (others : List (String × β)) : Prop where
  ok_iff : ∀ path a, answer path = .ok a ↔ (path, a) ∈ same
  wrongKind_iff : ∀ path, answer path = .error (.wrongKind path kind) ↔
    path ∈ others.map (·.1) ∧ path ∉ same.map (·.1)
  notFound_iff : ∀ path, answer path = .error (.notFound path) ↔ ∀ n ∈ ns, n.path ≠ path
  refused : ∀ path e, answer path = .error e → e = .wrongKind path kind ∨ e = .notFound path

theorem cast_answers {select : Node → Option α} {other : Node → Option β}
    (hother : ∀ n, (other n).isSome = (select n).isNone) (ns : List Node) (kind : NodeKind) :
    Answers ns kind ((ofNodes ns).cast select kind) ((ofNodes ns).listed select) ((ofNodes ns).listed other) := by
  have hcases : ∀ path, (ofNodes ns).get? path = none ∨ ∃ n, (ofNodes ns).get? path = some n := fun path =>
    Option.eq_none_or_eq_some _
  refine ⟨fun path a => ?_, fun path => ?_, fun path => ?_, fun path e => ?_⟩
  · rw [mem_listed_iff]
    rcases hcases path with h | ⟨n, h⟩
    · simp [cast_of_none h, h]
    · rw [cast_of_some h]
      cases hn : select n <;> simp [h, hn]
  · rw [mem_map_listed_iff, mem_map_listed_iff]
    rcases hcases path with h | ⟨n, h⟩
    · simp [cast_of_none h, h]
    · rw [cast_of_some h]
      cases hn : select n <;> simp [h, hn, hother]
  · rw [← get?_ofNodes_eq_none_iff]
    rcases hcases path with h | ⟨n, h⟩
    · simp [cast_of_none h, h]
    · rw [cast_of_some h]
      cases hn : select n <;> simp [h]
  · rcases hcases path with h | ⟨n, h⟩
    · rw [cast_of_none h]
      exact fun heq => .inr (Except.error.inj heq).symm
    · rw [cast_of_some h]
      cases hn : select n with
      | none => exact fun heq => .inl (Except.error.inj heq).symm
      | some a => exact fun heq => nomatch heq

end Schema

theorem TypeName.lastSegment_path {n : TypeName} (h : ':' ∉ n.ident.toList) : lastSegment n.path = n.ident := by
  rw [path]
  split
  · exact lastSegment_eq_self h
  · exact lastSegment_append h

def TypeName.front (n : TypeName) : String := if n.modulePath = "" then "" else n.modulePath ++ "::"

theorem TypeName.path_eq_append (n : TypeName) : n.path = n.front ++ n.ident := by
  rw [path, front]
  split <;> simp

theorem TypeName.modulePath_eq_of_front_eq {a b : TypeName} (h : a.front = b.front) : a.modulePath = b.modulePath := by
  have hne : ∀ m : String, m ++ "::" ≠ "" := by simp
  unfold front at h
  split at h
  · split at h
    · rename_i hm hm'
      rw [hm, hm']
    · exact absurd h.symm (hne _)
  · split at h
    · exact absurd h (hne _)
    · simpa [String.ext_iff] using h

theorem TypeName.eq_of_path_eq {a b : TypeName} (ha : ':' ∉ a.ident.toList) (hb : ':' ∉ b.ident.toList)
    (h : a.path = b.path) : a = b := by
  have hident : a.ident = b.ident := by rw [← lastSegment_path ha, h, lastSegment_path hb]
  have hfront : a.front = b.front := by
    rw [path_eq_append, path_eq_append, hident] at h
    simpa [String.ext_iff] using h
  obtain ⟨_, _⟩ := a
  obtain ⟨_, _⟩ := b
  exact congrArg₂ TypeName.mk (modulePath_eq_of_front_eq hfront) hident

/-- Types whose names are accepted, whatever length is allowed, do not share a path. -/
theorem Node.name_eq_of_path_eq {a b : Node} {limit limit' : Nat} (ha : nameFault? (some limit) a.name.ident = none)
    (hb : nameFault? (some limit') b.name.ident = none) (h : a.path = b.path) : a.name = b.name :=
  TypeName.eq_of_path_eq (colon_not_mem_of_isIdentifier (nameFault?_eq_none_iff.mp ha).1)
    (colon_not_mem_of_isIdentifier (nameFault?_eq_none_iff.mp hb).1) h

namespace Schema

/-- A schema that holds, of the nodes registered, the last one of each path, and answers for it. -/
structure HoldsLast (s : Schema) (ns : List Node) : Prop where
  increasing : s.nodes.keys.Pairwise fun a b => utf8Bytes a < utf8Bytes b
  mem_keys : ∀ path, path ∈ s.nodes.keys ↔ ∃ n ∈ ns, n.path = path
  mem_entries : ∀ path n, (path, n) ∈ s.nodes.entries ↔ n.path = path ∧ n.IsLastIn ns
  components : Answers ns .component s.component s.components s.hosts
  hosts : Answers ns .host s.host s.hosts s.components

theorem component_eq_cast (s : Schema) : s.component = s.cast Node.component? .component := by
  funext path
  unfold component cast
  cases s.get path with
  | error e => rfl
  | ok n => cases n <;> rfl

theorem host_eq_cast (s : Schema) : s.host = s.cast Node.host? .host := by
  funext path
  unfold host cast
  cases s.get path with
  | error e => rfl
  | ok n => cases n <;> rfl

theorem HoldsLast.ofNodes (ns : List Node) : (ofNodes ns).HoldsLast ns where
  increasing := (Schema.ofNodes ns).nodes.keys_pairwise.imp utf8Bytes_lt_iff.mpr
  mem_keys path := by
    rw [← not_iff_not, ← SortedTable.get?_eq_none_iff]
    exact get?_ofNodes_eq_none_iff.trans (by simp)
  mem_entries path n := by rw [mem_entries_iff, get?_ofNodes, Node.find?_reverse_eq_some_iff]
  components := by
    have hother : ∀ n : Node, n.host?.isSome = n.component?.isNone := fun n => by cases n <;> rfl
    rw [component_eq_cast]
    exact cast_answers hother ns .component
  hosts := by
    have hother : ∀ n : Node, n.component?.isSome = n.host?.isNone := fun n => by cases n <;> rfl
    rw [host_eq_cast]
    exact cast_answers hother ns .host

/-- Whatever has been registered, a schema holds the last node of each path and answers for it by its kind. Nodes whose
names are accepted share a path only if they declare the same type, so the node of one type never replaces that of
another. -/
theorem ofNodes_holdsLast (ns : List Node) :
    (ofNodes ns).HoldsLast ns ∧
      ∀ (a b : Node) (limit limit' : Nat), nameFault? (some limit) a.name.ident = none →
        nameFault? (some limit') b.name.ident = none →
          (a.path = b.path → a.name.modulePath = b.name.modulePath ∧ a.name.ident = b.name.ident) ∧
            (a.name ≠ b.name → ((ofNodes ns).insert a).get? b.path = (ofNodes ns).get? b.path) := by
  refine ⟨.ofNodes ns, fun a b limit limit' ha hb => ⟨fun hpath => ?_, fun hne => ?_⟩⟩
  · have hname : a.name = b.name := Node.name_eq_of_path_eq ha hb hpath
    exact ⟨congrArg TypeName.modulePath hname, congrArg TypeName.ident hname⟩
  · rw [get?_insert, if_neg fun hpath => hne (Node.name_eq_of_path_eq ha hb hpath)]

theorem ofNodes_holdsLast_of_shared_path :
    let first : Node := .component ⟨⟨"a::b", "C"⟩, none⟩
    let second : Node := .host ⟨⟨"a", "b::C"⟩, []⟩
    let label : Node := .component ⟨⟨"a", "C"⟩, some "a::b::C"⟩
    let s := ofNodes [first, second]
    s.HoldsLast [first, second] ∧ s.component "a::b::C" = .error (.wrongKind "a::b::C" .component) ∧
      s.host "a::b::C" = .ok ⟨⟨"a", "b::C"⟩, []⟩ ∧ s.host "a::C" = .error (.notFound "a::C") ∧
      nameFault? (some 64) label.name.ident = none ∧ nameFault? (some 64) first.name.ident = none ∧
      (s.insert label).get? first.path = s.get? first.path := by
  intro first second label s
  obtain ⟨hholds, hnames⟩ := ofNodes_holdsLast [first, second]
  have hlabel : nameFault? (some 64) label.name.ident = none := by decide
  have hfirst : nameFault? (some 64) first.name.ident = none := by decide
  refine ⟨hholds, ?_, ?_, ?_, hlabel, hfirst, (hnames label first 64 64 hlabel hfirst).2 (by decide)⟩
  · exact (hholds.components.wrongKind_iff _).mpr (by decide)
  · exact (hholds.hosts.ok_iff _ _).mpr (by decide)
  · exact (hholds.hosts.notFound_iff _).mpr (by decide)

end Schema

end HostBinder

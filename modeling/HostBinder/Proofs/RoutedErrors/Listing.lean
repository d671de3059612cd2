import HostBinder.Proofs.RoutedErrors.Routes
import HostBinder.Proofs.Text.ByteOrder

set_option autoImplicit false

/-!
The list of all messages of a tree. A log says which message was recorded under which route, one after the other; the
list has the same messages under each route, in the order of the log, and goes through the routes in the order of their
segments. The empty segments in front of a route leave no mark in its text.
-/

namespace HostBinder.RoutedErrors

open Text

variable {μ : Type} {t u : RoutedErrors μ} {segment : String} {route : List String}

abbrev Log (μ : Type) := List (List String × μ)

namespace Log

def under (log : Log μ) (route : List String) : List μ :=
  log.filterMap fun e => if e.1 = route then some e.2 else none

def below (segment : String) (log : Log μ) : Log μ := log.map fun e => (segment :: e.1, e.2)

variable {log log' : Log μ}

@[simp] theorem under_nil : under ([] : Log μ) route = [] := rfl

@[simp] theorem under_append : under (log ++ log') route = log.under route ++ log'.under route :=
  List.filterMap_append

@[simp] theorem under_own_nil (ms : List μ) : under (ms.map fun m => (([] : List String), m)) [] = ms := by
  simp [under, List.filterMap_map]

@[simp] theorem under_own_cons (ms : List μ) :
    under (ms.map fun m => (([] : List String), m)) (segment :: route) = [] := by
  simp [under, List.filterMap_map]

@[simp] theorem under_below_nil : (log.below segment).under [] = [] := by
  simp [under, below, List.filterMap_map]

@[simp] theorem under_below_self : (log.below segment).under (segment :: route) = log.under route := by
  simp [under, below, List.filterMap_map]

theorem under_below_of_ne {s : String} (h : segment ≠ s) : (log.below segment).under (s :: route) = [] := by
  simp [under, below, List.filterMap_map, h]

end Log

/-- The tree was built by recording the messages of the log one after the other. A child or a second tree brings its
own messages at the time when it is put in. -/
inductive RecordedBy : RoutedErrors μ → Log μ → Prop where
  | empty : RecordedBy empty []
  | add {t : RoutedErrors μ} {log : Log μ} (m : μ) : RecordedBy t log → RecordedBy (t.add m) (log ++ [([], m)])
  | addChild {t child : RoutedErrors μ} {log log' : Log μ} (segment : String) : RecordedBy t log →
      RecordedBy child log' → RecordedBy (t.addChild segment child) (log ++ log'.below segment)
  | merge {t u : RoutedErrors μ} {log log' : Log μ} : RecordedBy t log → RecordedBy u log' →
      RecordedBy (t.merge u) (log ++ log')

theorem reachable_iff_recordedBy : t.Reachable ↔ ∃ log, t.RecordedBy log := by
  constructor
  · intro h
    induction h with
    | empty => exact ⟨[], .empty⟩
    | add m _ ih =>
      obtain ⟨log, hlog⟩ := ih
      exact ⟨_, hlog.add m⟩
    | addChild segment _ _ iht ihc =>
      obtain ⟨log, hlog⟩ := iht
      obtain ⟨log', hlog'⟩ := ihc
      exact ⟨_, hlog.addChild segment hlog'⟩
    | merge _ _ iht ihu =>
      obtain ⟨log, hlog⟩ := iht
      obtain ⟨log', hlog'⟩ := ihu
      exact ⟨_, hlog.merge hlog'⟩
  · rintro ⟨log, h⟩
    induction h with
    | empty => exact .empty
    | add m _ ih => exact ih.add m
    | addChild segment _ _ iht ihc => exact iht.addChild segment ihc
    | merge _ _ iht ihu => exact iht.merge ihu

theorem messagesAt_add (t : RoutedErrors μ) (m : μ) (route : List String) :
    (t.add m).messagesAt route = t.messagesAt route ++ Log.under [([], m)] route := by
  cases route with
  | nil => rfl
  | cons segment route => exact (List.append_nil _).symm

/-- A tree keeps the messages recorded under each route, in the order in which they were. -/
theorem RecordedBy.under_eq {log : Log μ} (h : t.RecordedBy log) (route : List String) :
    log.under route = t.messagesAt route := by
  induction h generalizing route with
  | empty => simp
  | add m _ ih => rw [Log.under_append, ih, messagesAt_add]
  | @addChild t child log log' segment ht hc iht ihc =>
    have htp := (reachable_iff_recordedBy.mpr ⟨_, ht⟩).pruned
    have hcp := (reachable_iff_recordedBy.mpr ⟨_, hc⟩).pruned
    rw [Log.under_append, iht, messagesAt_addChild htp hcp]
    congr 1
    by_cases hhead : route.head? = some segment
    · obtain ⟨tail, rfl⟩ := List.head?_eq_some_iff.mp hhead
      rw [Log.under_below_self, ihc, messagesAt_single_self]
    · rw [messagesAt_single_of_head_ne child hhead]
      cases route with
      | nil => exact Log.under_below_nil
      | cons s route => exact Log.under_below_of_ne fun heq => hhead (by simp [heq])
  | merge ht hu iht ihu =>
    have htp := (reachable_iff_recordedBy.mpr ⟨_, ht⟩).pruned
    have hup := (reachable_iff_recordedBy.mpr ⟨_, hu⟩).pruned
    rw [Log.under_append, iht, ihu, messagesAt_merge htp hup]

mutual

def routed : RoutedErrors μ → Log μ
  | .node ms rs => ms.map (fun m => ([], m)) ++ routedAll rs

def routedAll : List (String × RoutedErrors μ) → Log μ
  | [] => []
  | (segment, t) :: rest => (routed t).below segment ++ routedAll rest

end

theorem under_nil_routedAll (rs : List (String × RoutedErrors μ)) : (routedAll rs).under [] = [] := by
  induction rs with
  | nil => rfl
  | cons e rest ih => rw [routedAll, Log.under_append, Log.under_below_nil, ih, List.append_nil]

theorem under_cons_routedAll {rs : List (String × RoutedErrors μ)} (h : KeysDiffer rs) (segment : String)
    (route : List String) :
    (routedAll rs).under (segment :: route) = (rs.lookup segment).elim [] fun u => u.routed.under route := by
  induction rs with
  | nil => rfl
  | cons e rest ih =>
    obtain ⟨s, u⟩ := e
    rw [routedAll, Log.under_append, ih (List.pairwise_cons.mp h).2]
    by_cases hs : segment = s
    · subst hs
      simp [lookup_eq_none_of_head h]
    · rw [Log.under_below_of_ne (Ne.symm hs), List.lookup_cons, beq_false_of_ne hs, List.nil_append]

theorem Pruned.under_routed (ht : t.Pruned) (route : List String) : t.routed.under route = t.messagesAt route := by
  induction route generalizing t with
  | nil =>
    obtain ⟨ms, rs⟩ := t
    rw [routed, Log.under_append, Log.under_own_nil, under_nil_routedAll, List.append_nil, messagesAt_nil,
      messages_node]
  | cons segment route ih =>
    obtain ⟨ms, rs⟩ := t
    have hdiffer : KeysDiffer rs := ht.routes.increasing.differ
    rw [routed, Log.under_append, Log.under_own_cons, under_cons_routedAll hdiffer, List.nil_append, messagesAt_cons,
      routes_node]
    cases hu : rs.lookup segment with
    | none => rfl
    | some u => exact ih (ht.of_lookup hu)

mutual

theorem length_routed : ∀ t : RoutedErrors μ, t.routed.length = t.count
  | .node ms rs => by rw [routed, count, List.length_append, List.length_map, length_routedAll rs]

theorem length_routedAll : ∀ rs : List (String × RoutedErrors μ), (routedAll rs).length = countAll rs
  | [] => rfl
  | (segment, t) :: rest => by
    rw [routedAll, countAll, List.length_append, Log.below, List.length_map, length_routed t, length_routedAll rest]

end

/-- Routes in the order of their segments, which are compared by their bytes; a route comes before the longer ones
that start with it. -/
def RouteBefore (a b : List String) : Prop := a.map utf8Bytes < b.map utf8Bytes

def Log.InOrder (log : Log μ) : Prop := log.Pairwise fun a b => a.1 = b.1 ∨ RouteBefore a.1 b.1

theorem routeBefore_nil_cons : RouteBefore [] (segment :: route) := List.nil_lt_cons _ _

theorem routeBefore_cons_self {a b : List String} (h : RouteBefore a b) : RouteBefore (segment :: a) (segment :: b) := by
  rw [RouteBefore, List.map_cons, List.map_cons, List.cons_lt_cons_iff]
  exact .inr ⟨rfl, h⟩

theorem routeBefore_of_lt {s s' : String} {a b : List String} (h : s < s') : RouteBefore (s :: a) (s' :: b) := by
  rw [RouteBefore, List.map_cons, List.map_cons, List.cons_lt_cons_iff]
  exact .inl (utf8Bytes_lt_iff.mpr h)

theorem Log.InOrder.below {log : Log μ} (h : log.InOrder) (segment : String) : (log.below segment).InOrder := by
  rw [InOrder, Log.below, List.pairwise_map]
  refine h.imp fun {a b} hab => ?_
  rcases hab with heq | hlt
  · exact .inl (congrArg (segment :: ·) heq)
  · exact .inr (routeBefore_cons_self hlt)

theorem exists_segment_of_mem_routedAll {rs : List (String × RoutedErrors μ)} {e : List String × μ}
    (he : e ∈ routedAll rs) : ∃ r ∈ rs, ∃ route, e.1 = r.1 :: route := by
  induction rs with
  | nil => cases he
  | cons r rest ih =>
    rw [routedAll, List.mem_append] at he
    rcases he with he | he
    · obtain ⟨e', _, rfl⟩ := List.mem_map.mp he
      exact ⟨r, List.mem_cons_self, e'.1, rfl⟩
    · obtain ⟨r', hr', hroute⟩ := ih he
      exact ⟨r', List.mem_cons_of_mem _ hr', hroute⟩

mutual

theorem Pruned.inOrder_routed : ∀ {t : RoutedErrors μ}, t.Pruned → t.routed.InOrder
  | .node ms rs, ht => by
    rw [routed, Log.InOrder, List.pairwise_append]
    refine ⟨?_, (pruned_node_iff.mp ht).inOrder_routedAll, ?_⟩
    · rw [List.pairwise_map]
      exact List.pairwise_of_forall fun _ _ => .inl rfl
    · -- the own messages of a tree come before those of its subtrees
      intro a ha b hb
      obtain ⟨m, _, rfl⟩ := List.mem_map.mp ha
      obtain ⟨r, _, route, hroute⟩ := exists_segment_of_mem_routedAll hb
      rw [hroute]
      exact .inr routeBefore_nil_cons

theorem PrunedRoutes.inOrder_routedAll : ∀ {rs : List (String × RoutedErrors μ)}, PrunedRoutes rs →
    (routedAll rs).InOrder
  | [], _ => List.Pairwise.nil
  | (segment, t) :: rest, hr => by
    obtain ⟨hhead, htail⟩ := List.pairwise_cons.mp hr.increasing
    obtain ⟨htp, hp⟩ := List.forall_mem_cons.mp hr.pruned
    have hrest : PrunedRoutes rest := ⟨htail, (List.forall_mem_cons.mp hr.nonempty).2, hp⟩
    rw [routedAll, Log.InOrder, List.pairwise_append]
    refine ⟨htp.inOrder_routed.below segment, hrest.inOrder_routedAll, ?_⟩
    intro a ha b hb
    obtain ⟨a', _, rfl⟩ := List.mem_map.mp ha
    obtain ⟨r, hmem, route, hroute⟩ := exists_segment_of_mem_routedAll hb
    rw [hroute]
    exact .inr (routeBefore_of_lt (hhead r hmem))

end

/-- The text of a route: its segments with points between them, without the empty ones in front. -/
def routeText (route : List String) : String := String.intercalate "." (route.dropWhile (· = ""))

mutual

theorem flattenFrom_eq_map (path : String) : ∀ t : RoutedErrors μ,
    t.flattenFrom path = t.routed.map fun e => (e.1.foldl extendRoute path, e.2)
  | .node ms rs => by
    rw [flattenFrom, routed, List.map_append, List.map_map, flattenAll_eq_map path rs]
    rfl

theorem flattenAll_eq_map (path : String) : ∀ rs : List (String × RoutedErrors μ),
    flattenAll path rs = (routedAll rs).map fun e => (e.1.foldl extendRoute path, e.2)
  | [] => rfl
  | (segment, t) :: rest => by
    rw [flattenAll, routedAll, List.map_append, Log.below, List.map_map,
      flattenFrom_eq_map (extendRoute path segment) t, flattenAll_eq_map path rest]
    rfl

end

theorem foldl_extendRoute_of_ne {path : String} (h : path ≠ "") (route : List String) :
    route.foldl extendRoute path = String.intercalate "." (path :: route) := by
  induction route generalizing path with
  | nil => simp
  | cons segment route ih =>
    have hne : path ++ "." ++ segment ≠ "" := by simp
    rw [List.foldl_cons, extendRoute, if_neg h, ih hne]
    cases route with
    | nil => simp [String.intercalate_cons_cons]
    | cons s route => simp [String.intercalate_cons_cons, String.append_assoc]

theorem foldl_extendRoute (route : List String) : route.foldl extendRoute "" = routeText route := by
  induction route with
  | nil => rfl
  | cons segment route ih =>
    rw [List.foldl_cons, extendRoute, if_pos rfl, routeText]
    by_cases hempty : segment = ""
    · rw [hempty, ih, List.dropWhile_cons_of_pos (by simp), routeText]
    · rw [foldl_extendRoute_of_ne hempty, List.dropWhile_cons_of_neg (by simpa using hempty)]

theorem flatten_eq_map_routed (t : RoutedErrors μ) : t.flatten = t.routed.map fun e => (routeText e.1, e.2) := by
  simp only [flatten, flattenFrom_eq_map, foldl_extendRoute]

def lineOf (text : μ → String) (e : List String × μ) : String :=
  if routeText e.1 = "" then text e.2 else routeText e.1 ++ ": " ++ text e.2

/-- The messages of a tree that was built by recording `log`, listed with their routes. -/
structure Lists (t : RoutedErrors μ) (log entries : Log μ) : Prop where
  inOrder : entries.InOrder
  stored : ∀ route, entries.under route = t.messagesAt route
  recorded : ∀ route, entries.under route = log.under route
  length : entries.length = t.count
  flatten : t.flatten = entries.map fun e => (routeText e.1, e.2)
  render : ∀ text : μ → String, t.render text = String.intercalate "\n" (entries.map (lineOf text))

/-- A tree that can be built was built by some log, and whatever log that is, the tree is written out as a list of its
messages by route. -/
theorem Reachable.lists_routed (ht : t.Reachable) :
    (∃ log, t.RecordedBy log) ∧ t.flatten.length = t.count ∧ ∀ log, t.RecordedBy log → t.Lists log t.routed := by
  refine ⟨reachable_iff_recordedBy.mp ht, length_flatten t, fun log hlog => ?_⟩
  have hunder := ht.pruned.under_routed
  refine ⟨ht.pruned.inOrder_routed, hunder, fun route => (hunder route).trans (hlog.under_eq route).symm,
    length_routed t, flatten_eq_map_routed t, fun text => ?_⟩
  rw [render, flatten_eq_map_routed, List.map_map]
  rfl

theorem lists_routed_of_empty_segments :
    let t := ((empty.addChild "b" (empty.addChild "" (empty.add "o"))).addChild "" (empty.add "n")).add "m"
    let log := [(["b", ""], "o"), ([""], "n"), ([], "m")]
    t.Reachable ∧ t.RecordedBy log ∧ t.Lists log t.routed ∧ t.routed = [([], "m"), ([""], "n"), (["b", ""], "o")] ∧
      t.flatten = [("", "m"), ("", "n"), ("b.", "o")] ∧ t.render id = "m\nn\nb.: o" := by
  intro t log
  have hlog : t.RecordedBy log :=
    RecordedBy.add "m" (.addChild "" (.addChild "b" .empty (.addChild "" .empty (.add "o" .empty))) (.add "n" .empty))
  have ht : t.Reachable := reachable_iff_recordedBy.mpr ⟨log, hlog⟩
  exact ⟨ht, hlog, ht.lists_routed.2.2 log hlog, by decide, by decide, by decide⟩

end HostBinder.RoutedErrors

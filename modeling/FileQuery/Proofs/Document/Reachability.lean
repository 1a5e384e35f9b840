import FileQuery.Document.Matcher
import FileQuery.Proofs.Document.SpelledNumbers
import Mathlib.Data.List.Nodup
import Mathlib.Logic.Relation

/-!
# Where paths lead

Documents are graphs: parts of them can be shared and can contain themselves.  What a path reaches in
one is said here by relations that know nothing of searching.  The search keeps a stack, visits each
collection once and drops repeated mentions; it ends on every document, and finds what is reached and
nothing else.
-/

namespace FileQuery.Document

/-! ## 1. What a path reaches -/

namespace Store

inductive Holds (store : Store) (v w : Value) : Prop
  | item {items : List Value} : store.items? v = some items → w ∈ items → Holds store v w
  | member {entries : Entries} {key : Scalar} :
      store.entries? v = some entries → (key, w) ∈ entries.members → Holds store v w

def HasMember (store : Store) (name : String) (v w : Value) : Prop :=
  ∃ entries, store.entries? v = some entries ∧ (.str name, w) ∈ entries.members

/-- A value is inside another, or is that value, at any depth. -/
abbrev HoldsDeeply (store : Store) : Value → Value → Prop := Relation.ReflTransGen store.Holds

/-- One step of a path leads from a value to another. -/
inductive Leads (store : Store) : Segment → Value → Value → Prop
  | field {name : String} {v w : Value} :
      store.HasMember name v w → Leads store (.field name) v w
  | recursive {name : String} {v u w : Value} :
      store.HoldsDeeply v u → store.HasMember name u w → Leads store (.recursive name) v w
  | index {n : Nat} {items : List Value} {v w : Value} :
      store.items? v = some items → items[n]? = some w → Leads store (.index n) v w
  | wildcard {items : List Value} {v w : Value} :
      store.items? v = some items → w ∈ items → Leads store .wildcard v w

/-- A path leads from a value to another. -/
inductive Reaches (store : Store) : Path → Value → Value → Prop
  | here (v : Value) : Reaches store [] v v
  | step {segment : Segment} {path : Path} {v u w : Value} :
      store.Leads segment v u → Reaches store path u w → Reaches store (segment :: path) v w

end Store

variable {store : Store} {name : String} {v w u : Value} {fresh : List Nat}

/-! ## 2. A step that does not search -/

/-- There is one member of a name at most. -/
theorem get?_eq_some {entries : Entries} :
    entries.get? name = some w ↔ (.str name, w) ∈ entries.members := by
  obtain ⟨members, hdistinct⟩ := entries
  show ((members.find? _).map _ = some w) ↔ (.str name, w) ∈ members
  induction members with
  | nil => simp
  | cons member rest ih =>
    obtain ⟨key, value⟩ := member
    obtain ⟨hfirst, hrest⟩ := List.pairwise_cons.1 hdistinct
    rw [List.find?_cons, List.mem_cons]
    by_cases hkey : key = .str name
    · -- the name is not met again
      have hnone : (Scalar.str name, w) ∉ rest := fun hmem => by
        have hsame := hfirst _ hmem
        simp [hkey, Scalar.sameKey] at hsame
      simp [hkey, hnone, eq_comm]
    · have hother : (key == Scalar.str name) = false := by simpa using hkey
      rw [hother, ih hrest]
      exact (or_iff_right fun heq => hkey (Prod.ext_iff.1 heq).1.symm).symm

theorem exists_of_entries? {entries : Entries} (h : store.entries? v = some entries) :
    ∃ id, v = .node id ∧ store[id]? = some (.map entries) := by
  unfold Store.entries? at h
  split at h
  · next entries' hcollection =>
    cases h
    cases v with
    | scalar s => cases hcollection
    | node id => exact ⟨id, rfl, hcollection⟩
  · cases h

theorem exists_of_items? {items : List Value} (h : store.items? v = some items) :
    ∃ id, v = .node id ∧ store[id]? = some (.list items) := by
  unfold Store.items? at h
  split at h
  · next items' hcollection =>
    cases h
    cases v with
    | scalar s => cases hcollection
    | node id => exact ⟨id, rfl, hcollection⟩
  · cases h

theorem entries?_node {id : Nat} {entries : Entries} (h : store[id]? = some (.map entries)) :
    store.entries? (.node id) = some entries := by
  rw [Store.entries?, Store.collection?, h]

theorem items?_node {id : Nat} {items : List Value} (h : store[id]? = some (.list items)) :
    store.items? (.node id) = some items := by
  rw [Store.items?, Store.collection?, h]

/-! ## 3. Looking through a document -/

/-- What lies inside a collection, and which of it a name leads to. -/
theorem mem_look (name : String) {id : Nat} {c : Collection} (h : store[id]? = some c) :
    (w ∈ (c.look name).1 ↔ store.Holds (.node id) w) ∧
      (w ∈ (c.look name).2 ↔ store.HasMember name (.node id) w) := by
  -- an entry of the store is a list or a map and not both
  have hitems : ∀ items, store.items? (.node id) = some items → c = .list items := by
    intro items hitems
    obtain ⟨_, ⟨⟩, hlist⟩ := exists_of_items? hitems
    exact Option.some.inj (h.symm.trans hlist)
  have hentries : ∀ entries, store.entries? (.node id) = some entries → c = .map entries := by
    intro entries hentries
    obtain ⟨_, ⟨⟩, hmap⟩ := exists_of_entries? hentries
    exact Option.some.inj (h.symm.trans hmap)
  refine ⟨⟨fun hw => ?_, fun hw => ?_⟩, ⟨fun hw => ?_, fun hw => ?_⟩⟩
  · cases c with
    | list items => exact .item (items?_node h) hw
    | map entries =>
      obtain ⟨⟨key, _⟩, hmem, rfl⟩ := List.mem_map.1 hw
      exact .member (entries?_node h) hmem
    | _ => cases hw
  · cases hw with
    | item heq hmem =>
      rw [hitems _ heq]
      exact hmem
    | member heq hmem =>
      rw [hentries _ heq]
      exact List.mem_map.2 ⟨_, hmem, rfl⟩
  · cases c with
    | map entries =>
      obtain ⟨⟨key, _⟩, hmem, rfl⟩ := List.mem_map.1 hw
      obtain ⟨hmem, hkey⟩ := List.mem_filter.1 hmem
      have hkey : key = .str name := by simpa using hkey
      rw [hkey] at hmem
      exact ⟨entries, entries?_node h, hmem⟩
    | _ => cases hw
  · obtain ⟨entries, heq, hmem⟩ := hw
    rw [hentries _ heq]
    exact List.mem_map.2 ⟨_, List.mem_filter.2 ⟨hmem, by simp⟩, rfl⟩

theorem holds_list_iff {id : Nat} {items : List Value} (h : store[id]? = some (.list items)) :
    store.Holds (.node id) w ↔ w ∈ items :=
  (mem_look "" h).1.symm

theorem holds_map_iff {id : Nat} {entries : Entries} (h : store[id]? = some (.map entries)) :
    store.Holds (.node id) w ↔ w ∈ entries.members.map (·.2) :=
  (mem_look "" h).1.symm

theorem not_holds_scalar (s : Scalar) (v : Value) : ¬store.Holds (.scalar s) v := by
  rintro (⟨hitems, -⟩ | ⟨hentries, -⟩)
  · cases hitems
  · cases hentries

/-- One value is inside another at any depth, and so are all collections in between and the two
themselves within a set of collections. -/
inductive Store.HoldsWithin (store : Store) (fresh : List Nat) : Value → Value → Prop
  | here {id : Nat} : id ∈ fresh → HoldsWithin store fresh (.node id) (.node id)
  | inside {id : Nat} {w u : Value} : id ∈ fresh → store.Holds (.node id) w →
      HoldsWithin store fresh w u → HoldsWithin store fresh (.node id) u

theorem Store.HoldsWithin.mono {more : List Nat} (hsub : fresh ⊆ more)
    (h : store.HoldsWithin fresh v u) : store.HoldsWithin more v u := by
  induction h with
  | here hid => exact .here (hsub hid)
  | inside hid hholds _ ih => exact .inside (hsub hid) hholds ih

/-- What is inside a value without a collection being left out is so still, or it is that collection,
or it is inside what that collection holds: the way in passes the collection a last time. -/
theorem Store.HoldsWithin.erase (hnodup : fresh.Nodup) (id : Nat)
    (h : store.HoldsWithin fresh v u) :
    store.HoldsWithin (fresh.erase id) v u ∨ u = .node id ∨
      ∃ w, store.Holds (.node id) w ∧ store.HoldsWithin (fresh.erase id) w u := by
  induction h with
  | @here id' hid =>
    by_cases hsame : id' = id
    · rw [hsame]
      exact .inr (.inl rfl)
    · exact .inl (.here (hnodup.mem_erase_iff.2 ⟨hsame, hid⟩))
  | @inside id' w u hid hholds hin ih =>
    rcases ih with hwithin | hlast | hpast
    · by_cases hsame : id' = id
      · rw [hsame] at hholds
        exact .inr (.inr ⟨w, hholds, hwithin⟩)
      · exact .inl (.inside (hnodup.mem_erase_iff.2 ⟨hsame, hid⟩) hholds hwithin)
    · exact .inr (.inl hlast)
    · exact .inr (.inr hpast)

theorem Store.HasMember.exists_collection (h : store.HasMember name v w) :
    ∃ id c, v = .node id ∧ store[id]? = some c := by
  obtain ⟨entries, heq, -⟩ := h
  obtain ⟨id, hid, hc⟩ := exists_of_entries? heq
  exact ⟨id, _, hid, hc⟩

theorem Store.Holds.exists_collection (h : store.Holds v w) :
    ∃ id c, v = .node id ∧ store[id]? = some c := by
  cases h with
  | item heq =>
    obtain ⟨id, hid, hc⟩ := exists_of_items? heq
    exact ⟨id, _, hid, hc⟩
  | member heq =>
    obtain ⟨id, hid, hc⟩ := exists_of_entries? heq
    exact ⟨id, _, hid, hc⟩

/-- A number that no collection has leads nowhere. -/
theorem not_hasMember_of_none {id : Nat} (hnone : store[id]? = none)
    (h : store.HoldsWithin fresh (.node id) u) : ¬ store.HasMember name u w := by
  intro hmember
  have hcollection : ∃ id' c, Value.node id = .node id' ∧ store[id']? = some c := by
    cases h with
    | here => exact hmember.exists_collection
    | inside _ hholds => exact hholds.exists_collection
  obtain ⟨id', c, ⟨⟩, hc⟩ := hcollection
  rw [hnone] at hc
  cases hc

/-- The search finds the members of what lies below its stack within the collections that it has not
visited. -/
theorem mem_collect {stack : List Value} (hnodup : fresh.Nodup) :
    w ∈ collect store name fresh stack ↔
      ∃ v ∈ stack, ∃ u, store.HoldsWithin fresh v u ∧ store.HasMember name u w := by
  fun_induction collect store name fresh stack with
  | case1 => simp
  | case2 fresh s stack ih =>
    -- nothing is inside a scalar
    rw [ih hnodup, List.exists_mem_cons_iff, or_iff_right]
    rintro ⟨u, hwithin, -⟩
    cases hwithin
  | case3 fresh id stack hid hnone ih =>
    rw [ih hnodup, List.exists_mem_cons_iff, or_iff_right]
    rintro ⟨u, hwithin, hmember⟩
    exact not_hasMember_of_none hnone hwithin hmember
  | case4 fresh id stack hid c hc inside found hlook ih =>
    have hinside : ∀ w, w ∈ inside ↔ store.Holds (.node id) w := by
      intro w
      rw [← (mem_look name hc).1, hlook]
    have hfound : ∀ w, w ∈ found ↔ store.HasMember name (.node id) w := by
      intro w
      rw [← (mem_look name hc).2, hlook]
    rw [List.mem_append, ih (hnodup.erase id), hfound]
    constructor
    · rintro (hmember | ⟨v, hv, u, hwithin, hmember⟩)
      · exact ⟨.node id, List.mem_cons_self, .node id, .here hid, hmember⟩
      · have hwithin := hwithin.mono List.erase_subset
        rcases List.mem_append.1 hv with hv | hv
        · have hholds := (hinside v).1 (List.mem_reverse.1 hv)
          exact ⟨.node id, List.mem_cons_self, u, .inside hid hholds hwithin, hmember⟩
        · exact ⟨v, List.mem_cons_of_mem _ hv, u, hwithin, hmember⟩
    · rintro ⟨v, hv, u, hwithin, hmember⟩
      rcases hwithin.erase hnodup id with hwithin | rfl | ⟨v', hholds, hwithin⟩
      · rcases List.mem_cons.1 hv with rfl | hv
        -- the collection itself is left out
        · have hgone : id ∉ fresh.erase id := hnodup.not_mem_erase
          cases hwithin with
          | here hid => exact absurd hid hgone
          | inside hid => exact absurd hid hgone
        · exact .inr ⟨v, List.mem_append_right _ hv, u, hwithin, hmember⟩
      · exact .inl hmember
      · have hv' := List.mem_reverse.2 ((hinside v').2 hholds)
        exact .inr ⟨v', List.mem_append_left _ hv', u, hwithin, hmember⟩
  | case5 fresh id stack hid ih =>
    rw [ih hnodup, List.exists_mem_cons_iff, or_iff_right]
    rintro ⟨u, hwithin, -⟩
    cases hwithin with
    | here hid' => exact hid hid'
    | inside hid' => exact hid hid'

/-- Within all collections of a document everything can be reached that is inside at any depth. -/
theorem holdsWithin_range (hmember : store.HasMember name u w) :
    store.HoldsWithin (List.range store.size) v u ↔ store.HoldsDeeply v u := by
  have hrange : ∀ {id c}, store[id]? = some c → id ∈ List.range store.size := by
    intro id c hc
    obtain ⟨hlt, -⟩ := Array.getElem?_eq_some_iff.1 hc
    exact List.mem_range.2 hlt
  constructor
  · intro h
    induction h with
    | here => exact .refl
    | inside _ hholds _ ih => exact (ih hmember).head hholds
  · intro h
    induction h using Relation.ReflTransGen.head_induction_on with
    | refl =>
      obtain ⟨id, c, rfl, hc⟩ := hmember.exists_collection
      exact .here (hrange hc)
    | head hholds _ ih =>
      obtain ⟨id, c, rfl, hc⟩ := hholds.exists_collection
      exact .inside (hrange hc) hholds ih

theorem mem_descend : w ∈ descend store name v ↔
    ∃ u, store.HoldsDeeply v u ∧ store.HasMember name u w := by
  rw [descend, mem_collect List.nodup_range, List.exists_mem_cons_iff]
  constructor
  · rintro (⟨u, hwithin, hmember⟩ | ⟨_, ⟨⟩, _⟩)
    exact ⟨u, (holdsWithin_range hmember).1 hwithin, hmember⟩
  · rintro ⟨u, hdeep, hmember⟩
    exact .inl ⟨u, (holdsWithin_range hmember).2 hdeep, hmember⟩

/-! ## 4. Following a path -/

theorem mem_follow (segment : Segment) :
    w ∈ follow store segment v ↔ store.Leads segment v w := by
  cases segment with
  | field name =>
    rw [follow, Option.mem_toList, Option.bind_eq_some_iff]
    constructor
    · rintro ⟨entries, heq, hget⟩
      exact .field ⟨entries, heq, get?_eq_some.1 hget⟩
    · intro h
      cases h with
      | field hmember =>
        obtain ⟨entries, heq, hmem⟩ := hmember
        exact ⟨entries, heq, get?_eq_some.2 hmem⟩
  | recursive name =>
    rw [follow, mem_descend]
    constructor
    · rintro ⟨u, hdeep, hmember⟩
      exact .recursive hdeep hmember
    · intro h
      cases h with
      | recursive hdeep hmember => exact ⟨_, hdeep, hmember⟩
  | index n =>
    rw [follow, Option.mem_toList, Option.bind_eq_some_iff]
    constructor
    · rintro ⟨items, heq, hget⟩
      exact .index heq hget
    · intro h
      cases h with
      | index heq hget => exact ⟨_, heq, hget⟩
  | wildcard =>
    rw [follow]
    constructor
    · intro hw
      cases heq : store.items? v with
      | none =>
        rw [heq] at hw
        cases hw
      | some items =>
        rw [heq] at hw
        exact .wildcard heq hw
    · intro h
      cases h with
      | wildcard heq hmem =>
        rw [heq]
        exact hmem

theorem mem_distinctFrom {seen : List Nat} {values : List Value} :
    v ∈ distinctFrom seen values ↔ v ∈ values ∧ ∀ id ∈ seen, v ≠ .node id := by
  fun_induction distinctFrom seen values with
  | case1 => simp
  | case2 seen s rest ih =>
    rw [List.mem_cons, List.mem_cons, ih]
    constructor
    · rintro (rfl | ⟨hv, hnew⟩)
      · exact ⟨.inl rfl, nofun⟩
      · exact ⟨.inr hv, hnew⟩
    · rintro ⟨rfl | hv, hnew⟩
      · exact .inl rfl
      · exact .inr ⟨hv, hnew⟩
  | case3 seen id rest hseen ih =>
    rw [ih, List.mem_cons]
    constructor
    · rintro ⟨hv, hnew⟩
      exact ⟨.inr hv, hnew⟩
    · rintro ⟨rfl | hv, hnew⟩
      · exact absurd rfl (hnew id hseen)
      · exact ⟨hv, hnew⟩
  -- a collection that is new is kept, and left out from there on
  | case4 seen id rest hseen ih =>
    rw [List.mem_cons, List.mem_cons, ih, List.forall_mem_cons]
    constructor
    · rintro (rfl | ⟨hv, -, hnew⟩)
      · refine ⟨.inl rfl, fun id' hid' heq => ?_⟩
        cases heq
        exact hseen hid'
      · exact ⟨.inr hv, hnew⟩
    · rintro ⟨rfl | hv, hnew⟩
      · exact .inl rfl
      · by_cases heq : v = .node id
        · exact .inl heq
        · exact .inr ⟨hv, heq, hnew⟩

theorem mem_distinct {values : List Value} : v ∈ distinct values ↔ v ∈ values := by
  rw [distinct, mem_distinctFrom]
  exact and_iff_left nofun

/-- The values that a path leads to are those that it reaches, in any document. -/
theorem mem_navigate {root : Root} (path : Path) :
    v ∈ navigate root path ↔ root.store.Reaches path root.value v := by
  -- along the path, for all values that have been reached so far
  have key : ∀ values : List Value,
      v ∈ path.foldl (fun values segment => distinct (values.flatMap (follow root.store segment)))
        values ↔ ∃ u ∈ values, root.store.Reaches path u v := by
    induction path with
    | nil =>
      intro values
      constructor
      · intro hv
        exact ⟨v, hv, .here v⟩
      · rintro ⟨u, hu, ⟨⟩⟩
        exact hu
    | cons segment path ih =>
      intro values
      rw [List.foldl_cons, ih]
      simp only [mem_distinct, List.mem_flatMap, mem_follow]
      constructor
      · rintro ⟨u, ⟨u', hu', hleads⟩, hreaches⟩
        exact ⟨u', hu', .step hleads hreaches⟩
      · rintro ⟨u', hu', hreaches⟩
        cases hreaches with
        | step hleads hreaches => exact ⟨_, ⟨u', hu', hleads⟩, hreaches⟩
  rw [navigate, key, List.exists_mem_cons_iff]
  constructor
  · rintro (hreaches | ⟨_, ⟨⟩, _⟩)
    exact hreaches
  · intro hreaches
    exact .inl hreaches

/-! ## 5. Conditions -/

/-- The values whose texts a condition on a value looks at: none where it asks for an order or only
whether there is a value, the items of a list where it asks what is contained, and else the value. -/
def Condition.compared (store : Store) : Condition → Value → List Value
  | .member _, v | .pattern .., v | .compare .eq _, v | .compare .ne _, v => [v]
  | .compare .contains _, v => (store.items? v).getD [v]
  | _, _ => []

/-- The scalars that a condition on a value takes for numbers: the value and what it is compared with,
where it asks for an order. -/
def Condition.ordered : Condition → Value → List Scalar
  | .compare .eq _, _ | .compare .ne _, _ | .compare .contains _, _ => []
  | .compare _ l, .scalar s => [s, l.value]
  | _, _ => []

variable {limit : TextLimit}

theorem anyOk_eq_false {α ε : Type} {test : α → Except ε Bool} {xs : List α} :
    anyOk test xs = .ok false ↔ ∀ x ∈ xs, test x = .ok false := by
  induction xs with
  | nil => exact iff_of_true rfl nofun
  | cons x xs ih =>
    rw [anyOk_cons, List.forall_mem_cons, ← ih]
    rcases test x with fault | (_ | _)
    · exact iff_of_false nofun fun h => nomatch h.1
    · exact (and_iff_right rfl).symm
    · exact iff_of_false nofun fun h => nomatch h.1

/-- Tests that succeed, or fail for a reason, tell whether one element satisfies them, or one of them
fails. -/
theorem anyOk_cases {α ε : Type} {test : α → Except ε Bool} {P : α → ε → Prop} {xs : List α}
    (h : ∀ x ∈ xs, (∃ b, test x = .ok b) ∨ ∃ e, P x e ∧ test x = .error e) :
    (∃ b, anyOk test xs = .ok b ∧ (b = true ↔ ∃ x ∈ xs, test x = .ok true)) ∨
      ∃ x ∈ xs, ∃ e, P x e ∧ anyOk test xs = .error e := by
  induction xs with
  | nil => exact .inl ⟨false, rfl, by simp⟩
  | cons x xs ih =>
    rw [List.forall_mem_cons] at h
    rcases h.1 with ⟨first, hfirst⟩ | ⟨e, he, hfirst⟩
    · cases first with
      | true =>
        refine .inl ⟨true, bind_eq_ok.2 ⟨true, hfirst, rfl⟩, iff_of_true rfl ?_⟩
        exact ⟨x, List.mem_cons_self, hfirst⟩
      | false =>
        have hrest : anyOk test (x :: xs) = anyOk test xs := by
          rw [anyOk_cons, hfirst]
          rfl
        rw [hrest]
        rcases ih h.2 with ⟨b, hb, hiff⟩ | ⟨y, hy, hfault⟩
        · refine .inl ⟨b, hb, ?_⟩
          rw [hiff, List.exists_mem_cons_iff, hfirst, or_iff_right nofun]
        · exact .inr ⟨y, List.mem_cons_of_mem _ hy, hfault⟩
    · refine .inr ⟨x, List.mem_cons_self, e, he, ?_⟩
      rw [anyOk_cons, hfirst]
      rfl

/-- A test that succeeds on all elements tells whether one of them satisfies it. -/
theorem exists_anyOk {α ε : Type} (test : α → Except ε Bool) {xs : List α}
    (h : ∀ x ∈ xs, ∃ b, test x = .ok b) :
    ∃ b, anyOk test xs = .ok b ∧ (b = true ↔ ∃ x ∈ xs, test x = .ok true) :=
  (anyOk_cases (P := fun _ _ => False) fun x hx => .inl (h x hx)).resolve_right
    fun ⟨_, _, _, hfalse, _⟩ => hfalse

theorem Literal.exists_equals (l : Literal) (h : ∃ text, textOf limit store v = .ok text) :
    ∃ b, l.equals limit store v = .ok b := by
  obtain ⟨text, htext⟩ := h
  cases v with
  | node id =>
    rw [Literal.equals, htext]
    exact ⟨text == l.raw, rfl⟩
  | scalar s =>
    rw [Literal.equals, htext]
    by_cases hsame : l.same s = true
    · exact ⟨true, if_pos hsame⟩
    · exact ⟨text == l.raw, if_neg hsame⟩

/-- A fault of a condition on a value: one of the scalars that are ordered spells a number and cannot be
read as one. -/
def Condition.StraysAt (c : Condition) (v : Value) (fault : TextFault) : Prop :=
  ∃ text, Scalar.str text ∈ c.ordered v ∧ IsStray text ∧ fault = .notFloat text

/-- The order of two scalars is known without their texts, unless one of them strays. -/
theorem Condition.order_cases {op : Operator} {l : Literal} {s : Scalar}
    (hop : op ≠ .eq ∧ op ≠ .ne ∧ op ≠ .contains) :
    (∃ b, (Condition.compare op l).holds limit store (.scalar s) = .ok b) ∨
      ∃ fault, (Condition.compare op l).StraysAt (.scalar s) fault ∧
        (Condition.compare op l).holds limit store (.scalar s) = .error fault := by
  have hordered : (Condition.compare op l).ordered (.scalar s) = [s, l.value] := by
    cases op <;> first | rfl | simp at hop
  have hholds : (Condition.compare op l).holds limit store (.scalar s) =
      s.asNumber >>= fun x? => l.value.asNumber >>= fun y? => .ok (inOrder op x? y?) := by
    cases op <;> first | rfl | simp at hop
  unfold StraysAt
  simp only [hordered, hholds]
  cases hs : s.asNumber with
  | error fault =>
    obtain ⟨text, rfl, hstray, rfl⟩ := Scalar.asNumber_eq_error.1 hs
    exact .inr ⟨_, ⟨text, List.mem_cons_self, hstray, rfl⟩, rfl⟩
  | ok x? =>
    cases hl : l.value.asNumber with
    | error fault =>
      obtain ⟨text, hvalue, hstray, rfl⟩ := Scalar.asNumber_eq_error.1 hl
      exact .inr ⟨_, ⟨text, by simp [hvalue], hstray, rfl⟩, rfl⟩
    | ok y? => exact .inl ⟨_, rfl⟩

/-- A comparison gives an answer if the texts that it looks at can be written, unless a scalar that it
takes for a number strays. -/
theorem Condition.holds_cases (c : Condition)
    (h : ∀ w ∈ c.compared store v, ∃ text, textOf limit store w = .ok text) :
    (∃ b, c.holds limit store v = .ok b) ∨
      ∃ fault, c.StraysAt v fault ∧ c.holds limit store v = .error fault := by
  cases c with
  | «exists» => exact .inl ⟨true, rfl⟩
  | member items =>
    have hv := h v List.mem_cons_self
    obtain ⟨b, hb, -⟩ := exists_anyOk (fun l => l.equals limit store v)
      fun l (_ : l ∈ items) => l.exists_equals hv
    exact .inl ⟨b, hb⟩
  | pattern l p =>
    obtain ⟨text, htext⟩ := h v List.mem_cons_self
    exact .inl ⟨p.holds text, bind_eq_ok.2 ⟨text, htext, rfl⟩⟩
  | compare op l =>
    cases op with
    | eq => exact .inl (l.exists_equals (h v List.mem_cons_self))
    | ne =>
      obtain ⟨b, hb⟩ := l.exists_equals (h v List.mem_cons_self)
      exact .inl ⟨!b, bind_eq_ok.2 ⟨b, hb, rfl⟩⟩
    | contains =>
      rw [compared] at h
      rw [holds]
      cases hitems : store.items? v with
      | some items =>
        rw [hitems] at h
        obtain ⟨b, hb, -⟩ := exists_anyOk (l.equals limit store) fun w hw => l.exists_equals (h w hw)
        exact .inl ⟨b, hb⟩
      | none =>
        rw [hitems] at h
        obtain ⟨text, htext⟩ := h v List.mem_cons_self
        exact .inl ⟨_, bind_eq_ok.2 ⟨text, htext, rfl⟩⟩
    | _ =>
      cases v with
      | node id => exact .inl ⟨false, rfl⟩
      | scalar s => exact order_cases (by decide)

/-- Asking only for a value is asking for one that satisfies a condition which all values satisfy. -/
theorem Matcher.holds_eq (m : Matcher) (documents : List Root) :
    m.holds limit documents = anyOk (fun root =>
      anyOk (m.condition.holds limit root.store) (navigate root m.path)) documents := by
  rw [Matcher.holds]
  congr 1
  funext root
  cases m.condition with
  | «exists» =>
    show Except.ok (!(navigate root m.path).isEmpty) = _
    cases navigate root m.path <;> rfl
  | _ => rfl

/-- Whether some value that a path reaches satisfies a condition, in any documents: the search ends,
and if the texts can be written that the condition looks at it tells just that, or it breaks off at a
value that spells a number and cannot be read as one. -/
theorem holds_iff_reaches (limit : TextLimit) (m : Matcher) (documents : List Root)
    (htexts : ∀ root ∈ documents, ∀ v, root.store.Reaches m.path root.value v →
      ∀ w ∈ m.condition.compared root.store v, ∃ text, textOf limit root.store w = .ok text) :
    (∀ root ∈ documents, ∀ v,
      v ∈ navigate root m.path ↔ root.store.Reaches m.path root.value v) ∧
    ((∃ b, m.holds limit documents = .ok b ∧
        (b = true ↔ ∃ root ∈ documents, ∃ v, root.store.Reaches m.path root.value v ∧
          m.condition.holds limit root.store v = .ok true)) ∨
      ∃ root ∈ documents, ∃ v, root.store.Reaches m.path root.value v ∧
        ∃ text, .str text ∈ m.condition.ordered v ∧ IsStray text ∧
          m.holds limit documents = .error (.notFloat text)) := by
  refine ⟨fun root _ v => mem_navigate m.path, ?_⟩
  rw [Matcher.holds_eq]
  -- in one document
  have hdocument : ∀ root ∈ documents,
      (∃ b, anyOk (m.condition.holds limit root.store) (navigate root m.path) = .ok b ∧
        (b = true ↔ ∃ v ∈ navigate root m.path, m.condition.holds limit root.store v = .ok true)) ∨
      ∃ v ∈ navigate root m.path, ∃ fault, m.condition.StraysAt v fault ∧
        anyOk (m.condition.holds limit root.store) (navigate root m.path) = .error fault :=
    fun root hroot => anyOk_cases fun v hv =>
      m.condition.holds_cases (htexts root hroot v ((mem_navigate m.path).1 hv))
  have hdocuments := anyOk_cases
    (P := fun root fault => ∃ v ∈ navigate root m.path, m.condition.StraysAt v fault)
    fun root hroot => (hdocument root hroot).imp (fun ⟨b, hb, _⟩ => ⟨b, hb⟩)
      fun ⟨v, hv, fault, hstray, hfault⟩ => ⟨fault, ⟨v, hv, hstray⟩, hfault⟩
  rcases hdocuments with ⟨b, hb, hiff⟩ | ⟨root, hroot, fault, ⟨v, hv, text, htext, hstray, rfl⟩, hfault⟩
  · refine .inl ⟨b, hb, ⟨fun htrue => ?_, ?_⟩⟩
    · obtain ⟨root, hroot, htest⟩ := hiff.1 htrue
      rcases hdocument root hroot with ⟨b', hb', hiff'⟩ | ⟨v, hv, fault, -, hfault⟩
      · rw [hb', Except.ok.injEq] at htest
        obtain ⟨v, hv, hholds⟩ := hiff'.1 htest
        exact ⟨root, hroot, v, (mem_navigate m.path).1 hv, hholds⟩
      · rw [hfault] at htest
        cases htest
    · rintro ⟨root, hroot, v, hv, hholds⟩
      -- if no document had satisfied the condition, none would have failed either
      by_contra hfalse
      rw [Bool.eq_false_of_not_eq_true hfalse, anyOk_eq_false] at hb
      have hvalue := anyOk_eq_false.1 (hb root hroot) v ((mem_navigate m.path).2 hv)
      rw [hholds] at hvalue
      cases hvalue
  · exact .inr ⟨root, hroot, v, (mem_navigate m.path).1 hv, text, htext, hstray, hfault⟩

/-- A map that contains itself, directly and through a list: the search for a name at any depth ends
and finds the member of the map below the list, which is equal to the number by its text. -/
theorem holds_iff_reaches_cyclic :
    let store : Store := #[
      .map { members := [(.str "self", .node 0), (.str "items", .node 1)] },
      .list [.node 0, .scalar .null, .node 2],
      .map { members := [(.str "port", .scalar (.str "8080"))] }]
    let m : Matcher := ⟨.yaml, [.recursive "port"], .compare .eq ⟨"8080", .int 8080, false⟩⟩
    (∀ v, store.Reaches [.recursive "port"] (.node 0) v →
        ∀ w ∈ m.condition.compared store v, ∃ text, textOf { length := 16 } store w = .ok text) ∧
      store.Reaches [.recursive "port"] (.node 0) (.scalar (.str "8080")) ∧
      m.holds { length := 16 } [⟨store, .node 0⟩] = .ok true := by
  intro store m
  have hmaps : ∀ v entries, store.entries? v = some entries →
      entries.members = [(.str "self", .node 0), (.str "items", .node 1)] ∨
        entries.members = [(.str "port", .scalar (.str "8080"))] := by
    intro v entries hentries
    obtain ⟨id, -, hmap⟩ := exists_of_entries? hentries
    match id, hmap with
    | 0, hmap => cases hmap; exact .inl rfl
    | 1, hmap => cases hmap
    | 2, hmap => cases hmap; exact .inr rfl
    | id + 3, hmap => cases hmap
  -- all that is compared is the member of the map below the list
  have htexts : ∀ v, store.Reaches [.recursive "port"] (.node 0) v →
      ∀ w ∈ m.condition.compared store v, ∃ text, textOf { length := 16 } store w = .ok text := by
    intro v hreaches w hw
    cases hreaches with
    | step hleads hrest =>
      cases hrest
      cases hleads with
      | recursive _ hmember =>
        obtain ⟨entries, hentries, hmem⟩ := hmember
        have hv : v = .scalar (.str "8080") := by
          rcases hmaps _ entries hentries with hmembers | hmembers
          · simp [hmembers] at hmem
          · simpa [hmembers] using hmem
        have hw : w = v := List.mem_singleton.1 hw
        rw [hw, hv]
        exact ⟨"8080", rfl⟩
  have hreaches : store.Reaches [.recursive "port"] (.node 0) (.scalar (.str "8080")) := by
    have hlist : store.Holds (.node 0) (.node 1) :=
      .member rfl (List.mem_cons_of_mem (_, _) List.mem_cons_self)
    have hmap : store.Holds (.node 1) (.node 2) := .item rfl (by simp)
    have hdeep : store.HoldsDeeply (.node 0) (.node 2) := .tail (.single hlist) hmap
    exact .step (.recursive hdeep ⟨_, rfl, List.mem_cons_self⟩) (.here _)
  refine ⟨htexts, hreaches, ?_⟩
  obtain ⟨-, ⟨b, hb, hiff⟩ | ⟨_, _, _, _, _, hordered, _⟩⟩ :=
    holds_iff_reaches { length := 16 } m [⟨store, .node 0⟩] (by simpa using htexts)
  · rw [hb, hiff.2 ⟨_, List.mem_cons_self, _, hreaches, rfl⟩]
  · -- equality orders nothing
    cases hordered

/-- A text that spells five after a separator, and seven: the path reaches both, and seven is greater
than six, but the search breaks off at the text. -/
theorem holds_breaksOff_at_separator :
    let store : Store := #[
      .map { members := [(.str "v", .node 1)] },
      .list [.scalar (.str "\x1c5"), .scalar (.int 7)]]
    let root : Root := ⟨store, .node 0⟩
    ∃ m, Matcher.compile (.ofDepth 9) .json [.field "v", .wildcard] (some .gt) "6" false [] = .ok m ∧
      root.store.Reaches m.path root.value (.scalar (.int 7)) ∧
      m.condition.holds {} root.store (.scalar (.int 7)) = .ok true ∧
      m.holds {} [root] = .error (.notFloat "\x1c5") := by
  intro store root
  refine ⟨⟨.json, [.field "v", .wildcard], .compare .gt ⟨"6", .int 6, false⟩⟩, rfl, ?_, rfl, rfl⟩
  have hfield : store.Leads (.field "v") (.node 0) (.node 1) :=
    .field ⟨_, rfl, List.mem_cons_self⟩
  exact .step hfield (.step (.wildcard rfl (by simp)) (.here _))

end FileQuery.Document

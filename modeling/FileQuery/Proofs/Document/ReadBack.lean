import FileQuery.Document.Load
import FileQuery.Document.Yaml
import FileQuery.Proofs.Document.JsonText
import FileQuery.Proofs.Document.Rendering
import FileQuery.Proofs.Text.Decoding

/-!
# Texts of values that JSON has are read back

A value whose nesting ends can be written out as a tree, with what is shared in it as often as it is
met.  Its text is the compact JSON text of this tree, and JSON reads that back; so the text of a value
tells it from all others.
-/

namespace FileQuery.Document

/-! ## 1. Values as trees -/

namespace Tree

mutual
/-- A value of a store is a tree, when what is shared in it is written out. -/
def IsAt (store : Store) : Tree → Value → Prop
  | .scalar s, v => v = .scalar s
  | .list trees, v => ∃ items, store.items? v = some items ∧ areAt store trees items
  | .map members, v => ∃ entries, store.entries? v = some entries ∧
    membersAt store members entries.members
def areAt (store : Store) : List Tree → List Value → Prop
  | [], [] => True
  | t :: trees, v :: items => t.IsAt store v ∧ areAt store trees items
  | _, _ => False
def membersAt (store : Store) : List (String × Tree) → List (Scalar × Value) → Prop
  | [], [] => True
  | (name, t) :: members, (key, v) :: entries =>
    key = .str name ∧ t.IsAt store v ∧ membersAt store members entries
  | _, _ => False
end

end Tree

/-- The values of two documents are equal: written out, they are one tree. -/
def Root.Equals (root other : Root) : Prop :=
  ∃ t : Tree, t.IsAt root.store root.value ∧ t.IsAt other.store other.value

/-- What JSON has: a scalar, a list, or a map in which texts are the keys. -/
def Store.IsJsonAt (store : Store) : Value → Prop
  | .scalar s => s.IsJson
  | .node id => (∃ items, store[id]? = some (.list items)) ∨
      ∃ entries, store[id]? = some (.map entries) ∧
        ∀ entry ∈ entries.members, ∃ name, entry.1 = .str name

/-- No more than `n` collections are nested in a value, each in the one before; so none of them is
inside itself. -/
def Store.NestsWithin (store : Store) : Nat → Value → Prop
  | _, .scalar _ => True
  | 0, .node _ => False
  | n + 1, .node id => ∀ v, store.Holds (.node id) v → store.NestsWithin n v

/-- A list or a map of what JSON has, nested no deeper than JSON is read. -/
structure Root.IsJsonLike (depth : Nat) (root : Root) : Prop where
  collection : (∃ items, root.store.items? root.value = some items) ∨
    ∃ entries, root.store.entries? root.value = some entries
  parts : ∀ v, root.store.HoldsDeeply root.value v → root.store.IsJsonAt v
  nested : root.store.NestsWithin depth root.value

section trees

variable {pairDepth : Nat} {store : Store} {v : Value} {inside : List Nat} {n : Nat}

theorem Store.NestsWithin.not_transGen (h : store.NestsWithin n v) :
    ¬Relation.TransGen store.Holds v v := by
  induction n generalizing v with
  | zero =>
    cases v with
    | scalar s =>
      intro hcycle
      obtain ⟨u, hu, -⟩ := Relation.TransGen.head'_iff.1 hcycle
      exact not_holds_scalar s u hu
    | node id => cases h
  | succ n ih =>
    intro hcycle
    obtain ⟨u, hu, hback⟩ := Relation.TransGen.head'_iff.1 hcycle
    cases v with
    | scalar s => exact not_holds_scalar s u hu
    -- a cycle through the value is one through each of its parts that lie on it
    | node id => exact ih (h u hu) (.tail' hback hu)

theorem Scalar.IsJson.innerText {s : Scalar} (h : s.IsJson) :
    s.innerText = .ok (String.ofList s.json) := by
  cases s with
  | null => rfl
  | bool b => cases b <;> rfl
  | int i =>
    have hwritable : Number.isWritable i = true := h
    rw [Scalar.innerText, integerText, if_pos hwritable, Scalar.json, String.ofList_toList]
  | str s => rw [Scalar.innerText, Scalar.json, String.ofList_toList]
  | _ => cases h

theorem exists_forall₂ {α β : Type} {R : α → β → Prop} {xs : List α}
    (h : ∀ x ∈ xs, ∃ y, R x y) : ∃ ys, List.Forall₂ R xs ys := by
  induction xs with
  | nil => exact ⟨[], .nil⟩
  | cons x xs ih =>
    rw [List.forall_mem_cons] at h
    obtain ⟨y, hy⟩ := h.1
    obtain ⟨ys, hys⟩ := ih h.2
    exact ⟨y :: ys, .cons hy hys⟩

/-! ## 2. The rendering of a tree -/

/-- A value is a tree that JSON has and that nests no deeper than `n`, and is rendered as its text. -/
structure RendersAs (pairDepth : Nat) (store : Store) (inside : List Nat) (n : Nat)
    (v : Value) (t : Tree) :
    Prop where
  isAt : t.IsAt store v
  isJson : t.IsJson
  depth : t.depth ≤ n
  rendering : rendering pairDepth store inside v = .ok (String.ofList t.json)

theorem joined_itemsJson (trees : List Tree) (separator : List Char) :
    joined (String.ofList separator) (trees.map fun t => String.ofList t.json) =
      String.ofList (Tree.itemsJson separator trees) := by
  induction trees generalizing separator with
  | nil => rfl
  | cons t trees ih =>
    have hrest := ih [',']
    rw [List.map_cons, joined, Tree.itemsJson, String.ofList_append, String.ofList_append, ← hrest,
      String.append_assoc]

theorem joined_membersJson (members : List (String × Tree)) (separator : List Char) :
    joined (String.ofList separator)
        (members.map fun member => jsonString member.1 ++ ":" ++ String.ofList member.2.json) =
      String.ofList (Tree.membersJson separator members) := by
  induction members generalizing separator with
  | nil => rfl
  | cons member members ih =>
    have hrest := ih [',']
    have hcolon : ∀ s : List Char, String.ofList (':' :: s) = ":" ++ String.ofList s := by
      intro s
      rw [← List.singleton_append, String.ofList_append]
    rw [List.map_cons, joined, Tree.membersJson, String.ofList_append, String.ofList_append, hcolon,
      String.ofList_append, ← hrest, String.ofList_toList]
    simp only [String.append_assoc]

/-- What holds of several trees since it holds of each. -/
theorem rendersAs_items {items : List Value} {trees : List Tree}
    (h : List.Forall₂ (RendersAs pairDepth store inside n) items trees) :
    Tree.areAt store trees items ∧ Tree.areJson trees ∧ Tree.depthOfItems trees ≤ n ∧
      items.mapM (rendering pairDepth store inside) = .ok (trees.map fun t => String.ofList t.json) := by
  induction h with
  | nil => exact ⟨trivial, trivial, Nat.zero_le _, rfl⟩
  | cons hfirst _ ih =>
    obtain ⟨hat, hjson, hdepth, hrendering⟩ := ih
    refine ⟨⟨hfirst.isAt, hat⟩, ⟨hfirst.isJson, hjson⟩, ?_, ?_⟩
    · rw [Tree.depthOfItems]
      exact Nat.max_le.2 ⟨hfirst.depth, hdepth⟩
    · exact mapM_cons_ok.2 ⟨_, _, hfirst.rendering, hrendering, rfl⟩

theorem rendersAs_list {id : Nat} {items : List Value} {trees : List Tree} (hfresh : id ∉ inside)
    (hid : store[id]? = some (.list items))
    (h : List.Forall₂ (RendersAs pairDepth store (id :: inside) n) items trees) :
    RendersAs pairDepth store inside (n + 1) (.node id) (.list trees) := by
  obtain ⟨hat, hjson, hdepth, hrendering⟩ := rendersAs_items h
  refine ⟨⟨items, items?_node hid, hat⟩, hjson, Nat.succ_le_succ hdepth, ?_⟩
  have hjoined := joined_itemsJson trees []
  rw [rendering_list hfresh hid, hrendering]
  show Except.ok ("[" ++ String.intercalate "," _ ++ "]") = _
  rw [intercalate_eq_joined, ← String.ofList_nil, hjoined, Tree.json]
  simp [← String.toList_inj]

def MemberRendersAs (pairDepth : Nat) (store : Store) (inside : List Nat) (n : Nat)
    (entry : Scalar × Value)
    (member : String × Tree) : Prop :=
  entry.1 = .str member.1 ∧ RendersAs pairDepth store inside n entry.2 member.2

theorem rendersAs_members {entries : List (Scalar × Value)} {members : List (String × Tree)}
    (h : List.Forall₂ (MemberRendersAs pairDepth store inside n) entries members) :
    Tree.membersAt store members entries ∧ Tree.areJsonMembers members ∧
      Tree.depthOfMembers members ≤ n ∧ entries.map Prod.fst = members.map (.str ∘ Prod.fst) ∧
      (entries.mapM fun entry => entry.1.form >>= fun form =>
        rendering pairDepth store inside entry.2 >>= fun inner =>
          .ok (jsonString form ++ ":" ++ inner)) =
        .ok (members.map fun member =>
          jsonString member.1 ++ ":" ++ String.ofList member.2.json) := by
  induction h with
  | nil => exact ⟨trivial, trivial, Nat.zero_le _, rfl, rfl⟩
  | @cons entry member entries members hfirst _ ih =>
    obtain ⟨key, v⟩ := entry
    obtain ⟨name, t⟩ := member
    obtain ⟨rfl, hfirst⟩ := hfirst
    obtain ⟨hat, hjson, hdepth, hkeys, hrendering⟩ := ih
    refine ⟨⟨rfl, hfirst.isAt, hat⟩, ⟨hfirst.isJson, hjson⟩, ?_, ?_, ?_⟩
    · rw [Tree.depthOfMembers]
      exact Nat.max_le.2 ⟨hfirst.depth, hdepth⟩
    · rw [List.map_cons, List.map_cons, hkeys]
      rfl
    · refine mapM_cons_ok.2 ⟨_, _, ?_, hrendering, rfl⟩
      exact bind_eq_ok.2 ⟨name, rfl, bind_eq_ok.2 ⟨_, hfirst.rendering, rfl⟩⟩

theorem pairwise_names {names : List String} {members : List (Scalar × Value)}
    (h : members.map Prod.fst = names.map Scalar.str) :
    (members.Pairwise fun x y => x.1.sameKey y.1 = false) ↔ names.Nodup := by
  rw [← List.pairwise_map (f := Prod.fst) (R := fun x y : Scalar => x.sameKey y = false), h,
    List.pairwise_map, List.Nodup]
  refine List.Pairwise.iff ?_
  intro x y
  simp [Scalar.sameKey]

theorem rendersAs_map {id : Nat} {entries : Entries} {members : List (String × Tree)}
    (hfresh : id ∉ inside) (hid : store[id]? = some (.map entries))
    (h : List.Forall₂ (MemberRendersAs pairDepth store (id :: inside) n) entries.members members) :
    RendersAs pairDepth store inside (n + 1) (.node id) (.map members) := by
  obtain ⟨hat, hjson, hdepth, hnames, hrendering⟩ := rendersAs_members h
  have hkeys : (members.map Prod.fst).Nodup :=
    (pairwise_names (by rw [hnames, List.map_map])).1 entries.distinct
  refine ⟨⟨entries, entries?_node hid, hat⟩, ⟨hkeys, hjson⟩, Nat.succ_le_succ hdepth, ?_⟩
  have hjoined := joined_membersJson members []
  rw [rendering_map hfresh hid, hrendering]
  show Except.ok ("\x7b" ++ String.intercalate "," _ ++ "\x7d") = _
  rw [intercalate_eq_joined, ← String.ofList_nil, hjoined, Tree.json]
  simp [← String.toList_inj]

theorem rendersAs_scalar {s : Scalar} (h : s.IsJson) :
    RendersAs pairDepth store inside n (.scalar s) (.scalar s) := by
  refine ⟨rfl, h, Nat.zero_le _, ?_⟩
  rw [rendering]
  exact h.innerText

/-- A value of what JSON has, whose nesting ends, is a tree and is rendered as its text. -/
theorem exists_rendersAs (pairDepth : Nat) (inside : List Nat)
    (hparts : ∀ u, store.HoldsDeeply v u → store.IsJsonAt u)
    (hnested : store.NestsWithin n v)
    (hinside : ∀ id ∈ inside, Relation.TransGen store.Holds (.node id) v) :
    ∃ t, RendersAs pairDepth store inside n v t := by
  induction n generalizing v inside with
  | zero =>
    cases v with
    | scalar s => exact ⟨_, rendersAs_scalar (hparts (.scalar s) .refl)⟩
    | node id => cases hnested
  | succ n ih =>
    cases v with
    | scalar s => exact ⟨_, rendersAs_scalar (hparts (.scalar s) .refl)⟩
    | node id =>
      have hfresh : id ∉ inside := fun hmem => hnested.not_transGen (hinside id hmem)
      -- what is inside a member of the collection is inside the collection
      have hmember : ∀ u, store.Holds (.node id) u →
          ∃ t, RendersAs pairDepth store (id :: inside) n u t := by
        intro u hu
        refine ih _ (fun w hw => hparts w (.head hu hw)) (hnested u hu) ?_
        rw [List.forall_mem_cons]
        exact ⟨.single hu, fun id' hid' => .tail (hinside id' hid') hu⟩
      rcases hparts (.node id) .refl with ⟨items, hid⟩ | ⟨entries, hid, hnames⟩
      · obtain ⟨trees, htrees⟩ := exists_forall₂ fun u hu =>
          hmember u (.item (items?_node hid) hu)
        exact ⟨_, rendersAs_list hfresh hid htrees⟩
      · have hentries : ∀ entry ∈ entries.members, ∃ member : String × Tree,
            MemberRendersAs pairDepth store (id :: inside) n entry member := by
          intro entry hentry
          obtain ⟨name, hname⟩ := hnames entry hentry
          obtain ⟨t, ht⟩ := hmember entry.2 (.member (entries?_node hid) hentry)
          exact ⟨(name, t), hname, ht⟩
        obtain ⟨members, hmembers⟩ := exists_forall₂ hentries
        exact ⟨_, rendersAs_map hfresh hid hmembers⟩

end trees

/-! ## 3. Trees as documents -/

/-- A store has all that another one has, under the same numbers. -/
def Store.Extends (store other : Store) : Prop :=
  ∀ (id : Nat) (c : Collection), other[id]? = some c → store[id]? = some c

theorem Store.Extends.refl (store : Store) : store.Extends store := fun _ _ h => h

theorem Store.Extends.trans {store other third : Store} (h : store.Extends other)
    (h' : other.Extends third) : store.Extends third :=
  fun id c hc => h id c (h' id c hc)

theorem Store.extends_push (store : Store) (c : Collection) :
    Store.Extends (Array.push store c) store := by
  intro id d hd
  obtain ⟨hid, -⟩ := Array.getElem?_eq_some_iff.1 hd
  rw [Array.getElem?_push, if_neg (Nat.ne_of_lt hid)]
  exact hd

namespace Tree

variable {store other : Store}

mutual
theorem IsAt.mono (h : store.Extends other) :
    ∀ {t : Tree} {v : Value}, t.IsAt other v → t.IsAt store v
  | .scalar _, _, hat => hat
  | .list _, _, ⟨items, hitems, hat⟩ => by
    obtain ⟨id, rfl, hid⟩ := exists_of_items? hitems
    exact ⟨items, items?_node (h id _ hid), areAt_mono h hat⟩
  | .map _, _, ⟨entries, hentries, hat⟩ => by
    obtain ⟨id, rfl, hid⟩ := exists_of_entries? hentries
    exact ⟨entries, entries?_node (h id _ hid), membersAt_mono h hat⟩
theorem areAt_mono (h : store.Extends other) :
    ∀ {trees : List Tree} {items : List Value}, areAt other trees items → areAt store trees items
  | [], [], _ => trivial
  | _ :: _, _ :: _, ⟨hat, hrest⟩ => ⟨IsAt.mono h hat, areAt_mono h hrest⟩
theorem membersAt_mono (h : store.Extends other) :
    ∀ {members : List (String × Tree)} {entries : List (Scalar × Value)},
      membersAt other members entries → membersAt store members entries
  | [], [], _ => trivial
  | (_, _) :: _, (_, _) :: _, ⟨hkey, hat, hrest⟩ =>
    ⟨hkey, IsAt.mono h hat, membersAt_mono h hrest⟩
end

theorem putAmong_of_new {key : Scalar} {members : List (Scalar × Value)}
    (h : ∀ member ∈ members, member.1.sameKey key = false) (value : Value) :
    Entries.putAmong key value members = members ++ [(key, value)] := by
  induction members with
  | nil => rfl
  | cons member rest ih =>
    rw [List.forall_mem_cons] at h
    rw [Entries.putAmong, h.1, ih h.2]
    rfl

/-- Members with different keys are set in their order. -/
theorem members_ofList {members : List (Scalar × Value)}
    (h : members.Pairwise fun x y => x.1.sameKey y.1 = false) :
    (Entries.ofList members).members = members := by
  have hfold : ∀ (members : List (Scalar × Value)) (entries : Entries),
      ((entries.members ++ members).Pairwise fun x y => x.1.sameKey y.1 = false) →
      (members.foldl (fun entries member => entries.put member.1 member.2) entries).members =
        entries.members ++ members := by
    intro members
    induction members with
    | nil => exact fun entries _ => (List.append_nil _).symm
    | cons member rest ih =>
      intro entries hall
      have hput : (entries.put member.1 member.2).members = entries.members ++ [member] :=
        putAmong_of_new (fun old hold =>
          (List.pairwise_append.1 hall).2.2 old hold member List.mem_cons_self) member.2
      have happend : entries.members ++ member :: rest =
          (entries.put member.1 member.2).members ++ rest := by
        rw [hput, List.append_assoc, List.singleton_append]
      rw [happend] at hall ⊢
      exact ih _ hall
  exact hfold members {} h

theorem keys_of_membersAt : ∀ {members : List (String × Tree)} {entries : List (Scalar × Value)},
    membersAt store members entries →
      entries.map Prod.fst = (members.map Prod.fst).map Scalar.str
  | [], [], _ => rfl
  | (_, _) :: _, (_, _) :: _, ⟨hkey, _, hrest⟩ => by
    rw [List.map_cons, List.map_cons, List.map_cons, keys_of_membersAt hrest, hkey]

mutual
/-- A tree is where it has been placed. -/
theorem isAt_place : ∀ (t : Tree) (_ : t.IsJson) (store : Store),
    (t.place store).2.Extends store ∧ t.IsAt (t.place store).2 (t.place store).1
  | .scalar _, _, store => ⟨.refl store, rfl⟩
  | .list items, h, store => by
    obtain ⟨values, hvalues, hextends, hat⟩ := areAt_placeItems items h [] store
    -- the list is put at the end of the store, where its items have been put before
    have hpush := Store.extends_push (placeItems [] store items).2
      (.list (placeItems [] store items).1)
    refine ⟨hpush.trans hextends, (placeItems [] store items).1, items?_node ?_, ?_⟩
    · show (Array.push _ _)[_]? = _
      rw [Array.getElem?_push_size]
    · rw [hvalues]
      exact areAt_mono hpush hat
  | .map members, h, store => by
    obtain ⟨entries, hentries, hextends, hat⟩ := membersAt_placeEntries members h.2 [] store
    have hpush := Store.extends_push (placeEntries [] store members).2
      (.map (.ofList (placeEntries [] store members).1))
    refine ⟨hpush.trans hextends, .ofList (placeEntries [] store members).1, entries?_node ?_, ?_⟩
    · show (Array.push _ _)[_]? = _
      rw [Array.getElem?_push_size]
    · have hdistinct := (pairwise_names (keys_of_membersAt hat)).2 h.1
      rw [hentries, List.reverse_nil, List.nil_append, members_ofList hdistinct]
      exact membersAt_mono hpush hat
/-- So are several trees. -/
theorem areAt_placeItems : ∀ (trees : List Tree) (_ : areJson trees) (done : List Value)
    (store : Store), ∃ values, (placeItems done store trees).1 = done.reverse ++ values ∧
      (placeItems done store trees).2.Extends store ∧
      areAt (placeItems done store trees).2 trees values
  | [], _, done, store => ⟨[], (List.append_nil _).symm, .refl store, trivial⟩
  | t :: trees, h, done, store => by
    obtain ⟨hextends, hat⟩ := isAt_place t h.1 store
    obtain ⟨values, hvalues, hextends', hats⟩ :=
      areAt_placeItems trees h.2 ((t.place store).1 :: done) (t.place store).2
    refine ⟨(t.place store).1 :: values, ?_, hextends'.trans hextends, IsAt.mono hextends' hat, hats⟩
    show (placeItems ((t.place store).1 :: done) (t.place store).2 trees).1 = _
    rw [hvalues, List.reverse_cons, List.append_assoc, List.singleton_append]
/-- So are members. -/
theorem membersAt_placeEntries : ∀ (members : List (String × Tree)) (_ : areJsonMembers members)
    (done : List (Scalar × Value)) (store : Store),
    ∃ entries, (placeEntries done store members).1 = done.reverse ++ entries ∧
      (placeEntries done store members).2.Extends store ∧
      membersAt (placeEntries done store members).2 members entries
  | [], _, done, store => ⟨[], (List.append_nil _).symm, .refl store, trivial⟩
  | (name, t) :: members, h, done, store => by
    obtain ⟨hextends, hat⟩ := isAt_place t h.1 store
    obtain ⟨entries, hentries, hextends', hats⟩ :=
      membersAt_placeEntries members h.2 ((.str name, (t.place store).1) :: done)
        (t.place store).2
    refine ⟨(.str name, (t.place store).1) :: entries, ?_, hextends'.trans hextends, rfl,
      IsAt.mono hextends' hat, hats⟩
    show (placeEntries ((.str name, (t.place store).1) :: done) (t.place store).2 members).1 = _
    rw [hentries, List.reverse_cons, List.append_assoc, List.singleton_append]
end

theorem isAt_toRoot {t : Tree} (h : t.IsJson) : t.IsAt t.toRoot.store t.toRoot.value :=
  (isAt_place t h #[]).2

end Tree

/-! ## 4. Bytes -/

variable {readers : Readers}

theorem load_json {t : Tree} (h : t.IsJson) (hdepth : t.depth ≤ readers.jsonDepth) :
    load readers .json (Text.encode t.json) = .ok [t.toRoot] := by
  rw [load, Text.readUtf8_encode]
  show ((Json.read readers.jsonDepth t.json).map _).mapError _ = _
  rw [Json.read_json h hdepth]
  rfl

theorem Root.IsJsonLike.exists_tree {depth : Nat} {root : Root} (h : root.IsJsonLike depth)
    {limit : TextLimit} (hlimit : 2 ≤ limit.length) :
    ∃ t, RendersAs limit.pairDepth root.store [] depth root.value t ∧
      textOf limit root.store root.value =
        if t.json.length ≤ limit.length then .ok (String.ofList t.json)
        else .error (.tooLong limit.length) := by
  obtain ⟨t, ht⟩ := exists_rendersAs limit.pairDepth [] h.parts h.nested nofun
  have hnode : ∃ id, root.value = .node id := by
    rcases h.collection with ⟨items, hitems⟩ | ⟨entries, hentries⟩
    · obtain ⟨id, hid, -⟩ := exists_of_items? hitems
      exact ⟨id, hid⟩
    · obtain ⟨id, hid, -⟩ := exists_of_entries? hentries
      exact ⟨id, hid⟩
  obtain ⟨id, hid⟩ := hnode
  have hrendering := ht.rendering
  rw [hid] at hrendering
  have htext := textOf_of_rendering hlimit hrendering
  rw [String.length_ofList] at htext
  exact ⟨t, ht, by rw [hid, htext]⟩

/-- The text of a list or a map of what JSON has is its rendering, if that is short enough; read as a
document it is the same list or map, and no other one has this text. -/
theorem load_textOf (readers : Readers) {limit : TextLimit} {root : Root} (hlimit : 2 ≤ limit.length)
    (h : root.IsJsonLike readers.jsonDepth) :
    ∃ text, rendering limit.pairDepth root.store [] root.value = .ok text ∧
      (text.length ≤ limit.length →
      textOf limit root.store root.value = .ok text ∧
      (∃ read, load readers .json (Text.encode text.toList) = .ok [read] ∧ read.Equals root) ∧
      ∀ other : Root, other.IsJsonLike readers.jsonDepth →
        textOf limit other.store other.value = .ok text → other.Equals root) := by
  obtain ⟨t, ht, htext⟩ := h.exists_tree hlimit
  refine ⟨String.ofList t.json, ht.rendering, fun hshort => ?_⟩
  rw [String.length_ofList] at hshort
  rw [if_pos hshort] at htext
  refine ⟨htext, ⟨t.toRoot, ?_, t, Tree.isAt_toRoot ht.isJson, ht.isAt⟩, fun other hother hsame => ?_⟩
  · rw [String.toList_ofList]
    exact load_json ht.isJson ht.depth
  · obtain ⟨t', ht', htext'⟩ := hother.exists_tree hlimit
    have hjson : t'.json = t.json := by
      rw [htext'] at hsame
      by_cases hshort' : t'.json.length ≤ limit.length
      · rw [if_pos hshort', Except.ok.injEq] at hsame
        exact String.ofList_injective hsame
      · rw [if_neg hshort'] at hsame
        cases hsame
    -- what is read from the one text is both trees
    have hread := Json.read_json ht.isJson ht.depth
    have hread' := Json.read_json ht'.isJson ht'.depth
    rw [hjson, hread, Except.ok.injEq] at hread'
    rw [← hread'] at ht'
    exact ⟨t, ht'.isAt, ht.isAt⟩

/-- A list that stands twice in a map, an empty list, and names in which quotes, a line end and a
control character have to be written. -/
theorem load_textOf_shared :
    let root : Root := ⟨#[
      .map { members := [(.str "a\n\"", .node 1), (.str "\x01é", .node 1)] },
      .list [.scalar (.int (-7)), .scalar .null, .node 2],
      .list []], .node 0⟩
    let text := "\x7b\"a\\n\\\"\":[-7,null,[]],\"\\u0001é\":[-7,null,[]]\x7d"
    root.IsJsonLike 980 ∧ textOf { length := 64 } root.store root.value = .ok text ∧
      ∃ read, load { yaml := Yaml.library {} } .json (Text.encode text.toList) = .ok [read] ∧
        read.Equals root := by
  intro root text
  have hmapAt : root.store[0]? = some (.map
      { members := [(.str "a\n\"", .node 1), (.str "\x01é", .node 1)] }) := rfl
  have hlistAt : root.store[1]? = some (.list [.scalar (.int (-7)), .scalar .null, .node 2]) := rfl
  have hemptyAt : root.store[2]? = some (.list []) := rfl
  have hmap : ∀ v, root.store.Holds (.node 0) v → v = .node 1 := by
    intro v hv
    have hmem : v ∈ [Value.node 1, .node 1] := (holds_map_iff hmapAt).1 hv
    simpa using hmem
  have hlist : ∀ v, root.store.Holds (.node 1) v →
      v = .scalar (.int (-7)) ∨ v = .scalar .null ∨ v = .node 2 := by
    intro v hv
    simpa using (holds_list_iff hlistAt).1 hv
  have hempty : ∀ v, ¬root.store.Holds (.node 2) v := by
    intro v hv
    cases (holds_list_iff hemptyAt).1 hv
  have hparts : ∀ v, root.store.HoldsDeeply (.node 0) v → root.store.IsJsonAt v := by
    intro v hv
    have hknown : v = .node 0 ∨ v = .node 1 ∨ v = .node 2 ∨ v = .scalar (.int (-7)) ∨
        v = .scalar .null := by
      -- from the root on, no other values are held
      induction hv with
      | refl => exact .inl rfl
      | tail _ hlast ih =>
        rcases ih with rfl | rfl | rfl | rfl | rfl
        · exact .inr (.inl (hmap _ hlast))
        · rcases hlist _ hlast with rfl | rfl | rfl <;> simp
        · exact absurd hlast (hempty _)
        · exact absurd hlast (not_holds_scalar _ _)
        · exact absurd hlast (not_holds_scalar _ _)
    rcases hknown with rfl | rfl | rfl | rfl | rfl
    · refine .inr ⟨_, rfl, ?_⟩
      rw [List.forall_mem_cons, List.forall_mem_cons]
      exact ⟨⟨_, rfl⟩, ⟨_, rfl⟩, nofun⟩
    · exact .inl ⟨_, rfl⟩
    · exact .inl ⟨_, rfl⟩
    · exact (by decide +kernel : Number.isWritable (-7) = true)
    · trivial
  have hnested : root.store.NestsWithin 980 (.node 0) := by
    intro v hv
    rw [hmap v hv]
    intro w hw
    rcases hlist w hw with rfl | rfl | rfl
    · trivial
    · trivial
    · exact fun u hu => absurd hu (hempty u)
  have hroot : root.IsJsonLike 980 := ⟨.inr ⟨_, rfl⟩, hparts, hnested⟩
  have hrendering : rendering 960 root.store [] root.value = .ok text := by decide +kernel
  obtain ⟨written, hwritten, hmore⟩ := load_textOf { yaml := Yaml.library {} }
    (by decide : 2 ≤ ({ length := 64 } : TextLimit).length) hroot
  rw [hrendering] at hwritten
  cases hwritten
  obtain ⟨htext, hread, -⟩ := hmore (by decide)
  exact ⟨hroot, htext, hread⟩

end FileQuery.Document

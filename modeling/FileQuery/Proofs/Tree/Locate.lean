import FileQuery.Tree.Locate
import Mathlib.Data.String.Basic

/-!
# What paths lead to

The names in a path are the parts between its slashes.  Whether the last link of a path is followed
makes no difference where the path does not end in a link.
-/

namespace FileQuery.Tree

variable {tree : Tree}

/-! ## 1. The names in a path -/

/-- One step of a split at slashes, somewhere behind the part that begins at `start`. -/
theorem splitOnAux_step (before rest : List Char) (c : Char) (start : String.Pos.Raw)
    (done : List String) :
    let s := String.ofList (before ++ c :: rest)
    let here : String.Pos.Raw := ⟨String.utf8Len before⟩
    let next : String.Pos.Raw := ⟨String.utf8Len (before ++ [c])⟩
    String.splitOnAux s "/" start here 0 done =
      if c = '/' then String.splitOnAux s "/" next next 0 (String.Pos.Raw.extract s start here :: done)
      else String.splitOnAux s "/" start next 0 done := by
  intro s here next
  have hend : ¬ here.atEnd s := by
    rw [String.atEnd_of_valid]
    exact List.cons_ne_nil _ _
  have hget : here.get s = c := String.get_of_valid before (c :: rest)
  have hnext : here.next s = next := by
    rw [String.next_of_valid before c rest]
    simp [next]
  have hfirst : (0 : String.Pos.Raw).get "/" = '/' := by decide
  rw [String.splitOnAux, if_neg hend, hget, hfirst, hnext]
  split
  · next hslash =>
    -- the separator is one byte long, so the part ends where it begins
    have hback : next.unoffsetBy ((0 : String.Pos.Raw).next "/") = here := by
      have hone : (0 : String.Pos.Raw).next "/" = ⟨1⟩ := by decide
      have hsize : '/'.utf8Size = 1 := by decide
      rw [hone]
      simp [String.Pos.Raw.ext_iff, next, here, beq_iff_eq.1 hslash, hsize]
    rw [if_pos (beq_iff_eq.1 hslash), if_pos (by decide), hback]
  · next hslash =>
    have hsame : here.unoffsetBy 0 = here := rfl
    rw [if_neg (by simpa using hslash), hsame, hnext]

/-- The part that is cut out between two places. -/
theorem extract_part (before part rest : List Char) :
    String.Pos.Raw.extract (.ofList (before ++ part ++ rest)) ⟨String.utf8Len before⟩
      ⟨String.utf8Len (before ++ part)⟩ = .ofList part := by
  rw [String.utf8Len_append]
  exact String.extract_of_valid before part rest

theorem splitOnAux_slash (before part rest : List Char) (done : List String) :
    String.splitOnAux (.ofList (before ++ part ++ rest)) "/" ⟨String.utf8Len before⟩
      ⟨String.utf8Len (before ++ part)⟩ 0 done =
      done.reverse ++ (List.splitOnPPrepend (· == '/') rest part.reverse).map String.ofList := by
  induction rest generalizing before part done with
  | nil =>
    rw [String.splitOnAux, if_pos ((String.atEnd_of_valid _ []).2 rfl), extract_part]
    simp
  | cons c rest ih =>
    rw [splitOnAux_step, List.splitOnPPrepend_cons_eq_if, extract_part]
    split
    · next hslash =>
      -- the next part begins behind the slash
      have hnext := ih (before ++ part ++ [c]) [] (.ofList part :: done)
      rw [List.append_nil, List.append_assoc _ [c], List.singleton_append] at hnext
      rw [if_pos (by simpa using hslash), hnext]
      simp
    · next hslash =>
      have hnext := ih before (part ++ [c]) done
      rw [← List.append_assoc, List.append_assoc _ [c], List.singleton_append] at hnext
      rw [if_neg (by simpa using hslash), hnext]
      simp

/-- A text is split at slashes as the list of its characters is. -/
theorem splitOn_slash (s : String) :
    s.splitOn "/" = (s.toList.splitOn '/').map String.ofList := by
  have hsplit := splitOnAux_slash [] [] s.toList []
  rw [List.append_nil, List.nil_append, String.ofList_toList] at hsplit
  rw [String.splitOn, if_neg (by decide)]
  exact hsplit
structure IsName (name : String) : Prop where
  ne_empty : name ≠ ""
  ne_here : name ≠ "."
  ne_above : name ≠ ".."
  slash : '/' ∉ name.toList
  short : name.utf8ByteSize ≤ nameLimit

instance (name : String) : Decidable (IsName name) :=
  decidable_of_iff (name ≠ "" ∧ name ≠ "." ∧ name ≠ ".." ∧ '/' ∉ name.toList ∧
      name.utf8ByteSize ≤ nameLimit)
    ⟨fun ⟨hempty, hhere, habove, hslash, hshort⟩ => ⟨hempty, hhere, habove, hslash, hshort⟩,
      fun h => ⟨h.ne_empty, h.ne_here, h.ne_above, h.slash, h.short⟩⟩

/-- Names that are joined with slashes can be told apart again. -/
theorem intercalate_injective {a b : List String} (ha : a ≠ []) (hb : b ≠ [])
    (hnamesA : ∀ name ∈ a, IsName name) (hnamesB : ∀ name ∈ b, IsName name)
    (h : String.intercalate "/" a = String.intercalate "/" b) : a = b := by
  have hsplit : ∀ names : List String, names ≠ [] → (∀ name ∈ names, IsName name) →
      (String.intercalate "/" names).toList.splitOn '/' = names.map String.toList := by
    intro names hne hnames
    rw [String.toList_intercalate]
    refine List.splitOn_intercalate '/' (fun name hname => ?_) (by simpa using hne)
    obtain ⟨s, hs, rfl⟩ := List.mem_map.1 hname
    exact (hnames s hs).slash
  have hparts : a.map String.toList = b.map String.toList := by
    rw [← hsplit a ha hnamesA, ← hsplit b hb hnamesB, h]
  exact List.map_injective_iff.2 (fun _ _ => String.toList_inj.1) hparts

/-! ## 2. Following names -/

/-- What is found at a place is what the tree has there. -/
theorem get?_of_follow {isLastFollowed : Bool} {links : Nat} {place names : List String}
    {item : Item} {found : Found} (hitem : tree.get? place = some item)
    (h : tree.follow isLastFollowed links place item names = .ok found) :
    tree.get? found.place = some found.item := by
  fun_induction tree.follow isLastFollowed links place item names with
  | case1 =>
    cases h
    exact hitem
  | case3 _ _ _ _ _ ih => exact ih hitem h
  | case5 _ _ _ _ _ _ habove _ _ ih => exact ih habove h
  | case9 _ _ _ _ _ _ _ _ _ _ hnext =>
    cases h
    exact hnext
  | case12 _ _ _ _ _ _ _ _ _ _ _ _ _ _ _ _ ih => exact ih hitem h
  | case13 _ _ _ _ _ _ _ _ _ _ hnext _ ih => exact ih hnext h
  | _ => cases h

theorem get?_of_locate {isLastFollowed : Bool} {path : String} {found : Found}
    (h : tree.locate isLastFollowed path = .ok found) :
    tree.get? found.place = some found.item := by
  unfold locate at h
  split at h
  · cases h
  · split at h
    · cases h
    · exact get?_of_follow rfl h

/-- A name in a directory that is no link is one step. -/
theorem follow_name {isLastFollowed : Bool} {links : Nat} {place rest : List String} {name : String}
    {item next : Item} (hitem : item.node = .directory) (hname : IsName name)
    (hnext : tree.get? (place ++ [name]) = some next) (hlink : ∀ target, next.node ≠ .link target) :
    tree.follow isLastFollowed links place item (name :: rest) =
      tree.follow isLastFollowed links (place ++ [name]) next rest := by
  rw [follow, if_neg (by simpa using hitem), if_neg hname.ne_here, if_neg hname.ne_above,
    if_neg (Nat.not_lt.2 hname.short), hnext]
  dsimp only
  split
  · next target htarget => exact absurd htarget (hlink target)
  · rfl

/-- A way that does not end in a link leads to the same place if links at the end are followed. -/
theorem follow_of_not_link {links : Nat} {place names : List String} {item : Item} {found : Found}
    (h : tree.follow false links place item names = .ok found)
    (hnode : ∀ target, found.item.node ≠ .link target) :
    tree.follow true links place item names = .ok found := by
  -- on the way; following links matters for the last name only
  fun_induction tree.follow false links place item names with
  | case1 => rwa [follow]
  | case3 links place item rest hdirectory ih =>
    rw [follow, if_neg hdirectory, if_pos rfl]
    exact ih h
  | case5 links place item rest hdirectory above habove hplace hname ih =>
    rw [follow, if_neg hdirectory, if_neg hname, if_pos rfl, habove]
    dsimp only
    rw [if_neg hplace]
    exact ih h
  | case9 links place item name rest hdirectory hpoint hpoints hlength next hnext target hlink hlast =>
    cases h
    exact absurd hlink (hnode target)
  | case12 links place item name rest hdirectory hpoint hpoints hlength next hnext target hlink hlast
      hlinks htarget ih =>
    rw [follow, if_neg hdirectory, if_neg hpoint, if_neg hpoints, if_neg hlength, hnext]
    dsimp only
    rw [hlink]
    dsimp only
    rw [if_neg (by simp), dif_neg hlinks, if_neg htarget]
    exact ih h
  | case13 links place item name rest hdirectory hpoint hpoints hlength next hnext hlink ih =>
    rw [follow, if_neg hdirectory, if_neg hpoint, if_neg hpoints, if_neg hlength, hnext]
    dsimp only
    split
    · next target htarget => exact absurd htarget (hlink target)
    · exact ih h
  | _ => cases h

theorem locate_of_not_link {path : String} {found : Found}
    (h : tree.locate false path = .ok found) (hnode : ∀ target, found.item.node ≠ .link target) :
    tree.locate true path = .ok found := by
  unfold locate at h ⊢
  split at h
  · cases h
  · next hpath =>
    split at h
    · cases h
    · next hlength =>
      rw [if_neg hpath, if_neg hlength]
      exact follow_of_not_link h hnode

end FileQuery.Tree

import FileQuery.Evaluate.Name
import Mathlib.Data.List.TakeWhile
import Mathlib.Tactic.Basic

/-!
# Paths are put together again from their attributes

A path name taken apart has a root and proper parts, and taking its text apart gives just these again.
So the directory and the name of a path, joined with a slash where one is needed, spell a path with the
same attributes; and a name is put together from the part before its last point and the one after it.
-/

namespace FileQuery.PathName

/-! ## 1. Parts -/

structure IsPart (part : String) : Prop where
  ne_empty : part ≠ ""
  ne_here : part ≠ "."
  slash : '/' ∉ part.toList

structure IsProper (p : PathName) : Prop where
  root : p.root ∈ ["", "/", "//"]
  parts : ∀ part ∈ p.parts, IsPart part

theorem splitSlashes_eq (part s : List Char) :
    splitSlashes part s = List.splitOnPPrepend (· == '/') s part := by
  induction s generalizing part with
  | nil => rfl
  | cons c s ih => rw [splitSlashes, List.splitOnPPrepend_cons_eq_if, ih, ih]; rfl

theorem not_mem_of_mem_splitSlashes {part s : List Char} (hpart : '/' ∉ part) :
    ∀ p ∈ splitSlashes part s, '/' ∉ p := by
  induction s generalizing part with
  | nil =>
    intro p hp
    obtain rfl := List.mem_singleton.1 hp
    simpa using hpart
  | cons c s ih =>
    rw [splitSlashes]
    split
    · intro p hp
      rcases List.mem_cons.1 hp with rfl | hp
      · simpa using hpart
      · exact ih List.not_mem_nil p hp
    · next hslash =>
      refine ih ?_
      rw [List.mem_cons, not_or]
      exact ⟨fun h => hslash (by simp [← h]), hpart⟩

/-- What is left of a path between its slashes are proper parts. -/
theorem isProper_ofString (path : String) : (ofString path).IsProper := by
  refine ⟨?_, fun part hpart => ?_⟩
  · simp only [ofString]
    split
    · simp
    · split <;> simp
  · obtain ⟨s, hs, rfl⟩ := List.mem_map.1 hpart
    obtain ⟨hsplit, hkept⟩ := List.mem_filter.1 hs
    simp only [Bool.and_eq_true, Bool.not_eq_true', List.isEmpty_eq_false_iff, bne_iff_ne, ne_eq]
      at hkept
    refine ⟨fun h => hkept.1 (String.ofList_inj.1 h), fun h => hkept.2 (String.ofList_inj.1 h), ?_⟩
    rw [String.toList_ofList]
    exact not_mem_of_mem_splitSlashes List.not_mem_nil s hsplit

/-! ## 2. Taking apart what was put together -/

/-- Between the slashes of joined parts stand the parts. -/
theorem splitSlashes_intercalate {parts : List String} (hne : parts ≠ [])
    (h : ∀ part ∈ parts, IsPart part) :
    splitSlashes [] (String.intercalate "/" parts).toList = parts.map String.toList := by
  rw [splitSlashes_eq, String.toList_intercalate]
  refine List.splitOn_intercalate '/' (fun s hs => ?_) (by simpa using hne)
  obtain ⟨part, hpart, rfl⟩ := List.mem_map.1 hs
  exact (h part hpart).slash

/-- Joined parts do not begin with a slash. -/
theorem takeWhile_intercalate {parts : List String} (h : ∀ part ∈ parts, IsPart part) :
    (String.intercalate "/" parts).toList.takeWhile (· == '/') = [] := by
  cases parts with
  | nil => rfl
  | cons part parts =>
    have hpart := h part List.mem_cons_self
    obtain ⟨c, s, hs⟩ := List.exists_cons_of_ne_nil
      (l := part.toList) (fun hnil => hpart.ne_empty (String.toList_eq_nil_iff.1 hnil))
    have hc : (c == '/') = false := by
      have hslash := hpart.slash
      rw [hs, List.mem_cons, not_or] at hslash
      exact beq_eq_false_iff_ne.2 (Ne.symm hslash.1)
    obtain ⟨rest, hrest⟩ : ∃ rest, (String.intercalate "/" (part :: parts)).toList = c :: rest := by
      cases parts with
      | nil => exact ⟨s, by simpa using hs⟩
      | cons next parts => exact ⟨_, by rw [String.intercalate_cons_cons]; simp [hs]; rfl⟩
    rw [hrest, List.takeWhile_cons_of_neg (by simp [hc])]

theorem filter_parts {parts : List String} (h : ∀ part ∈ parts, IsPart part) :
    (parts.map String.toList).filter (fun s => !s.isEmpty && s != ['.']) =
      parts.map String.toList := by
  refine List.filter_eq_self.2 fun s hs => ?_
  obtain ⟨part, hpart, rfl⟩ := List.mem_map.1 hs
  have hempty : part.toList ≠ [] := fun hnil =>
    (h part hpart).ne_empty (String.toList_eq_nil_iff.1 hnil)
  have hhere : part.toList ≠ ['.'] := fun hpoint =>
    (h part hpart).ne_here (String.toList_inj.1 hpoint)
  simp [hempty, hhere]

/-- The text of a proper path name is taken apart into its root and its parts. -/
theorem IsProper.ofString_text {p : PathName} (h : p.IsProper) : ofString p.text = p := by
  obtain ⟨root, parts⟩ := p
  obtain ⟨hroot, hparts⟩ := h
  have hslashes : ∀ c ∈ root.toList, (c == '/') = true := by
    simp only [List.mem_cons, List.not_mem_nil, or_false] at hroot
    refine List.all_eq_true.1 ?_
    rcases hroot with rfl | rfl | rfl <;> rfl
  -- the root is all that stands before the first character that is no slash
  have hfront : ((PathName.mk root parts).text.toList.takeWhile (· == '/')).length =
      root.toList.length := by
    rw [text, String.toList_append, List.takeWhile_append_of_pos hslashes,
      takeWhile_intercalate hparts, List.append_nil]
  have hrest : (PathName.mk root parts).text.toList.drop root.toList.length =
      (String.intercalate "/" parts).toList := by
    rw [text, String.toList_append, List.drop_left]
  have hsplit : (splitSlashes [] (String.intercalate "/" parts).toList).filter
      (fun s => !s.isEmpty && s != ['.']) = parts.map String.toList := by
    by_cases hne : parts = []
    · subst hne
      rfl
    · rw [splitSlashes_intercalate hne hparts, filter_parts hparts]
  simp only [ofString, hfront, hrest, hsplit, List.map_map]
  congr 1
  · simp only [List.mem_cons, List.not_mem_nil, or_false] at hroot
    rcases hroot with rfl | rfl | rfl <;> rfl
  · simp [Function.comp_def]

/-! ## 3. The directory and the name -/

theorem IsProper.parent {p : PathName} (h : p.IsProper) : p.parent.IsProper :=
  ⟨h.root, fun part hpart => h.parts part (List.dropLast_subset _ hpart)⟩

/-- A name that is not empty is the last part. -/
theorem parts_eq_append {p : PathName} (h : p.name ≠ "") :
    p.parts = p.parent.parts ++ [p.name] := by
  unfold name parent at *
  cases hlast : p.parts.getLast? with
  | none => exact absurd (by rw [hlast]; rfl) h
  | some part =>
    obtain ⟨front, hfront⟩ := List.getLast?_eq_some_iff.1 hlast
    rw [hfront]
    simp

def join (directory name : String) : String :=
  if directory = "" then name
  else if directory.toList.getLast? = some '/' then directory ++ name
  else directory ++ "/" ++ name

/-- Joined parts do not end with a slash. -/
theorem getLast?_intercalate {parts : List String} (hne : parts ≠ [])
    (h : ∀ part ∈ parts, IsPart part) :
    ∃ c, (String.intercalate "/" parts).toList.getLast? = some c ∧ c ≠ '/' := by
  obtain ⟨front, part, rfl⟩ : ∃ front part, parts = front ++ [part] :=
    ⟨parts.dropLast, parts.getLast hne, (List.dropLast_concat_getLast hne).symm⟩
  have hpart := h part (by simp)
  have hnil : part.toList ≠ [] := fun hnil => hpart.ne_empty (String.toList_eq_nil_iff.1 hnil)
  refine ⟨part.toList.getLast hnil, ?_, fun hslash => hpart.slash ?_⟩
  · by_cases hfront : front = []
    · subst hfront
      simp [List.getLast?_eq_some_getLast hnil]
    · rw [String.intercalate_append_of_ne_nil hfront (by simp), String.intercalate_singleton]
      rw [String.toList_append, List.getLast?_append, List.getLast?_eq_some_getLast hnil]
      rfl
  · rw [← hslash]
    exact List.getLast_mem hnil

/-- The directory and the name of a path spell the path. -/
theorem IsProper.join_parent {p : PathName} (h : p.IsProper) (hname : p.name ≠ "") :
    join p.parent.text p.name = p.text := by
  have hparts := parts_eq_append hname
  have htext : p.text = p.root ++ String.intercalate "/" (p.parent.parts ++ [p.name]) := by
    rw [text, ← hparts]
  have hparent : p.parent.text = p.root ++ String.intercalate "/" p.parent.parts := rfl
  rw [join, htext, hparent]
  by_cases hnil : p.parent.parts = []
  · -- only the root is in front of the name, and a root ends with a slash
    have hroot := h.root
    simp only [List.mem_cons, List.not_mem_nil, or_false] at hroot
    rw [hnil, String.intercalate_nil, String.append_empty, List.nil_append,
      String.intercalate_singleton]
    rcases hroot with hroot | hroot | hroot <;> rw [hroot] <;> rfl
  · obtain ⟨c, hlast, hc⟩ := getLast?_intercalate hnil h.parent.parts
    have hend : (p.root ++ String.intercalate "/" p.parent.parts).toList.getLast? = some c := by
      rw [String.toList_append, List.getLast?_append, hlast]
      rfl
    have hne : p.root ++ String.intercalate "/" p.parent.parts ≠ "" := by
      intro hempty
      rw [hempty] at hend
      cases hend
    rw [if_neg hne, hend, if_neg (by simpa using hc),
      String.intercalate_append_of_ne_nil hnil (by simp), String.intercalate_singleton]
    simp only [String.append_assoc]

theorem depth_eq_parent {p : PathName} (hname : p.name ≠ "") : p.depth = p.parent.depth + 1 := by
  rw [depth, parts_eq_append hname, List.length_append]
  rfl

/-! ## 4. The extension -/

/-- What follows the last point of a text, and what is before it. -/
theorem exists_point {s : List Char}
    (h : (s.reverse.takeWhile (· != '.')).reverse.length ≠ s.length) :
    ∃ front, s = front ++ '.' :: (s.reverse.takeWhile (· != '.')).reverse := by
  have hsplit := List.takeWhile_append_dropWhile (p := (· != '.')) (l := s.reverse)
  cases hrest : s.reverse.dropWhile (· != '.') with
  | nil =>
    rw [hrest, List.append_nil] at hsplit
    rw [hsplit] at h
    simp at h
  | cons c rest =>
    have hc : c = '.' := by
      have hhead := List.head_dropWhile_not (p := (· != '.')) (l := s.reverse) (by simp [hrest])
      simpa [hrest] using hhead
    refine ⟨rest.reverse, ?_⟩
    rw [hrest, hc] at hsplit
    calc
      s = (s.reverse.takeWhile (· != '.') ++ '.' :: rest).reverse := by
        rw [hsplit, List.reverse_reverse]
      _ = rest.reverse ++ '.' :: (s.reverse.takeWhile (· != '.')).reverse := by simp

/-- A name is what is before its last point, the point and the extension; without an extension it is
its own stem. -/
theorem splitExtension_spec (name : String) :
    '.' ∉ (splitExtension name).2.toList ∧ name =
      if (splitExtension name).2 = "" then (splitExtension name).1
      else (splitExtension name).1 ++ "." ++ (splitExtension name).2 := by
  obtain ⟨extension, hextension⟩ : ∃ extension,
      extension = (name.toList.reverse.takeWhile (· != '.')).reverse := ⟨_, rfl⟩
  have hpoint : '.' ∉ extension := by
    rw [hextension, List.mem_reverse]
    intro hmem
    simpa using List.mem_takeWhile_imp hmem
  unfold splitExtension
  simp only [← hextension]
  split
  · simp
  · next hdivides =>
    simp only [Bool.or_eq_true, List.isEmpty_iff, decide_eq_true_eq, not_or] at hdivides
    obtain ⟨⟨hne, -⟩, hlength⟩ := hdivides
    rw [hextension] at hlength
    obtain ⟨front, hfront⟩ := exists_point hlength
    rw [← hextension] at hfront
    -- the stem is what is before the point that the extension follows
    have htake : name.toList.take (name.toList.length - extension.length - 1) = front := by
      have hlengths := congrArg List.length hfront
      rw [List.length_append, List.length_cons] at hlengths
      rw [hlengths, hfront, List.take_left' (by omega)]
    rw [htake, String.toList_ofList]
    refine ⟨hpoint, ?_⟩
    rw [if_neg (fun h => hne (String.ofList_inj.1 h))]
    apply String.toList_inj.1
    rw [hfront]
    simp

end FileQuery.PathName

namespace FileQuery.Query

/-! ## 5. Attributes -/

structure NameAttributes where
  name : String
  basename : String
  ext : String
  dir : String
  depth : Nat

structure NameAttributes.AreOf (a : NameAttributes) (path : String) : Prop where
  name : Selector.name.nameValue? path = some (.text a.name)
  basename : Selector.basename.nameValue? path = some (.text a.basename)
  ext : Selector.ext.nameValue? path = some (.text a.ext)
  dir : Selector.dir.nameValue? path = some (.text a.dir)
  depth : Selector.depth.nameValue? path = some (.count a.depth)

theorem areOf_ofString (path : String) :
    let p := PathName.ofString path
    NameAttributes.AreOf ⟨p.name, p.stem, p.extension, p.parent.text, p.depth⟩ path := by
  constructor <;> rw [Selector.nameValue?]

/-- A path is put together again from its attributes: the name from the basename and the extension,
which has no point in it, and a path with the very same attributes from the directory and the name.  The
directory lies one step less deep. -/
theorem nameValue_recomposes (path : String) : ∃ a : NameAttributes, a.AreOf path ∧
    a.name = (if a.ext = "" then a.basename else a.basename ++ "." ++ a.ext) ∧
    '.' ∉ a.ext.toList ∧
    (a.name ≠ "" → a.AreOf (PathName.join a.dir a.name) ∧
      ∃ above : NameAttributes, above.AreOf a.dir ∧ a.depth = above.depth + 1) := by
  have hproper := PathName.isProper_ofString path
  obtain ⟨p, hp⟩ : ∃ p, p = PathName.ofString path := ⟨_, rfl⟩
  have hattributes := areOf_ofString path
  rw [← hp] at hproper hattributes
  obtain ⟨hpoint, hname⟩ := PathName.splitExtension_spec p.name
  refine ⟨_, hattributes, hname, hpoint, fun hne => ?_⟩
  constructor
  · have hjoined := areOf_ofString (PathName.join p.parent.text p.name)
    rw [hproper.join_parent hne, hproper.ofString_text] at hjoined
    rw [hproper.join_parent hne]
    exact hjoined
  · have habove := areOf_ofString p.parent.text
    rw [hproper.parent.ofString_text] at habove
    exact ⟨_, habove, PathName.depth_eq_parent hne⟩

end FileQuery.Query

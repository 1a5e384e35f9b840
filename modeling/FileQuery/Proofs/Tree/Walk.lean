import FileQuery.Proofs.Tree.Locate
import FileQuery.Tree.Walk
import Mathlib

/-!
# Walking through a directory tree

A walk that does not enter directories behind links meets everything that can be reached through
readable directories by names that are shown, and each of it once.  What it meets is a list of names
for each entry, `listFrom`, of which a walk shows the paths.
-/

namespace FileQuery.Tree

variable {tree : Tree} {config : Config} {place : List String} {name : String}

/-! ## 1. What is listed at a place -/

/-- A tree that lists no place twice and in which everything has a name that an entry can have. -/
structure IsProper (tree : Tree) : Prop where
  nodup : (tree.items.map Prod.fst).Nodup
  names : ∀ listed ∈ tree.items, ∀ name ∈ listed.1, IsName name

instance (tree : Tree) : Decidable tree.IsProper :=
  decidable_of_iff ((tree.items.map Prod.fst).Nodup ∧
      ∀ listed ∈ tree.items, ∀ name ∈ listed.1, IsName name)
    ⟨fun ⟨hnodup, hnames⟩ => ⟨hnodup, hnames⟩, fun h => ⟨h.nodup, h.names⟩⟩

theorem get?_of_ne_nil (h : place ≠ []) : tree.get? place = tree.items.lookup place := by
  rw [get?, if_neg (by simpa using h)]

theorem isSome_get? (h : place ≠ []) :
    (tree.get? place).isSome = true ↔ ∃ item, (place, item) ∈ tree.items := by
  rw [get?_of_ne_nil h, List.lookup_isSome_iff]
  constructor
  · rintro ⟨⟨other, item⟩, hlisted, hplace⟩
    rw [eq_of_beq hplace]
    exact ⟨item, hlisted⟩
  · rintro ⟨item, hlisted⟩
    exact ⟨_, hlisted, beq_self_eq_true place⟩

theorem IsProper.isName (h : tree.IsProper) {names : List String}
    (hlisted : (tree.get? (place ++ names)).isSome = true) : ∀ name ∈ names, IsName name := by
  intro name hname
  have hne : place ++ names ≠ [] := by
    rintro hnil
    rw [(List.append_eq_nil_iff.1 hnil).2] at hname
    cases hname
  obtain ⟨item, hitem⟩ := (isSome_get? hne).1 hlisted
  exact h.names _ hitem name (List.mem_append_right _ hname)

def nameBelow? (place other : List String) : Option String :=
  match other.getLast? with
  | some name => if other.dropLast = place then some name else none
  | none => none

theorem nameBelow?_eq_some {other : List String} :
    nameBelow? place other = some name ↔ other = place ++ [name] := by
  constructor
  · intro h
    unfold nameBelow? at h
    split at h
    · next last hlast =>
      split at h
      · next hplace =>
        cases h
        rw [← hplace, List.dropLast_append_getLast? _ hlast]
      · cases h
    · cases h
  · rintro rfl
    simp [nameBelow?]

theorem names_eq (tree : Tree) (place : List String) :
    tree.names place = (tree.items.map Prod.fst).filterMap (nameBelow? place) := by
  rw [List.filterMap_map]
  rfl

theorem mem_names : name ∈ tree.names place ↔ (tree.get? (place ++ [name])).isSome = true := by
  rw [isSome_get? (by simp), names_eq, List.mem_filterMap]
  simp [nameBelow?_eq_some]

theorem IsProper.nodup_names (h : tree.IsProper) (place : List String) :
    (tree.names place).Nodup := by
  rw [names_eq]
  refine List.Nodup.filterMap (fun a b name ha hb => ?_) h.nodup
  rw [nameBelow?_eq_some.1 ha, nameBelow?_eq_some.1 hb]

def IsShown (config : Config) (name : String) : Prop :=
  config.includeHidden = true ∨ isHidden name = false

theorem mem_visibleNames : name ∈ tree.visibleNames config place ↔
    (tree.get? (place ++ [name])).isSome = true ∧ IsShown config name := by
  rw [visibleNames, List.mem_mergeSort, List.mem_filter, mem_names]
  simp [IsShown]

theorem IsProper.pairwise_visibleNames (h : tree.IsProper) (config : Config) (place : List String) :
    (tree.visibleNames config place).Pairwise (· < ·) := by
  have hsorted : (tree.visibleNames config place).Pairwise (· ≤ ·) := by
    refine (List.pairwise_mergeSort (fun a b c => ?_) (fun a b => ?_) _).imp fun h => by simpa using h
    · simpa using String.le_trans
    · simpa using String.le_total a b
  have hnodup : (tree.visibleNames config place).Nodup :=
    (List.mergeSort_perm _ _).nodup_iff.2 ((h.nodup_names place).filter _)
  exact hsorted.imp₂ (fun a b => lt_of_le_of_ne) hnodup

/-! ## 2. What is visible from a place -/

def IsReadableAt (tree : Tree) (place : List String) : Prop :=
  ∃ item, tree.get? place = some item ∧ item.node = .directory ∧ item.isReadable = true

/-- What names lead to, seen from a place, is listed and shown: the way there leads through
directories that can be read, and all names are shown. -/
structure IsVisible (tree : Tree) (config : Config) (place names : List String) : Prop where
  ne_nil : names ≠ []
  listed : (tree.get? (place ++ names)).isSome = true
  readable : ∀ before, before <+: names → before ≠ names → tree.IsReadableAt (place ++ before)
  shown : ∀ name ∈ names, IsShown config name

theorem IsReadableAt.isSome (h : tree.IsReadableAt place) :
    (tree.get? place).isSome = true := by
  obtain ⟨item, hitem, -⟩ := h
  rw [hitem]
  rfl

/-- All that is passed on the way is listed, too. -/
theorem IsVisible.listed_before {names before : List String}
    (h : tree.IsVisible config place names) (hbefore : before <+: names) :
    (tree.get? (place ++ before)).isSome = true := by
  by_cases hall : before = names
  · rw [hall]
    exact h.listed
  · exact (h.readable before hbefore hall).isSome

/-- Something is visible from a place if it is listed there, or visible from a directory that is. -/
theorem isVisible_cons {rest : List String} : tree.IsVisible config place (name :: rest) ↔
    tree.IsReadableAt place ∧ name ∈ tree.visibleNames config place ∧
      (rest = [] ∨ tree.IsVisible config (place ++ [name]) rest) := by
  rw [mem_visibleNames]
  constructor
  · intro h
    have hplace := h.readable [] List.nil_prefix (List.cons_ne_nil _ _).symm
    rw [List.append_nil] at hplace
    -- the first name is a part of the way, so it is listed where it stands
    have hname : [name] <+: name :: rest := ⟨rest, rfl⟩
    refine ⟨hplace, ⟨h.listed_before hname, h.shown name List.mem_cons_self⟩, ?_⟩
    by_cases hrest : rest = []
    · exact .inl hrest
    · refine .inr ⟨hrest, ?_, fun before hbefore hne => ?_, fun other hother => ?_⟩
      · rw [List.append_assoc]
        exact h.listed
      · rw [List.append_assoc]
        exact h.readable (name :: before) (List.cons_prefix_cons.2 ⟨rfl, hbefore⟩) (by simpa using hne)
      · exact h.shown other (List.mem_cons_of_mem _ hother)
  · rintro ⟨hplace, ⟨hlisted, hshown⟩, hrest⟩
    refine ⟨List.cons_ne_nil _ _, ?_, fun before hbefore hne => ?_, fun other hother => ?_⟩
    · rcases hrest with rfl | h
      · exact hlisted
      · rw [← List.singleton_append, ← List.append_assoc]
        exact h.listed
    · rcases List.prefix_cons_iff.1 hbefore with rfl | ⟨further, rfl, hfurther⟩
      · rwa [List.append_nil]
      · have hne' : further ≠ rest := by simpa using hne
        rcases hrest with rfl | h
        · exact absurd (List.prefix_nil.1 hfurther) hne'
        · rw [← List.singleton_append, ← List.append_assoc]
          exact h.readable further hfurther hne'
    · rcases List.mem_cons.1 hother with rfl | hother
      · exact hshown
      · rcases hrest with rfl | h
        · cases hother
        · exact h.shown other hother

/-- What is visible lies no deeper than there are places listed. -/
theorem IsVisible.length_le {names : List String} (h : tree.IsVisible config place names) :
    names.length ≤ tree.items.length := by
  -- the places on the way are different, and all of them are listed
  let way := (List.range names.length).map fun k => place ++ names.take (k + 1)
  have hnodup : way.Nodup := by
    refine List.Nodup.map_on (fun i hi j hj hsame => ?_) List.nodup_range
    have hlength := congrArg List.length hsame
    rw [List.mem_range] at hi hj
    simp only [List.length_append, List.length_take] at hlength
    omega
  have hlisted : way ⊆ tree.items.map Prod.fst := by
    intro other hother
    obtain ⟨k, hk, rfl⟩ := List.mem_map.1 hother
    rw [List.mem_range] at hk
    have hne : place ++ names.take (k + 1) ≠ [] := by
      intro hnil
      have hlength := congrArg List.length hnil
      simp only [List.length_append, List.length_take, List.length_nil] at hlength
      omega
    obtain ⟨item, hitem⟩ :=
      (isSome_get? hne).1 (h.listed_before (List.take_prefix (k + 1) names))
    exact List.mem_map_of_mem hitem
  calc
    names.length = way.length := by simp [way]
    _ ≤ (tree.items.map Prod.fst).length := (List.subperm_of_subset hnodup hlisted).length_le
    _ = tree.items.length := List.length_map _

/-! ## 3. What a walk meets, by names -/

def Step.path? : Step → Option String
  | .entry path => some path
  | .skipped .. => none

def listFrom (tree : Tree) (config : Config) (found : Found) : Nat → List (List String)
  | 0 => []
  | fuel + 1 =>
    if !found.item.isReadable then []
    else
      let names := tree.visibleNames config found.place
      let directories := names.filter (tree.isDirectoryBelow found)
      let others := names.filter fun name => !tree.isDirectoryBelow found name
      directories.map ([·]) ++ others.map ([·]) ++
        (directories.filter (tree.isEntered config found)).flatMap fun name =>
          match tree.locateBelow found name with
          | .ok next => (listFrom tree config next fuel).map (name :: ·)
          | .error _ => []

/-- A walk shows the paths of what it meets. -/
theorem paths_walkFrom (path : String) (below : List String) (found : Found) (fuel : Nat) :
    (tree.walkFrom config path below found fuel).filterMap Step.path? =
      (tree.listFrom config found fuel).map fun names => String.intercalate "/" (below ++ names) := by
  induction fuel generalizing path below found with
  | zero => rfl
  | succ fuel ih =>
    rw [walkFrom, listFrom]
    split
    · rfl
    · -- the names in this directory become paths below it
      have hentries : ∀ names : List String, (names.map fun name =>
          Step.entry (String.intercalate "/" (below ++ [name]))).filterMap Step.path? =
          (names.map ([·])).map fun names => String.intercalate "/" (below ++ names) := by
        intro names
        rw [List.filterMap_map, List.map_map]
        exact congrFun List.filterMap_eq_map names
      dsimp only
      rw [List.filterMap_append, List.filterMap_append, hentries, hentries, List.filterMap_flatMap,
        List.map_append, List.map_append, List.map_flatMap]
      congr 2
      funext name
      cases tree.locateBelow found name with
      | error fault => rfl
      | ok next =>
        rw [ih, List.map_map]
        simp only [List.append_assoc, List.singleton_append, Function.comp_def]

/-! ## 4. What is met -/

structure HasDirectory (tree : Tree) (found : Found) : Prop where
  item : tree.get? found.place = some found.item
  node : found.item.node = .directory

def Found.below (found : Found) (name : String) (item : Item) : Found :=
  ⟨found.place ++ [name], item, found.links⟩

variable {found : Found} {item : Item} {fuel : Nat} {rest : List String}

theorem isReadableAt_iff (h : tree.HasDirectory found) :
    tree.IsReadableAt found.place ↔ found.item.isReadable = true := by
  constructor
  · rintro ⟨item, hitem, -, hreadable⟩
    rw [h.item] at hitem
    cases hitem
    exact hreadable
  · intro hreadable
    exact ⟨_, h.item, h.node, hreadable⟩

/-- Names that begin with a directory are followed from there. -/
theorem follow_below (hproper : tree.IsProper) (h : tree.HasDirectory found)
    (hitem : tree.get? (found.place ++ [name]) = some item) (hnode : item.node = .directory) :
    tree.follow true found.links found.place found.item (name :: rest) =
      tree.follow true found.links (found.place ++ [name]) item rest := by
  have hname : IsName name := hproper.isName (by rw [hitem]; rfl) name List.mem_cons_self
  refine follow_name h.node hname hitem fun target htarget => ?_
  rw [hnode] at htarget
  cases htarget

theorem locateBelow_directory (hproper : tree.IsProper) (h : tree.HasDirectory found)
    (hitem : tree.get? (found.place ++ [name]) = some item) (hnode : item.node = .directory) :
    tree.locateBelow found name = .ok (found.below name item) := by
  rw [locateBelow, follow_below hproper h hitem hnode, follow]
  rfl

theorem isEntered_iff (hlinks : config.followSymlinks = false) :
    tree.isEntered config found name = true ↔
      ∃ item, tree.get? (found.place ++ [name]) = some item ∧ item.node = .directory := by
  rw [isEntered, hlinks, Bool.false_or]
  cases tree.get? (found.place ++ [name]) <;> simp

theorem nil_not_mem_listFrom : [] ∉ tree.listFrom config found fuel := by
  cases fuel with
  | zero => exact List.not_mem_nil
  | succ fuel =>
    rw [listFrom]
    split
    · exact List.not_mem_nil
    · intro hnil
      rcases List.mem_append.1 hnil with hnil | hnil
      · simp at hnil
      · obtain ⟨name, -, hnil⟩ := List.mem_flatMap.1 hnil
        split at hnil
        · simp at hnil
        · cases hnil

/-- Something is met by its name in the directory, or in a directory that is entered. -/
theorem cons_mem_listFrom (hproper : tree.IsProper) (hlinks : config.followSymlinks = false)
    (h : tree.HasDirectory found) (hreadable : found.item.isReadable = true) :
    name :: rest ∈ tree.listFrom config found (fuel + 1) ↔
      name ∈ tree.visibleNames config found.place ∧
        (rest = [] ∨ ∃ item, tree.get? (found.place ++ [name]) = some item ∧
          item.node = .directory ∧ rest ∈ tree.listFrom config (found.below name item) fuel) := by
  rw [listFrom, if_neg (by simp [hreadable])]
  simp only [List.mem_append, List.mem_map, List.mem_flatMap, List.mem_filter, isEntered_iff hlinks]
  constructor
  · rintro ((⟨other, ⟨hvisible, -⟩, hsame⟩ | ⟨other, ⟨hvisible, -⟩, hsame⟩) |
      ⟨other, ⟨⟨hvisible, -⟩, item, hitem, hnode⟩, hmem⟩)
    · cases hsame
      exact ⟨hvisible, .inl rfl⟩
    · cases hsame
      exact ⟨hvisible, .inl rfl⟩
    · rw [locateBelow_directory hproper h hitem hnode] at hmem
      obtain ⟨further, hfurther, hsame⟩ := List.mem_map.1 hmem
      cases hsame
      exact ⟨hvisible, .inr ⟨item, hitem, hnode, hfurther⟩⟩
  · rintro ⟨hvisible, rfl | ⟨item, hitem, hnode, hrest⟩⟩
    · -- directories are listed before everything else
      cases hdirectory : tree.isDirectoryBelow found name with
      | true => exact .inl (.inl ⟨name, ⟨hvisible, hdirectory⟩, rfl⟩)
      | false => exact .inl (.inr ⟨name, ⟨hvisible, by rw [hdirectory]; rfl⟩, rfl⟩)
    · have hlocate := locateBelow_directory hproper h hitem hnode
      have hdirectory : tree.isDirectoryBelow found name = true := by
        rw [isDirectoryBelow, hlocate]
        exact decide_eq_true hnode
      refine .inr ⟨name, ⟨⟨hvisible, hdirectory⟩, item, hitem, hnode⟩, ?_⟩
      rw [hlocate]
      exact List.mem_map_of_mem hrest

/-- With fuel for the longest way, just what is visible is met. -/
theorem mem_listFrom (hproper : tree.IsProper) (hlinks : config.followSymlinks = false)
    (h : tree.HasDirectory found)
    (hfuel : ∀ names, tree.IsVisible config found.place names → names.length ≤ fuel)
    (names : List String) :
    names ∈ tree.listFrom config found fuel ↔ tree.IsVisible config found.place names := by
  induction fuel generalizing found names with
  | zero =>
    refine ⟨fun hmem => absurd hmem List.not_mem_nil, fun hvisible => ?_⟩
    exact absurd (List.length_eq_zero_iff.1 (Nat.le_zero.1 (hfuel names hvisible))) hvisible.ne_nil
  | succ fuel ih =>
    cases names with
    | nil => exact ⟨fun hmem => absurd hmem nil_not_mem_listFrom, fun h => absurd rfl h.ne_nil⟩
    | cons name rest =>
      rw [isVisible_cons, isReadableAt_iff h]
      by_cases hreadable : found.item.isReadable = true
      · rw [cons_mem_listFrom hproper hlinks h hreadable]
        simp only [hreadable, true_and]
        refine and_congr_right fun hname => or_congr_right ?_
        -- from the directory that is entered, the way is one name shorter
        have hbelow : ∀ item, tree.get? (found.place ++ [name]) = some item →
            item.node = .directory → (rest ∈ tree.listFrom config (found.below name item) fuel ↔
              tree.IsVisible config (found.place ++ [name]) rest) := by
          intro item hitem hnode
          refine ih ⟨hitem, hnode⟩ (fun further hfurther => ?_) rest
          have hwhole : tree.IsVisible config found.place (name :: further) :=
            isVisible_cons.2 ⟨(isReadableAt_iff h).2 hreadable, hname, .inr hfurther⟩
          exact Nat.le_of_succ_le_succ (hfuel _ hwhole)
        constructor
        · rintro ⟨item, hitem, hnode, hrest⟩
          exact (hbelow item hitem hnode).1 hrest
        · intro hrest
          have hplace := hrest.readable [] List.nil_prefix hrest.ne_nil.symm
          rw [List.append_nil] at hplace
          obtain ⟨item, hitem, hnode, -⟩ := hplace
          exact ⟨item, hitem, hnode, (hbelow item hitem hnode).2 hrest⟩
      · refine ⟨fun hmem => ?_, fun hvisible => absurd hvisible.1 hreadable⟩
        rw [listFrom, if_pos (by simpa using hreadable)] at hmem
        cases hmem

/-! ## 5. The order -/

def leadsToDirectory (tree : Tree) (found : Found) (names : List String) : Bool :=
  match tree.follow true found.links found.place found.item names with
  | .ok next => next.item.node = .directory
  | .error _ => false

/-- Something comes before something else: it does not lie below the other, and where both lie in the
same directory, directories come before everything else, and both in the order of their names. -/
structure Precedes (tree : Tree) (found : Found) (a b : List String) : Prop where
  not_below : ¬ b <+: a
  ordered : ∀ before x y, a = before ++ [x] → b = before ++ [y] →
    (tree.leadsToDirectory found b = true → tree.leadsToDirectory found a = true) ∧
      (tree.leadsToDirectory found a = tree.leadsToDirectory found b → x < y)

theorem precedes_names {x y : String} (hne : x ≠ y)
    (hdirectory : tree.isDirectoryBelow found y = true → tree.isDirectoryBelow found x = true)
    (hlt : tree.isDirectoryBelow found x = tree.isDirectoryBelow found y → x < y) :
    tree.Precedes found [x] [y] := by
  refine ⟨fun hbelow => ?_, fun before x' y' hx hy => ?_⟩
  · exact hne (List.cons_prefix_cons.1 hbelow).1.symm
  · cases before with
    | nil =>
      cases hx
      cases hy
      exact ⟨hdirectory, hlt⟩
    | cons z before => simp at hx

theorem precedes_deeper {x y : String} (hrest : rest ≠ []) :
    tree.Precedes found [x] (y :: rest) := by
  refine ⟨fun hbelow => ?_, fun before x' y' hx hy => ?_⟩
  · exact hrest (List.prefix_nil.1 (List.cons_prefix_cons.1 hbelow).2)
  · cases before with
    | nil =>
      cases hy
      exact absurd rfl hrest
    | cons z before => simp at hx

theorem precedes_of_ne {x y : String} {a b : List String} (hne : x ≠ y) (ha : a ≠ []) :
    tree.Precedes found (x :: a) (y :: b) := by
  refine ⟨fun hbelow => ?_, fun before x' y' hx hy => ?_⟩
  · exact hne (List.cons_prefix_cons.1 hbelow).1.symm
  · cases before with
    | nil =>
      cases hx
      exact absurd rfl ha
    | cons z before =>
      cases hx
      cases hy
      exact absurd rfl hne

theorem Precedes.below {a b : List String} (hproper : tree.IsProper) (h : tree.HasDirectory found)
    (hitem : tree.get? (found.place ++ [name]) = some item) (hnode : item.node = .directory)
    (hab : tree.Precedes (found.below name item) a b) (ha : a ≠ []) :
    tree.Precedes found (name :: a) (name :: b) := by
  -- whether names lead to a directory is told alike from here and from inside
  have hleads : ∀ names, tree.leadsToDirectory found (name :: names) =
      tree.leadsToDirectory (found.below name item) names := by
    intro names
    rw [leadsToDirectory, follow_below hproper h hitem hnode]
    rfl
  refine ⟨fun hbelow => ?_, fun before x y hx hy => ?_⟩
  · exact hab.not_below (List.cons_prefix_cons.1 hbelow).2
  · rw [hleads, hleads]
    cases before with
    | nil =>
      cases hx
      exact absurd rfl ha
    | cons z before =>
      cases hx
      cases hy
      exact hab.ordered before x y rfl rfl

/-- What is met in a directory below lies deeper than what is met here. -/
theorem exists_cons_of_mem_below {names : List String}
    (hmem : names ∈ match tree.locateBelow found name with
      | .ok next => (tree.listFrom config next fuel).map (name :: ·)
      | .error _ => []) : ∃ rest, rest ≠ [] ∧ names = name :: rest := by
  split at hmem
  · obtain ⟨rest, hrest, rfl⟩ := List.mem_map.1 hmem
    exact ⟨rest, fun hnil => nil_not_mem_listFrom (hnil ▸ hrest), rfl⟩
  · cases hmem

/-- A walk meets everything in order. -/
theorem pairwise_listFrom (hproper : tree.IsProper) (hlinks : config.followSymlinks = false)
    (h : tree.HasDirectory found) :
    (tree.listFrom config found fuel).Pairwise (tree.Precedes found) := by
  induction fuel generalizing found with
  | zero => exact .nil
  | succ fuel ih =>
    rw [listFrom]
    split
    · exact .nil
    have hnames := hproper.pairwise_visibleNames config found.place
    dsimp only
    generalize tree.visibleNames config found.place = names at hnames
    -- directories first, then what else is here, and then what is in the directories
    rw [List.pairwise_append, List.pairwise_append, List.pairwise_map, List.pairwise_map,
      List.pairwise_flatMap]
    refine ⟨⟨?directories, ?others, ?between⟩, ⟨?inside, ?across⟩, ?before⟩
    case directories =>
      refine (hnames.filter _).imp_of_mem fun hx hy hlt => ?_
      exact precedes_names hlt.ne (fun _ => (List.mem_filter.1 hx).2) fun _ => hlt
    case others =>
      refine (hnames.filter _).imp_of_mem fun hx hy hlt => ?_
      have hother := (List.mem_filter.1 hy).2
      exact precedes_names hlt.ne (fun hdirectory => by simp [hdirectory] at hother) fun _ => hlt
    case between =>
      intro a ha b hb
      obtain ⟨x, hx, rfl⟩ := List.mem_map.1 ha
      obtain ⟨y, hy, rfl⟩ := List.mem_map.1 hb
      have hdirectory := (List.mem_filter.1 hx).2
      have hother : tree.isDirectoryBelow found y = false := by
        simpa using (List.mem_filter.1 hy).2
      have hdiffer : tree.isDirectoryBelow found x ≠ tree.isDirectoryBelow found y := by
        rw [hdirectory, hother]
        exact Bool.noConfusion
      exact precedes_names (fun hsame => hdiffer (by rw [hsame])) (fun _ => hdirectory)
        fun hsame => absurd hsame hdiffer
    case inside =>
      intro name hname
      obtain ⟨item, hitem, hnode⟩ := (isEntered_iff hlinks).1 (List.mem_filter.1 hname).2
      rw [locateBelow_directory hproper h hitem hnode]
      refine List.pairwise_map.2 ((ih ⟨hitem, hnode⟩).imp_of_mem fun ha _ hab => ?_)
      exact hab.below hproper h hitem hnode fun hnil => nil_not_mem_listFrom (hnil ▸ ha)
    case across =>
      refine ((hnames.filter _).filter _).imp fun hlt a ha b hb => ?_
      obtain ⟨rest, hrest, rfl⟩ := exists_cons_of_mem_below ha
      obtain ⟨further, -, rfl⟩ := exists_cons_of_mem_below hb
      exact precedes_of_ne hlt.ne hrest
    case before =>
      intro a ha b hb
      obtain ⟨name, -, hb⟩ := List.mem_flatMap.1 hb
      obtain ⟨rest, hrest, rfl⟩ := exists_cons_of_mem_below hb
      rcases List.mem_append.1 ha with ha | ha
      · obtain ⟨x, -, rfl⟩ := List.mem_map.1 ha
        exact precedes_deeper hrest
      · obtain ⟨x, -, rfl⟩ := List.mem_map.1 ha
        exact precedes_deeper hrest

/-! ## 6. The whole walk -/

/-- A walk through a directory meets just what is visible, everything once and in order, and shows it
by its names with slashes between them. -/
theorem walk_visible {root : String} (hproper : tree.IsProper)
    (hlinks : config.followSymlinks = false) (hroot : tree.locate true root = .ok found)
    (hdirectory : found.item.node = .directory) :
    ∃ (steps : List Step) (places : List (List String)), tree.walk config root = .ok steps ∧
      steps.filterMap Step.path? = places.map (String.intercalate "/") ∧
      (places.map (String.intercalate "/")).Nodup ∧
      (∀ names, names ∈ places ↔ tree.IsVisible config found.place names) ∧
      places.Pairwise (tree.Precedes found) := by
  have hfound : tree.HasDirectory found := ⟨get?_of_locate hroot, hdirectory⟩
  -- no visible name lies deeper than the tree is
  have hfuel : ∀ names, tree.IsVisible config found.place names → names.length ≤ tree.depthBound := by
    intro names hvisible
    have hlength := hvisible.length_le
    unfold depthBound linkLimit
    omega
  have hmem := mem_listFrom hproper hlinks hfound hfuel
  have hpairwise : (tree.listFrom config found tree.depthBound).Pairwise (tree.Precedes found) :=
    pairwise_listFrom hproper hlinks hfound
  refine ⟨_, tree.listFrom config found tree.depthBound, ?_, paths_walkFrom root [] found _, ?_,
    hmem, hpairwise⟩
  · rw [walk, hroot]
    dsimp only
    rw [if_pos hdirectory]
  · -- different names have different paths
    refine List.pairwise_map.2 (hpairwise.imp_of_mem fun {a b} ha hb hab hsame => ?_)
    have hvisibleA := (hmem a).1 ha
    have hvisibleB := (hmem b).1 hb
    have heq : a = b := intercalate_injective hvisibleA.ne_nil hvisibleB.ne_nil
      (hproper.isName hvisibleA.listed) (hproper.isName hvisibleB.listed) hsame
    exact hab.not_below (heq ▸ List.prefix_refl a)

/-- A link to a directory is met and not entered, what is hidden is not met, and what lies in a directory
that cannot be read is not met either. -/
theorem walk_visible_passed_over :
    let tree : Tree := ⟨[(["b"], { node := .directory }), (["b", "c"], { node := .file [] }),
      (["a"], { node := .link "b" }), ([".h"], { node := .directory }),
      ([".h", "d"], { node := .file [] }), (["u"], { node := .directory, isReadable := false }),
      (["u", "e"], { node := .file [] }), (["0"], { node := .pipe })]⟩
    let found : Found := ⟨[], { node := .directory }, 0⟩
    tree.IsProper ∧ tree.locate true "." = .ok found ∧
      tree.walk {} "." = .ok [.entry "a", .entry "b", .entry "u", .entry "0", .entry "b/c",
        .skipped "./u" .forbidden] ∧
      ∃ places : List (List String),
        places.map (String.intercalate "/") = ["a", "b", "u", "0", "b/c"] ∧
        (∀ names, names ∈ places ↔ tree.IsVisible {} [] names) ∧
        places.Pairwise (tree.Precedes found) := by
  intro tree found
  have hproper : tree.IsProper := by decide
  have hroot : tree.locate true "." = .ok found := by cbv
  have hwalk : tree.walk {} "." = .ok [.entry "a", .entry "b", .entry "u", .entry "0",
      .entry "b/c", .skipped "./u" .forbidden] := by cbv
  refine ⟨hproper, hroot, hwalk, ?_⟩
  obtain ⟨steps, places, hsteps, hpaths, -, hmem, hpairwise⟩ :=
    @walk_visible tree {} found "." hproper rfl hroot rfl
  rw [hwalk] at hsteps
  cases hsteps
  exact ⟨places, hpaths.symm, hmem, hpairwise⟩

end FileQuery.Tree

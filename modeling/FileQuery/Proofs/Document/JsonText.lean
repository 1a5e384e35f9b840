import FileQuery.Document.Json
import FileQuery.Document.Text
import FileQuery.Proofs.Number.Decimal

/-!
# Trees and their compact JSON texts

A tree of the values that JSON has is written without blanks, and its text is read back as the tree,
whatever stands in its texts, if the reader follows as deep as the tree is nested.
-/

namespace FileQuery.Document

/-! ## 1. Texts -/

/-- A scalar that JSON has, and no integer that is too long. -/
def Scalar.IsJson : Scalar → Prop
  | .null | .bool _ | .str _ => True
  | .int i => Number.isWritable i = true
  | _ => False

def Scalar.json : Scalar → List Char
  | .null => "null".toList
  | .bool b => (boolText b).toList
  | .int i => (toString i).toList
  | .str s => (jsonString s).toList
  | _ => []

namespace Tree

mutual
/-- A tree of scalars that JSON has, in which the members of a map have different names. -/
def IsJson : Tree → Prop
  | .scalar s => s.IsJson
  | .list items => areJson items
  | .map members => (members.map Prod.fst).Nodup ∧ areJsonMembers members
def areJson : List Tree → Prop
  | [] => True
  | t :: rest => t.IsJson ∧ areJson rest
def areJsonMembers : List (String × Tree) → Prop
  | [] => True
  | (_, t) :: rest => t.IsJson ∧ areJsonMembers rest
end

mutual
def depth : Tree → Nat
  | .scalar _ => 0
  | .list items => depthOfItems items + 1
  | .map members => depthOfMembers members + 1
def depthOfItems : List Tree → Nat
  | [] => 0
  | t :: rest => max t.depth (depthOfItems rest)
def depthOfMembers : List (String × Tree) → Nat
  | [] => 0
  | (_, t) :: rest => max t.depth (depthOfMembers rest)
end

mutual
def json : Tree → List Char
  | .scalar s => s.json
  | .list items => '[' :: (itemsJson [] items ++ [']'])
  | .map members => '\x7b' :: (membersJson [] members ++ ['\x7d'])
def itemsJson (separator : List Char) : List Tree → List Char
  | [] => []
  | t :: rest => separator ++ (t.json ++ itemsJson [','] rest)
def membersJson (separator : List Char) : List (String × Tree) → List Char
  | [] => []
  | (name, t) :: rest =>
    separator ++ ((jsonString name).toList ++ ':' :: (t.json ++ membersJson [','] rest))
end

end Tree

namespace Json

def Stops (rest : List Char) : Prop := ∀ c ∈ rest.head?, c = ',' ∨ c = ']' ∨ c = '\x7d'

theorem stops_comma (rest : List Char) : Stops (',' :: rest) := by
  rintro c ⟨⟩
  exact .inl rfl

theorem stops_bracket (rest : List Char) : Stops (']' :: rest) := by
  rintro c ⟨⟩
  exact .inr (.inl rfl)

theorem stops_brace (rest : List Char) : Stops ('\x7d' :: rest) := by
  rintro c ⟨⟩
  exact .inr (.inr rfl)

/-! ## 2. Quoted texts -/

theorem takeHex_append {value k n : Nat} {s r : List Char} (h : takeHex value k s = some (n, r))
    (rest : List Char) : takeHex value k (s ++ rest) = some (n, r ++ rest) := by
  induction k generalizing value s with
  | zero =>
    cases h
    rfl
  | succ k ih =>
    cases s with
    | nil => cases h
    | cons c s =>
      obtain ⟨d, hd, hs⟩ := Option.bind_eq_some_iff.1 h
      rw [List.cons_append, takeHex, hd]
      exact ih hs

theorem readEscape_hexDigits {c : Char} (hc : c.toNat < 32) (rest : List Char) :
    readEscape ('u' :: (Text.hexDigits 4 c.toNat ++ rest)) = .ok (c, rest) := by
  have hdigits : ∀ n < 32, takeHex 0 4 (Text.hexDigits 4 n) = some (n, []) := by decide
  rw [readEscape, takeHex_append (hdigits c.toNat hc) rest]
  have hhigh : ¬0xd800 ≤ c.toNat := by omega
  have hlow : ¬0xdc00 ≤ c.toNat := by omega
  simp only [escapedChar, hhigh, hlow, decide_false, Bool.false_and, Bool.false_eq_true, if_false,
    List.nil_append, Char.ofNat_toNat]

/-- Each character is read back from the way it is written. -/
theorem readString_jsonChar (c : Char) (done : List Char) (size : Nat) (rest : List Char) :
    readString done (size + 1) (jsonChar c ++ rest) = readString (c :: done) size rest := by
  unfold jsonChar
  split
  case h_8 hquote hslash _ _ _ _ _ =>
    split
    · next hc =>
      have hescape := readEscape_hexDigits hc rest
      rw [List.cons_append, List.cons_append, readString]
      simp only [hescape]
      rfl
    · next hc =>
      rw [List.singleton_append, readString, if_neg (by simpa using hquote),
        if_neg (by simpa using hslash), if_neg hc]
  all_goals rfl

theorem readString_flatMap (s : List Char) {size : Nat} (h : s.length < size) (done : List Char)
    (rest : List Char) : readString done size (s.flatMap jsonChar ++ '"' :: rest) =
      .ok (String.ofList (done.reverse ++ s), rest) := by
  induction s generalizing size done with
  | nil =>
    rw [List.length_nil] at h
    obtain ⟨size, rfl⟩ : ∃ n, size = n + 1 := ⟨size - 1, by omega⟩
    rw [List.append_nil]
    rfl
  | cons c s ih =>
    rw [List.length_cons] at h
    obtain ⟨size, rfl⟩ : ∃ n, size = n + 1 := ⟨size - 1, by omega⟩
    rw [List.flatMap_cons, List.append_assoc, readString_jsonChar, ih (by omega),
      List.reverse_cons, List.append_assoc, List.singleton_append]

/-! ## 3. Scalars -/

theorem isDigit_of_isDigit {c : Char} (h : c.isDigit = true) : isDigit c = true := by
  obtain ⟨hfirst, hlast⟩ := Char.isDigit_iff_toNat.1 h
  rw [isDigit, Bool.and_eq_true, decide_eq_true_iff, decide_eq_true_iff]
  exact ⟨hfirst, hlast⟩

theorem Stops.takeWhile_isDigit {rest : List Char} (h : Stops rest) :
    rest.takeWhile isDigit = [] := by
  cases rest with
  | nil => rfl
  | cons c rest =>
    apply List.takeWhile_cons_of_neg
    rcases h c rfl with rfl | rfl | rfl <;> decide

theorem wholeDigits_toDigits (n : Nat) {rest : List Char} (hrest : Stops rest) :
    wholeDigits (Nat.toDigits 10 n ++ rest) = Nat.toDigits 10 n := by
  obtain ⟨c, digits, hdigits, hall⟩ := Number.exists_toDigits n
  have htake : (Nat.toDigits 10 n ++ rest).takeWhile isDigit = Nat.toDigits 10 n := by
    rw [List.takeWhile_append_of_pos, hrest.takeWhile_isDigit, List.append_nil]
    intro d hd
    exact isDigit_of_isDigit (Number.isDigit_of_mem_toDigits hd)
  by_cases hzero : n = 0
  · subst hzero
    rfl
  · have hhead := Number.head?_toDigits_ne (Nat.pos_of_ne_zero hzero)
    rw [hdigits] at hhead htake ⊢
    rw [List.cons_append, wholeDigits]
    · exact htake
    · rintro rest' ⟨⟩
      exact hhead rfl

/-- What ends a value is no part of a number. -/
theorem Stops.parts {rest : List Char} (h : Stops rest) :
    fractionPart rest = [] ∧ exponentPart rest = [] := by
  cases rest with
  | nil => exact ⟨rfl, rfl⟩
  | cons c rest => rcases h c rfl with rfl | rfl | rfl <;> exact ⟨rfl, rfl⟩

/-- A sign is told from the digits after it. -/
theorem filter_signOf (i : Int) (rest : List Char) :
    ((Number.signOf i ++ (Nat.toDigits 10 i.natAbs ++ rest)).take 1).filter (· == '-') =
      Number.signOf i := by
  rw [Number.signOf]
  by_cases hneg : i < 0
  · rw [if_pos hneg]
    rfl
  · obtain ⟨c, digits, hdigits, hall⟩ := Number.exists_toDigits i.natAbs
    have hc : (c == '-') = false := by
      rw [beq_eq_false_iff_ne]
      rintro rfl
      cases hall '-' List.mem_cons_self
    rw [if_neg hneg, hdigits]
    show [c].filter (· == '-') = []
    rw [List.filter_cons_of_neg (by simp [hc]), List.filter_nil]

theorem readNumber_toString {i : Int} (h : Number.isWritable i = true) {rest : List Char}
    (hrest : Stops rest) : readNumber ((toString i).toList ++ rest) = .ok (.int i, rest) := by
  obtain ⟨hfraction, hexponent⟩ := hrest.parts
  have hread := Number.readInteger_toString h (toString i)
  have hwhole := wholeDigits_toDigits i.natAbs hrest
  have hne : (Nat.toDigits 10 i.natAbs).isEmpty = false := by
    simp [Nat.toDigits_ne_nil]
  rw [Number.toList_toString] at hread
  rw [Number.toList_toString, List.append_assoc]
  unfold readNumber
  simp only [filter_signOf, List.drop_left, hwhole, hne, hfraction, hexponent, List.length_nil,
    List.drop_zero, List.isEmpty_nil, Bool.and_self, Bool.false_eq_true, if_false, if_true,
    List.append_nil]
  have htext : String.ofList (Number.signOf i ++ Nat.toDigits 10 i.natAbs) = toString i := by
    rw [← Number.toList_toString, String.ofList_toList]
  rw [htext, hread]

/-- The text of an integer is a digit, or a sign and a digit, and more digits. -/
theorem exists_toString (i : Int) : ∃ c s, (toString i).toList = c :: s ∧
    (c = '-' ∨ c.isDigit = true) ∧ ∀ rest, ∃ d ∈ (c :: (s ++ rest)).take 2, d.isDigit = true := by
  obtain ⟨c, digits, hdigits, hall⟩ := Number.exists_toDigits i.natAbs
  have hc := hall c List.mem_cons_self
  rw [Number.toList_toString, Number.signOf, hdigits]
  by_cases hneg : i < 0
  · rw [if_pos hneg]
    exact ⟨'-', c :: digits, rfl, .inl rfl, fun rest => ⟨c, by simp, hc⟩⟩
  · rw [if_neg hneg]
    exact ⟨c, digits, rfl, .inr hc, fun rest => ⟨c, by simp, hc⟩⟩

/-- No word has a digit among its first two characters. -/
theorem find?_words_of_digit {s : List Char} (h : ∃ d ∈ s.take 2, d.isDigit = true) :
    words.find? (fun (word, _) => word.toList.isPrefixOf s) = none := by
  have hwords : words.all (fun entry => decide (2 ≤ entry.1.toList.length) &&
      (entry.1.toList.take 2).all fun d => !d.isDigit) = true := by
    decide
  rw [List.find?_eq_none]
  intro entry hentry hfront
  obtain ⟨rest, rfl⟩ := List.isPrefixOf_iff_prefix.1 hfront
  have hword := List.all_eq_true.1 hwords entry hentry
  rw [Bool.and_eq_true, decide_eq_true_iff] at hword
  obtain ⟨d, hd, hdigit⟩ := h
  rw [List.take_append_of_le_length hword.1] at hd
  have hother := List.all_eq_true.1 hword.2 d hd
  rw [hdigit] at hother
  cases hother

theorem readScalar_json {x : Scalar} (h : x.IsJson) {size : Nat} (hsize : x.json.length ≤ size)
    {rest : List Char} (hrest : Stops rest) : readScalar size (x.json ++ rest) = .ok (x, rest) := by
  cases x with
  | null => rfl
  | bool b => cases b <;> rfl
  | int i =>
    have hread := readNumber_toString h hrest
    obtain ⟨c, s, hs, hc, hdigit⟩ := exists_toString i
    -- no word of the language begins with a digit or a sign
    have hwords := find?_words_of_digit (hdigit rest)
    rw [hs, List.cons_append] at hread
    rw [Scalar.json, hs, List.cons_append, readScalar, hwords]
    · exact hread
    · rintro rest' ⟨⟩
      rcases hc with hc | hc <;> cases hc
  | str s =>
    have hchars := length_le_flatMap_jsonChar s.toList
    rw [Scalar.json, toList_jsonString] at hsize
    simp only [List.length_cons, List.length_append, List.length_nil] at hsize
    have hread := readString_flatMap s.toList (by omega : s.toList.length < size) [] rest
    rw [Scalar.json, toList_jsonString, List.cons_append, List.append_assoc, readScalar,
      List.singleton_append, hread, List.reverse_nil, List.nil_append, String.ofList_toList]
    rfl
  | _ => cases h

/-- The text of a scalar begins neither with a blank nor with a bracket. -/
theorem exists_scalarJson {x : Scalar} (h : x.IsJson) :
    ∃ c s, x.json = c :: s ∧ isBlank c = false ∧ c ≠ ']' ∧ c ≠ '[' ∧ c ≠ '\x7b' := by
  cases x with
  | null => exact ⟨'n', _, rfl, by decide, by decide, by decide, by decide⟩
  | bool b => cases b <;> exact ⟨_, _, rfl, by decide, by decide, by decide, by decide⟩
  | int i =>
    obtain ⟨c, s, hs, hc, -⟩ := exists_toString i
    refine ⟨c, s, hs, ?_⟩
    rcases hc with rfl | hc
    · decide
    · have hother : ∀ d, d.isDigit = false → c ≠ d := by
        rintro d hd rfl
        rw [hc] at hd
        cases hd
      refine ⟨?_, hother _ rfl, hother _ rfl, hother _ rfl⟩
      simp only [isBlank, Bool.or_eq_false_iff, beq_eq_false_iff_ne]
      exact ⟨⟨⟨hother _ rfl, hother _ rfl⟩, hother _ rfl⟩, hother _ rfl⟩
  | str s => exact ⟨'"', _, toList_jsonString s, by decide, by decide, by decide, by decide⟩
  | _ => cases h

theorem readValue_scalar {x : Scalar} (h : x.IsJson) {size : Nat} (hsize : x.json.length ≤ size)
    (depth : Nat) {rest : List Char} (hrest : Stops rest) :
    readValue size depth (x.json ++ rest) = .ok (.scalar x, rest) := by
  have hread := readScalar_json h hsize hrest
  obtain ⟨c, s, hs, -, -, hlist, hmap⟩ := exists_scalarJson h
  rw [hs, List.cons_append] at hread ⊢
  -- a scalar is read at any depth, for it begins with no bracket
  cases depth with
  | zero =>
    rw [readValue, hread]
    · rfl
    · rintro _ ⟨⟩
      exact hlist rfl
    · rintro _ ⟨⟩
      exact hmap rfl
  | succ depth =>
    rw [readValue, hread]
    · rfl
    · rintro _ ⟨⟩
      exact hlist rfl
    · rintro _ ⟨⟩
      exact hmap rfl

/-! ## 4. Items and members -/

theorem skipBlanks_of_not_isBlank {c : Char} (h : isBlank c = false) (s : List Char) :
    skipBlanks (c :: s) = c :: s :=
  List.dropWhile_cons_of_neg (by simp [h])

/-- The text of a tree begins neither with a blank nor with the bracket that ends a list. -/
theorem exists_json {t : Tree} (h : t.IsJson) :
    ∃ c s, t.json = c :: s ∧ isBlank c = false ∧ c ≠ ']' := by
  cases t with
  | scalar x =>
    obtain ⟨c, s, hs, hblank, hclose, -⟩ := exists_scalarJson h
    exact ⟨c, s, hs, hblank, hclose⟩
  | list items => exact ⟨'[', _, rfl, by decide, by decide⟩
  | map members => exact ⟨'\x7b', _, rfl, by decide, by decide⟩

def ReadsBack (read : Reader Tree) (t : Tree) : Prop :=
  t.IsJson ∧ ∀ rest, Stops rest → read (t.json ++ rest) = .ok (t, rest)

theorem ReadsBack.skipBlanks {read : Reader Tree} {t : Tree} (h : ReadsBack read t)
    (rest : List Char) : skipBlanks (t.json ++ rest) = t.json ++ rest := by
  obtain ⟨c, s, hs, hblank, -⟩ := exists_json h.1
  rw [hs]
  exact skipBlanks_of_not_isBlank hblank _

theorem readItems_json {read : Reader Tree} {items : List Tree}
    (h : ∀ t ∈ items, ReadsBack read t) (hne : items ≠ []) {size : Nat}
    (hsize : items.length ≤ size) (done : List Tree) (rest : List Char) :
    readItems read done size (Tree.itemsJson [] items ++ ']' :: rest) =
      .ok (.list (done.reverse ++ items), rest) := by
  induction items generalizing size done with
  | nil => exact absurd rfl hne
  | cons t items ih =>
    rw [List.forall_mem_cons] at h
    rw [List.length_cons] at hsize
    obtain ⟨size, rfl⟩ : ∃ n, size = n + 1 := ⟨size - 1, by omega⟩
    rw [Tree.itemsJson, List.nil_append, List.append_assoc, readItems]
    -- after the last item the bracket comes, after any other one a comma
    cases items with
    | nil =>
      rw [Tree.itemsJson, List.nil_append, h.1.2 _ (stops_bracket rest)]
      simp only [skipBlanks_of_not_isBlank (by decide : isBlank ']' = false), List.reverse_cons]
    | cons u items =>
      have hrest := ih h.2 (List.cons_ne_nil _ _) (Nat.le_of_succ_le_succ hsize) (t :: done)
      have hu := (List.forall_mem_cons.1 h.2).1
      have htext : Tree.itemsJson [','] (u :: items) ++ ']' :: rest =
        ',' :: (Tree.itemsJson [] (u :: items) ++ ']' :: rest) := rfl
      have hskip : skipBlanks (Tree.itemsJson [] (u :: items) ++ ']' :: rest) =
          Tree.itemsJson [] (u :: items) ++ ']' :: rest := by
        rw [Tree.itemsJson, List.nil_append, List.append_assoc]
        exact hu.skipBlanks _
      rw [htext, h.1.2 _ (stops_comma _)]
      simp only [skipBlanks_of_not_isBlank (by decide : isBlank ',' = false), hskip, hrest,
        List.reverse_cons, List.append_assoc, List.singleton_append]

theorem readName_json (name : String) {size : Nat} (h : (jsonString name).toList.length ≤ size)
    {rest : List Char} (hrest : skipBlanks rest = rest) :
    readName size ((jsonString name).toList ++ ':' :: rest) = .ok (name, rest) := by
  have hchars := length_le_flatMap_jsonChar name.toList
  rw [toList_jsonString] at h
  simp only [List.length_cons, List.length_append, List.length_nil] at h
  have hread := readString_flatMap name.toList (by omega : name.toList.length < size) [] (':' :: rest)
  rw [toList_jsonString, List.cons_append, List.append_assoc, List.singleton_append, readName]
  simp only [hread, skipBlanks_of_not_isBlank (by decide : isBlank ':' = false), hrest,
    List.reverse_nil, List.nil_append, String.ofList_toList]

theorem put_of_not_mem {name : String} (t : Tree) {members : List (String × Tree)}
    (h : name ∉ members.map Prod.fst) : Tree.put name t members = members ++ [(name, t)] := by
  induction members with
  | nil => rfl
  | cons member members ih =>
    rw [List.map_cons, List.mem_cons, not_or] at h
    rw [Tree.put, if_neg (Ne.symm h.1), ih h.2, List.cons_append]

theorem readMembers_json {read : Reader Tree} {members : List (String × Tree)}
    (h : ∀ member ∈ members, ReadsBack read member.2) (hne : members ≠ []) {size : Nat}
    (done : List (String × Tree)) (hnames : ((done ++ members).map Prod.fst).Nodup)
    (hsize : (Tree.membersJson [] members).length ≤ size) (rest : List Char) :
    readMembers read done size (Tree.membersJson [] members ++ '\x7d' :: rest) =
      .ok (.map (done ++ members), rest) := by
  induction members generalizing size done with
  | nil => exact absurd rfl hne
  | cons member members ih =>
    obtain ⟨name, t⟩ := member
    rw [List.forall_mem_cons] at h
    -- a name that is new is put behind those before
    have hput : Tree.put name t done = done ++ [(name, t)] := by
      apply put_of_not_mem
      rw [List.map_append, List.nodup_append] at hnames
      exact fun hmem => hnames.2.2 name hmem name List.mem_cons_self rfl
    have hnames' : ((done ++ [(name, t)] ++ members).map Prod.fst).Nodup := by
      rwa [List.append_assoc]
    rw [Tree.membersJson, List.nil_append, List.length_append, List.length_cons,
      List.length_append] at hsize
    obtain ⟨size, rfl⟩ : ∃ n, size = n + 1 := ⟨size - 1, by omega⟩
    have hname := readName_json name (by omega : (jsonString name).toList.length ≤ size + 1)
      (h.1.skipBlanks (Tree.membersJson [','] members ++ '\x7d' :: rest))
    rw [Tree.membersJson, List.nil_append, List.append_assoc, List.cons_append, List.append_assoc,
      readMembers, hname]
    cases members with
    | nil =>
      rw [Tree.membersJson, List.nil_append]
      simp only [h.1.2 _ (stops_brace rest), hput,
        skipBlanks_of_not_isBlank (by decide : isBlank '\x7d' = false)]
    | cons next members =>
      have htext : Tree.membersJson [','] (next :: members) ++ '\x7d' :: rest =
        ',' :: (Tree.membersJson [] (next :: members) ++ '\x7d' :: rest) := rfl
      have hlength : (Tree.membersJson [','] (next :: members)).length =
        (Tree.membersJson [] (next :: members)).length + 1 := rfl
      have hleft : (Tree.membersJson [] (next :: members)).length ≤ size := by omega
      have hrest := ih h.2 (List.cons_ne_nil _ _) _ hnames' hleft
      have hskip : skipBlanks (Tree.membersJson [] (next :: members) ++ '\x7d' :: rest) =
          Tree.membersJson [] (next :: members) ++ '\x7d' :: rest := by
        rw [Tree.membersJson, List.nil_append, toList_jsonString]
        exact skipBlanks_of_not_isBlank (by decide) _
      rw [htext]
      simp only [h.1.2 _ (stops_comma _), hput,
        skipBlanks_of_not_isBlank (by decide : isBlank ',' = false), hskip, hrest,
        List.append_assoc, List.singleton_append]

/-! ## 5. Trees -/

theorem length_le_itemsJson {items : List Tree} (h : Tree.areJson items) (separator : List Char) :
    items.length ≤ (Tree.itemsJson separator items).length := by
  induction items generalizing separator with
  | nil => exact Nat.zero_le _
  | cons t items ih =>
    obtain ⟨c, s, hs, -⟩ := exists_json h.1
    have hitems := ih h.2 [',']
    rw [Tree.itemsJson, hs]
    simp only [List.length_cons, List.length_append]
    omega

mutual
/-- A tree is read back from its text if the reader follows as deep as the tree is nested. -/
theorem readsBack_tree {size depth : Nat} : ∀ t : Tree, t.IsJson → t.depth ≤ depth →
    t.json.length ≤ size → ReadsBack (readValue size depth) t
  | .scalar x, h, _, hsize => ⟨h, fun rest hrest => readValue_scalar h hsize depth hrest⟩
  | .list items, h, hdepth, hsize => by
    refine ⟨h, fun rest _ => ?_⟩
    rw [Tree.depth] at hdepth
    obtain ⟨depth, rfl⟩ : ∃ n, depth = n + 1 := ⟨depth - 1, by omega⟩
    rw [Tree.json, List.length_cons, List.length_append, List.length_singleton] at hsize
    have hitems : ∀ t ∈ items, ReadsBack (readValue size depth) t :=
      readsBack_items items [] h (by omega) (by omega)
    have hlength := length_le_itemsJson h []
    rw [Tree.json, List.cons_append, List.append_assoc, List.singleton_append]
    cases items with
    | nil => rfl
    | cons t items =>
      have hcount : (t :: items).length ≤ size := by omega
      have hread := readItems_json hitems (List.cons_ne_nil _ _) hcount [] rest
      -- the first item begins with no bracket that closes, so the list is not taken for an empty
      -- one
      obtain ⟨c, s, hs, hblank, hclose⟩ := exists_json h.1
      rw [Tree.itemsJson, List.nil_append, List.append_assoc, hs, List.cons_append] at hread ⊢
      rw [readValue, skipBlanks_of_not_isBlank hblank]
      split
      · next heq =>
        cases heq
        exact absurd rfl hclose
      · exact hread
  | .map members, h, hdepth, hsize => by
    refine ⟨h, fun rest _ => ?_⟩
    rw [Tree.depth] at hdepth
    obtain ⟨depth, rfl⟩ : ∃ n, depth = n + 1 := ⟨depth - 1, by omega⟩
    rw [Tree.json, List.length_cons, List.length_append, List.length_singleton] at hsize
    have hmembers : ∀ member ∈ members, ReadsBack (readValue size depth) member.2 :=
      readsBack_members members [] h.2 (by omega) (by omega)
    have hshort : (Tree.membersJson [] members).length ≤ size := by omega
    rw [Tree.json, List.cons_append, List.append_assoc, List.singleton_append]
    cases members with
    | nil => rfl
    | cons member members =>
      have hread := readMembers_json hmembers (List.cons_ne_nil _ _) [] h.1 hshort rest
      rw [Tree.membersJson, List.nil_append, toList_jsonString, List.cons_append,
        List.cons_append] at hread ⊢
      rw [readValue, skipBlanks_of_not_isBlank (by decide)]
      split
      · next heq => cases heq
      · exact hread
/-- So are several trees. -/
theorem readsBack_items {size depth : Nat} : ∀ (items : List Tree) (separator : List Char),
    Tree.areJson items → Tree.depthOfItems items ≤ depth →
    (Tree.itemsJson separator items).length ≤ size →
    ∀ t ∈ items, ReadsBack (readValue size depth) t
  | [], _, _, _, _ => nofun
  | t :: items, separator, h, hdepth, hsize => by
    rw [Tree.depthOfItems, Nat.max_le] at hdepth
    rw [Tree.itemsJson, List.length_append, List.length_append] at hsize
    rw [List.forall_mem_cons]
    exact ⟨readsBack_tree t h.1 hdepth.1 (by omega),
      readsBack_items items [','] h.2 hdepth.2 (by omega)⟩
/-- So are members. -/
theorem readsBack_members {size depth : Nat} : ∀ (members : List (String × Tree))
    (separator : List Char), Tree.areJsonMembers members → Tree.depthOfMembers members ≤ depth →
    (Tree.membersJson separator members).length ≤ size →
    ∀ member ∈ members, ReadsBack (readValue size depth) member.2
  | [], _, _, _, _ => nofun
  | (name, t) :: members, separator, h, hdepth, hsize => by
    rw [Tree.depthOfMembers, Nat.max_le] at hdepth
    rw [Tree.membersJson] at hsize
    simp only [List.length_append, List.length_cons] at hsize
    rw [List.forall_mem_cons]
    exact ⟨readsBack_tree t h.1 hdepth.1 (by omega),
      readsBack_members members [','] h.2 hdepth.2 (by omega)⟩
end

/-- The whole text of a tree is read back. -/
theorem read_json {t : Tree} {depth : Nat} (h : t.IsJson) (hdepth : t.depth ≤ depth) :
    read depth t.json = .ok t := by
  have htree : ReadsBack (readValue (t.json.length + 1) depth) t :=
    readsBack_tree t h hdepth (Nat.le_succ _)
  have hread := htree.2 [] nofun
  have hskip := htree.skipBlanks []
  rw [List.append_nil] at hread hskip
  rw [read, hskip, hread]
  rfl

end Json

end FileQuery.Document

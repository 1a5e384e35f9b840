import FileQuery.Proofs.Evaluate.Membership
import FileQuery.Proofs.Query.Literal.SizeSpelling
import FileQuery.Proofs.Query.Spacing

/-!
# Sets without and with brackets

Where an operator asks for a set, a word is split at its commas, and a set in brackets has been read
item by item before.  For items that need no quotes both spellings have the same members, and from the
members on the check goes the same way: it accepts both, as the same tree, or refuses both, with errors
of the same kind, unless something is out of all bounds.
-/

namespace FileQuery.Query

variable {stack : Pattern.Stack}

/-! ## 1. Outcomes that are alike -/

/-- The same result, or two refusals with errors of the same kind, or two checks that break off for the
same reason. -/
inductive Alike {α : Type} : Except QueryFault α → Except QueryFault α → Prop
  | ok (a : α) : Alike (.ok a) (.ok a)
  | illTyped {e e' : TypeError} : e.cause.kind = e'.cause.kind →
      Alike (.error (.illTyped e)) (.error (.illTyped e'))
  | brokenDown (b : Breakdown) : Alike (.error (.brokenDown b)) (.error (.brokenDown b))

namespace Alike

variable {α β : Type}

theorem bind {x y : Except QueryFault α} {f g : α → Except QueryFault β} (h : Alike x y)
    (hf : ∀ a, x = .ok a → Alike (f a) (g a)) : Alike (x >>= f) (y >>= g) := by
  cases h with
  | ok a => exact hf a rfl
  | illTyped hkind => exact .illTyped hkind
  | brokenDown b => exact .brokenDown b

theorem map {x y : Except QueryFault α} (h : Alike x y) (f : α → β) : Alike (x.map f) (y.map f) := by
  cases h with
  | ok a => exact .ok (f a)
  | illTyped hkind => exact .illTyped hkind
  | brokenDown b => exact .brokenDown b

theorem mapM {f g : α → Except QueryFault β} (h : ∀ a, Alike (f a) (g a)) :
    ∀ xs : List α, Alike (xs.mapM f) (xs.mapM g)
  | [] => .ok []
  | x :: xs => by
    rw [List.mapM_cons, List.mapM_cons]
    exact (h x).bind fun y _ => (mapM h xs).bind fun ys _ => .ok (y :: ys)

theorem refuseValue (value value' : RawValue) {cause cause' : TypeCause}
    (h : cause.kind = cause'.kind) :
    Alike (refuseValue value cause : Except QueryFault α) (Query.refuseValue value' cause') :=
  .illTyped h

end Alike

/-! ## 2. The check sees the members -/

section members

variable {value value' : RawValue} {clock : Clock}

theorem alike_acceptLiteral {α : Type} (use : ValueUse) (text : String)
    (r : Except LiteralFault α) :
    Alike (acceptLiteral use value text r) (acceptLiteral use value' text r) := by
  unfold acceptLiteral
  cases r with
  | ok x => exact .ok x
  | error fault =>
    dsimp only
    split
    · exact .refuseValue _ _ rfl
    · exact .brokenDown _

theorem alike_acceptMatcher (r : Except Document.MatcherFault Document.Matcher) :
    Alike (acceptMatcher value r) (acceptMatcher value' r) := by
  unfold acceptMatcher
  cases r with
  | ok m => exact .ok m
  | error fault =>
    dsimp only
    split
    · exact .brokenDown _
    · exact .refuseValue _ _ rfl

theorem alike_checkFileType (text : String) :
    Alike (checkFileType value text) (checkFileType value' text) := by
  unfold checkFileType
  split
  · exact .ok _
  · exact .illTyped rfl

theorem alike_checkOperator {c c' : RawComparison} (h : c.operator = c'.operator) (family : Family)
    (selector : String) :
    Alike (checkOperator c family selector) (checkOperator c' family selector) := by
  unfold checkOperator
  rw [h]
  dsimp only
  split
  · exact .ok _
  · exact .illTyped rfl

theorem alike_setMembers (h : value.texts .member = value'.texts .member) :
    Alike (setMembers value) (setMembers value') := by
  rw [setMembers_eq, setMembers_eq, h]
  split
  · exact .refuseValue _ _ rfl
  · exact .ok _

theorem checkForm_member (value : RawValue) (remedy : String) :
    checkForm .member value remedy = .ok () :=
  checkForm_ok_iff.2 (.inr rfl)

/-- The reading of a value for membership depends on its members only. -/
theorem alike_checkValue (h : value.texts .member = value'.texts .member) {selector : Selector}
    (hfamily : selector.family ≠ .temporal) :
    Alike (checkValue stack clock selector .member value)
      (checkValue stack clock selector .member value') := by
  have hmembers := alike_setMembers h
  -- the form of the value matters for the other operators only
  have hvalue : ∀ v : RawValue, checkValue stack clock selector .member v =
      checkFamily stack clock selector .member v := fun v => by
    show (checkForm .member v (selector.id ++ " in " ++ v.text) >>= fun _ =>
      checkFamily stack clock selector .member v) = _
    rw [checkForm_member]
    rfl
  rw [hvalue, hvalue]
  unfold checkFamily
  cases hcase : selector.family with
  | temporal => exact absurd hcase hfamily
  | string => exact hmembers.bind fun _ _ => .ok _
  | numeric =>
    exact hmembers.bind fun items _ =>
      (Alike.mapM (fun text => alike_acceptLiteral .number text _) items).bind fun _ _ => .ok _
  | enum =>
    exact hmembers.bind fun items _ =>
      (Alike.mapM alike_checkFileType items).bind fun _ _ => .ok _
  | content | structured => exact .refuseValue _ _ rfl

end members

/-- Comparisons for membership whose values have the same members. -/
structure RawComparison.SameMembers (c c' : RawComparison) : Prop where
  operator : c.operator = "in"
  operator' : c'.operator = "in"
  texts : c.value.texts .member = c'.value.texts .member

section predicates

variable {c c' : RawComparison} {clock : Clock} {selector : String} {position position' : Nat}

theorem lower_in : Text.lower "in" = "in" := by with_unfolding_all rfl

/-- The families that know the word `in` take it for membership. -/
theorem member_of_lookup_in {family : Family} {op : Operator}
    (hop : (operatorTable family).lookup (Text.lower "in") = some op) :
    op = .member ∧ family ≠ .temporal := by
  rw [lower_in, lookup_member] at hop
  split at hop
  · cases hop
  · next hknown =>
    cases hop
    exact ⟨rfl, fun htemporal => hknown (.inl htemporal)⟩

theorem RawComparison.SameMembers.member (h : c.SameMembers c') {family : Family} {name : String}
    {op : Operator} (hop : checkOperator c family name = .ok op) :
    op = .member ∧ family ≠ .temporal :=
  member_of_lookup_in (by rw [← h.operator]; exact checkOperator_ok_iff.1 hop)

theorem alike_checkComparison (h : c.SameMembers c') (front : String) (format : Document.Format)
    (path : Document.Path) :
    Alike (checkComparison stack front format path c) (checkComparison stack front format path c') := by
  have hoperator : Alike (checkOperator c .structured (Text.lower front))
      (checkOperator c' .structured (Text.lower front)) :=
    alike_checkOperator (h.operator.trans h.operator'.symm) _ _
  refine hoperator.bind fun op hop => ?_
  obtain ⟨rfl, -⟩ := h.member hop
  rw [checkForm_member, checkForm_member]
  -- the condition is made from the members alone
  exact (alike_setMembers h.texts).bind fun items _ =>
    (alike_acceptMatcher _).bind fun _ _ => .ok _

theorem alike_checkDocument (h : c.SameMembers c') :
    Alike (checkDocument stack ⟨selector, position, some c⟩)
      (checkDocument stack ⟨selector, position', some c'⟩) := by
  rw [checkDocument_eq, checkDocument_eq]
  have hformat : ∀ front, Alike (checkFormat ⟨selector, position, some c⟩ front)
      (checkFormat ⟨selector, position', some c'⟩ front) := by
    intro front
    unfold checkFormat
    split
    · exact .ok _
    · exact .illTyped rfl
  have hpath : ∀ front path, Alike (checkPath ⟨selector, position, some c⟩ front path)
      (checkPath ⟨selector, position', some c'⟩ front path) := by
    intro front path
    unfold checkPath
    split
    · exact .ok _
    · exact .illTyped rfl
    · exact .brokenDown _
  exact (hformat _).bind fun format _ => (hpath _ _).bind fun path _ =>
    alike_checkComparison h _ format path

/-- A predicate for membership is checked alike whatever its set looks like. -/
theorem alike_checkPredicate (h : c.SameMembers c') :
    Alike (checkPredicate stack clock ⟨selector, position, some c⟩)
      (checkPredicate stack clock ⟨selector, position', some c'⟩) := by
  unfold checkPredicate
  dsimp only
  split
  · exact alike_checkDocument h
  · split
    · exact .illTyped rfl
    · refine (alike_checkOperator (h.operator.trans h.operator'.symm) _ _).bind fun op hop => ?_
      obtain ⟨rfl, htemporal⟩ := h.member hop
      exact (alike_checkValue h.texts htemporal).bind fun _ _ => .ok _

/-- What is out of all bounds in a predicate for membership: the index of a path, or a size that comes
after readable ones. -/
inductive Exceeds (selector : String) (items : List String) : Breakdown → Prop
  | index {format : Document.Format} {fault : Number.IntegerFault} :
      selector.toList.contains ':' = true →
      formatTable.lookup (Text.lower (splitColon selector).1) = some format →
      Document.Path.read (splitColon selector).2 = .error (.index fault) →
      Exceeds selector items (.index fault)
  | size {before after : List String} {text : String} :
      selector.toList.contains ':' = false →
      selectorTable.lookup (Text.lower selector) = some .size → items = before ++ text :: after →
      (∀ t ∈ before, ∃ n, readSize t = .ok n) → IsHuge text →
      Exceeds selector items (.literal .sizeTooLarge)

theorem checkPredicate_in_error_iff {value : RawValue} {place : Nat} {b : Breakdown} :
    checkPredicate stack clock ⟨selector, position, some ⟨"in", place, value⟩⟩ = .error (.brokenDown b) ↔
      Exceeds selector (value.texts .member) b := by
  rw [checkPredicate_error_iff]
  constructor
  -- no other operator goes by this word, so no pattern and no moment is read
  · intro h
    cases h with
    | index hinto hpoint hbreaks =>
      refine .index hinto.colon hinto.format ?_
      rw [hinto.path]
      exact Document.read_index_iff.2 ⟨_, hpoint, hbreaks⟩
    | size hcompares htexts hbefore hhuge =>
      obtain ⟨_, hc, rfl, hop⟩ := hcompares.comparison
      cases hc
      obtain ⟨rfl, -⟩ := member_of_lookup_in hop
      exact .size hcompares.noColon hcompares.lookup htexts hbefore hhuge
    | time hcompares hfamily =>
      obtain ⟨_, hc, rfl, hop⟩ := hcompares.comparison
      cases hc
      exact absurd hfamily (member_of_lookup_in hop).2
    | pattern hcompares =>
      obtain ⟨_, hc, rfl, hop⟩ := hcompares.comparison
      cases hc
      cases (member_of_lookup_in hop).1
    | documentPattern _ _ hc hop =>
      cases hc
      cases (member_of_lookup_in hop).1
  · intro h
    cases h with
    | index hcolon hformat hread =>
      obtain ⟨rest, hpoint, hbreaks⟩ := Document.read_index_iff.1 hread
      exact .index ⟨hcolon, hformat, rfl⟩ hpoint hbreaks
    | size hcolon hselector hitems hbefore hhuge =>
      have hop : (operatorTable Selector.size.family).lookup (Text.lower "in") = some .member := by
        rw [lower_in]
        rfl
      exact .size ⟨hcolon, hselector, ⟨_, rfl, rfl, hop⟩, .inr rfl⟩ hitems hbefore hhuge

end predicates

/-! ## 3. The members of both spellings -/

def isPlainItemChar (c : Char) : Bool := c.isAlphanum || c == '.' || c == '_' || c == '-'

structure IsPlainItem (item : String) : Prop where
  ne_empty : item ≠ ""
  chars : ∀ c ∈ item.toList, isPlainItemChar c = true

def trailing (comma : Bool) : String := if comma then "," else ""

def bareSet (items : List String) (comma : Bool) : String :=
  String.intercalate "," items ++ trailing comma

def bracketedSet (items : List String) (comma : Bool) : String :=
  "[" ++ String.intercalate ", " items ++ trailing comma ++ "]"

section items

variable {c d : Char} {item : String} {items : List String} {comma : Bool}

theorem ne_of_isPlainItemChar (h : isPlainItemChar c = true) (hd : isPlainItemChar d = false) :
    c ≠ d := by
  rintro rfl
  rw [h] at hd
  cases hd

theorem isBlank_of_isPlainItemChar (h : isPlainItemChar c = true) : Text.isBlank c = false := by
  simp only [isPlainItemChar, Char.isAlphanum, Bool.or_eq_true, beq_iff_eq] at h
  rcases h with (((halpha | hdigit) | rfl) | rfl) | rfl
  · obtain ⟨hfirst, hlast⟩ := toNat_of_isAlpha halpha
    exact Text.isBlank_of_toNat (by omega) (by omega)
  · exact Text.isBlank_of_isDigit hdigit
  all_goals decide

theorem endsItem_of_isPlainItemChar (h : isPlainItemChar c = true) : endsItem c = false := by
  have hne : ∀ d, isPlainItemChar d = false → (c == d) = false :=
    fun d hd => beq_eq_false_iff_ne.2 (ne_of_isPlainItemChar h hd)
  simp only [endsItem, isSeparator, isQuote, hne ' ' rfl, hne '\t' rfl, hne '\r' rfl, hne '\n' rfl,
    hne ',' rfl, hne ']' rfl, hne '"' rfl, hne '\'' rfl, Bool.or_self]

namespace IsPlainItem

theorem comma_not_mem (h : IsPlainItem item) : ',' ∉ item.toList := by
  intro hmem
  exact absurd (h.chars _ hmem) (by decide)

theorem trim (h : IsPlainItem item) : Text.trim item.toList = item.toList :=
  Text.trim_of_forall fun c hc => isBlank_of_isPlainItemChar (h.chars c hc)

theorem isItem (h : IsPlainItem item) : IsItem item.toList item.toList := by
  have hends : item.toList.any endsItem = false :=
    List.any_eq_false.2 fun c hc => by simp [endsItem_of_isPlainItemChar (h.chars c hc)]
  cases hitem : item.toList with
  | nil => exact absurd (String.toList_eq_nil_iff.1 hitem) h.ne_empty
  | cons c s => exact isItem_of_any (hitem ▸ hends)

end IsPlainItem

theorem splitCommas_eq (item s : List Char) :
    splitCommas item s = List.splitOnPPrepend (· == ',') s item := by
  induction s generalizing item with
  | nil => rfl
  | cons c s ih => rw [splitCommas, List.splitOnPPrepend_cons_eq_if, ih, ih]; rfl

/-- The comma behind the last item stands before an empty one. -/
theorem bareSet_eq (hne : items ≠ []) (comma : Bool) :
    bareSet items comma = String.intercalate "," (items ++ if comma then [""] else []) := by
  cases comma with
  | false => simp [bareSet, trailing]
  | true =>
    rw [if_pos rfl, String.intercalate_append_of_ne_nil hne (by simp), String.intercalate_singleton]
    simp [bareSet, trailing]

/-- The members of a set without brackets are its items, with or without a comma behind them. -/
theorem splitItems_bareSet (hne : items ≠ []) (hitems : ∀ item ∈ items, IsPlainItem item)
    (comma : Bool) : splitItems (bareSet items comma) = items := by
  have hparts : splitCommas [] (bareSet items comma).toList =
      items.map String.toList ++ if comma then [[]] else [] := by
    rw [splitCommas_eq, bareSet_eq hne, String.toList_intercalate]
    refine (List.splitOn_intercalate ',' (fun s hs => ?_) (by simp [hne])).trans ?_
    · obtain ⟨part, hpart, rfl⟩ := List.mem_map.1 hs
      rcases List.mem_append.1 hpart with hitem | hempty
      · exact (hitems part hitem).comma_not_mem
      · cases comma <;> simp at hempty
        simp [hempty]
    · cases comma <;> simp
  have hkept : ((items.map String.toList).map Text.trim).filter (!·.isEmpty) =
      items.map String.toList := by
    have htrim : (items.map String.toList).map Text.trim = items.map String.toList := by
      rw [List.map_map]
      exact List.map_congr_left fun item hitem => (hitems item hitem).trim
    rw [htrim]
    refine List.filter_eq_self.2 fun s hs => ?_
    obtain ⟨item, hitem, rfl⟩ := List.mem_map.1 hs
    simpa using (hitems item hitem).ne_empty
  -- a comma at the end leaves an empty part, which is no member
  have hempty : ((if comma then [[]] else [] : List (List Char)).map Text.trim).filter
      (!·.isEmpty) = [] := by
    cases comma <;> rfl
  rw [splitItems, hparts, List.map_append, List.filter_append, hkept, hempty, List.append_nil,
    List.map_map]
  simp

theorem forall_intercalate {P : Char → Prop} {separator : List Char}
    (hseparator : ∀ c ∈ separator, P c) :
    ∀ {parts : List (List Char)}, (∀ s ∈ parts, ∀ c ∈ s, P c) → ∀ c ∈ separator.intercalate parts, P c
  | [], _ => nofun
  | [s], h => by
    rw [List.intercalate_singleton]
    exact h s List.mem_cons_self
  | s :: t :: parts, h => by
    rw [List.forall_mem_cons] at h
    have hrest := forall_intercalate hseparator h.2
    rw [List.intercalate_cons_cons, List.forall_mem_append, List.forall_mem_append]
    exact ⟨⟨h.1, hseparator⟩, hrest⟩

/-- A set without brackets is one word. -/
theorem spells_bareSet (hne : items ≠ []) (hitems : ∀ item ∈ items, IsPlainItem item)
    (comma : Bool) : Spells (bareSet items comma).toList (.word (bareSet items comma)) := by
  have hchars : ∀ c ∈ (bareSet items comma).toList, (isPlainItemChar c || c == ',') = true := by
    rw [bareSet, String.toList_append, String.toList_intercalate, List.forall_mem_append]
    refine ⟨forall_intercalate (List.all_eq_true.1 (by decide)) fun s hs c hc => ?_,
      List.all_eq_true.1 (by cases comma <;> decide)⟩
    obtain ⟨item, hitem, rfl⟩ := List.mem_map.1 hs
    rw [(hitems item hitem).chars c hc, Bool.true_or]
  cases htext : (bareSet items comma).toList with
  | nil =>
    -- no items are in an empty text
    have hsplit := splitItems_bareSet hne hitems comma
    rw [String.toList_eq_nil_iff.1 htext] at hsplit
    exact absurd hsplit.symm hne
  | cons c s =>
    rw [htext] at hchars
    have hword := spells_of_isWordChar
      (fun hbang => absurd (hchars c List.mem_cons_self) (by rw [hbang]; decide))
      fun d hd => isWordChar_of_specials (p := fun c => isPlainItemChar c || c == ',') rfl (hchars d hd)
    rwa [← htext, String.ofList_toList, htext] at hword

theorem toList_bracketedSet (items : List String) (comma : Bool) :
    (bracketedSet items comma).toList = '[' :: ([',', ' '].intercalate (items.map String.toList) ++
      ((trailing comma).toList ++ [']'])) := by
  simp [bracketedSet, String.toList_intercalate]

/-- A set with brackets has the items between them. -/
theorem spells_bracketedSet (hne : items ≠ []) (hitems : ∀ item ∈ items, IsPlainItem item)
    (comma : Bool) :
    Spells (bracketedSet items comma).toList (.set (bracketedSet items comma) items) := by
  have hitem : ∀ item ∈ items, IsItem (String.toList item) (String.toList item) :=
    fun item h => (hitems item h).isItem
  have hset : Spells _ (.set _ items) := spells_set fun position rest => by
    show scanItems [] position (([',', ' '].intercalate (items.map String.toList) ++
      ((trailing comma).toList ++ [']'])) ++ rest) = _
    -- what stands behind the last item is the bracket or a comma and the bracket
    cases comma with
    | false =>
      have hscan := scanItems_items items hne hitem [] position (.inr rfl) rest
      rw [List.append_assoc]
      refine hscan.trans ?_
      simp [trailing, Nat.add_assoc]
    | true =>
      have hscan := scanItems_items items hne hitem [] position (.inl rfl) (']' :: rest)
      simp only [beq_self_eq_true, if_true, scanItems_close] at hscan
      rw [List.append_assoc]
      refine hscan.trans ?_
      simp [trailing, Nat.add_assoc]
  rwa [← toList_bracketedSet, String.ofList_toList] at hset

end items

/-! ## 4. Queries -/

structure IsSelectorWord (word : String) : Prop where
  spells : Spells word.toList (.word word)
  plain : keywordOf? word = none

section queries

variable {selector text : String} {items : List String} {lexeme : Lexeme}

theorem isSelectorWord_of_tokenize {stop : Nat}
    (h : tokenize selector = .ok [⟨.word selector, 0⟩, ⟨.finish, stop⟩])
    (hplain : keywordOf? selector = none) : IsSelectorWord selector :=
  ⟨spells_of_scanTokens h List.mem_cons_self rfl, hplain⟩

/-- A query of a selector, an operator and a value is the check of one predicate. -/
theorem exists_parse_in (hselector : IsSelectorWord selector) (htext : Spells text.toList lexeme)
    (value : Nat → RawValue)
    (hvalue : ∀ position, Token.value? ⟨lexeme, position⟩ = some (value position)) :
    ∃ position place start, ∀ clock, parse stack clock (selector ++ " in " ++ text) =
      (checkPredicate stack clock ⟨selector, position, some ⟨"in", place, value start⟩⟩).map .pred := by
  have hin : Spells "in".toList (.word "in") :=
    spells_of_isWordChar nofun (List.all_eq_true.1 (by decide))
  have hlexes : Lexes (selector ++ " in " ++ text).toList
      ([.word selector] ++ ([.word "in"] ++ [lexeme])) := by
    have hlexes := hselector.spells.lexes.blank (hin.lexes.blank htext.lexes)
    simpa [String.toList_append] using hlexes
  obtain ⟨ts, hts, htokens⟩ := hlexes.tokenize
  -- the places of the tokens are left open, since the members do not depend on them
  generalize (selector ++ " in " ++ text).length = stop at htokens
  obtain ⟨⟨_, position⟩, us, rfl, hfirst, hrest⟩ := List.map_eq_cons_iff.1 hts
  obtain ⟨⟨_, place⟩, vs, rfl, hsecond, hlast⟩ := List.map_eq_cons_iff.1 hrest
  obtain ⟨⟨_, start⟩, rfl, hthird⟩ := List.map_eq_singleton_iff.1 hlast
  cases hfirst
  cases hsecond
  obtain rfl := hthird
  refine ⟨position, place, start, fun clock => ?_⟩
  have hpredicate : Grammar.Predicate
      ([⟨.word selector, position⟩, ⟨.word "in", place⟩, ⟨_, start⟩] ++ [⟨.finish, stop⟩])
      ⟨selector, position, some ⟨"in", place, value start⟩⟩ [⟨.finish, stop⟩] :=
    .comparison hselector.plain (by decide) (hvalue start)
  have hderives := Grammar.Disjuncts.last (.last (.primary (.predicate hpredicate)))
  have hraw := (parseRaw_of_tokenize htokens _).2
    ((ofTokens_ok_iff (ended_of_tokenize htokens) _).2 ⟨_, ⟨_, _, hderives, rfl⟩, rfl⟩)
  rw [parse_eq, hraw]
  rfl

/-- A query for membership in a set of plain items is answered alike with and without brackets, and
with and without a comma behind the last item.  It breaks off, with both spellings, just when the
index of the selector's path or the first unreadable of the items is out of all bounds. -/
theorem parse_in_alike (hselector : IsSelectorWord selector) (hne : items ≠ [])
    (hitems : ∀ item ∈ items, IsPlainItem item) (clock : Clock) (comma comma' : Bool) :
    Alike (parse stack clock (selector ++ " in " ++ bareSet items comma))
      (parse stack clock (selector ++ " in " ++ bracketedSet items comma')) ∧
    ∀ b, parse stack clock (selector ++ " in " ++ bareSet items comma) = .error (.brokenDown b) ↔
      Exceeds selector items b := by
  obtain ⟨position, place, start, hbare⟩ := exists_parse_in hselector
    (spells_bareSet hne hitems comma) (fun start => ⟨_, start, .bare⟩) fun _ => rfl
  obtain ⟨position', place', start', hbracketed⟩ := exists_parse_in hselector
    (spells_bracketedSet hne hitems comma') (fun start => ⟨_, start, .set items⟩) fun _ => rfl
  have hmembers : RawValue.texts ⟨bareSet items comma, start, .bare⟩ .member = items :=
    splitItems_bareSet hne hitems comma
  rw [hbare, hbracketed]
  refine ⟨(alike_checkPredicate ⟨rfl, rfl, hmembers⟩).map Expr.pred, fun b => ?_⟩
  rw [map_eq_error, checkPredicate_in_error_iff, hmembers]

set_option maxRecDepth 8000 in
/-- A set of sizes with a comma behind the last. -/
theorem parse_in_alike_sizes :
    let items := ["1kb", "0.5k", "1024"]
    let e : Expr := .pred ⟨.size, some .member, .numbers (asSet toString [1024, 512, 1024])⟩
    let read := parse (.ofDepth 9) ⟨.fixed 0 0, .fixed 0⟩
    IsSelectorWord "size" ∧ (∀ item ∈ items, IsPlainItem item) ∧
      read ("size" ++ " in " ++ bareSet items true) = .ok e ∧
      read ("size" ++ " in " ++ bracketedSet items false) = .ok e := by
  intro items e read
  have hselector : IsSelectorWord "size" :=
    isSelectorWord_of_tokenize (by with_unfolding_all rfl) (by decide)
  have hitems : ∀ item ∈ items, IsPlainItem item := by
    simp only [items, List.forall_mem_cons]
    exact ⟨⟨by decide, List.all_eq_true.1 (by decide)⟩,
      ⟨by decide, List.all_eq_true.1 (by decide)⟩, ⟨by decide, List.all_eq_true.1 (by decide)⟩, nofun⟩
  have hbare : read ("size" ++ " in " ++ bareSet items true) = .ok e := by
    rw [show "size" ++ " in " ++ bareSet items true = "size in 1kb,0.5k,1024," by decide]
    with_unfolding_all rfl
  have halike : Alike (read _) (read _) :=
    (parse_in_alike hselector (List.cons_ne_nil _ _) hitems _ true false).1
  refine ⟨hselector, hitems, hbare, ?_⟩
  rw [hbare] at halike
  cases hbracketed : read ("size" ++ " in " ++ bracketedSet items false) with
  | ok e' =>
    rw [hbracketed] at halike
    cases halike
    rfl
  | error fault =>
    rw [hbracketed] at halike
    cases halike

set_option maxRecDepth 8000 in
/-- A superscript two is a digit, but no index can be read from it: neither spelling has a tree or an
error of types. -/
theorem parse_in_superscript_index :
    let read := parse (.ofDepth 9) ⟨.fixed 0 0, .fixed 0⟩
    IsSelectorWord "yaml:.a[²]" ∧ IsPlainItem "x" ∧
      read ("yaml:.a[²]" ++ " in " ++ bareSet ["x"] false) =
        .error (.brokenDown (.index (.malformed "²"))) ∧
      read ("yaml:.a[²]" ++ " in " ++ bracketedSet ["x"] false) =
        .error (.brokenDown (.index (.malformed "²"))) := by
  refine ⟨isSelectorWord_of_tokenize (by with_unfolding_all rfl) (by decide),
    ⟨by decide, List.all_eq_true.1 (by decide)⟩, ?_, ?_⟩
  · rw [show "yaml:.a[²]" ++ " in " ++ bareSet ["x"] false = "yaml:.a[²] in x" by decide]
    with_unfolding_all rfl
  · rw [show "yaml:.a[²]" ++ " in " ++ bracketedSet ["x"] false = "yaml:.a[²] in [x]" by decide]
    with_unfolding_all rfl

end queries

end FileQuery.Query

import FileQuery.Proofs.Query.PathWord
import FileQuery.Proofs.Query.Sets
import FileQuery.Proofs.Query.Told
import FileQuery.Proofs.Query.Typing

/-!
# Checking what is written

The text of a value is one token.  When a value was accepted for a selector and an operator, the check
of that token gives the same value.
-/

namespace FileQuery.Query

variable {stack : Pattern.Stack}

/-! ## 1. Spellings -/

def isPlain (word : String) : Bool :=
  match word.toList with
  | [] => false
  | c :: s => (c != '!' || s.head? == some '=') && (c :: s).all isWordChar

theorem spells_of_isPlain {word : String} (h : isPlain word = true) :
    Spells word.toList (.word word) := by
  unfold isPlain at h
  split at h
  · cases h
  · next c s hword =>
    rw [Bool.and_eq_true, List.all_eq_true] at h
    have hspells := spells_of_isWordChar (c := c) (s := s) (fun hc => by simpa [hc] using h.1) h.2
    rwa [← hword, String.ofList_toList] at hspells

theorem isPlain_id (selector : Selector) : isPlain selector.id = true := by
  cases selector with
  | document format => cases format <;> decide
  | _ => decide

theorem isPlain_spelling (op : Operator) : isPlain op.spelling = true := by
  cases op <;> decide

theorem isPlain_fileType (t : FileType) : isPlain t.name = true := by
  cases t <;> decide

theorem keywordOf?_id (selector : Selector) : keywordOf? selector.id = none := by
  cases selector with
  | document format => cases format <;> decide
  | _ => decide

theorem keywordOf?_spelling (op : Operator) : keywordOf? op.spelling = none := by
  cases op <;> decide

theorem lookup_id {selector : Selector} (h : selector ∈ selectorTable.map Prod.snd) :
    selectorTable.lookup (Text.lower selector.id) = some selector := by
  revert selector
  decide +kernel

theorem lookup_spelling (family : Family) : ∀ op ∈ (operatorTable family).map Prod.snd,
    (operatorTable family).lookup (Text.lower op.spelling) = some op := by
  cases family <;> decide +kernel

theorem lookup_fileType (t : FileType) : fileTypeTable.lookup (Text.lower t.name) = some t := by
  cases t <;> decide +kernel

theorem lookup_format (format : Document.Format) :
    formatTable.lookup (Text.lower format.name) = some format := by
  cases format <;> decide +kernel

theorem isPlain_toString (n : Nat) : isPlain (toString n) = true := by
  obtain ⟨c, s, hdigits, hall⟩ := Number.exists_toDigits n
  have hbang : c ≠ '!' := Text.ne_of_isDigit (hall c List.mem_cons_self) rfl
  unfold isPlain
  simp only [toList_toString, hdigits, bne_iff_ne.2 hbang, Bool.true_or, Bool.true_and,
    List.all_eq_true]
  exact fun d hd => isWordChar_of_isDigit (hall d hd)

/-! ## 2. Values as tokens -/

def Operand.lexeme : Operand → Lexeme
  | .text s => .quoted s
  | .texts items => .set (bracketed (items.map quote)) items
  | .number n => .word (toString n)
  | .numbers items => .set (bracketed (items.map toString)) (items.map toString)
  | .fileType t => .word t.name
  | .fileTypes items => .set (bracketed (items.map FileType.name)) (items.map FileType.name)
  | .moment m => .quoted m.iso
  | .pattern p => .quoted p.source
  | .content m => .quoted m.text
  | .document m => .word m.selectorText

theorem endsItem_of_isDigit {c : Char} (h : c.isDigit = true) : endsItem c = false := by
  have hword := isWordChar_of_isDigit h
  simp only [isWordChar, Bool.not_eq_true', Bool.or_eq_false_iff] at hword
  simp [endsItem, hword, Text.ne_of_isDigit h (d := ',') rfl, Text.ne_of_isDigit h (d := ']') rfl]

theorem isItem_toString (n : Nat) : IsItem (toString n).toList (toString n).toList := by
  obtain ⟨c, digits, hdigits, hall⟩ := Number.exists_toDigits n
  rw [toList_toString, hdigits]
  refine isItem_of_any (List.any_eq_false.2 fun d hd => ?_)
  simp [endsItem_of_isDigit (hall d hd)]

theorem isItem_fileType (t : FileType) : IsItem t.name.toList t.name.toList := by
  cases t <;> exact isItem_of_any rfl

theorem spells_render (operand : Operand) : Spells operand.render.toList operand.lexeme := by
  cases operand with
  | text s => exact spells_quote s
  | texts items =>
    have hset : Spells (bracketed (items.map quote)).toList
        (.set (bracketed (items.map quote)) (items.map id)) :=
      spells_bracketed fun s _ => isItem_quote s
    rwa [List.map_id] at hset
  | number n => exact spells_of_isPlain (isPlain_toString n)
  | numbers items => exact spells_bracketed fun n _ => isItem_toString n
  | fileType t => exact spells_of_isPlain (isPlain_fileType t)
  | fileTypes items => exact spells_bracketed fun t _ => isItem_fileType t
  | moment m => exact spells_quote m.iso
  | pattern p => exact spells_quote p.source
  | content m => exact spells_quote m.text
  | document m => exact spells_selectorText m

/-! ## 3. Values -/

/-- The token of a value is a value that the operator may have, and it is checked to what the text of
this value tells. -/
def Operand.Rechecks (op : Operator) (check : RawValue → Except QueryFault Operand)
    (operand : Operand) : Prop :=
  ∀ position, ∃ value, Token.value? ⟨operand.lexeme, position⟩ = some value ∧
    (∀ remedy, checkForm op value remedy = .ok ()) ∧ check value = .ok operand.reread

/-- The members of a set in brackets are those that it was written with. -/
theorem setMembers_of_set {text : String} {position : Nat} {items : List String}
    (h : items ≠ []) : setMembers ⟨text, position, .set items⟩ = .ok items := by
  simp [setMembers, h]

theorem ne_nil_of_setMembers {value : RawValue} {items : List String}
    (h : setMembers value = .ok items) : items ≠ [] := by
  unfold setMembers at h
  dsimp only at h
  split at h <;>
  · split at h
    · cases h
    · next hne =>
      cases h
      exact fun hnil => hne (by rw [hnil]; rfl)

section values

variable {clock : Clock} {op : Operator} {value : RawValue} {operand : Operand}

theorem source_of_ofRegex {text : String} {p : Pattern} (h : Pattern.ofRegex stack text = .ok p) :
    p.source = text := by
  unfold Pattern.ofRegex at h
  split at h
  · obtain ⟨node, -, rfl⟩ := map_eq_ok.1 h
    rfl
  · cases h

theorem acceptPattern_ok {α : Type} {x : α} {r : Except Pattern.Fault α} :
    acceptPattern value r = .ok x ↔ r = .ok x := by
  cases r with
  | ok y => simp [acceptPattern]
  | error fault =>
    simp only [acceptPattern]
    split <;> simp [refuseValue]

theorem rechecks_checkText (h : checkText stack op value = .ok operand) :
    operand.Rechecks op (checkText stack op) := by
  intro position
  cases op with
  | member =>
    obtain ⟨items, hitems, h⟩ := bind_eq_ok.1 h
    cases h
    have hne : asSet quote items ≠ [] := asSet_ne_nil (ne_nil_of_setMembers hitems)
    refine ⟨_, rfl, fun _ => rfl, bind_eq_ok.2 ⟨_, setMembers_of_set hne, ?_⟩⟩
    rw [asSet_asSet]
    rfl
  | matching =>
    obtain ⟨p, hp, h⟩ := bind_eq_ok.1 h
    cases h
    rw [acceptPattern_ok] at hp
    -- a pattern keeps its source, and the same source is compiled again
    refine ⟨_, rfl, fun _ => rfl, bind_eq_ok.2 ⟨p, acceptPattern_ok.2 ?_, rfl⟩⟩
    rwa [← source_of_ofRegex hp] at hp
  | glob =>
    cases h
    exact ⟨_, rfl, fun _ => rfl, rfl⟩
  | _ =>
    cases h
    exact ⟨_, rfl, fun _ => rfl, rfl⟩

theorem acceptLiteral_ok {α : Type} {use : ValueUse} {text : String} {x : α}
    {r : Except LiteralFault α} : acceptLiteral use value text r = .ok x ↔ r = .ok x := by
  cases r with
  | ok y => simp [acceptLiteral]
  | error fault =>
    simp only [acceptLiteral]
    split <;> simp [refuseValue]

def Operand.isWritable : Operand → Bool
  | .number n => Number.isWritable n
  | .numbers items => items.all fun n => Number.isWritable n
  | _ => true

/-- The members of a set are read again from the texts that they are written with. -/
theorem exists_remembers {α : Type} [BEq α] [LawfulBEq α] (name : α → String)
    (read : RawValue → String → Except QueryFault α) {texts : List String} {items : List α}
    (htexts : setMembers value = .ok texts) (hitems : texts.mapM (read value) = .ok items)
    (hagain : ∀ value, ∀ x ∈ asSet name items, read value (name x) = .ok x) (position : Nat) :
    ∃ value', Token.value? ⟨.set (bracketed ((asSet name items).map name))
        ((asSet name items).map name), position⟩ = some value' ∧
      (∀ remedy, checkForm .member value' remedy = .ok ()) ∧
      (do (← setMembers value').mapM (read value')) = .ok (asSet name items) := by
  have hlength := (exists_of_mapM hitems).1
  have hne : items ≠ [] := by
    rintro rfl
    exact ne_nil_of_setMembers htexts (List.length_eq_zero_iff.1 hlength.symm)
  have hnames : (asSet name items).map name ≠ [] := by
    rw [Ne, List.map_eq_nil_iff]
    exact asSet_ne_nil hne
  exact ⟨_, rfl, fun _ => rfl, bind_eq_ok.2 ⟨_, setMembers_of_set hnames,
    mapM_map_ok fun x hx => hagain _ x hx⟩⟩

theorem rechecks_checkNumber {read : String → Except LiteralFault Nat}
    (hread : ∀ text n, read text = .ok n → Number.isWritable n = true →
      read (toString n) = .ok n)
    (h : checkNumber read op value = .ok operand) (hwritable : operand.isWritable = true) :
    operand.Rechecks op (checkNumber read op) := by
  intro position
  cases op with
  | member =>
    obtain ⟨texts, htexts, h⟩ := bind_eq_ok.1 h
    obtain ⟨numbers, hnumbers, h⟩ := bind_eq_ok.1 h
    cases h
    -- every member was read from some text, so its digits are read as the same number
    have hagain : ∀ value, ∀ n ∈ asSet toString numbers,
        acceptLiteral .number value (toString n) (read (toString n)) = .ok n := by
      intro value n hn
      obtain ⟨text, -, htext⟩ := (exists_of_mapM hnumbers).2 n (mem_asSet.1 hn)
      exact acceptLiteral_ok.2
        (hread text n (acceptLiteral_ok.1 htext) (List.all_eq_true.1 hwritable n hn))
    obtain ⟨value', hvalue, hform, hmembers⟩ := exists_remembers toString
      (fun value text => acceptLiteral .number value text (read text)) htexts hnumbers hagain position
    obtain ⟨texts', htexts', hmembers⟩ := bind_eq_ok.1 hmembers
    refine ⟨value', hvalue, hform, bind_eq_ok.2 ⟨texts', htexts', bind_eq_ok.2 ⟨_, hmembers, ?_⟩⟩⟩
    rw [asSet_asSet]
    rfl
  | _ =>
    obtain ⟨n, hn, h⟩ := bind_eq_ok.1 h
    cases h
    rw [acceptLiteral_ok] at hn
    exact ⟨_, rfl, fun _ => rfl, bind_eq_ok.2 ⟨n, acceptLiteral_ok.2 (hread _ _ hn hwritable), rfl⟩⟩

theorem checkFileType_name (t : FileType) : checkFileType value t.name = .ok t := by
  rw [checkFileType, lookup_fileType]

theorem rechecks_checkKind (h : checkKind op value = .ok operand) :
    operand.Rechecks op (checkKind op) := by
  intro position
  cases op with
  | member =>
    obtain ⟨texts, htexts, h⟩ := bind_eq_ok.1 h
    obtain ⟨types, htypes, h⟩ := bind_eq_ok.1 h
    cases h
    obtain ⟨value', hvalue, hform, hmembers⟩ := exists_remembers FileType.name
      checkFileType htexts htypes (fun _ t _ => checkFileType_name t) position
    obtain ⟨texts', htexts', hmembers⟩ := bind_eq_ok.1 hmembers
    refine ⟨value', hvalue, hform, bind_eq_ok.2 ⟨texts', htexts', bind_eq_ok.2 ⟨_, hmembers, ?_⟩⟩⟩
    rw [asSet_asSet]
    rfl
  | _ =>
    obtain ⟨t, ht, h⟩ := bind_eq_ok.1 h
    cases h
    exact ⟨_, rfl, fun _ => rfl, bind_eq_ok.2 ⟨t, checkFileType_name t, rfl⟩⟩

theorem compile_text {text : String} {m : Content.Matcher}
    (h : Content.Matcher.compile stack op text = .ok m) :
    Content.Matcher.compile stack op m.text = .ok m := by
  unfold Content.Matcher.compile at h
  split at h
  · cases h
    rfl
  · obtain ⟨p, hp, rfl⟩ := map_eq_ok.1 (mapError_eq_ok.1 h)
    show ((Pattern.ofRegex stack p.source).map Content.Matcher.line).mapError _ = _
    rw [source_of_ofRegex hp, hp]
    rfl
  · cases h
    rfl
  · cases h

theorem rechecks_checkContent (h : checkContent stack op value = .ok operand) :
    operand.Rechecks op (checkContent stack op) := by
  intro position
  unfold checkContent at h
  split at h
  · next m hm =>
    cases h
    refine ⟨_, rfl, fun _ => rfl, ?_⟩
    simp only [checkContent, compile_text hm, Operand.reread]
  · rw [acceptPattern_ok] at h
    cases h
  · cases h

def checkTime (clock : Clock) (value : RawValue) : Except QueryFault Operand := do
  return .moment (← acceptLiteral .time value value.text (readMoment clock value.text))

theorem rechecks_checkTime {m : Calendar.PlacedMoment} (hm : m.IsWritable) :
    Operand.Rechecks op (checkTime clock) (.moment m) := by
  intro position
  exact ⟨_, rfl, fun _ => rfl,
    bind_eq_ok.2 ⟨_, acceptLiteral_ok.2 (readMoment_iso hm clock), rfl⟩⟩

/-- A value that was accepted is accepted again, whatever the clock says. -/
theorem rechecks_checkValue {selector : Selector} (clock' : Clock)
    (h : checkValue stack clock selector op value = .ok operand)
    (hwritable : operand.isWritable = true) (position : Nat) :
    ∃ value', Token.value? ⟨operand.lexeme, position⟩ = some value' ∧
      checkValue stack clock' selector op value' = .ok operand.reread := by
  obtain ⟨_, -, h⟩ := bind_eq_ok.1 h
  -- one family decides which check is made; the form of the value is accepted in all of them
  suffices hagain : ∃ check, operand.Rechecks op check ∧
      ∀ value', checkValue stack clock' selector op value' =
      (do checkForm op value' (selector.id ++ " in " ++ value'.text); check value') by
    obtain ⟨check, hcheck, heq⟩ := hagain
    obtain ⟨value', hvalue, hform, hoperand⟩ := hcheck position
    exact ⟨value', hvalue, (heq value').trans (bind_eq_ok.2 ⟨(), hform _, hoperand⟩)⟩
  unfold checkValue
  cases hfamily : selector.family with
  | string =>
    rw [hfamily] at h
    exact ⟨_, rechecks_checkText h, fun _ => rfl⟩
  | numeric =>
    rw [hfamily] at h
    refine ⟨_, rechecks_checkNumber (fun text n hread hn => ?_) h hwritable, fun _ => rfl⟩
    split at hread
    · next hsize =>
      rw [if_pos hsize]
      exact readSize_toString (isRounded_of_readSize hread) hn
    · next hsize =>
      rw [if_neg hsize]
      exact readCount_toString hn
  | temporal =>
    rw [hfamily] at h
    obtain ⟨m, hm, h⟩ := bind_eq_ok.1 h
    cases h
    exact ⟨checkTime clock', rechecks_checkTime (isWritable_of_readMoment (acceptLiteral_ok.1 hm)),
      fun _ => rfl⟩
  | enum =>
    rw [hfamily] at h
    exact ⟨_, rechecks_checkKind h, fun _ => rfl⟩
  | content | structured =>
    rw [hfamily] at h
    exact ⟨_, rechecks_checkContent h, fun _ => rfl⟩

end values

/-! ## 4. Conditions on documents -/

theorem raw_of_read {text : String} {quoted : Bool} {l : Document.Literal}
    (h : Document.Literal.read text quoted = .ok l) : l.raw = text ∧ l.quoted = quoted := by
  unfold Document.Literal.read at h
  split at h
  · next hquoted =>
    cases h
    exact ⟨rfl, hquoted.symm⟩
  · next hquoted =>
    obtain ⟨_, -, rfl⟩ := map_eq_ok.1 h
    exact ⟨rfl, (Bool.eq_false_iff.2 hquoted).symm⟩

section conditions

variable {format : Document.Format} {path : Document.Path} {op : Operator} {text : String}
  {quoted : Bool} {items : List String} {m : Document.Matcher}

theorem compile_member (h : Document.Matcher.compile stack format path (some .member) text quoted items =
    .ok m) : ∃ members, m = ⟨format, path, .member members⟩ ∧ members ≠ [] ∧
    ∀ text quoted, Document.Matcher.compile stack format path (some .member) text quoted
      (members.map Document.Literal.raw) = .ok m := by
  obtain ⟨members, hmembers, h⟩ := bind_eq_ok.1 h
  split at h
  · cases h
  · next hne =>
    cases h
    refine ⟨members, rfl, fun hnil => hne (by rw [hnil]; rfl), fun text quoted => ?_⟩
    refine bind_eq_ok.2 ⟨members, mapM_map_ok fun l hl => ?_, ?_⟩
    · obtain ⟨item, -, hitem⟩ := (exists_of_mapM hmembers).2 l hl
      rwa [(raw_of_read (mapError_eq_ok.1 hitem)).1]
    · rw [if_neg hne]
      rfl

/-- A condition with one literal has the operator that it was asked for, and is written with the
literal as it was read. -/
theorem compile_literal (hop : op ≠ .member)
    (h : Document.Matcher.compile stack format path (some op) text quoted items = .ok m) :
    m.operator? = some op ∧
      conditionText m.condition = some (if quoted then quote text else text) := by
  unfold Document.Matcher.compile at h
  split at h
  · next heq => cases heq
  · next heq =>
    cases heq
    exact absurd rfl hop
  · next heq =>
    cases heq
    obtain ⟨l, hl, hm⟩ := bind_eq_ok.1 h
    -- a literal remembers the text it was read from
    obtain ⟨rfl, rfl⟩ := raw_of_read (mapError_eq_ok.1 hl)
    obtain ⟨_, -, hm⟩ := bind_eq_ok.1 hm
    split at hm
    · next hmatching =>
      obtain ⟨p, -, hm⟩ := bind_eq_ok.1 hm
      cases hm
      exact ⟨congrArg some hmatching.symm, rfl⟩
    · cases hm
      exact ⟨rfl, rfl⟩

end conditions

/-- Only membership takes a set. -/
theorem form_of_checkForm {op : Operator} {value : RawValue} {remedy : String} (hop : op ≠ .member)
    (h : checkForm op value remedy = .ok ()) : value.form = .bare ∨ value.form = .quoted := by
  unfold checkForm at h
  split at h
  · rw [if_neg hop] at h
    cases h
  · next hset =>
    cases hvalue : value.form with
    | bare => exact .inl rfl
    | quoted => exact .inr rfl
    | set items => exact absurd hvalue (hset items)

def checkCondition (stack : Pattern.Stack) (format : Document.Format) (path : Document.Path)
    (op : Operator) (value : RawValue) : Except QueryFault Document.Matcher := do
  checkForm op value "in [a, b]"
  let items ← membersFor op value
  acceptMatcher value
    (Document.Matcher.compile stack format path (some op) value.text (value.form == .quoted) items)

theorem checkComparison_ok {front : String} {format : Document.Format} {path : Document.Path}
    {c : RawComparison} {p : Predicate} : checkComparison stack front format path c = .ok p ↔
    ∃ op m, checkOperator c .structured (Text.lower front) = .ok op ∧
      checkCondition stack format path op c.value = .ok m ∧
      p = ⟨.document format, some op, .document m⟩ := by
  constructor
  · intro h
    obtain ⟨op, hop, h⟩ := bind_eq_ok.1 h
    obtain ⟨_, hform, h⟩ := bind_eq_ok.1 h
    obtain ⟨items, hitems, h⟩ := bind_eq_ok.1 h
    obtain ⟨m, hm, h⟩ := bind_eq_ok.1 h
    cases h
    exact ⟨op, m, hop, bind_eq_ok.2 ⟨_, hform, bind_eq_ok.2 ⟨items, hitems, hm⟩⟩, rfl⟩
  · rintro ⟨op, m, hop, hm, rfl⟩
    obtain ⟨_, hform, hm⟩ := bind_eq_ok.1 hm
    obtain ⟨items, hitems, hm⟩ := bind_eq_ok.1 hm
    exact bind_eq_ok.2 ⟨op, hop, bind_eq_ok.2 ⟨_, hform, bind_eq_ok.2 ⟨items, hitems,
      bind_eq_ok.2 ⟨m, hm, rfl⟩⟩⟩⟩

theorem acceptMatcher_ok {value : RawValue} {m : Document.Matcher}
    {r : Except Document.MatcherFault Document.Matcher} :
    acceptMatcher value r = .ok m ↔ r = .ok m := by
  cases r with
  | ok m' => simp [acceptMatcher]
  | error fault =>
    simp only [acceptMatcher]
    split <;> simp [refuseValue]

/-- A condition that was accepted is accepted again.  A bare literal is written as it stood in the
query, so it has to be a word there. -/
theorem exists_recheckCondition {format : Document.Format} {path : Document.Path} {op : Operator}
    {value : RawValue} {m : Document.Matcher}
    (hword : value.form = .bare → Spells value.text.toList (.word value.text))
    (h : checkCondition stack format path op value = .ok m) :
    m.format = format ∧ m.path = path ∧ m.operator? = some op ∧
      ∃ text l, conditionText m.condition = some text ∧ Spells text.toList l ∧
        ∀ position, ∃ value', Token.value? ⟨l, position⟩ = some value' ∧
          checkCondition stack format path op value' = .ok m := by
  obtain ⟨_, hform, h⟩ := bind_eq_ok.1 h
  obtain ⟨items, hitems, h⟩ := bind_eq_ok.1 h
  rw [acceptMatcher_ok] at h
  obtain ⟨hformat, hpath⟩ := frame_of_compile h
  refine ⟨hformat, hpath, ?_⟩
  by_cases hop : op = .member
  -- members are written as a set in quotes, any other literal as it stood in the query
  · subst hop
    obtain ⟨members, rfl, hne, hagain⟩ := compile_member h
    have hraws : members.map Document.Literal.raw ≠ [] := by rwa [Ne, List.map_eq_nil_iff]
    refine ⟨rfl, _, _, rfl, spells_bracketed fun l _ => isItem_quote (Document.Literal.raw l),
      fun position => ⟨_, rfl, ?_⟩⟩
    exact bind_eq_ok.2 ⟨(), rfl, bind_eq_ok.2 ⟨_, setMembers_of_set hraws,
      acceptMatcher_ok.2 (hagain _ _)⟩⟩
  · obtain ⟨hoperator, htext⟩ := compile_literal hop h
    have hagain : ∀ position,
        checkCondition stack format path op ⟨value.text, position, value.form⟩ = .ok m := by
      intro position
      have hitems' : membersFor op ⟨value.text, position, value.form⟩ = .ok items := by
        rw [membersFor, if_neg hop] at hitems ⊢
        exact hitems
      have hform' : checkForm op ⟨value.text, position, value.form⟩ "in [a, b]" = .ok () := by
        rcases form_of_checkForm hop hform with hvalue | hvalue <;> rw [checkForm, hvalue]
      exact bind_eq_ok.2 ⟨(), hform', bind_eq_ok.2 ⟨items, hitems', acceptMatcher_ok.2 h⟩⟩
    rcases form_of_checkForm hop hform with hvalue | hvalue
    · rw [hvalue] at htext hagain
      exact ⟨hoperator, _, _, htext, hword hvalue, fun position => ⟨_, rfl, hagain position⟩⟩
    · rw [hvalue] at htext hagain
      exact ⟨hoperator, _, _, htext, spells_quote value.text,
        fun position => ⟨_, rfl, hagain position⟩⟩

end FileQuery.Query

import FileQuery.Proofs.Query.Parsing
import FileQuery.Proofs.Query.Rereading

/-!
# Queries and their canonical texts

Reading undoes printing, but for what the texts of moments leave out.  Every tree that is read from a
query is normal and all its predicates can be read back from their texts; a normal tree of such
predicates is read back as a whole, and what it is read back to does not depend on the time.
-/

namespace FileQuery.Query

variable {stack : Pattern.Stack}

/-! ## 1. Reading -/

theorem exists_tokens_of_parse {clock : Clock} {query : String} {e : Expr}
    (h : parse stack clock query = .ok e) : ∃ ts, tokenize query = .ok ts := by
  rw [parse_eq] at h
  split at h
  · cases h
  · next raw hraw =>
    obtain ⟨ts, hts, -⟩ := bind_eq_ok.1 hraw
    exact ⟨ts, hts⟩

/-- A query is read by deriving a tree from its tokens and checking that tree. -/
theorem parse_ok_iff {query : String} {ts : List Token} (hts : tokenize query = .ok ts)
    (clock : Clock) (e : Expr) : parse stack clock query = .ok e ↔
      ∃ plain, Grammar.Derives ts plain ∧ plain.flat.check (checkPredicate stack clock) = .ok e := by
  have hderives : ∀ raw, parseRaw query = .ok raw ↔
      ∃ plain, Grammar.Derives ts plain ∧ raw = plain.flat := fun raw =>
    (parseRaw_of_tokenize hts raw).trans (ofTokens_ok_iff (ended_of_tokenize hts) raw)
  constructor
  · intro h
    rw [parse_eq] at h
    split at h
    · cases h
    · next raw hraw =>
      obtain ⟨plain, hplain, rfl⟩ := (hderives raw).1 hraw
      exact ⟨plain, hplain, h⟩
  · rintro ⟨plain, hplain, hcheck⟩
    rw [parse_eq, (hderives plain.flat).2 ⟨plain, hplain, rfl⟩]
    exact hcheck

/-- The bare values of a query are words, and words stand for themselves. -/
theorem spells_of_isFrom {query : String} {ts : List Token} (hts : tokenize query = .ok ts)
    {raw : RawPredicate} (hraw : raw.IsFrom ts) {c : RawComparison} (hc : raw.comparison = some c)
    (hbare : c.value.form = .bare) : Spells c.value.text.toList (.word c.value.text) := by
  obtain ⟨t, ht, hvalue⟩ := hraw c hc
  unfold Token.value? at hvalue
  split at hvalue
  · next word hword =>
    rw [← Option.some.inj hvalue]
    exact spells_of_scanTokens hts ht hword
  · rw [← Option.some.inj hvalue] at hbare
    cases hbare
  · rw [← Option.some.inj hvalue] at hbare
    cases hbare
  · cases hvalue

/-- What is read from a query is normal, and those of its predicates that can be written are read back
from what is written. -/
theorem normal_of_parse {clock : Clock} {query : String} {e : Expr}
    (h : parse stack clock query = .ok e) :
    e.Normal fun p => p.isWritable = true → p.Rereads stack := by
  obtain ⟨ts, hts⟩ := exists_tokens_of_parse h
  obtain ⟨plain, hplain, hcheck⟩ := (parse_ok_iff hts clock e).1 h
  refine hplain.normal.check (fun raw p hraw hp => ?_) hcheck
  exact rereads_of_checkPredicate (fun c hc => spells_of_isFrom hts hraw hc) hp

/-! ## 2. Reading what was written -/

theorem Expr.Normal.of_predicates {P Q : Predicate → Prop} {e : Expr} (h : e.Normal P)
    (hpred : ∀ p ∈ e.predicates, P p → Q p) : e.Normal Q := by
  induction h with
  | @pred p hp => exact .pred (hpred p List.mem_cons_self hp)
  | not _ ih => exact .not (ih hpred)
  | and hlength _ hne ih =>
    exact .and hlength
      (fun e he => ih e he fun p hp => hpred p (mem_predicatesOf.2 ⟨e, he, hp⟩)) hne
  | or hlength _ hne ih =>
    exact .or hlength
      (fun e he => ih e he fun p hp => hpred p (mem_predicatesOf.2 ⟨e, he, hp⟩)) hne

theorem Expr.Rereads.parse_text {e : Expr} (h : e.Rereads stack) (clock : Clock) :
    parse stack clock e.text = .ok e.reread := by
  obtain ⟨ls, hlexes, hread⟩ := h.whole
  obtain ⟨ts, hts, hscan⟩ := hlexes _ _ _ .nil (scanTokens_nil (0 + e.text.toList.length))
  rw [List.append_nil] at hscan
  have hends : EndsOperand [⟨.finish, 0 + e.text.toList.length⟩] := by
    simp [EndsOperand, Token.isPlainWord]
  obtain ⟨raw, ⟨es, hes, rfl⟩, hcheck⟩ := hread clock ts _ hts hends
  exact (parse_ok_iff hscan clock e.reread).2 ⟨_, ⟨es, _, hes, rfl⟩, hcheck⟩

theorem Expr.canonical_eq_ok {e : Expr} {text : String} (h : e.canonical = .ok text) :
    text = e.text ∧ ∀ p ∈ e.predicates, p.isWritable = true := by
  unfold Expr.canonical at h
  split at h
  · next hwritable =>
    cases h
    exact ⟨rfl, List.all_eq_true.1 hwritable⟩
  · cases h

theorem parse_reread {clock : Clock} {query text : String} {e : Expr}
    (h : parse stack clock query = .ok e) (htext : e.canonical = .ok text) (clock' : Clock) :
    parse stack clock' text = .ok e.reread := by
  obtain ⟨rfl, hwritable⟩ := Expr.canonical_eq_ok htext
  -- all numbers of the tree can be written, so all its predicates are read back
  have hnormal : e.Normal (Predicate.Rereads stack) :=
    (normal_of_parse h).of_predicates fun p hp hrereads => hrereads (hwritable p hp)
  exact hnormal.rereads.parse_text clock'

/-- The canonical text of a query that was read is read, at any time, as what it tells of the tree.  That
is the tree itself just when the text tells its moments, and it has the text again when their offsets
are told. -/
theorem parse_canonical {clock : Clock} {query text : String} {e : Expr}
    (h : parse stack clock query = .ok e) (htext : e.canonical = .ok text) (clock' : Clock) :
    parse stack clock' text = .ok e.reread ∧
      (e.reread = e ↔ e.MomentsAre IsTold) ∧
      (e.MomentsAre (fun m => m.told = m.toMoment) → e.reread.canonical = .ok text) := by
  refine ⟨parse_reread h htext clock', Expr.reread_eq_iff e, fun htold => ?_⟩
  obtain ⟨rfl, -⟩ := Expr.canonical_eq_ok htext
  rw [Expr.canonical_reread htext, Expr.text_reread htold]

/-- A query with a tab, a kind in parentheses and the time of its clock, read again years later. -/
theorem parse_canonical_later :
    let noon : Clock := ⟨.fixed 63854049600000000 0, .fixed 0⟩
    let later : Clock := ⟨.fixed 73854049600000000 7200000000, .fixed 7200⟩
    let e : Expr := .and [.not (.or [.pred ⟨.name, some .contains, .text "a\tb"⟩,
      .pred ⟨.type, some .eq, .fileType .dir⟩]),
      .pred ⟨.modified, some .gt, .moment ⟨⟨63854049600000000, 0⟩, false⟩⟩]
    let text :=
      "!(name contains \"a\\tb\" || type == dir) && modified > \"2024-06-15T12:00:00+00:00\""
    parse (.ofDepth 9) noon "NOT (name has 'a\\tb' or directory) AND mtime after now" = .ok e ∧
      e.canonical = .ok text ∧ parse (.ofDepth 9) later text = .ok e := by
  intro noon later e text
  have hparse : parse (.ofDepth 9) noon "NOT (name has 'a\\tb' or directory) AND mtime after now" =
      .ok e := by
    with_unfolding_all rfl
  have htext : e.canonical = .ok text := by
    with_unfolding_all rfl
  obtain ⟨hagain, -, -⟩ := parse_canonical hparse htext later
  exact ⟨hparse, htext, hagain⟩

/-- An offset of a microsecond is written, and lost when the text is read: the tree is another one then,
with another text.  Of a time in the fold the text does not tell that it is one. -/
theorem parse_canonical_offset :
    let clock : Clock := ⟨.fixed 63854049600000000 1, .fixed 0⟩
    let e : Expr := .pred ⟨.modified, some .gt, .moment ⟨⟨63854049600000000, 1⟩, false⟩⟩
    let f : Expr := .pred ⟨.modified, some .gt, .moment ⟨⟨63854049600000000, 0⟩, false⟩⟩
    let text := "modified > \"2024-06-15T12:00:00+00:00:00.000001\""
    let berlin : Calendar.Place :=
      ⟨fun _ fold => if fold then 3600000000 else 7200000000, fun _ => by decide⟩
    let autumn : Clock := ⟨⟨63865593000000000, true, berlin, by decide⟩, .fixed 0⟩
    let e' : Expr := .pred ⟨.modified, some .gt, .moment ⟨⟨63865593000000000, 3600000000⟩, true⟩⟩
    let f' : Expr := .pred ⟨.modified, some .gt, .moment ⟨⟨63865593000000000, 3600000000⟩, false⟩⟩
    let text' := "modified > \"2024-10-27T02:30:00+01:00\""
    (parse (.ofDepth 9) clock "modified > now" = .ok e ∧ e.canonical = .ok text ∧
      parse (.ofDepth 9) clock text = .ok f ∧ f ≠ e ∧
      f.canonical = .ok "modified > \"2024-06-15T12:00:00+00:00\"") ∧
    parse (.ofDepth 9) autumn "modified > now" = .ok e' ∧ e'.canonical = .ok text' ∧
      parse (.ofDepth 9) autumn text' = .ok f' ∧ f' ≠ e' := by
  intro clock e f text berlin autumn e' f' text'
  have hparse : parse (.ofDepth 9) clock "modified > now" = .ok e := by
    with_unfolding_all rfl
  have htext : e.canonical = .ok text := by
    with_unfolding_all rfl
  have hagain : f.canonical = .ok "modified > \"2024-06-15T12:00:00+00:00\"" := by
    with_unfolding_all rfl
  have hparse' : parse (.ofDepth 9) autumn "modified > now" = .ok e' := by
    with_unfolding_all rfl
  have htext' : e'.canonical = .ok text' := by
    with_unfolding_all rfl
  exact ⟨⟨hparse, htext, parse_reread hparse htext _, by simp [f, e], hagain⟩,
    hparse', htext', parse_reread hparse' htext' _, by simp [f', e']⟩

end FileQuery.Query

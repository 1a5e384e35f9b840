import FileQuery.Proofs.Content.Streaming
import FileQuery.Proofs.Evaluate.Content
import Mathlib.Order.Bounds.Basic

/-!
# Reading no more than is needed

A pass over a stream is over after the first chunk that is no text, after which all scanners have an
answer, or after which it is stopped. For the conditions in a tree the last two are one: the tree has a
value while scanners still look, or it has one because none does. What a tree has decided by then is
what all of the stream would decide, since scanners keep their answers.
-/

namespace FileQuery.Content

/-! ## 1. Where a pass is over -/

/-- Of `length` things that are taken one by one, `n` are taken: all up to the first after which it is
over, or if there is none, all. -/
def TakesLeast (isOver : Nat → Prop) (length n : Nat) : Prop :=
  IsLeast {k | 1 ≤ k ∧ k ≤ length ∧ isOver k} n ∨
    n = length ∧ ∀ k, 1 ≤ k → k ≤ length → ¬ isOver k

namespace TakesLeast

variable {isOver isOver' : Nat → Prop} {length n : Nat}

theorem one (h : isOver 1) : TakesLeast isOver (length + 1) 1 :=
  .inl ⟨⟨Nat.le_refl 1, Nat.le_add_left 1 length, h⟩, fun _ hk => hk.1⟩

/-- If it is not over after the first thing, the others are taken as if they were alone. -/
theorem succ (h : TakesLeast isOver' length n) (hfirst : ¬ isOver 1)
    (hrest : ∀ k, 1 ≤ k → (isOver (k + 1) ↔ isOver' k)) : TakesLeast isOver (length + 1) (n + 1) := by
  -- a later place is one of the others
  have hlater : ∀ k, 1 ≤ k → isOver k → ∃ j, k = j + 1 ∧ 1 ≤ j ∧ isOver' j := by
    intro k hk hover
    match k with
    | 1 => exact absurd hover hfirst
    | j + 2 =>
      have hj : 1 ≤ j + 1 := Nat.le_add_left 1 j
      exact ⟨j + 1, rfl, hj, (hrest (j + 1) hj).1 hover⟩
  rcases h with ⟨⟨hone, hle, hover⟩, hleast⟩ | ⟨rfl, hnone⟩
  · refine .inl ⟨⟨Nat.le_add_left 1 n, Nat.succ_le_succ hle, (hrest n hone).2 hover⟩, ?_⟩
    rintro k ⟨hk, hkle, hkover⟩
    obtain ⟨j, rfl, hj, hjover⟩ := hlater k hk hkover
    exact Nat.succ_le_succ (hleast ⟨hj, Nat.le_of_succ_le_succ hkle, hjover⟩)
  · refine .inr ⟨rfl, fun k hk hkle hkover => ?_⟩
    obtain ⟨j, rfl, hj, hjover⟩ := hlater k hk hkover
    exact hnone j hj (Nat.le_of_succ_le_succ hkle) hjover

end TakesLeast

section pass

variable {ε η : Type} {limits : LineLimits} {shouldStop : List Scanner → Except η Bool}
  {fault : Option ε} {state : Text.Utf8State} {taken : Nat} {scanners : List Scanner}
  {scanned : Scanned ε}

/-- Whether a pass is over after the `n`-th chunk, by what the chunks are decoded to: that chunk is no
text, or with the texts so far all scanners are decided or the pass is stopped. -/
def OverAfter (limits : LineLimits) (shouldStop : List Scanner → Except η Bool)
    (scanners : List Scanner) (decoded : List (List Char × Option Text.Utf8Fault)) (n : Nat) :
    Prop :=
  (∃ text e, decoded[n - 1]? = some (text, some e)) ∨
    let seen := scanners.map (Scanner.feedAll limits ((decoded.take n).map Prod.fst))
    seen.all Scanner.isDecided = true ∨ shouldStop seen = .ok true

/-- The first chunk can be taken before the others. -/
theorem overAfter_succ {decoded : List (List Char × Option Text.Utf8Fault)} {text : List Char}
    {n : Nat} (hn : 1 ≤ n) :
    OverAfter limits shouldStop scanners ((text, none) :: decoded) (n + 1) ↔
      OverAfter limits shouldStop (scanners.map (Scanner.feed limits text)) decoded n := by
  obtain ⟨n, rfl⟩ := Nat.exists_eq_add_of_le' hn
  rw [OverAfter, OverAfter, List.map_map]
  rfl

/-- A pass takes no chunk after the first after which it is over. -/
theorem taken_of_scanFrom {chunks : List (List UInt8)}
    (h : scanFrom limits shouldStop fault state taken scanners chunks = .ok scanned) :
    ∃ n, scanned.taken = taken + n ∧
      TakesLeast (OverAfter limits shouldStop scanners (decodeChunks state chunks)) chunks.length
        n := by
  -- along the chunks, for all that the scanners have seen before
  induction chunks generalizing state taken scanners with
  | nil =>
    have hnone : ∀ k, 1 ≤ k → ¬ k ≤ ([] : List (List UInt8)).length := fun k hk => Nat.not_le.2 hk
    exact ⟨0, (end_of_scanFrom h).2.1, .inr ⟨rfl, fun k hk hle _ => hnone k hk hle⟩⟩
  | cons chunk rest ih =>
    cases chunkTaken h with
    | @garbled text e hdecode _ _ htaken =>
      refine ⟨1, htaken, .one (.inl ⟨text, e, ?_⟩)⟩
      rw [decodeChunks_cons_bad rest hdecode]
      rfl
    | @decided text next hdecode _ _ hall htaken =>
      refine ⟨1, htaken, .one (.inr (.inl ?_))⟩
      rw [decodeChunks_cons rest hdecode]
      show (scanners.map (Scanner.feed limits text)).all Scanner.isDecided = true
      rw [List.all_map, List.all_eq_true]
      exact fun s hs => Option.isSome_iff_exists.2 (hall s hs)
    | stopped hdecode _ hscanners hstop htaken =>
      refine ⟨1, htaken, .one (.inr (.inr ?_))⟩
      rw [decodeChunks_cons rest hdecode]
      rw [hscanners] at hstop
      exact hstop
    | @further text next hdecode hopen hrest hstop =>
      obtain ⟨n, htaken, hleast⟩ := ih hrest
      rw [decodeChunks_cons rest hdecode]
      refine ⟨n + 1, by omega, hleast.succ ?_ fun k hk => overAfter_succ hk⟩
      -- the chunk is text, some scanner is open, and the pass was not stopped
      rintro (⟨_, _, hbad⟩ | hdecided | hstopped)
      · cases hbad
      · exact Bool.false_ne_true (hopen.symm.trans hdecided)
      · cases hstop.symm.trans hstopped

end pass

end FileQuery.Content

namespace FileQuery.Query

open Content (Scanner)

variable {setting : Setting} {entity : Entity} {e : Expr}

/-! ## 2. What scanners make of a tree -/

def resultsAfter (limits : Content.LineLimits) (pieces : List (List Char)) (p : Predicate) :
    Option Bool :=
  p.contentMatcher?.bind fun m => ((Scanner.start m).feedAll limits pieces).result

def answersAfter (limits : Content.LineLimits) (chunks : List (List UInt8)) (p : Predicate) : Bool :=
  (p.contentMatcher?.map fun m => ((Scanner.start m).feedAll limits
    (Content.pieces .between chunks)).answer
      ((Text.Utf8State.between.read chunks.flatten).2 == some .between)).getD false

/-- Scanners know enough to decide a tree just when their results give it a value. -/
theorem Expr.AsksContent.isSettledBy_map (h : e.AsksContent) (see : Content.Matcher → Scanner) :
    e.isSettledBy (e.contentMatchers.map see) =
      .ok (e.kleene fun p => p.contentMatcher?.bind fun m => (see m).result).isSome := by
  obtain ⟨e', he⟩ := h.exists_withResults see
  have hvalue : e'.known? = e.kleene fun p => p.contentMatcher?.bind fun m => (see m).result := by
    rw [Expr.withResults, Expr.fold_eq_reduce] at he
    refine Expr.known?_of_reduce he fun p hp => ?_
    obtain ⟨m, hm⟩ := h p hp
    rw [answerIn_map see _ hp, hm]
    rfl
  rw [← hvalue]
  exact bind_eq_ok.2 ⟨e', he, rfl⟩

/-- For the conditions in a tree a pass is over when the tree has a value or a chunk is no text. -/
theorem Expr.AsksContent.overAfter_iff (h : e.AsksContent) (limits : Content.LineLimits)
    (decoded : List (List Char × Option Text.Utf8Fault)) (n : Nat) :
    Content.OverAfter limits e.isSettledBy (e.contentMatchers.map Scanner.start) decoded n ↔
      (e.kleene (resultsAfter limits ((decoded.take n).map Prod.fst))).isSome = true ∨
        ∃ text fault, decoded[n - 1]? = some (text, some fault) := by
  generalize hpieces : (decoded.take n).map Prod.fst = pieces
  have hsettled : e.isSettledBy
      (e.contentMatchers.map (Scanner.feedAll limits pieces ∘ Scanner.start)) =
        .ok (e.kleene (resultsAfter limits pieces)).isSome := h.isSettledBy_map _
  rw [Content.OverAfter, hpieces, List.map_map]
  dsimp only
  rw [hsettled, Except.ok.injEq, or_comm]
  refine or_congr_left (or_iff_right_of_imp fun hall => Expr.isSome_kleene fun p hp => ?_)
  -- where all scanners are decided, all predicates have a value
  obtain ⟨m, hm⟩ := h p hp
  rw [resultsAfter, hm]
  exact List.all_eq_true.1 hall _ (List.mem_map_of_mem (mem_contentMatchers hp hm))

/-! ## 3. The content decides a tree -/

theorem lift_run {α : Type} (r : Except EvaluationFault α) (frame : Frame) :
    (lift r).run frame = (r, frame) := by
  cases r <;> rfl

/-- What the content makes of a tree, and how many chunks it takes, is what a pass without a fault
tells, whatever has been found out before. -/
theorem resolveContent_run {scanned : Content.Scanned AccessFault}
    (hscan : Content.scan setting.lines e.isSettledBy (entity.content setting.config.chunkSize)
      (e.contentMatchers.map Scanner.start) = .ok scanned)
    (hfault : scanned.fault = none) (frame : Frame) :
    ((resolveContent setting entity e).run frame).1 = contentReduced setting entity e ∧
      ((resolveContent setting entity e).run frame).2.chunksRead = scanned.taken := by
  obtain ⟨scanners, taken, fault, undecodable⟩ := scanned
  cases hfault
  have hreduced : contentReduced setting entity e = e.withFinished scanners := by
    rw [contentReduced, hscan]
    rfl
  -- bytes that are no text are told of and change nothing else
  have hrun : ∃ remarks, (resolveContent setting entity e).run frame =
      (lift (e.withFinished scanners)).run
        { frame with accesses := .content :: frame.accesses, chunksRead := taken, remarks } := by
    unfold resolveContent
    dsimp only
    rw [hscan]
    cases undecodable with
    | none => exact ⟨frame.remarks, rfl⟩
    | some fault => exact ⟨.undecodable fault :: frame.remarks, rfl⟩
  obtain ⟨remarks, hrun⟩ := hrun
  rw [hrun, lift_run, hreduced]
  exact ⟨rfl, rfl⟩

/-- A condition on its own has the answer of its scanner after a whole stream. -/
theorem contentAlone_of_fault_none (hstream : (entity.content setting.config.chunkSize).fault = none)
    {p : Predicate} {m : Content.Matcher} (hm : p.contentMatcher? = some m) :
    contentAlone setting entity m =
      .ok (answersAfter setting.lines (entity.content setting.config.chunkSize).chunks p) := by
  rw [contentAlone_eq, contentOutcome, hstream, Scanner.outcome_eq_answer, answersAfter, hm]
  rfl

/-- A stream that does not break off decides a tree by the answers after all of it. -/
theorem contentReduced_eq_holds (h : e.AsksContent)
    (hstream : (entity.content setting.config.chunkSize).fault = none) :
    contentReduced setting entity e = .ok (.known (e.holds (answersAfter setting.lines
      (entity.content setting.config.chunkSize).chunks))) := by
  cases hreduced : contentReduced setting entity e with
  | error fault =>
    obtain ⟨f, hf, -⟩ := h.error_of_contentReduced hreduced
    rw [hstream] at hf
    cases hf
  | ok e' =>
    -- what an early stop has decided, it has by answers that do not change
    have hvalue : e'.kleene (fun p => some (answersAfter setting.lines
        (entity.content setting.config.chunkSize).chunks p)) = e.kleene fun p => some _ :=
      kleene_of_contentReduced hreduced fun p _ m b hm hb =>
        congrArg some (Except.ok.inj ((contentAlone_of_fault_none hstream hm).symm.trans hb))
    obtain ⟨b, hb⟩ := Option.isSome_iff_exists.1 (known_of_contentReduced hreduced)
    rw [Expr.kleene_of_known _ hb, Expr.kleene_some] at hvalue
    rw [Expr.eq_known_of_known? hb, Option.some.inj hvalue]

/-- Of a stream that does not break off as many chunks are taken as it needs until the conditions that
have an answer give the tree a value, or a chunk is no text; and the tree is decided as it is by the
answers after the whole stream. -/
theorem resolveContent_takes_least (setting : Setting) (entity : Entity) (h : e.AsksContent)
    (hstream : (entity.content setting.config.chunkSize).fault = none) (frame : Frame) :
    let chunks := (entity.content setting.config.chunkSize).chunks
    let decoded := Content.decodeChunks .between chunks
    let enough (n : Nat) : Prop :=
      (e.kleene (resultsAfter setting.lines ((decoded.take n).map Prod.fst))).isSome = true ∨
        ∃ text fault, decoded[n - 1]? = some (text, some fault)
    let run := (resolveContent setting entity e).run frame
    run.1 = .ok (.known (e.holds (answersAfter setting.lines chunks))) ∧
      (IsLeast {n | 1 ≤ n ∧ n ≤ chunks.length ∧ enough n} run.2.chunksRead ∨
        run.2.chunksRead = chunks.length ∧ ∀ n, 1 ≤ n → n ≤ chunks.length → ¬ enough n) := by
  intro chunks decoded enough run
  obtain ⟨scanned, hscan⟩ := h.exists_scan setting entity
  have hfault : scanned.fault = none := by
    rcases Content.fault_of_scanFrom hscan with hnone | hsame
    · exact hnone
    · rw [hsame, hstream]
  obtain ⟨hresult, hchunks⟩ := resolveContent_run hscan hfault frame
  refine ⟨hresult.trans (contentReduced_eq_holds h hstream), ?_⟩
  obtain ⟨n, htaken, hleast⟩ := Content.taken_of_scanFrom hscan
  -- where the pass is over, it is over for the tree
  have hover : Content.OverAfter setting.lines e.isSettledBy
      (e.contentMatchers.map Scanner.start) decoded = enough :=
    funext fun k => propext (h.overAfter_iff setting.lines decoded k)
  have hread : run.2.chunksRead = n := hchunks.trans (htaken.trans (Nat.zero_add n))
  rw [hread, ← hover]
  exact hleast

/-- With the second of three chunks the first of two operands is false, when the other is open. -/
theorem resolveContent_takes_least_two :
    let entity : Entity := {
      path := "a.txt"
      metadata := .ok { type := .file, size := some 4 }
      documents := fun _ _ => .ok []
      content := fun _ => ⟨[[120, 97], [98], [33]], none⟩ }
    let e : Expr := .and [.not (.pred ⟨.content, some .contains, .content (.contains "ab")⟩),
      .pred ⟨.content, some .eq, .content (.equals "xab!")⟩]
    e.AsksContent ∧ (entity.content ({} : Setting).config.chunkSize).fault = none ∧
      ((resolveContent {} entity e).run { expr := e }).1 = .ok (.known false) ∧
      ((resolveContent {} entity e).run { expr := e }).2.chunksRead = 2 := by
  intro entity e
  have hasks : e.AsksContent := by
    simp [e, Expr.AsksContent, Expr.predicates, predicatesOf, Predicate.contentMatcher?]
  obtain ⟨hresult, hread⟩ := resolveContent_takes_least {} entity hasks rfl { expr := e }
  refine ⟨hasks, rfl, hresult.trans (by rfl), ?_⟩
  have hdecoded : Content.decodeChunks .between [[120, 97], [98], [33]] =
      [(['x', 'a'], none), (['b'], none), (['!'], none)] := by with_unfolding_all rfl
  have hopen : e.kleene (resultsAfter ({} : Setting).lines [['x', 'a']]) = none := by
    with_unfolding_all rfl
  have hdecided :
      (e.kleene (resultsAfter ({} : Setting).lines [['x', 'a'], ['b']])).isSome = true := by
    with_unfolding_all rfl
  simp only [entity, hdecoded] at hread
  generalize ((resolveContent {} entity e).run { expr := e }).2.chunksRead = n at hread ⊢
  rcases hread with ⟨⟨hone, -, hover⟩, hleast⟩ | ⟨-, hnone⟩
  · have hle : n ≤ 2 := @hleast 2 ⟨by decide, by decide, .inl hdecided⟩
    have hne : n ≠ 1 := by
      rintro rfl
      rcases hover with hknown | ⟨_, _, hbad⟩
      · exact absurd hknown (by rw [Bool.not_eq_true]; exact congrArg Option.isSome hopen)
      · cases hbad
    omega
  · exact absurd (.inl hdecided) (hnone 2 (by decide) (by decide))

end FileQuery.Query

import FileQuery.Proofs.Evaluate.Answers

/-!
# Deciding by the content

The conditions on content in a tree share one pass, which stops as soon as the tree is decided.  What
the pass tells of a condition, as far as it tells anything, is what a single scanner tells that looks
for nothing else.
-/

namespace FileQuery.Query

open Content (Scanner)

variable {setting : Setting} {entity : Entity}

/-! ## 1. A condition on its own -/

/-- The answer where a stream that cannot be read any further counts as one in which nothing more is
found. -/
def foreseen : Except AccessFault Bool → Except EvaluationFault Bool
  | .ok b => .ok b
  | .error (.unavailable _) => .ok false
  | .error fault => .error (.access fault)

/-- Whether the content satisfies a condition: what a single scanner says after a pass of its own. -/
def contentAlone (setting : Setting) (entity : Entity) (m : Content.Matcher) :
    Except EvaluationFault Bool := do
  let scanned ← Content.scan setting.lines (fun _ => .ok false)
    (entity.content setting.config.chunkSize) [Scanner.start m]
  let scanners ← scannersLeft scanned
  return scanners.any Scanner.finish

def contentOutcome (setting : Setting) (entity : Entity) (m : Content.Matcher) :
    Except AccessFault Bool :=
  (Scanner.start m).outcome setting.lines (entity.content setting.config.chunkSize).fault .between
    (entity.content setting.config.chunkSize).chunks

theorem contentAlone_eq (setting : Setting) (entity : Entity) (m : Content.Matcher) :
    contentAlone setting entity m = foreseen (contentOutcome setting entity m) := by
  obtain ⟨scanned, hscan⟩ : ∃ scanned, Content.scan setting.lines (fun _ => .ok false)
      (entity.content setting.config.chunkSize) [Scanner.start m] =
        (.ok scanned : Except EvaluationFault (Content.Scanned AccessFault)) :=
    Content.exists_scanFrom _ _ _ _ fun _ => ⟨false, rfl⟩
  obtain ⟨see, hscanners, -, hend⟩ := Content.scanFrom_tells hscan
  have houtcome : contentOutcome setting entity m = (see (Scanner.start m)).ending scanned.fault := by
    -- this pass is never stopped, so its end tells of the scanner
    rcases hend with ⟨hstop, -⟩ | hend
    · cases hstop
    · exact hend _ List.mem_cons_self
  rw [contentAlone, hscan, houtcome]
  show (do
    let scanners ← scannersLeft scanned
    return scanners.any Scanner.finish) = _
  rw [scannersLeft, hscanners]
  cases hfault : scanned.fault with
  | none =>
    show Except.ok ((see (Scanner.start m)).finish || false) = _
    rw [Scanner.ending_none, Bool.or_false]
    rfl
  | some fault =>
    -- the stream broke off, so the one scanner had no answer yet
    have hopen := Content.undecided_of_fault hscan hfault rfl
    have hresult : (see (Scanner.start m)).result = none := by
      rw [hscanners] at hopen
      simpa [Scanner.isDecided] using hopen
    rw [Scanner.ending_some hresult]
    cases fault with
    | unavailable u =>
      show Except.ok ((see (Scanner.start m)).abort.finish || false) = _
      rw [Scanner.finish_abort, hresult]
      rfl
    | _ => rfl

/-! ## 2. Conditions that share a pass -/

/-- What scanners say that a pass has left: where one has an answer it is that of its condition on
its own, and unless the tree is decided already, so is what the others say in the end. -/
theorem scannersLeft_tell {e : Expr} {scanned : Content.Scanned AccessFault} {scanners : List Scanner}
    (hscan : Content.scan setting.lines e.isSettledBy (entity.content setting.config.chunkSize)
      (e.contentMatchers.map Scanner.start) = .ok scanned)
    (hleft : scannersLeft scanned = .ok scanners) :
    ∃ see : Content.Matcher → Scanner, scanners = e.contentMatchers.map see ∧
      (∀ m ∈ e.contentMatchers, ∀ b, (see m).result = some b →
        contentAlone setting entity m = .ok b) ∧
      (e.isSettledBy scanners = .ok true ∨ ∀ m ∈ e.contentMatchers,
        contentAlone setting entity m = .ok (see m).finish) := by
  obtain ⟨see, hscanners, hknown, hend⟩ := Content.scanFrom_tells hscan
  have hstart : ∀ m ∈ e.contentMatchers,
      Scanner.start m ∈ e.contentMatchers.map Scanner.start := fun m hm => List.mem_map_of_mem hm
  unfold scannersLeft at hleft
  split at hleft
  · next hfault =>
    cases hleft
    refine ⟨see ∘ Scanner.start, by rw [hscanners, List.map_map], ?_, ?_⟩
    · intro m _ b hb
      rw [contentAlone_eq, contentOutcome, hknown _ b hb]
      rfl
    · refine hend.imp And.left fun hend m hm => ?_
      rw [contentAlone_eq, contentOutcome, hend _ (hstart m hm), hfault, Scanner.ending_none]
      rfl
  · next u hfault =>
    cases hleft
    -- a pass that was stopped has no fault
    have hend' := hend.resolve_left fun h => by rw [hfault] at h; cases h.2
    have hfinish : ∀ m ∈ e.contentMatchers,
        contentAlone setting entity m = .ok (see (Scanner.start m)).abort.finish := by
      intro m hm
      rw [contentAlone_eq, contentOutcome, hend' _ (hstart m hm), hfault, Scanner.finish_abort]
      cases hresult : (see (Scanner.start m)).result with
      | some b => rw [Scanner.ending_of_result hresult]; rfl
      | none => rw [Scanner.ending_some hresult]; rfl
    refine ⟨fun m => (see (Scanner.start m)).abort, by rw [hscanners, List.map_map, List.map_map]; rfl,
      fun m hm b hb => ?_, .inr hfinish⟩
    rw [hfinish m hm, Scanner.finish_of_result hb]
  · cases hleft

theorem lookup_zip_map {α β : Type} [BEq α] [LawfulBEq α] {xs : List α} {x : α} (f : α → β)
    (h : x ∈ xs) : (xs.zip (xs.map f)).lookup x = some (f x) := by
  induction xs with
  | nil => cases h
  | cons y ys ih =>
    rw [List.map_cons, List.zip_cons_cons, List.lookup_cons]
    by_cases hxy : x = y
    · rw [hxy]
      simp
    · rw [show (x == y) = false from by simpa using hxy]
      exact ih (List.mem_of_ne_of_mem hxy h)

theorem mem_contentMatchers {e : Expr} {p : Predicate} {m : Content.Matcher}
    (hp : p ∈ e.predicates) (hm : p.contentMatcher? = some m) : m ∈ e.contentMatchers := by
  rw [Expr.contentMatchers, List.mem_eraseDups, List.mem_filterMap]
  exact ⟨p, hp, hm⟩

/-- Scanners answer for the conditions that they look for. -/
theorem answerIn_map {α : Type} {e : Expr} {p : Predicate} (see : Content.Matcher → Scanner)
    (answer : Scanner → α) (hp : p ∈ e.predicates) :
    answerIn e.contentMatchers (e.contentMatchers.map see) answer p =
      match p.contentMatcher? with
      | some m => .ok (answer (see m))
      | none => .error .noScanner := by
  rw [answerIn]
  cases hm : p.contentMatcher? with
  | none => rfl
  | some m =>
    rw [Option.bind_some, lookup_zip_map see (mem_contentMatchers hp hm)]

/-! ## 3. Trees of conditions on content -/

def Expr.AsksContent (e : Expr) : Prop := ∀ p ∈ e.predicates, ∃ m, p.contentMatcher? = some m

namespace Expr.AsksContent

variable {e : Expr}

theorem exists_answerIn {α : Type} (h : e.AsksContent) (see : Content.Matcher → Scanner)
    (answer : Scanner → α) : ∀ p ∈ e.predicates, ∃ a,
      answerIn e.contentMatchers (e.contentMatchers.map see) answer p = .ok a := by
  intro p hp
  obtain ⟨m, hm⟩ := h p hp
  rw [answerIn_map see answer hp, hm]
  exact ⟨_, rfl⟩

theorem exists_withResults (h : e.AsksContent) (see : Content.Matcher → Scanner) :
    ∃ e', e.withResults (e.contentMatchers.map see) = .ok e' := by
  rw [Expr.withResults, Expr.fold_eq_reduce]
  exact e.exists_reduce (h.exists_answerIn see _)

theorem exists_withFinished (h : e.AsksContent) (see : Content.Matcher → Scanner) :
    ∃ e', e.withFinished (e.contentMatchers.map see) = .ok e' := by
  obtain ⟨reduced, hreduced⟩ := h.exists_withResults see
  by_cases hknown : reduced.known?.isSome = true
  · exact ⟨reduced, bind_eq_ok.2 ⟨reduced, hreduced, by rw [if_pos hknown]; rfl⟩⟩
  · obtain ⟨e', he⟩ := e.exists_reduce (h.exists_answerIn see (some ·.finish))
    refine ⟨e', bind_eq_ok.2 ⟨reduced, hreduced, ?_⟩⟩
    rw [if_neg hknown, Expr.fold_eq_reduce]
    exact he

/-- A pass that looks for the conditions of a tree comes to an end. -/
theorem exists_scan (h : e.AsksContent) (setting : Setting) (entity : Entity) :
    ∃ scanned, Content.scan setting.lines e.isSettledBy (entity.content setting.config.chunkSize)
      (e.contentMatchers.map Scanner.start) = .ok scanned := by
  refine Content.exists_scanFrom _ _ _ _ fun see => ?_
  rw [List.map_map]
  obtain ⟨e', he⟩ := h.exists_withResults (see ∘ Scanner.start)
  exact ⟨_, bind_eq_ok.2 ⟨e', he, rfl⟩⟩

/-- The content decides such a tree unless the stream breaks off otherwise than because it is
unavailable. -/
theorem error_of_contentReduced {fault : EvaluationFault} (h : e.AsksContent)
    (hreduced : contentReduced setting entity e = .error fault) :
    ∃ f, (entity.content setting.config.chunkSize).fault = some f ∧ fault = .access f ∧
      ∀ u, f ≠ .unavailable u := by
  obtain ⟨scanned, hscan⟩ := h.exists_scan setting entity
  rw [contentReduced, hscan] at hreduced
  have hrest : scannersLeft scanned >>= e.withFinished = .error fault := hreduced
  rcases bind_eq_error.1 hrest with hleft | ⟨scanners, hleft, hfinished⟩
  · unfold scannersLeft at hleft
    split at hleft
    · cases hleft
    · cases hleft
    · next f hunforeseen hfault =>
      cases hleft
      -- the fault of a pass is the fault of its stream
      have hstream := (Content.fault_of_scanFrom hscan).resolve_left (by rw [hfault]; simp)
      exact ⟨f, by rw [← hstream, hfault], rfl, hunforeseen⟩
  · obtain ⟨see, rfl, -⟩ := scannersLeft_tell hscan hleft
    obtain ⟨e', he⟩ := h.exists_withFinished see
    rw [he] at hfinished
    cases hfinished

end Expr.AsksContent

/-! ## 4. What the content makes of a tree -/

theorem withFinished_cases {e e' : Expr} {scanners : List Scanner}
    (h : e.withFinished scanners = .ok e') :
    (e.withResults scanners = .ok e' ∧ e'.known?.isSome = true) ∨
      (e.isSettledBy scanners = .ok false ∧
        e.fold (answerIn e.contentMatchers scanners (some ·.finish)) = .ok e') := by
  obtain ⟨reduced, hreduced, h⟩ := bind_eq_ok.1 h
  split at h
  · next hknown =>
    cases h
    exact .inl ⟨hreduced, hknown⟩
  · next hopen =>
    refine .inr ⟨bind_eq_ok.2 ⟨reduced, hreduced, ?_⟩, h⟩
    rw [Bool.not_eq_true] at hopen
    rw [hopen]
    rfl

/-- The content decides a tree. -/
theorem known_of_contentReduced {e e' : Expr} (h : contentReduced setting entity e = .ok e') :
    e'.known?.isSome = true := by
  obtain ⟨scanned, hscan, h⟩ := bind_eq_ok.1 h
  obtain ⟨scanners, hleft, h⟩ := bind_eq_ok.1 h
  obtain ⟨see, rfl, -⟩ := scannersLeft_tell hscan hleft
  rcases withFinished_cases h with ⟨-, hknown⟩ | ⟨-, hfold⟩
  · exact hknown
  · rw [Expr.fold_eq_reduce] at hfold
    rcases Expr.folded_of_reduce hfold with hknown | hopen
    · exact hknown
    -- an open tree would have a predicate that its scanner left unanswered
    · obtain ⟨p, -, hp, hnone⟩ := hopen.exists_predicate
      rw [answerIn_map see _ hp] at hnone
      split at hnone <;> cases hnone

/-- The content keeps the value of a tree whose conditions have the values they have alone. -/
theorem kleene_of_contentReduced {e e' : Expr} {w : Predicate → Option Bool}
    (h : contentReduced setting entity e = .ok e')
    (hw : ∀ p ∈ e.predicates, ∀ m b, p.contentMatcher? = some m →
      contentAlone setting entity m = .ok b → w p = some b) :
    e'.kleene w = e.kleene w := by
  obtain ⟨scanned, hscan, h⟩ := bind_eq_ok.1 h
  obtain ⟨scanners, hleft, h⟩ := bind_eq_ok.1 h
  obtain ⟨see, rfl, hknown, hend⟩ := scannersLeft_tell hscan hleft
  rcases withFinished_cases h with ⟨hresults, -⟩ | ⟨hopen, hfold⟩
  · rw [Expr.withResults, Expr.fold_eq_reduce] at hresults
    refine Expr.kleene_of_reduce hresults fun p hp b hb => ?_
    rw [answerIn_map see _ hp] at hb
    split at hb
    · next m hm =>
      have hresult : (see m).result = some b := by simpa using hb
      exact hw p hp m b hm (hknown m (mem_contentMatchers hp hm) b hresult)
    · cases hb
  -- the results alone left the tree open, so the pass was not stopped
  · have hend := hend.resolve_left fun hsettled => by rw [hopen] at hsettled; cases hsettled
    rw [Expr.fold_eq_reduce] at hfold
    refine Expr.kleene_of_reduce hfold fun p hp b hb => ?_
    rw [answerIn_map see _ hp] at hb
    split at hb
    · next m hm =>
      have hfinish : (see m).finish = b := by simpa using hb
      exact hw p hp m b hm (by rw [hend m (mem_contentMatchers hp hm), hfinish])
    · cases hb

end FileQuery.Query

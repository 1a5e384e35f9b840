import FileQuery.Content.Scan
import FileQuery.Proofs.Result

/-!
# One pass for several scanners

Scanners that share a pass over a stream do not see each other: each has the answer that it has in a
pass of its own.  `Scanner.outcome` is that answer.  A shared pass may end early; then the answers
that are known are the outcomes of their scanners, and the others are open.
-/

namespace FileQuery.Content

variable {ε : Type}

/-! ## 1. The outcome of a scanner -/

/-- What a scanner answers in a pass of its own, from some place in a stream on; if the stream breaks
off before it has an answer, the fault.  Bytes that are no text end the pass. -/
def Scanner.outcome (limits : LineLimits) (fault : Option ε) (state : Text.Utf8State) (s : Scanner) :
    List (List UInt8) → Except ε Bool
  | [] =>
    match s.result, fault, state with
    | some b, _, _ => .ok b
    | none, some e, _ => .error e
    | none, none, .between => .ok s.finish
    | none, none, .inside .. => .ok false
  | chunk :: rest =>
    match s.result with
    | some b => .ok b
    | none =>
      match Text.decode state chunk with
      | (text, .ok state) => (s.feed limits text).outcome limits fault state rest
      | (text, .error _) => .ok ((s.feed limits text).result.getD false)

def Scanner.ending (fault : Option ε) (s : Scanner) : Except ε Bool :=
  match s.result, fault with
  | some b, _ => .ok b
  | none, some e => .error e
  | none, none => .ok s.finish

namespace Scanner

variable {limits : LineLimits} {fault : Option ε} {s : Scanner} {b : Bool}

theorem feed_of_result (text : List Char) (h : s.result = some b) : s.feed limits text = s := by
  rw [feed, isDecided, h]
  rfl

theorem outcome_of_result (state : Text.Utf8State) (chunks : List (List UInt8))
    (h : s.result = some b) : s.outcome limits fault state chunks = .ok b := by
  cases chunks <;> simp only [outcome, h]

theorem ending_of_result (h : s.result = some b) : s.ending fault = .ok b := by
  simp only [ending, h]

theorem finish_of_result (h : s.result = some b) : s.finish = b := by
  rw [finish, h]
  rfl

theorem ending_none (s : Scanner) : s.ending (none : Option ε) = .ok s.finish := by
  cases h : s.result with
  | some b => rw [ending_of_result h, finish_of_result h]
  | none => simp only [ending, h]

theorem ending_some {e : ε} (h : s.result = none) : s.ending (some e) = .error e := by
  simp only [ending, h]

theorem finish_abort (s : Scanner) : s.abort.finish = s.result.getD false := rfl

/-- A piece of the stream can be taken first. -/
theorem outcome_cons {state next : Text.Utf8State} {chunk : List UInt8} {text : List Char}
    (rest : List (List UInt8)) (h : Text.decode state chunk = (text, .ok next)) :
    s.outcome limits fault state (chunk :: rest) =
      (s.feed limits text).outcome limits fault next rest := by
  cases hs : s.result with
  | some b =>
    rw [feed_of_result text hs, outcome_of_result _ _ hs, outcome_of_result _ _ hs]
  | none =>
    rw [outcome, hs, h]

/-- Bytes that are no text end a pass; the text before them still counts. -/
theorem outcome_cons_bad {state : Text.Utf8State} {chunk : List UInt8} {text : List Char}
    {e : Text.Utf8Fault} (rest : List (List UInt8))
    (h : Text.decode state chunk = (text, .error e)) :
    s.outcome limits fault state (chunk :: rest) = ((s.feed limits text).abort).ending none := by
  cases hs : s.result with
  | some b =>
    rw [feed_of_result text hs, outcome_of_result _ _ hs]
    exact (ending_of_result (by rw [abort, hs]; rfl)).symm
  | none =>
    rw [outcome, hs, h]
    rfl

end Scanner

/-! ## 2. A shared pass -/

/-- What a pass tells of its scanners: they have all seen the same; known answers are outcomes, and
unless the pass was stopped early, so is what its end tells of the others. -/
def Tells (limits : LineLimits) (fault : Option ε) (state : Text.Utf8State)
    (chunks : List (List UInt8)) (scanners : List Scanner) (isStopped : Prop)
    (scanned : Scanned ε) : Prop :=
  ∃ see : Scanner → Scanner, scanned.scanners = scanners.map see ∧
    (∀ s b, (see s).result = some b → s.outcome limits fault state chunks = .ok b) ∧
    (isStopped ∧ scanned.fault = none ∨
      ∀ s ∈ scanners, s.outcome limits fault state chunks = (see s).ending scanned.fault)

section pass

variable {η : Type} {limits : LineLimits} {fault : Option ε}
  {shouldStop : List Scanner → Except η Bool} {state : Text.Utf8State} {taken : Nat}
  {scanners : List Scanner} {scanned : Scanned ε}

/-- What becomes of a pass at a chunk: that is the last that it takes, because the bytes are no text,
all scanners are decided or it is stopped, or it goes on with the chunks that are left. -/
inductive ChunkTaken (limits : LineLimits) (shouldStop : List Scanner → Except η Bool)
    (fault : Option ε) (state : Text.Utf8State) (taken : Nat) (scanners : List Scanner)
    (chunk : List UInt8) (rest : List (List UInt8)) (scanned : Scanned ε) : Prop
  | garbled {text : List Char} {e : Text.Utf8Fault} :
      Text.decode state chunk = (text, .error e) → scanned.fault = none →
      scanned.scanners = scanners.map (fun s => (s.feed limits text).abort) →
      scanned.taken = taken + 1 →
      ChunkTaken limits shouldStop fault state taken scanners chunk rest scanned
  | decided {text : List Char} {next : Text.Utf8State} :
      Text.decode state chunk = (text, .ok next) → scanned.fault = none →
      scanned.scanners = scanners.map (Scanner.feed limits text) →
      (∀ s ∈ scanners, ∃ b, (s.feed limits text).result = some b) → scanned.taken = taken + 1 →
      ChunkTaken limits shouldStop fault state taken scanners chunk rest scanned
  | stopped {text : List Char} {next : Text.Utf8State} :
      Text.decode state chunk = (text, .ok next) → scanned.fault = none →
      scanned.scanners = scanners.map (Scanner.feed limits text) →
      shouldStop scanned.scanners = .ok true → scanned.taken = taken + 1 →
      ChunkTaken limits shouldStop fault state taken scanners chunk rest scanned
  | further {text : List Char} {next : Text.Utf8State} :
      Text.decode state chunk = (text, .ok next) →
      (scanners.map (Scanner.feed limits text)).all Scanner.isDecided = false →
      scanFrom limits shouldStop fault next (taken + 1) (scanners.map (Scanner.feed limits text))
        rest = .ok scanned →
      shouldStop (scanners.map (Scanner.feed limits text)) = .ok false →
      ChunkTaken limits shouldStop fault state taken scanners chunk rest scanned

theorem chunkTaken {chunk : List UInt8} {rest : List (List UInt8)}
    (h : scanFrom limits shouldStop fault state taken scanners (chunk :: rest) = .ok scanned) :
    ChunkTaken limits shouldStop fault state taken scanners chunk rest scanned := by
  rw [scanFrom] at h
  -- a chunk that is no text, one that decides all scanners, one after which the pass is stopped, or
  -- any other
  rcases hdecode : Text.decode state chunk with ⟨text, e | next⟩
  · simp only [hdecode] at h
    cases h
    exact .garbled hdecode rfl List.map_map rfl
  · simp only [hdecode] at h
    split at h
    · next hall =>
      cases h
      refine .decided hdecode rfl rfl (fun s hs => ?_) rfl
      have hdecided : (s.feed limits text).isDecided = true :=
        List.all_eq_true.1 hall _ (List.mem_map_of_mem hs)
      exact Option.isSome_iff_exists.1 hdecided
    · next hopen =>
      obtain ⟨stop, hstop, h⟩ := bind_eq_ok.1 h
      cases stop with
      | true =>
        cases h
        exact .stopped hdecode rfl rfl hstop rfl
      | false => exact .further hdecode (by simpa using hopen) h hstop

/-- The end of a pass whose chunks are used up. -/
theorem end_of_scanFrom
    (h : scanFrom limits shouldStop fault state taken scanners [] = .ok scanned) :
    scanned.fault = fault ∧ scanned.taken = taken ∧
      scanned.scanners = if fault.isSome then scanners else finishText state scanners := by
  cases fault with
  | some e =>
    rw [scanFrom] at h
    cases h
    exact ⟨rfl, rfl, rfl⟩
  | none =>
    rw [scanFrom] at h
    cases h
    exact ⟨rfl, rfl, rfl⟩

/-- What the end of a stream tells of one scanner. -/
theorem Scanner.outcome_nil (limits : LineLimits) (fault : Option ε) (state : Text.Utf8State)
    (s : Scanner) : s.outcome limits fault state [] =
      match fault, state with
      | none, .inside .. => s.abort.ending none
      | _, _ => s.ending fault := by
  cases fault <;> cases state <;> cases hs : s.result <;>
    simp [outcome, ending, abort, hs]

theorem scanFrom_tells {chunks : List (List UInt8)}
    (h : scanFrom limits shouldStop fault state taken scanners chunks = .ok scanned) :
    Tells limits fault state chunks scanners (shouldStop scanned.scanners = .ok true) scanned := by
  -- along the chunks, for all that the scanners have seen before
  induction chunks generalizing state taken scanners with
  | nil =>
    obtain ⟨hfault, -, hscanners⟩ := end_of_scanFrom h
    -- bytes that are missing when the stream ends make the scanners give up
    obtain ⟨see, hsee, hout⟩ : ∃ see : Scanner → Scanner, scanned.scanners = scanners.map see ∧
        ∀ s : Scanner, s.outcome limits fault state [] = (see s).ending scanned.fault := by
      rw [hfault, hscanners]
      cases fault with
      | some e => exact ⟨id, (List.map_id _).symm, fun s => s.outcome_nil limits (some e) state⟩
      | none =>
        cases state with
        | between => exact ⟨id, (List.map_id _).symm, fun s => s.outcome_nil limits none .between⟩
        | inside => exact ⟨Scanner.abort, rfl, fun s => s.outcome_nil limits none (.inside ..)⟩
    refine ⟨see, hsee, fun s b hs => ?_, .inr fun s _ => hout s⟩
    rw [hout, Scanner.ending_of_result hs]
  | cons chunk rest ih =>
    cases chunkTaken h with
    | @garbled text e hdecode hfault hscanners =>
      have hout : ∀ s : Scanner, s.outcome limits fault state (chunk :: rest) =
          ((s.feed limits text).abort).ending none := fun s => s.outcome_cons_bad rest hdecode
      refine ⟨_, hscanners, fun s b hs => ?_, .inr fun s _ => ?_⟩
      · rw [hout, Scanner.ending_of_result hs]
      · rw [hout, hfault]
    | @decided text next hdecode hfault hscanners hall =>
      have hout : ∀ s : Scanner, s.outcome limits fault state (chunk :: rest) =
          (s.feed limits text).outcome limits fault next rest := fun s => s.outcome_cons rest hdecode
      refine ⟨_, hscanners, fun s b hs => ?_, .inr fun s hs => ?_⟩
      · rw [hout, Scanner.outcome_of_result _ _ hs]
      · obtain ⟨b, hb⟩ := hall s hs
        rw [hout, Scanner.outcome_of_result _ _ hb, Scanner.ending_of_result hb]
    | @stopped text next hdecode hfault hscanners hstop =>
      refine ⟨_, hscanners, fun s b hs => ?_, .inl ⟨hstop, hfault⟩⟩
      rw [s.outcome_cons rest hdecode, Scanner.outcome_of_result _ _ hs]
    | @further text next hdecode _ hrest =>
      have hout : ∀ s : Scanner, s.outcome limits fault state (chunk :: rest) =
          (s.feed limits text).outcome limits fault next rest := fun s => s.outcome_cons rest hdecode
      obtain ⟨see, hsee, hknown, hend⟩ := ih hrest
      refine ⟨fun s => see (s.feed limits text), ?_, fun s b hs => ?_, hend.imp_right ?_⟩
      · rw [hsee, List.map_map]
        rfl
      · rw [hout, hknown _ b hs]
      · intro hend s hs
        rw [hout, hend _ (List.mem_map_of_mem hs)]

/-- Where a stream breaks off, not all scanners are decided, unless they were before it began. -/
theorem undecided_of_fault {chunks : List (List UInt8)} {e : ε}
    (h : scanFrom limits shouldStop fault state taken scanners chunks = .ok scanned)
    (hfault : scanned.fault = some e) (hstart : scanners.all Scanner.isDecided = false) :
    scanned.scanners.all Scanner.isDecided = false := by
  induction chunks generalizing state taken scanners with
  | nil =>
    obtain ⟨hsame, -, hscanners⟩ := end_of_scanFrom h
    rw [hscanners, ← hsame, hfault]
    exact hstart
  | cons chunk rest ih =>
    cases chunkTaken h with
    | further _ hopen hrest => exact ih hrest hopen
    | garbled _ hnone | decided _ hnone | stopped _ hnone =>
      rw [hnone] at hfault
      cases hfault

theorem fault_of_scanFrom {chunks : List (List UInt8)}
    (h : scanFrom limits shouldStop fault state taken scanners chunks = .ok scanned) :
    scanned.fault = none ∨ scanned.fault = fault := by
  induction chunks generalizing state taken scanners with
  | nil => exact .inr (end_of_scanFrom h).1
  | cons chunk rest ih =>
    cases chunkTaken h with
    | further _ _ hrest => exact ih hrest
    | garbled _ hnone | decided _ hnone | stopped _ hnone => exact .inl hnone

/-- A pass fails only where the question whether to stop does. -/
theorem exists_scanFrom (chunks : List (List UInt8)) (state : Text.Utf8State) (taken : Nat)
    (scanners : List Scanner) (hstop : ∀ see, ∃ b, shouldStop (scanners.map see) = .ok b) :
    ∃ scanned, scanFrom limits shouldStop fault state taken scanners chunks = .ok scanned := by
  induction chunks generalizing state taken scanners with
  | nil =>
    cases fault <;> exact ⟨_, by rw [scanFrom]; rfl⟩
  | cons chunk rest ih =>
    rw [scanFrom]
    rcases Text.decode state chunk with ⟨text, _ | next⟩
    · exact ⟨_, rfl⟩
    · simp only
      split
      · exact ⟨_, rfl⟩
      · -- the question is asked of the scanners as they are after this chunk
        obtain ⟨b, hb⟩ := hstop (Scanner.feed limits text)
        cases b with
        | true => exact ⟨_, bind_eq_ok.2 ⟨true, hb, rfl⟩⟩
        | false =>
          obtain ⟨scanned, h⟩ := ih next (taken + 1) (scanners.map (Scanner.feed limits text))
            fun see => by rw [List.map_map]; exact hstop _
          exact ⟨scanned, bind_eq_ok.2 ⟨false, hb, h⟩⟩

end pass

end FileQuery.Content

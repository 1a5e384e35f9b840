import FileQuery.Proofs.Pattern.Paths

/-!
# Matching finds ways

Matching tries possibilities in order, and hands the place that each leads to on to the rest of the
match.  Whatever the order, a match is a way through the expression.  An expression that gives back
what it took finds a way with which the rest of the match succeeds, if there is one.
-/

namespace FileQuery.Pattern

/-! ## 1. Rounds -/

section rounds

variable {P : Path} {least : Nat} {greatest : Option Nat} {k : Continuation}
variable {c d : Cursor} {g h : Captures} {m : Match} {body : Matcher}
variable {L : Nat → Nat → Option Nat → Continuation}

theorem greedyLoop_succ (fuel count : Nat) (last : Option Nat) (c : Cursor) (g : Captures) :
    Matcher.greedyLoop body least greatest k (fuel + 1) count last c g =
      if count < least then body c g (Matcher.greedyLoop body least greatest k fuel (count + 1) last)
      else if allowsMore greatest count && last != some c.position then
        match body c g
            (Matcher.greedyLoop body least greatest k fuel (count + 1) (some c.position)) with
        | some m => some m
        | none => k c g
      else k c g := rfl

theorem lazyLoop_succ (fuel count : Nat) (last : Option Nat) (c : Cursor) (g : Captures) :
    Matcher.lazyLoop body least greatest k (fuel + 1) count last c g =
      if count < least then body c g (Matcher.lazyLoop body least greatest k fuel (count + 1) last)
      else
        match k c g with
        | some m => some m
        | none =>
          if allowsMore greatest count && last != some c.position then
            body c g (Matcher.lazyLoop body least greatest k fuel (count + 1) (some c.position))
          else none := rfl

theorem possessiveLoop_succ (fuel count : Nat) (last : Option Nat) (c : Cursor) (g : Captures) :
    Matcher.possessiveLoop body least greatest k (fuel + 1) count last c g =
      if count < least then
        match body c g Matcher.finish with
        | some m =>
          Matcher.possessiveLoop body least greatest k fuel (count + 1) last m.stop m.captures
        | none => none
      else if allowsMore greatest count && last != some c.position then
        match body c g Matcher.finish with
        | some m =>
          Matcher.possessiveLoop body least greatest k fuel (count + 1) (some c.position) m.stop
            m.captures
        | none => k c g
      else k c g := rfl

/-- Another round may be made if there may be one more and the one before took something. -/
theorem mayRepeat_iff {last : Option Nat} {count : Nat} :
    (allowsMore greatest count && last != some c.position) = true ↔
      allowsMore greatest count = true ∧ last ≠ some c.position := by
  rw [Bool.and_eq_true, bne_iff_ne]

/-- A matcher takes only ways. -/
def Matcher.IsSound (body : Matcher) (P : Path) : Prop :=
  ∀ c g k m, body c g k = some m → ∃ d h, P c g d h ∧ k d h = some m

/-- A matcher finds a way with which the rest of the match succeeds. -/
def Matcher.IsComplete (body : Matcher) (P : Path) : Prop :=
  ∀ c g d h k, P c g d h → (k d h).isSome = true → (body c g k).isSome = true

/-- What is matched with nothing to come after is a way to where the match stops. -/
theorem Matcher.IsSound.of_finish (hbody : body.IsSound P)
    (h : body c g Matcher.finish = some m) : P c g m.stop m.captures := by
  obtain ⟨d, i, hP, hfinish⟩ := hbody _ _ _ _ h
  cases hfinish
  exact hP

/-- What a loop finds, it finds by stopping or by making a round. -/
structure IsSoundLoop (P : Path) (least : Nat) (greatest : Option Nat) (k : Continuation)
    (L : Nat → Nat → Option Nat → Continuation) : Prop where
  zero : ∀ count last, L 0 count last = k
  succ : ∀ {fuel count last c g m}, L (fuel + 1) count last c g = some m →
    least ≤ count ∧ k c g = some m ∨
      ∃ d h, P c g d h ∧
        (count < least ∧ L fuel (count + 1) last d h = some m ∨
          least ≤ count ∧ allowsMore greatest count = true ∧ last ≠ some c.position ∧
            L fuel (count + 1) (some c.position) d h = some m)

theorem IsSoundLoop.rounds (hL : IsSoundLoop P least greatest k L) {fuel count : Nat}
    {last : Option Nat} (hfuel : least ≤ count + fuel) (h : L fuel count last c g = some m) :
    ∃ d h, Rounds P least greatest count last c g d h ∧ k d h = some m := by
  induction fuel generalizing count last c g with
  | zero =>
    rw [hL.zero] at h
    exact ⟨c, g, .stop hfuel, h⟩
  | succ fuel ih =>
    rcases hL.succ h with ⟨hcount, hk⟩ | ⟨d, g', hP, hneeded | hfurther⟩
    · exact ⟨c, g, .stop hcount, hk⟩
    · obtain ⟨hcount, hrest⟩ := hneeded
      obtain ⟨e, i, hrounds, hk⟩ := ih (by omega) hrest
      exact ⟨e, i, .needed hcount hP hrounds, hk⟩
    · obtain ⟨hcount, hmore, hlast, hrest⟩ := hfurther
      obtain ⟨e, i, hrounds, hk⟩ := ih (by omega) hrest
      exact ⟨e, i, .further hcount hmore hlast hP hrounds, hk⟩

theorem greedyLoop_isSound (hbody : body.IsSound P) :
    IsSoundLoop P least greatest k (Matcher.greedyLoop body least greatest k) where
  zero _ _ := rfl
  succ {fuel count last c g m} h := by
    rw [greedyLoop_succ] at h
    -- a round that is needed, one more round, or no round if that does not succeed
    split at h
    · next hcount =>
      obtain ⟨d, g', hP, hrest⟩ := hbody _ _ _ _ h
      exact .inr ⟨d, g', hP, .inl ⟨hcount, hrest⟩⟩
    · next hcount =>
      have hleast := Nat.le_of_not_lt hcount
      split at h
      · next hmore =>
        rw [mayRepeat_iff] at hmore
        split at h
        · next m' hround =>
          cases h
          obtain ⟨d, g', hP, hrest⟩ := hbody _ _ _ _ hround
          exact .inr ⟨d, g', hP, .inr ⟨hleast, hmore.1, hmore.2, hrest⟩⟩
        · exact .inl ⟨hleast, h⟩
      · exact .inl ⟨hleast, h⟩

theorem lazyLoop_isSound (hbody : body.IsSound P) :
    IsSoundLoop P least greatest k (Matcher.lazyLoop body least greatest k) where
  zero _ _ := rfl
  succ {fuel count last c g m} h := by
    rw [lazyLoop_succ] at h
    -- a round that is needed, no round, or one more if the rest of the match does not succeed
    split at h
    · next hcount =>
      obtain ⟨d, g', hP, hrest⟩ := hbody _ _ _ _ h
      exact .inr ⟨d, g', hP, .inl ⟨hcount, hrest⟩⟩
    · next hcount =>
      have hleast := Nat.le_of_not_lt hcount
      split at h
      · next m' hk =>
        cases h
        exact .inl ⟨hleast, hk⟩
      · split at h
        · next hmore =>
          rw [mayRepeat_iff] at hmore
          obtain ⟨d, g', hP, hrest⟩ := hbody _ _ _ _ h
          exact .inr ⟨d, g', hP, .inr ⟨hleast, hmore.1, hmore.2, hrest⟩⟩
        · cases h

theorem possessiveLoop_isSound (hbody : body.IsSound P) :
    IsSoundLoop P least greatest k (Matcher.possessiveLoop body least greatest k) where
  zero _ _ := rfl
  succ {fuel count last c g m} h := by
    rw [possessiveLoop_succ] at h
    -- a round is matched on its own, so what comes after cannot change it
    split at h
    · next hcount =>
      split at h
      · next m' hround =>
        exact .inr ⟨m'.stop, m'.captures, hbody.of_finish hround, .inl ⟨hcount, h⟩⟩
      · cases h
    · next hcount =>
      have hleast := Nat.le_of_not_lt hcount
      split at h
      · next hmore =>
        rw [mayRepeat_iff] at hmore
        split at h
        · next m' hround =>
          exact .inr ⟨m'.stop, m'.captures, hbody.of_finish hround,
            .inr ⟨hleast, hmore.1, hmore.2, h⟩⟩
        · exact .inl ⟨hleast, h⟩
      · exact .inl ⟨hleast, h⟩

theorem loop_isSound (greed : Greed) (hbody : body.IsSound P) :
    (Matcher.loop greed least greatest body).IsSound (Rounds P least greatest 0 none) := by
  intro c g k m h
  have hfuel : least ≤ 0 + (least + c.after.length + 2) := by omega
  cases greed with
  | greedy => exact (greedyLoop_isSound hbody).rounds hfuel h
  | possessive => exact (possessiveLoop_isSound hbody).rounds hfuel h
  | lazy => exact (lazyLoop_isSound hbody).rounds hfuel h

/-- A loop that gives back what the rest of the match needs. -/
structure IsCompleteLoop (P : Path) (least : Nat) (greatest : Option Nat) (k : Continuation)
    (L : Nat → Nat → Option Nat → Continuation) : Prop where
  zero : ∀ count last, L 0 count last = k
  stop : ∀ {fuel count last c g}, least ≤ count → (k c g).isSome = true →
    (L (fuel + 1) count last c g).isSome = true
  needed : ∀ {fuel count last c g d h}, count < least → P c g d h →
    (L fuel (count + 1) last d h).isSome = true → (L (fuel + 1) count last c g).isSome = true
  further : ∀ {fuel count last c g d h}, least ≤ count → allowsMore greatest count = true →
    last ≠ some c.position → P c g d h →
    (L fuel (count + 1) (some c.position) d h).isSome = true →
    (L (fuel + 1) count last c g).isSome = true

/-- Rounds are found if there is fuel for those that are needed and one for each character left. -/
theorem IsCompleteLoop.isSome (hL : IsCompleteLoop P least greatest k L)
    (hP : ∀ c g d h, P c g d h → ∃ w, c.Passes w d) {count : Nat} {last : Option Nat}
    (hrounds : Rounds P least greatest count last c g d h) (hk : (k d h).isSome = true) (fuel : Nat)
    (hfuel : least - count + c.after.length + 2 ≤ fuel ∨ least ≤ count ∧ last = some c.position) :
    (L fuel count last c g).isSome = true := by
  induction hrounds generalizing fuel with
  | stop hcount =>
    cases fuel with
    | zero => rwa [hL.zero]
    | succ fuel => exact hL.stop hcount hk
  | @needed count last c d e g h i hcount hstep _ ih =>
    have hmany := hfuel.resolve_right fun hdone => by omega
    obtain ⟨fuel, rfl⟩ : ∃ n, fuel = n + 1 := ⟨fuel - 1, by omega⟩
    obtain ⟨w, hw⟩ := hP _ _ _ _ hstep
    have hlength := hw.length
    exact hL.needed hcount hstep (ih hk fuel (.inl (by omega)))
  | @further count last c d e g h i hcount hmore hlast hstep _ ih =>
    have hmany := hfuel.resolve_right fun hdone => hlast hdone.2
    obtain ⟨fuel, rfl⟩ : ∃ n, fuel = n + 1 := ⟨fuel - 1, by omega⟩
    obtain ⟨w, hw⟩ := hP _ _ _ _ hstep
    refine hL.further hcount hmore hlast hstep (ih hk fuel ?_)
    -- a round that takes nothing is not followed by another
    cases w with
    | nil => exact .inr ⟨by omega, by rw [hw.eq_of_nil]⟩
    | cons x w =>
      have hlength := hw.length
      rw [List.length_cons] at hlength
      exact .inl (by omega)

theorem greedyLoop_isComplete (hbody : body.IsComplete P) :
    IsCompleteLoop P least greatest k (Matcher.greedyLoop body least greatest k) where
  zero _ _ := rfl
  stop {fuel count last c g} hcount hk := by
    rw [greedyLoop_succ, if_neg (Nat.not_lt_of_le hcount)]
    split
    · split
      · rfl
      · exact hk
    · exact hk
  needed hcount hstep hrest := by
    rw [greedyLoop_succ, if_pos hcount]
    exact hbody _ _ _ _ _ hstep hrest
  further {fuel count last c g d h} hcount hmore hlast hstep hrest := by
    have hround := mayRepeat_iff.2 ⟨hmore, hlast⟩
    rw [greedyLoop_succ, if_neg (Nat.not_lt_of_le hcount), if_pos hround]
    obtain ⟨m, hm⟩ := Option.isSome_iff_exists.1 (hbody _ _ _ _ _ hstep hrest)
    rw [hm]
    rfl

theorem lazyLoop_isComplete (hbody : body.IsComplete P) :
    IsCompleteLoop P least greatest k (Matcher.lazyLoop body least greatest k) where
  zero _ _ := rfl
  stop {fuel count last c g} hcount hk := by
    obtain ⟨m, hm⟩ := Option.isSome_iff_exists.1 hk
    rw [lazyLoop_succ, if_neg (Nat.not_lt_of_le hcount), hm]
    rfl
  needed hcount hstep hrest := by
    rw [lazyLoop_succ, if_pos hcount]
    exact hbody _ _ _ _ _ hstep hrest
  further {fuel count last c g d h} hcount hmore hlast hstep hrest := by
    have hround := mayRepeat_iff.2 ⟨hmore, hlast⟩
    rw [lazyLoop_succ, if_neg (Nat.not_lt_of_le hcount)]
    split
    · rfl
    · rw [if_pos hround]
      exact hbody _ _ _ _ _ hstep hrest

theorem loop_isComplete {greed : Greed} (hgreed : greed ≠ .possessive) (hbody : body.IsComplete P)
    (hP : ∀ c g d h, P c g d h → ∃ w, c.Passes w d) :
    (Matcher.loop greed least greatest body).IsComplete (Rounds P least greatest 0 none) := by
  intro c g d h k hrounds hk
  have hfuel : least - 0 + c.after.length + 2 ≤ least + c.after.length + 2 := by omega
  cases greed with
  | greedy => exact (greedyLoop_isComplete hbody).isSome hP hrounds hk _ (.inl hfuel)
  | possessive => exact absurd rfl hgreed
  | lazy => exact (lazyLoop_isComplete hbody).isSome hP hrounds hk _ (.inl hfuel)

end rounds

/-! ## 2. Matches are ways -/

section matching

variable {c : Cursor} {g : Captures} {k : Continuation}

theorem matcher_place (t : PlaceTest) : (Node.place t).matcher c g k =
    if t.holds c then k c g else none := rfl

theorem matcher_alt (a b : Node) : (Node.alt a b).matcher c g k =
    match a.matcher c g k with
    | some m => some m
    | none => b.matcher c g k := rfl

theorem matcher_backref (n : Nat) (f : Folding) : (Node.backref n f).matcher c g k =
    match g.lookup n with
    | none => none
    | some text =>
      match c.follow? f text with
      | some c => k c g
      | none => none := rfl

theorem matcher_cond (n : Nat) (yes no : Node) : (Node.cond n yes no).matcher c g k =
    if (g.lookup n).isSome then yes.matcher c g k else no.matcher c g k := rfl

theorem matcher_look (back : Nat) (negated : Bool) (body : Node) :
    (Node.look back negated body).matcher c g k =
      match c.back? back with
      | none => if negated then k c g else none
      | some start =>
        match body.matcher start g Matcher.finish with
        | some m => if negated then none else k c m.captures
        | none => if negated then k c g else none := rfl

theorem matcher_atomic (body : Node) : (Node.atomic body).matcher c g k =
    match body.matcher c g Matcher.finish with
    | some m => k m.stop m.captures
    | none => none := rfl

end matching

theorem look_isSound (back : Nat) (negated : Bool) {body : Node}
    (hbody : body.matcher.IsSound body.Takes) :
    (Node.look back negated body).matcher.IsSound (Node.look back negated body).Takes := by
  intro c g k m h
  rw [matcher_look] at h
  -- a look that is negated succeeds where it cannot go back far enough, too
  split at h
  · split at h
    · next hnegated => exact ⟨c, g, ⟨rfl, .inl ⟨hnegated, rfl⟩⟩, h⟩
    · cases h
  · next s hback =>
    split at h
    · next m' hmatch =>
      split at h
      · cases h
      · next hnegated =>
        have hway := hbody.of_finish hmatch
        exact ⟨c, m'.captures,
          ⟨rfl, .inr ⟨Bool.eq_false_iff.2 hnegated, s, m'.stop, hback, hway⟩⟩, h⟩
    · split at h
      · next hnegated => exact ⟨c, g, ⟨rfl, .inl ⟨hnegated, rfl⟩⟩, h⟩
      · cases h

/-- Whatever is matched is matched along a way. -/
theorem Node.matcher_isSound (node : Node) : node.matcher.IsSound node.Takes := by
  -- on the expression; what is handed on to the rest of the match stays open
  induction node with
  | empty => exact fun c g k m h => ⟨c, g, ⟨rfl, rfl⟩, h⟩
  | test t =>
    intro c g k m h
    rw [matcher_test] at h
    split at h
    · next d hstep => exact ⟨d, g, ⟨hstep, rfl⟩, h⟩
    · cases h
  | place t =>
    intro c g k m h
    rw [matcher_place] at h
    split at h
    · next hplace => exact ⟨c, g, ⟨hplace, rfl, rfl⟩, h⟩
    · cases h
  | seq a b iha ihb =>
    intro c g k m h
    obtain ⟨d, h', ha, hrest⟩ := iha _ _ _ _ h
    obtain ⟨e, i, hb, hk⟩ := ihb _ _ _ _ hrest
    exact ⟨e, i, ⟨d, h', ha, hb⟩, hk⟩
  | alt a b iha ihb =>
    intro c g k m h
    rw [matcher_alt] at h
    split at h
    · next m' ha =>
      cases h
      obtain ⟨d, i, hway, hk⟩ := iha _ _ _ _ ha
      exact ⟨d, i, .inl hway, hk⟩
    · obtain ⟨d, i, hway, hk⟩ := ihb _ _ _ _ h
      exact ⟨d, i, .inr hway, hk⟩
  | capture n body ih =>
    intro c g k m h
    obtain ⟨d, i, hway, hk⟩ := ih _ _ _ _ h
    exact ⟨d, _, ⟨i, hway, rfl⟩, hk⟩
  | backref n f =>
    intro c g k m h
    rw [matcher_backref] at h
    split at h
    · cases h
    · next text hlookup =>
      split at h
      · next d hfollow => exact ⟨d, g, ⟨text, hlookup, hfollow, rfl⟩, h⟩
      · cases h
  | cond n yes no ihyes ihno =>
    intro c g k m h
    rw [matcher_cond] at h
    split at h
    · next hset =>
      obtain ⟨d, i, hway, hk⟩ := ihyes _ _ _ _ h
      exact ⟨d, i, .inl ⟨hset, hway⟩, hk⟩
    · next hset =>
      obtain ⟨d, i, hway, hk⟩ := ihno _ _ _ _ h
      exact ⟨d, i, .inr ⟨Bool.eq_false_iff.2 hset, hway⟩, hk⟩
  | look back negated body ih => exact look_isSound back negated ih
  | atomic body ih =>
    intro c g k m h
    rw [matcher_atomic] at h
    split at h
    · next m' hbody => exact ⟨m'.stop, m'.captures, ih.of_finish hbody, h⟩
    · cases h
  | run greed least greatest t =>
    intro c g k m h
    obtain ⟨d, hruns, hk⟩ := run_eq_some h
    exact ⟨d, g, ⟨hruns, rfl⟩, hk⟩
  | loop greed least greatest body ih => exact loop_isSound greed ih

/-- A match leads forwards. -/
theorem Node.exists_takes_of_matchAt {node : Node} {c : Cursor} {m : Match}
    (h : node.matchAt c = some m) : ∃ g, node.Takes c [] m.stop g :=
  ⟨m.captures, node.matcher_isSound.of_finish h⟩

/-- A character that something must not follow. -/
theorem matchAt_notAhead (t : CharTest) (body : Node) (c : Cursor) :
    (Node.seq (.test t) (.look 0 true body)).matchAt c =
      match c.step? t with
      | some d => if (body.matchAt d).isSome then none else some ⟨d, []⟩
      | none => none := by
  have hseq : (Node.seq (.test t) (.look 0 true body)).matchAt c =
      (Node.test t).matcher c [] fun d g => (Node.look 0 true body).matcher d g Matcher.finish := rfl
  rw [hseq, matcher_test]
  cases c.step? t with
  | none => rfl
  | some d =>
    dsimp only
    rw [matcher_look]
    show (match body.matchAt d with
      | some m => if true then none else Matcher.finish d m.captures
      | none => if true then Matcher.finish d [] else none) = _
    cases body.matchAt d <;> rfl

/-! ## 3. Expressions that give back -/

/-- Regular expressions in the narrow sense: characters, one after another or as alternatives, and
repetitions that give back what the rest of the match needs. -/
def Node.isRegular : Node → Bool
  | .empty | .test _ => true
  | .seq a b | .alt a b => a.isRegular && b.isRegular
  | .capture _ body => body.isRegular
  | .run greed .. => greed != .possessive
  | .loop greed _ _ body => greed != .possessive && body.isRegular
  | .place _ | .backref .. | .cond .. | .look .. | .atomic _ => false

/-- Expressions without groups to remember. -/
def Node.isForgetful : Node → Bool
  | .empty | .test _ | .place _ | .backref .. | .run .. => true
  | .seq a b | .alt a b => a.isForgetful && b.isForgetful
  | .capture .. => false
  | .cond _ yes no => yes.isForgetful && no.isForgetful
  | .look _ _ body | .atomic body | .loop _ _ _ body => body.isForgetful

/-- Expressions that ask of what is around a match nothing that more text could take away: no part
gives nothing back, nothing is forbidden to stand around a place, and what has to stand there is a
regular expression in the narrow sense. -/
def Node.isLasting : Node → Bool
  | .empty | .test _ | .place _ | .backref .. | .run .. => true
  | .seq a b | .alt a b => a.isLasting && b.isLasting
  | .capture _ body => body.isLasting
  | .cond _ yes no => yes.isLasting && no.isLasting
  | .look _ negated body => !negated && body.isRegular && body.isForgetful
  | .atomic _ => false
  | .loop greed _ _ body => greed != .possessive && body.isLasting

theorem Node.isLasting_of_isRegular {node : Node} (h : node.isRegular = true) :
    node.isLasting = true := by
  induction node with
  | empty | test | run => rfl
  | seq a b iha ihb | alt a b iha ihb =>
    rw [isRegular, Bool.and_eq_true] at h
    rw [isLasting, iha h.1, ihb h.2]
    rfl
  | capture n body ih => exact ih h
  | loop greed least greatest body ih =>
    rw [isRegular, Bool.and_eq_true] at h
    rw [isLasting, h.1, ih h.2]
    rfl
  | place | backref | cond | look | atomic => cases h

theorem Rounds.eq_of_forall {P : Path} {least : Nat} {greatest : Option Nat} {count : Nat}
    {last : Option Nat} {c d : Cursor} {g h : Captures} (hP : ∀ c g d h, P c g d h → h = g)
    (hrounds : Rounds P least greatest count last c g d h) : h = g := by
  induction hrounds with
  | stop => rfl
  | needed _ hstep _ ih | further _ _ _ hstep _ ih => rw [ih, hP _ _ _ _ hstep]

/-- What the groups hold stays the same where there are none. -/
theorem Node.Takes.eq_of_isForgetful {node : Node} (hforgetful : node.isForgetful = true)
    {c d : Cursor} {g h : Captures} (hway : node.Takes c g d h) : h = g := by
  induction node generalizing c d g h with
  | empty | test => exact hway.2
  | place => exact hway.2.2
  | seq a b iha ihb =>
    rw [isForgetful, Bool.and_eq_true] at hforgetful
    obtain ⟨e, i, ha, hb⟩ := hway
    rw [ihb hforgetful.2 hb, iha hforgetful.1 ha]
  | alt a b iha ihb =>
    rw [isForgetful, Bool.and_eq_true] at hforgetful
    exact hway.elim (iha hforgetful.1) (ihb hforgetful.2)
  | capture n body => cases hforgetful
  | backref n f =>
    obtain ⟨text, -, -, h⟩ := hway
    exact h
  | cond n yes no ihyes ihno =>
    rw [isForgetful, Bool.and_eq_true] at hforgetful
    exact hway.elim (fun h => ihyes hforgetful.1 h.2) fun h => ihno hforgetful.2 h.2
  | look back negated body ih =>
    rcases hway.2 with ⟨-, h⟩ | ⟨-, s, e, -, hbody⟩
    · exact h
    · exact ih hforgetful hbody
  | atomic body ih => exact ih hforgetful hway
  | run => exact hway.2
  -- round by round
  | loop greed least greatest body ih =>
    exact Rounds.eq_of_forall (fun _ _ _ _ => ih hforgetful) hway

/-- A look that asks for something finds what it asks for, and leaves the groups as they are. -/
theorem look_isComplete (back : Nat) {body : Node} (hforgetful : body.isForgetful = true)
    (hbody : body.matcher.IsComplete body.Takes) :
    (Node.look back false body).matcher.IsComplete (Node.look back false body).Takes := by
  rintro c g d h k ⟨rfl, hway⟩ hk
  obtain ⟨-, s, e, hback, hthis⟩ := hway.resolve_left fun h => nomatch h.1
  -- another way may be found than this one, but it leaves the groups as they are, too
  obtain ⟨m, hm⟩ := Option.isSome_iff_exists.1 (hbody _ _ _ _ Matcher.finish hthis rfl)
  have hfound := body.matcher_isSound.of_finish hm
  rw [matcher_look, hback]
  dsimp only
  rw [hm]
  show (k d m.captures).isSome = true
  rw [hfound.eq_of_isForgetful hforgetful, ← hthis.eq_of_isForgetful hforgetful]
  exact hk

/-- A way with which the rest of the match succeeds is found. -/
theorem Node.matcher_isComplete {node : Node} (hlasting : node.isLasting = true) :
    node.matcher.IsComplete node.Takes := by
  induction node with
  | empty =>
    rintro c g d h k ⟨rfl, rfl⟩ hk
    exact hk
  | test t =>
    rintro c g d h k ⟨hstep, rfl⟩ hk
    rw [matcher_test, hstep]
    exact hk
  | place t =>
    rintro c g d h k ⟨hplace, rfl, rfl⟩ hk
    rw [matcher_place, if_pos hplace]
    exact hk
  | seq a b iha ihb =>
    rw [isLasting, Bool.and_eq_true] at hlasting
    rintro c g e i k ⟨d, h, ha, hb⟩ hk
    exact iha hlasting.1 _ _ _ _ _ ha (ihb hlasting.2 _ _ _ _ _ hb hk)
  | alt a b iha ihb =>
    rw [isLasting, Bool.and_eq_true] at hlasting
    intro c g d h k hway hk
    rw [matcher_alt]
    split
    · rfl
    · -- the first alternative has found nothing, so the way is not through it
      next hnone =>
      rcases hway with ha | hb
      · have hfound := iha hlasting.1 _ _ _ _ _ ha hk
        rw [hnone] at hfound
        cases hfound
      · exact ihb hlasting.2 _ _ _ _ _ hb hk
  | capture n body ih =>
    rintro c g d i k ⟨h, hbody, rfl⟩ hk
    exact ih hlasting _ _ _ _ _ hbody hk
  | backref n f =>
    rintro c g d h k ⟨text, hlookup, hfollow, rfl⟩ hk
    rw [matcher_backref, hlookup]
    dsimp only
    rw [hfollow]
    exact hk
  | cond n yes no ihyes ihno =>
    rw [isLasting, Bool.and_eq_true] at hlasting
    intro c g d h k hway hk
    rw [matcher_cond]
    rcases hway with ⟨hset, hyes⟩ | ⟨hunset, hno⟩
    · rw [if_pos hset]
      exact ihyes hlasting.1 _ _ _ _ _ hyes hk
    · rw [if_neg (Bool.eq_false_iff.1 hunset)]
      exact ihno hlasting.2 _ _ _ _ _ hno hk
  | look back negated body ih =>
    rw [isLasting, Bool.and_eq_true, Bool.and_eq_true, Bool.not_eq_true'] at hlasting
    obtain ⟨⟨hnegated, hregular⟩, hforgetful⟩ := hlasting
    rw [hnegated]
    exact look_isComplete back hforgetful (ih (isLasting_of_isRegular hregular))
  | atomic => cases hlasting
  | run greed least greatest t =>
    rintro c g d h k ⟨hruns, rfl⟩ hk
    exact isSome_run hruns hk
  | loop greed least greatest body ih =>
    rw [isLasting, Bool.and_eq_true, bne_iff_ne] at hlasting
    exact loop_isComplete hlasting.1 (ih hlasting.2) fun _ _ _ _ => Node.Takes.passes

/-! ## 4. Searches -/

def Cursor.between (a b : List Char) : Cursor := ⟨a.reverse, a.length, b⟩

section searching

variable {node : Node} {p : Pattern} {m : Match} {skip : Nat} {a b c s : List Char}

/-- A search stops at the first place where there is a match. -/
theorem searchFrom_eq_some (h : node.searchFrom a.reverse a.length s = some m) :
    ∃ b c, s = b ++ c ∧ node.matchAt (.between (a ++ b) c) = some m ∧
      ∀ b' c', s = b' ++ c' → b'.length < b.length →
        node.matchAt (.between (a ++ b') c') = none := by
  induction s generalizing a with
  | nil =>
    refine ⟨[], [], rfl, ?_, fun b' c' _ hlength => absurd hlength (Nat.not_lt_zero _)⟩
    rw [List.append_nil]
    exact h
  | cons x s ih =>
    rw [Node.searchFrom] at h
    split at h
    · next m' hmatch =>
      refine ⟨[], x :: s, rfl, ?_, fun b' c' _ hlength => absurd hlength (Nat.not_lt_zero _)⟩
      rw [List.append_nil]
      exact hmatch.trans h
    · next hnone =>
      have hnext : node.searchFrom (a ++ [x]).reverse (a ++ [x]).length s = some m := by
        rw [List.reverse_append, List.length_append]
        exact h
      obtain ⟨b, c, rfl, hmatch, hfirst⟩ := ih hnext
      refine ⟨x :: b, c, rfl, by rwa [List.append_cons], fun b' c' hsame hlength => ?_⟩
      -- the places before it are this one, and those after it
      cases b' with
      | nil =>
        rw [List.append_nil, ← List.nil_append c', ← hsame]
        exact hnone
      | cons y b' =>
        obtain ⟨rfl, hrest⟩ := List.cons.inj hsame
        rw [List.append_cons]
        exact hfirst b' c' hrest (Nat.lt_of_succ_lt_succ hlength)

theorem isSome_searchFrom (hs : s = b ++ c)
    (h : (node.matchAt (.between (a ++ b) c)).isSome = true) :
    (node.searchFrom a.reverse a.length s).isSome = true := by
  induction b generalizing a s with
  | nil =>
    rw [List.append_nil] at h
    rw [List.nil_append] at hs
    cases c with
    | nil =>
      rw [hs]
      exact h
    | cons x c =>
      obtain ⟨m, hm⟩ := Option.isSome_iff_exists.1 h
      have hm' : node.matchAt ⟨a.reverse, a.length, x :: c⟩ = some m := hm
      rw [hs, Node.searchFrom, hm']
      rfl
  | cons x b ih =>
    rw [hs, List.cons_append, Node.searchFrom]
    -- an earlier match will do as well
    split
    · rfl
    · rw [List.append_cons] at h
      have hnext := ih (a := a ++ [x]) rfl h
      rw [List.reverse_append, List.length_append] at hnext
      exact hnext

theorem search_eq_searchFrom (hskip : skip ≤ s.length) : p.search skip s =
    p.node.searchFrom (s.take skip).reverse (s.take skip).length (s.drop skip) := by
  rw [List.length_take_of_le hskip]
  rfl

/-- A search reports the match at the first place, not among the first `skip`, where there is one. -/
theorem search_eq_some (hskip : skip ≤ s.length) (h : p.search skip s = some m) :
    ∃ a b, s = a ++ b ∧ skip ≤ a.length ∧ p.node.matchAt (.between a b) = some m ∧
      ∀ a' b', s = a' ++ b' → skip ≤ a'.length → a'.length < a.length →
        p.node.matchAt (.between a' b') = none := by
  rw [search_eq_searchFrom hskip] at h
  obtain ⟨b, c, hdrop, hmatch, hfirst⟩ := searchFrom_eq_some h
  have hlength : (s.take skip).length = skip := List.length_take_of_le hskip
  refine ⟨s.take skip ++ b, c, ?_, ?_, hmatch, fun a' b' hother hskip' hbefore => ?_⟩
  · rw [List.append_assoc, ← hdrop, List.take_append_drop]
  · rw [List.length_append]
    omega
  · -- what is not skipped comes after the characters that are
    have hsame : a'.take skip = s.take skip := by
      rw [hother, List.take_append_of_le_length hskip']
    have hrest : s.drop skip = a'.drop skip ++ b' := by
      rw [hother, List.drop_append_of_le_length hskip']
    have hnone := hfirst (a'.drop skip) b' hrest (by
      rw [List.length_append] at hbefore
      rw [List.length_drop]
      omega)
    rwa [← hsame, List.take_append_drop] at hnone

theorem isSome_search_of_matchAt (hs : s = a ++ b) (hskip : skip ≤ a.length)
    (h : (p.node.matchAt (.between a b)).isSome = true) : (p.search skip s).isSome = true := by
  have hlength : skip ≤ s.length := by
    rw [hs, List.length_append]
    omega
  rw [search_eq_searchFrom hlength]
  refine isSome_searchFrom (b := a.drop skip) (c := b) ?_ ?_
  · rw [hs, List.drop_append_of_le_length hskip]
  · rwa [hs, List.take_append_of_le_length hskip, List.take_append_drop]

end searching

end FileQuery.Pattern

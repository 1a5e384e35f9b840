import FileQuery.Proofs.Pattern.Literal
import Mathlib.Data.List.Induction
import Mathlib.Data.List.Infix

/-!
# Ways through an expression

A match is a way through the expression: from a place in a text, with what the groups hold there, over
some characters to another.  The ways through a run of characters are those that its matcher takes.
-/

namespace FileQuery.Pattern

/-! ## 1. Texts between places -/

/-- A text stands between two places. -/
structure Cursor.Passes (c : Cursor) (w : List Char) (d : Cursor) : Prop where
  after : c.after = w ++ d.after
  before : d.before = w.reverse ++ c.before
  position : d.position = c.position + w.length

namespace Cursor

variable {c d e : Cursor} {v w : List Char} {t : CharTest}

theorem Passes.refl (c : Cursor) : c.Passes [] c := ⟨rfl, rfl, rfl⟩

theorem Passes.trans (h : c.Passes w d) (h' : d.Passes v e) : c.Passes (w ++ v) e where
  after := by rw [h.after, h'.after, List.append_assoc]
  before := by rw [h'.before, h.before, List.reverse_append, List.append_assoc]
  position := by rw [h'.position, h.position, List.length_append, Nat.add_assoc]

theorem Passes.length (h : c.Passes w d) : c.after.length = w.length + d.after.length := by
  rw [h.after, List.length_append]

theorem Passes.isPrefix (h : c.Passes w d) : w <+: c.after := ⟨d.after, h.after.symm⟩

theorem passes_past (h : w <+: c.after) : c.Passes w (c.past w) := by
  obtain ⟨rest, hrest⟩ := h
  refine ⟨?_, rfl, rfl⟩
  show c.after = w ++ c.after.drop w.length
  rw [← hrest, List.drop_left]

/-- A text leads from a place to only one other. -/
theorem Passes.eq_past (h : c.Passes w d) : d = c.past w := by
  obtain ⟨hafter, hbefore, hposition⟩ := h
  have hdrop : d.after = c.after.drop w.length := by rw [hafter, List.drop_left]
  exact Cursor.mk.injEq .. |>.mpr ⟨hbefore, hposition, hdrop⟩

theorem Passes.eq_of_nil (h : c.Passes [] d) : d = c := h.eq_past

/-- A text in two parts is passed over part by part. -/
theorem Passes.of_append (h : c.Passes (w ++ v) e) : ∃ d, c.Passes w d ∧ d.Passes v e := by
  have hfirst : w <+: c.after := ⟨v ++ e.after, by rw [h.after, List.append_assoc]⟩
  have hpast := passes_past hfirst
  refine ⟨c.past w, hpast, ?_, ?_, ?_⟩
  · -- both rests come after the first part
    have hboth := hpast.after.symm.trans h.after
    rw [List.append_assoc] at hboth
    exact List.append_cancel_left hboth
  · show e.before = v.reverse ++ (w.reverse ++ c.before)
    rw [h.before, List.reverse_append, List.append_assoc]
  · show e.position = c.position + w.length + v.length
    rw [h.position, List.length_append, Nat.add_assoc]

theorem step?_eq_some : c.step? t = some d ↔ ∃ x, t.holds x = true ∧ c.Passes [x] d := by
  obtain ⟨before, position, after⟩ := c
  cases after with
  | nil =>
    constructor
    · intro h
      cases h
    · rintro ⟨x, -, hpass⟩
      exact absurd hpass.after.symm (List.cons_ne_nil _ _)
  | cons y rest =>
    rw [step?]
    dsimp only
    -- the next character is the only one that can be passed
    by_cases hy : t.holds y = true
    · rw [if_pos hy]
      constructor
      · intro h
        cases h
        exact ⟨y, hy, rfl, rfl, rfl⟩
      · rintro ⟨x, -, hpass⟩
        obtain ⟨rfl, hrest⟩ := List.cons.inj hpass.after
        exact congrArg some hpass.eq_past.symm
    · rw [if_neg hy]
      constructor
      · intro h
        cases h
      · rintro ⟨x, hx, hpass⟩
        obtain ⟨rfl, -⟩ := List.cons.inj hpass.after
        exact absurd hx hy

theorem step?_eq_none :
    c.step? t = none ↔ ∀ x ∈ c.after.head?, ¬ t.holds x = true := by
  obtain ⟨before, position, after⟩ := c
  cases after with
  | nil => exact iff_of_true rfl fun x hx => absurd hx (Option.not_mem_none x)
  | cons y after =>
    simp only [step?, List.head?_cons, Option.mem_some_iff, forall_eq', ite_eq_right_iff,
      reduceCtorEq, imp_false]

theorem back?_of_passes {x : Char} (h : c.Passes [x] d) : d.back? 1 = some c := by
  obtain ⟨before, position, after⟩ := c
  rw [h.eq_past, show after = x :: d.after from h.after]
  rfl

theorem passes_of_follow? {f : Folding} {text : List Char} {c d : Cursor}
    (h : c.follow? f text = some d) : ∃ w, c.Passes w d := by
  induction text generalizing c with
  | nil =>
    rw [follow?] at h
    cases h
    exact ⟨[], .refl _⟩
  | cons x text ih =>
    obtain ⟨before, position, after⟩ := c
    cases after with
    | nil => cases h
    | cons y rest =>
      rw [follow?] at h
      split at h
      · obtain ⟨w, hw⟩ := ih h
        have hy : Passes ⟨before, position, y :: rest⟩ [y] ⟨y :: before, position + 1, rest⟩ :=
          ⟨rfl, rfl, rfl⟩
        exact ⟨y :: w, hy.trans hw⟩
      · cases h

end Cursor

/-! ## 2. Ways -/

/-- Ways from a place, with what the groups hold there, to another. -/
abbrev Path := Cursor → Captures → Cursor → Captures → Prop

/-- Rounds of a repetition, where `count` have been made and `last` is where the one before began. -/
inductive Rounds (P : Path) (least : Nat) (greatest : Option Nat) : Nat → Option Nat → Path
  | stop {count : Nat} {last : Option Nat} {c : Cursor} {g : Captures} :
      least ≤ count → Rounds P least greatest count last c g c g
  | needed {count : Nat} {last : Option Nat} {c d e : Cursor} {g h i : Captures} :
      count < least → P c g d h → Rounds P least greatest (count + 1) last d h e i →
      Rounds P least greatest count last c g e i
  | further {count : Nat} {last : Option Nat} {c d e : Cursor} {g h i : Captures} :
      least ≤ count → allowsMore greatest count = true → last ≠ some c.position → P c g d h →
      Rounds P least greatest (count + 1) (some c.position) d h e i →
      Rounds P least greatest count last c g e i

/-- A run of characters that meet a condition.  One that gives nothing back goes on as long as it
can. -/
def Cursor.Runs (greed : Greed) (least : Nat) (greatest : Option Nat) (t : CharTest)
    (c d : Cursor) : Prop :=
  ∃ w, c.Passes w d ∧ (∀ x ∈ w, t.holds x = true) ∧ least ≤ w.length ∧
    (∀ n ∈ greatest, w.length ≤ n) ∧
    (greed = .possessive → greatest = some w.length ∨ d.step? t = none)

/-- The ways through an expression.  Of a part that is only looked at, and of one that gives nothing
back, this says less than the matcher does. -/
def Node.Takes : Node → Path
  | .empty => fun c g d h => d = c ∧ h = g
  | .test t => fun c g d h => c.step? t = some d ∧ h = g
  | .place t => fun c g d h => t.holds c = true ∧ d = c ∧ h = g
  | .seq a b => fun c g e i => ∃ d h, a.Takes c g d h ∧ b.Takes d h e i
  | .alt a b => fun c g d h => a.Takes c g d h ∨ b.Takes c g d h
  | .capture n body => fun c g d i => ∃ h, body.Takes c g d h ∧
      i = (n, c.after.take (d.position - c.position)) :: h
  | .backref n f => fun c g d h => ∃ text, g.lookup n = some text ∧ c.follow? f text = some d ∧ h = g
  | .cond n yes no => fun c g d h =>
      (g.lookup n).isSome = true ∧ yes.Takes c g d h ∨ (g.lookup n).isSome = false ∧ no.Takes c g d h
  | .look back negated body => fun c g d h => d = c ∧
      (negated = true ∧ h = g ∨
        negated = false ∧ ∃ s e, c.back? back = some s ∧ body.Takes s g e h)
  | .atomic body => body.Takes
  | .run greed least greatest t => fun c g d h => c.Runs greed least greatest t d ∧ h = g
  | .loop _ least greatest body => Rounds body.Takes least greatest 0 none

theorem Rounds.passes {P : Path} {least : Nat} {greatest : Option Nat} {count : Nat}
    {last : Option Nat} {c d : Cursor} {g h : Captures}
    (hP : ∀ c g d h, P c g d h → ∃ w, c.Passes w d)
    (hrounds : Rounds P least greatest count last c g d h) : ∃ w, c.Passes w d := by
  induction hrounds with
  | stop => exact ⟨[], .refl _⟩
  | needed _ hstep _ ih | further _ _ _ hstep _ ih =>
    obtain ⟨w, hw⟩ := hP _ _ _ _ hstep
    obtain ⟨v, hv⟩ := ih
    exact ⟨w ++ v, hw.trans hv⟩

/-- A way leads forwards. -/
theorem Node.Takes.passes {node : Node} {c d : Cursor} {g h : Captures} (hway : node.Takes c g d h) :
    ∃ w, c.Passes w d := by
  induction node generalizing c d g h with
  | empty =>
    obtain ⟨rfl, -⟩ := hway
    exact ⟨[], .refl _⟩
  | test t =>
    obtain ⟨x, -, hx⟩ := Cursor.step?_eq_some.1 hway.1
    exact ⟨[x], hx⟩
  | place t =>
    obtain ⟨-, rfl, -⟩ := hway
    exact ⟨[], .refl _⟩
  | seq a b iha ihb =>
    obtain ⟨e, i, ha, hb⟩ := hway
    obtain ⟨w, hw⟩ := iha ha
    obtain ⟨v, hv⟩ := ihb hb
    exact ⟨w ++ v, hw.trans hv⟩
  | alt a b iha ihb => exact hway.elim iha ihb
  | capture n body ih =>
    obtain ⟨i, hbody, -⟩ := hway
    exact ih hbody
  | backref n f =>
    obtain ⟨text, -, hfollow, -⟩ := hway
    exact Cursor.passes_of_follow? hfollow
  | cond n yes no ihyes ihno => exact hway.elim (fun h => ihyes h.2) fun h => ihno h.2
  | look back negated body =>
    obtain ⟨rfl, -⟩ := hway
    exact ⟨[], .refl _⟩
  | atomic body ih => exact ih hway
  | run greed least greatest t =>
    obtain ⟨⟨w, hw, -⟩, -⟩ := hway
    exact ⟨w, hw⟩
  | loop greed least greatest body ih => exact Rounds.passes (fun _ _ _ _ => ih) hway

/-! ## 3. Runs of characters -/

section runs

variable {c d e : Cursor} {g : Captures} {k : Continuation} {t : CharTest} {m : Match}
variable {u v w : List Char} {greed : Greed} {least room : Nat} {greatest : Option Nat}

def roomFor (greatest : Option Nat) (c : Cursor) : Nat :=
  match greatest with
  | none => c.after.length
  | some n => Nat.min n c.after.length

theorem le_roomFor_iff (h : c.Passes w d) :
    w.length ≤ roomFor greatest c ↔ ∀ n ∈ greatest, w.length ≤ n := by
  have hlength := h.length
  cases greatest with
  | none => exact iff_of_true (by rw [roomFor]; omega) fun n hn => nomatch hn
  | some n =>
    simp only [roomFor, Option.mem_some_iff, forall_eq']
    show w.length ≤ min n c.after.length ↔ w.length ≤ n
    omega

/-- A run has filled its room if it has its greatest length, or if no character is left. -/
theorem eq_roomFor_or_iff (h : c.Passes w d) :
    w.length = roomFor greatest c ∨ d.step? t = none ↔
      greatest = some w.length ∨ d.step? t = none := by
  have hlength := h.length
  have hnone (hafter : d.after = []) : d.step? t = none := by rw [Cursor.step?, hafter]
  -- without a greatest length only the end of the text stops the run
  cases greatest with
  | none =>
    refine ⟨fun hend => .inr ?_, fun hend => .inr (hend.resolve_left (Option.some_ne_none _).symm)⟩
    rcases hend with hroom | hstop
    · rw [roomFor] at hroom
      exact hnone (List.length_eq_zero_iff.1 (by omega))
    · exact hstop
  | some n =>
    have hroom : roomFor (some n) c = min n c.after.length := rfl
    rw [hroom, Option.some.injEq]
    constructor
    · rintro (hfull | hstop)
      · by_cases hn : n = w.length
        · exact .inl hn
        · exact .inr (hnone (List.length_eq_zero_iff.1 (by omega)))
      · exact .inr hstop
    · exact Or.imp_left fun hn => by omega

theorem skipRun_spec (t : CharTest) (room count : Nat) (c : Cursor) :
    ∃ w d, Matcher.skipRun t room count c = (count + w.length, d) ∧ c.Passes w d ∧
      (∀ x ∈ w, t.holds x = true) ∧ w.length ≤ room ∧ (w.length = room ∨ d.step? t = none) := by
  induction room generalizing count c with
  | zero => exact ⟨[], c, rfl, .refl c, List.forall_mem_nil _, Nat.le_refl 0, .inl rfl⟩
  | succ room ih =>
    rw [Matcher.skipRun]
    cases hstep : c.step? t with
    | none =>
      exact ⟨[], c, rfl, .refl c, List.forall_mem_nil _, Nat.zero_le _, .inr hstep⟩
    | some e =>
      obtain ⟨x, hx, hpass⟩ := Cursor.step?_eq_some.1 hstep
      obtain ⟨w, d, hrun, hw, hall, hlength, hend⟩ := ih (count + 1) e
      refine ⟨x :: w, d, ?_, hpass.trans hw, ?_, ?_, ?_⟩
      · show Matcher.skipRun t room (count + 1) e = _
        rw [hrun, List.length_cons, Nat.add_right_comm, Nat.add_assoc]
      · exact List.forall_mem_cons.2 ⟨hx, hall⟩
      · exact Nat.succ_le_succ hlength
      · exact hend.imp_left (congrArg Nat.succ)

/-- No run is longer than one that goes on as long as it can. -/
theorem isPrefix_of_longest (hv : v <+: c.after) (hvall : ∀ x ∈ v, t.holds x = true)
    (hvroom : v.length ≤ room) (hw : c.Passes w d) (hend : w.length = room ∨ d.step? t = none) :
    v <+: w := by
  rcases List.prefix_or_prefix_of_prefix hv hw.isPrefix with h | ⟨u, hu⟩
  · exact h
  · -- the longer run goes on with a character on which the other one stops
    cases u with
    | nil => exact ⟨[], by rw [← hu, List.append_nil, List.append_nil]⟩
    | cons x u =>
      rcases hend with hroom | hstop
      · rw [← hu, List.length_append, List.length_cons] at hvroom
        omega
      · have hx : t.holds x = true := hvall x (hu ▸ List.mem_append_right _ List.mem_cons_self)
        obtain ⟨e, hwe, hpass⟩ := (Cursor.passes_past (hu ▸ hv)).of_append
        rw [hwe.eq_past, ← hw.eq_past] at hpass
        obtain ⟨e', hxe, -⟩ := Cursor.Passes.of_append (w := [x]) hpass
        rw [Cursor.step?_eq_some.2 ⟨x, hx, hxe⟩] at hstop
        cases hstop

theorem giveBack_eq_some (hw : c.Passes (u ++ v) d)
    (h : Matcher.giveBack k g v.length d = some m) :
    ∃ v' e, v' <+: v ∧ c.Passes (u ++ v') e ∧ k e g = some m := by
  induction v using List.reverseRecOn generalizing d with
  | nil => exact ⟨[], d, List.prefix_refl _, hw, h⟩
  | append_singleton v x ih =>
    rw [List.length_append, List.length_singleton, Matcher.giveBack] at h
    cases hk : k d g with
    | some m' =>
      rw [hk] at h
      exact ⟨v ++ [x], d, List.prefix_refl _, hw, hk.trans h⟩
    | none =>
      rw [← List.append_assoc] at hw
      obtain ⟨e, he, hlast⟩ := hw.of_append
      rw [hk, Cursor.back?_of_passes hlast] at h
      obtain ⟨v', e', hv', hpass, hke⟩ := ih he h
      exact ⟨v', e', hv'.trans (List.prefix_append _ _), hpass, hke⟩

theorem isSome_giveBack (hw : c.Passes (u ++ v) d) (hv : w <+: v) (he : c.Passes (u ++ w) e)
    (hk : (k e g).isSome = true) : (Matcher.giveBack k g v.length d).isSome = true := by
  -- on the characters that may be given back, from the last one on
  induction v using List.reverseRecOn generalizing d with
  | nil =>
    rw [List.prefix_nil.1 hv] at he
    rw [he.eq_past, ← hw.eq_past] at hk
    exact hk
  | append_singleton v x ih =>
    rw [List.length_append, List.length_singleton, Matcher.giveBack]
    cases hkd : k d g with
    | some m => rfl
    | none =>
      rw [← List.append_assoc] at hw
      obtain ⟨d', hd', hlast⟩ := hw.of_append
      rw [Cursor.back?_of_passes hlast]
      rcases List.prefix_concat_iff.1 hv with rfl | hshorter
      · -- here the rest of the match has failed
        rw [← List.append_assoc] at he
        rw [he.eq_past, ← hw.eq_past, hkd] at hk
        cases hk
      · exact ih hd' hshorter

/-- If nothing is left to match, nothing is given back. -/
theorem giveBack_finish (g : Captures) (spare : Nat) (c : Cursor) :
    Matcher.giveBack Matcher.finish g spare c = some ⟨c, g⟩ := by
  cases spare <;> rfl

theorem takeMore_eq_some (h : Matcher.takeMore t k g room c = some m) :
    ∃ v d, c.Passes v d ∧ (∀ x ∈ v, t.holds x = true) ∧ v.length ≤ room ∧ k d g = some m := by
  induction room generalizing c with
  | zero => exact ⟨[], c, .refl c, List.forall_mem_nil _, Nat.le_refl 0, h⟩
  | succ room ih =>
    rw [Matcher.takeMore] at h
    -- the rest of the match is tried before each further character
    cases hk : k c g with
    | some m' =>
      rw [hk] at h
      exact ⟨[], c, .refl c, List.forall_mem_nil _, Nat.zero_le _, hk.trans h⟩
    | none =>
      rw [hk] at h
      cases hstep : c.step? t with
      | none =>
        rw [hstep] at h
        cases h
      | some e =>
        rw [hstep] at h
        obtain ⟨x, hx, hpass⟩ := Cursor.step?_eq_some.1 hstep
        obtain ⟨v, d, hv, hall, hlength, hkd⟩ := ih h
        exact ⟨x :: v, d, hpass.trans hv, List.forall_mem_cons.2 ⟨hx, hall⟩,
          Nat.succ_le_succ hlength, hkd⟩

theorem isSome_takeMore (hv : c.Passes v d) (hall : ∀ x ∈ v, t.holds x = true)
    (hlength : v.length ≤ room) (hk : (k d g).isSome = true) :
    (Matcher.takeMore t k g room c).isSome = true := by
  induction room generalizing c v with
  | zero =>
    rw [List.length_eq_zero_iff.1 (Nat.le_zero.1 hlength)] at hv
    rw [hv.eq_of_nil] at hk
    exact hk
  | succ room ih =>
    rw [Matcher.takeMore]
    cases hkc : k c g with
    | some m => rfl
    | none =>
      -- here the rest of the match has failed, so the way goes on
      cases v with
      | nil =>
        rw [hv.eq_of_nil, hkc] at hk
        cases hk
      | cons x v =>
        obtain ⟨hx, hrest⟩ := List.forall_mem_cons.1 hall
        obtain ⟨e, hxe, hpass⟩ := Cursor.Passes.of_append (w := [x]) hv
        rw [Cursor.step?_eq_some.2 ⟨x, hx, hxe⟩]
        exact ih hpass hrest (Nat.le_of_succ_le_succ hlength)

/-- A run that gives back what the rest of the match needs. -/
theorem run_greedy : Matcher.run .greedy least greatest t c g k =
    let (count, d) := Matcher.skipRun t (roomFor greatest c) 0 c
    if count < least then none else Matcher.giveBack k g (count - least) d := by
  cases greatest <;> rfl

/-- A run that gives nothing back. -/
theorem run_possessive : Matcher.run .possessive least greatest t c g k =
    let (count, d) := Matcher.skipRun t (roomFor greatest c) 0 c
    if count < least then none else k d g := by
  cases greatest <;> rfl

/-- A run that takes no more than the rest of the match needs. -/
theorem run_lazy : Matcher.run .lazy least greatest t c g k =
    let (count, d) := Matcher.skipRun t (Nat.min least (roomFor greatest c)) 0 c
    if count < least then none
    else Matcher.takeMore t k g (roomFor greatest c - count) d := by
  cases greatest <;> rfl

theorem run_greedy_eq_some (h : Matcher.run .greedy least greatest t c g k = some m) :
    ∃ d, c.Runs .greedy least greatest t d ∧ k d g = some m := by
  obtain ⟨w, d, hrun, hw, hall, hroom, -⟩ := skipRun_spec t (roomFor greatest c) 0 c
  rw [run_greedy, hrun, Nat.zero_add] at h
  dsimp only at h
  split at h
  · cases h
  · next hleast =>
    -- at least the first characters are kept
    rw [← List.take_append_drop least w] at hw
    rw [← List.length_drop] at h
    obtain ⟨v, e, hv, hpass, hk⟩ := giveBack_eq_some hw h
    have hshorter : w.take least ++ v <+: w := by
      conv_rhs => rw [← List.take_append_drop least w]
      exact (List.prefix_append_right_inj _).2 hv
    refine ⟨e, ⟨_, hpass, fun x hx => hall x (hshorter.subset hx), ?_, ?_, nofun⟩, hk⟩
    · rw [List.length_append, List.length_take]
      omega
    · exact (le_roomFor_iff hpass).1 (Nat.le_trans hshorter.length_le hroom)

theorem run_possessive_eq_some (h : Matcher.run .possessive least greatest t c g k = some m) :
    ∃ d, c.Runs .possessive least greatest t d ∧ k d g = some m := by
  obtain ⟨w, d, hrun, hw, hall, hroom, hend⟩ := skipRun_spec t (roomFor greatest c) 0 c
  rw [run_possessive, hrun, Nat.zero_add] at h
  dsimp only at h
  split at h
  · cases h
  · next hleast =>
    exact ⟨d, ⟨w, hw, hall, Nat.le_of_not_lt hleast, (le_roomFor_iff hw).1 hroom,
      fun _ => (eq_roomFor_or_iff hw).1 hend⟩, h⟩

theorem run_lazy_eq_some (h : Matcher.run .lazy least greatest t c g k = some m) :
    ∃ d, c.Runs .lazy least greatest t d ∧ k d g = some m := by
  obtain ⟨w, d, hrun, hw, hall, hroom, -⟩ :=
    skipRun_spec t (Nat.min least (roomFor greatest c)) 0 c
  rw [run_lazy, hrun, Nat.zero_add] at h
  dsimp only at h
  split at h
  · cases h
  · next hleast =>
    -- the characters that are needed, and then some more of them
    obtain ⟨v, e, hv, hvall, hvroom, hk⟩ := takeMore_eq_some h
    have hpass := hw.trans hv
    refine ⟨e, ⟨w ++ v, hpass, ?_, ?_, ?_, nofun⟩, hk⟩
    · exact List.forall_mem_append.2 ⟨hall, hvall⟩
    · rw [List.length_append]
      omega
    · rw [← le_roomFor_iff hpass, List.length_append]
      have hmin : Nat.min least (roomFor greatest c) ≤ roomFor greatest c := Nat.min_le_right _ _
      omega

/-- A run is a way. -/
theorem run_eq_some (h : Matcher.run greed least greatest t c g k = some m) :
    ∃ d, c.Runs greed least greatest t d ∧ k d g = some m := by
  cases greed with
  | greedy => exact run_greedy_eq_some h
  | possessive => exact run_possessive_eq_some h
  | lazy => exact run_lazy_eq_some h

theorem isSome_run_greedy (hv : c.Passes v d) (hvall : ∀ x ∈ v, t.holds x = true)
    (hleast : least ≤ v.length) (hvroom : v.length ≤ roomFor greatest c)
    (hk : (k d g).isSome = true) :
    (Matcher.run .greedy least greatest t c g k).isSome = true := by
  obtain ⟨w, e, hrun, hw, -, -, hstop⟩ := skipRun_spec t (roomFor greatest c) 0 c
  have hbegin : v <+: w := isPrefix_of_longest hv.isPrefix hvall hvroom hw hstop
  have hlength := hbegin.length_le
  rw [run_greedy, hrun, Nat.zero_add]
  dsimp only
  rw [if_neg (by omega), ← List.length_drop]
  -- the run begins with the same characters, and goes on at least as far
  have hsame : v.take least = w.take least := by
    obtain ⟨rest, rfl⟩ := hbegin
    rw [List.take_append_of_le_length hleast]
  rw [← List.take_append_drop least w] at hw
  rw [← List.take_append_drop least v, hsame] at hv
  exact isSome_giveBack hw (List.IsPrefix.drop hbegin least) hv hk

/-- A run that gives nothing back has to be the longest one. -/
theorem isSome_run_possessive (hv : c.Passes v d) (hvall : ∀ x ∈ v, t.holds x = true)
    (hleast : least ≤ v.length) (hvroom : v.length ≤ roomFor greatest c)
    (hend : v.length = roomFor greatest c ∨ d.step? t = none) (hk : (k d g).isSome = true) :
    (Matcher.run .possessive least greatest t c g k).isSome = true := by
  obtain ⟨w, e, hrun, hw, hall, hroom, hstop⟩ := skipRun_spec t (roomFor greatest c) 0 c
  have hvw : v <+: w := isPrefix_of_longest hv.isPrefix hvall hvroom hw hstop
  have hwv : w <+: v := isPrefix_of_longest hw.isPrefix hall hroom hv hend
  have hsame : w = v := hwv.eq_of_length (Nat.le_antisymm hwv.length_le hvw.length_le)
  rw [hsame] at hrun hw
  rw [run_possessive, hrun, Nat.zero_add]
  dsimp only
  rw [if_neg (by omega), hw.eq_past, ← hv.eq_past]
  exact hk

theorem isSome_run_lazy (hv : c.Passes v d) (hvall : ∀ x ∈ v, t.holds x = true)
    (hleast : least ≤ v.length) (hvroom : v.length ≤ roomFor greatest c)
    (hk : (k d g).isSome = true) :
    (Matcher.run .lazy least greatest t c g k).isSome = true := by
  obtain ⟨w, e, hrun, hw, -, hroom, hstop⟩ :=
    skipRun_spec t (Nat.min least (roomFor greatest c)) 0 c
  have hmin : Nat.min least (roomFor greatest c) = least :=
    Nat.min_eq_left (Nat.le_trans hleast hvroom)
  rw [hmin] at hrun hroom hstop
  -- the characters that are needed are the first ones of the run
  have htake : (v.take least).length = least := List.length_take_of_le hleast
  have hpast : v.take least <+: w := by
    refine isPrefix_of_longest ((List.take_prefix least v).trans hv.isPrefix) ?_
      (Nat.le_of_eq htake) hw hstop
    exact fun x hx => hvall x (List.mem_of_mem_take hx)
  have hsame : v.take least = w :=
    hpast.eq_of_length (Nat.le_antisymm hpast.length_le (htake.symm ▸ hroom))
  rw [← List.take_append_drop least v, hsame] at hv
  obtain ⟨e', he', hrest⟩ := hv.of_append
  rw [he'.eq_past, ← hw.eq_past] at hrest
  have hwlength : w.length = least := hsame ▸ htake
  rw [run_lazy, hmin, hrun, Nat.zero_add]
  dsimp only
  rw [if_neg (by omega)]
  refine isSome_takeMore hrest (fun x hx => hvall x (List.mem_of_mem_drop hx)) ?_ hk
  rw [List.length_drop]
  omega

/-- A run with which the rest of the match succeeds is found. -/
theorem isSome_run (h : c.Runs greed least greatest t d) (hk : (k d g).isSome = true) :
    (Matcher.run greed least greatest t c g k).isSome = true := by
  obtain ⟨v, hv, hvall, hleast, hgreatest, hend⟩ := h
  have hvroom : v.length ≤ roomFor greatest c := (le_roomFor_iff hv).2 hgreatest
  cases greed with
  | greedy => exact isSome_run_greedy hv hvall hleast hvroom hk
  | possessive =>
    exact isSome_run_possessive hv hvall hleast hvroom ((eq_roomFor_or_iff hv).2 (hend rfl)) hk
  | lazy => exact isSome_run_lazy hv hvall hleast hvroom hk

end runs

end FileQuery.Pattern

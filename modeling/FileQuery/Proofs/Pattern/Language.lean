import FileQuery.Proofs.Pattern.Matching
import Mathlib.Computability.Language

/-!
# The language of a regular expression

A regular expression in the narrow sense says of a text, whatever is around it, whether the text belongs
to its language.  A search finds the first place where such a text begins, and the match that it reports
is such a text; of several that begin there, which one depends on the order in which they are tried.
-/

namespace FileQuery.Pattern

/-! ## 1. Texts that are matched in full -/

/-- The texts that a regular expression in the narrow sense matches in full. -/
def Node.language : Node → Language Char
  | .empty => 1
  | .test t => {w | ∃ x, t.holds x = true ∧ w = [x]}
  | .seq a b => a.language * b.language
  | .alt a b => a.language + b.language
  | .capture _ body => body.language
  | .run _ least greatest t =>
    {w | (∀ x ∈ w, t.holds x = true) ∧ least ≤ w.length ∧ ∀ n ∈ greatest, w.length ≤ n}
  | .loop _ least greatest body =>
    {w | ∃ n, least ≤ n ∧ (∀ m ∈ greatest, n ≤ max least m) ∧ w ∈ body.language ^ n}
  | .place _ | .backref .. | .cond .. | .look .. | .atomic _ => 0

section rounds

variable {P : Path} {l : Language Char} {least count : Nat} {greatest last : Option Nat}
variable {c d : Cursor} {g h : Captures}

/-- Rounds, each of which is over a text of a language. -/
theorem Rounds.exists_flatten (hP : ∀ c g d h, P c g d h → ∃ w ∈ l, c.Passes w d)
    (hrounds : Rounds P least greatest count last c g d h) :
    ∃ ws : List (List Char), (∀ w ∈ ws, w ∈ l) ∧ c.Passes ws.flatten d ∧
      least ≤ count + ws.length ∧
      ∀ n ∈ greatest, count ≤ max least n → count + ws.length ≤ max least n := by
  induction hrounds with
  | stop hcount =>
    exact ⟨[], List.forall_mem_nil _, .refl _, hcount, fun _ _ h => h⟩
  | needed hcount hstep _ ih =>
    obtain ⟨w, hw, hpass⟩ := hP _ _ _ _ hstep
    obtain ⟨ws, hws, hrest, hleast, hgreatest⟩ := ih
    refine ⟨w :: ws, List.forall_mem_cons.2 ⟨hw, hws⟩, hpass.trans hrest, ?_, fun n hn _ => ?_⟩
    · rw [List.length_cons]
      omega
    · have hmost := hgreatest n hn (by omega)
      rw [List.length_cons]
      omega
  | @further count last c d e g h i hcount hmore hlast hstep _ ih =>
    obtain ⟨w, hw, hpass⟩ := hP _ _ _ _ hstep
    obtain ⟨ws, hws, hrest, hleast, hgreatest⟩ := ih
    refine ⟨w :: ws, List.forall_mem_cons.2 ⟨hw, hws⟩, hpass.trans hrest, ?_, fun n hn _ => ?_⟩
    · rw [List.length_cons]
      omega
    · -- a further round is only made below the greatest number of them
      have hbound : count < n := by
        rw [Option.mem_def.1 hn, allowsMore] at hmore
        exact of_decide_eq_true hmore
      have hmost := hgreatest n hn (by omega)
      rw [List.length_cons]
      omega

/-- Texts of a language are rounds; those that are empty are left out if they are not needed. -/
theorem exists_rounds (hP : ∀ w ∈ l, ∀ c g d, c.Passes w d → ∃ h, P c g d h)
    (ws : List (List Char)) (hws : ∀ w ∈ ws, w ∈ l) (hpass : c.Passes ws.flatten d)
    (hleast : least ≤ count + ws.length)
    (hgreatest : ∀ n ∈ greatest, count + ws.length ≤ max least n)
    (hlast : ∀ n ∈ last, n < c.position) (g : Captures) :
    ∃ h, Rounds P least greatest count last c g d h := by
  induction ws generalizing c count last g with
  | nil =>
    rw [hpass.eq_of_nil]
    exact ⟨g, .stop hleast⟩
  | cons w ws ih =>
    obtain ⟨hw, hrest⟩ := List.forall_mem_cons.1 hws
    rw [List.length_cons] at hleast hgreatest
    have hmost (n : Nat) (hn : n ∈ greatest) : count + 1 + ws.length ≤ max least n := by
      have := hgreatest n hn
      omega
    obtain ⟨e, hwe, hpass'⟩ := Cursor.Passes.of_append (w := w) hpass
    have hposition := hwe.position
    -- as long as rounds are needed they may be empty, and after that they may not
    by_cases hcount : count < least
    · obtain ⟨i, hi⟩ := hP w hw c g e hwe
      have hbefore (n : Nat) (hn : n ∈ last) : n < e.position := by
        have := hlast n hn
        omega
      obtain ⟨h, hrounds⟩ := ih hrest hpass' (by omega) hmost hbefore i
      exact ⟨h, .needed hcount hi hrounds⟩
    · have hcount := Nat.le_of_not_lt hcount
      by_cases hnil : w = []
      · -- a round over nothing leads nowhere
        rw [hnil] at hwe
        rw [hwe.eq_of_nil] at hpass'
        refine ih hrest hpass' (by omega) (fun n hn => ?_) hlast g
        have := hmost n hn
        omega
      · obtain ⟨i, hi⟩ := hP w hw c g e hwe
        have hpos := List.length_pos_iff.2 hnil
        have hbefore (n : Nat) (hn : n ∈ some c.position) : n < e.position := by
          rw [Option.mem_some_iff.1 hn] at hposition
          omega
        have hmore : allowsMore greatest count = true := by
          cases hgreat : greatest with
          | none => rfl
          | some n =>
            have := hmost n hgreat
            exact decide_eq_true (by omega)
        have hnew : last ≠ some c.position := fun heq => Nat.lt_irrefl _ (hlast _ heq)
        obtain ⟨h, hrounds⟩ := ih hrest hpass' (by omega) hmost hbefore i
        exact ⟨h, .further hcount hmore hnew hi hrounds⟩

end rounds

section language

variable {node : Node} {c d : Cursor} {g h : Captures} {w : List Char} {m : Match}

/-- A way is over a text of the language. -/
theorem Node.Takes.exists_mem_language (hregular : node.isRegular = true)
    (hway : node.Takes c g d h) : ∃ w ∈ node.language, c.Passes w d := by
  induction node generalizing c d g h with
  | empty =>
    obtain ⟨rfl, -⟩ := hway
    exact ⟨[], rfl, .refl _⟩
  | test t =>
    obtain ⟨x, hx, hpass⟩ := Cursor.step?_eq_some.1 hway.1
    exact ⟨[x], ⟨x, hx, rfl⟩, hpass⟩
  | seq a b iha ihb =>
    rw [isRegular, Bool.and_eq_true] at hregular
    obtain ⟨e, i, ha, hb⟩ := hway
    obtain ⟨v, hv, hpass⟩ := iha hregular.1 ha
    obtain ⟨w, hw, hpass'⟩ := ihb hregular.2 hb
    exact ⟨v ++ w, Language.mem_mul.2 ⟨v, hv, w, hw, rfl⟩, hpass.trans hpass'⟩
  | alt a b iha ihb =>
    rw [isRegular, Bool.and_eq_true] at hregular
    rcases hway with ha | hb
    · obtain ⟨w, hw, hpass⟩ := iha hregular.1 ha
      exact ⟨w, .inl hw, hpass⟩
    · obtain ⟨w, hw, hpass⟩ := ihb hregular.2 hb
      exact ⟨w, .inr hw, hpass⟩
  | capture n body ih =>
    obtain ⟨i, hbody, -⟩ := hway
    exact ih hregular hbody
  | run greed least greatest t =>
    obtain ⟨⟨w, hpass, hall, hleast, hgreatest, -⟩, -⟩ := hway
    exact ⟨w, ⟨hall, hleast, hgreatest⟩, hpass⟩
  -- the texts of the rounds, one after another, are a power of the language
  | loop greed least greatest body ih =>
    rw [isRegular, Bool.and_eq_true] at hregular
    obtain ⟨ws, hws, hpass, hleast, hgreatest⟩ :=
      Rounds.exists_flatten (fun _ _ _ _ => ih hregular.2) hway
    rw [Nat.zero_add] at hleast
    refine ⟨ws.flatten, ⟨ws.length, hleast, fun n hn => ?_, ?_⟩, hpass⟩
    · rw [← Nat.zero_add ws.length]
      exact hgreatest n hn (Nat.zero_le _)
    · exact Language.mem_pow.2 ⟨ws, rfl, rfl, hws⟩
  | place | backref | cond | look | atomic => cases hregular

/-- Over a text of the language there is a way. -/
theorem exists_takes_of_mem_language (hregular : node.isRegular = true) (hw : w ∈ node.language)
    (hpass : c.Passes w d) (g : Captures) : ∃ h, node.Takes c g d h := by
  induction node generalizing c d g w with
  | empty =>
    rw [show w = [] from hw] at hpass
    exact ⟨g, hpass.eq_of_nil, rfl⟩
  | test t =>
    obtain ⟨x, hx, rfl⟩ := hw
    exact ⟨g, Cursor.step?_eq_some.2 ⟨x, hx, hpass⟩, rfl⟩
  | seq a b iha ihb =>
    rw [Node.isRegular, Bool.and_eq_true] at hregular
    obtain ⟨u, hu, v, hv, rfl⟩ := Language.mem_mul.1 hw
    obtain ⟨e, hue, hvd⟩ := hpass.of_append
    obtain ⟨i, ha⟩ := iha hregular.1 hu hue g
    obtain ⟨h, hb⟩ := ihb hregular.2 hv hvd i
    exact ⟨h, e, i, ha, hb⟩
  | alt a b iha ihb =>
    rw [Node.isRegular, Bool.and_eq_true] at hregular
    rcases hw with ha | hb
    · obtain ⟨h, hway⟩ := iha hregular.1 ha hpass g
      exact ⟨h, .inl hway⟩
    · obtain ⟨h, hway⟩ := ihb hregular.2 hb hpass g
      exact ⟨h, .inr hway⟩
  | capture n body ih =>
    obtain ⟨h, hbody⟩ := ih hregular hw hpass g
    exact ⟨_, h, hbody, rfl⟩
  -- a run that gives back may have any length between the bounds
  | run greed least greatest t =>
    obtain ⟨hall, hleast, hgreatest⟩ := hw
    rw [Node.isRegular, bne_iff_ne] at hregular
    exact ⟨g, ⟨w, hpass, hall, hleast, hgreatest, fun h => absurd h hregular⟩, rfl⟩
  | loop greed least greatest body ih =>
    rw [Node.isRegular, Bool.and_eq_true] at hregular
    obtain ⟨n, hleast, hgreatest, hpower⟩ := hw
    obtain ⟨ws, rfl, rfl, hws⟩ := Language.mem_pow.1 hpower
    exact exists_rounds (fun w hw c g d hpass => ih hregular.2 hw hpass g) ws hws hpass
      (by omega) (fun n hn => by rw [Nat.zero_add]; exact hgreatest n hn)
      (fun n hn => absurd hn (Option.not_mem_none n)) g
  | place | backref | cond | look | atomic => cases hregular

/-! ## 2. Matches -/

theorem exists_mem_language_of_matchAt (hregular : node.isRegular = true)
    (h : node.matchAt c = some m) : ∃ w ∈ node.language, c.Passes w m.stop := by
  obtain ⟨g, hway⟩ := Node.exists_takes_of_matchAt h
  exact hway.exists_mem_language hregular

/-- There is a match where a text of the language begins. -/
theorem isSome_matchAt_iff (hregular : node.isRegular = true) :
    (node.matchAt c).isSome = true ↔ ∃ w ∈ node.language, w <+: c.after := by
  constructor
  · intro h
    obtain ⟨m, hm⟩ := Option.isSome_iff_exists.1 h
    obtain ⟨w, hw, hpass⟩ := exists_mem_language_of_matchAt hregular hm
    exact ⟨w, hw, hpass.isPrefix⟩
  · rintro ⟨w, hw, hbegin⟩
    obtain ⟨h, hway⟩ := exists_takes_of_mem_language hregular hw (Cursor.passes_past hbegin) []
    exact Node.matcher_isComplete (Node.isLasting_of_isRegular hregular) _ _ _ _ _ hway rfl

/-! ## 3. Searches -/

variable {p : Pattern} {skip : Nat} {line a b : List Char}

/-- A pattern is found where a text of its language stands. -/
theorem isSome_search_of_mem (hregular : p.node.isRegular = true) (hw : w ∈ p.node.language)
    (hline : line = a ++ w ++ b) (hskip : skip ≤ a.length) : (p.search skip line).isSome = true := by
  rw [List.append_assoc] at hline
  exact isSome_search_of_matchAt hline hskip
    ((isSome_matchAt_iff hregular).2 ⟨w, hw, List.prefix_append w b⟩)

/-- Where the match that a search reports ends with the line, it is over the rest of the line from some
place on; and no text of the language begins before that place. -/
theorem exists_mem_language_of_search (hregular : p.node.isRegular = true)
    (hskip : skip ≤ line.length) (h : p.search skip line = some m) (hend : m.stop.after = []) :
    ∃ a b, line = a ++ b ∧ b ∈ p.node.language ∧
      ∀ a' w b', line = a' ++ w ++ b' → skip ≤ a'.length → w ∈ p.node.language →
        a.length ≤ a'.length := by
  obtain ⟨a, b, hline, -, hmatch, hfirst⟩ := search_eq_some hskip h
  obtain ⟨w, hw, hpass⟩ := exists_mem_language_of_matchAt hregular hmatch
  have hb : b = w ++ m.stop.after := hpass.after
  rw [hend, List.append_nil] at hb
  refine ⟨a, b, hline, hb ▸ hw, fun a' v b' hother hskip' hv => ?_⟩
  by_contra hbefore
  rw [List.append_assoc] at hother
  have hnone := hfirst a' (v ++ b') hother hskip' (Nat.lt_of_not_le hbefore)
  have hsome : (p.node.matchAt (.between a' (v ++ b'))).isSome = true :=
    (isSome_matchAt_iff hregular).2 ⟨v, hv, List.prefix_append v b'⟩
  rw [hnone] at hsome
  cases hsome

end language

end FileQuery.Pattern

import FileQuery.Proofs.Pattern.Language

/-!
# Matches that last

A part of a line does not show what comes before and after it.  An expression that asks of that nothing
which could be taken away again is found in the line if it is found in the part, with a match that does
not reach an end at which the line goes on.
-/

namespace FileQuery.Pattern

/-! ## 1. Places in a longer text -/

def Cursor.widen (c : Cursor) (front rest : List Char) : Cursor :=
  ⟨c.before ++ front.reverse, c.position + front.length, c.after ++ rest⟩

/-- A place that the two ends of a part leave as it is: more text may come only behind characters that
are there already, and none of them ends the line. -/
structure Cursor.IsInside (front rest : List Char) (c : Cursor) : Prop where
  before : front = [] ∨ c.before ≠ []
  after : rest = [] ∨ c.after ≠ []
  line : '\n' ∉ c.after

section places

variable {c d e : Cursor} {front rest v w : List Char}

theorem widen_between (a b : List Char) :
    (Cursor.between a b).widen front rest = .between (front ++ a) (b ++ rest) := by
  have hbefore : a.reverse ++ front.reverse = (front ++ a).reverse := List.reverse_append.symm
  have hposition : a.length + front.length = (front ++ a).length := by
    rw [List.length_append, Nat.add_comm]
  exact Cursor.mk.injEq .. |>.mpr ⟨hbefore, hposition, rfl⟩

theorem Cursor.Passes.widen (h : c.Passes w d) (front rest : List Char) :
    (c.widen front rest).Passes w (d.widen front rest) where
  after := by
    show c.after ++ rest = w ++ (d.after ++ rest)
    rw [h.after, List.append_assoc]
  before := by
    show d.before ++ front.reverse = w.reverse ++ (c.before ++ front.reverse)
    rw [h.before, List.append_assoc]
  position := by
    show d.position + front.length = c.position + front.length + w.length
    have hposition := h.position
    omega

/-- Between two such places there are only such places. -/
theorem Cursor.IsInside.between (hc : c.IsInside front rest) (hd : d.IsInside front rest)
    (hce : c.Passes w e) (hed : e.Passes v d) : e.IsInside front rest where
  before := by
    refine hc.before.imp_right fun h => ?_
    rw [hce.before]
    exact List.append_ne_nil_of_right_ne_nil _ h
  after := by
    refine hd.after.imp_right fun h => ?_
    rw [hed.after]
    exact List.append_ne_nil_of_right_ne_nil _ h
  line h := hc.line (by rw [hce.after]; exact List.mem_append_right _ h)

theorem head?_append_of_or {xs ys : List Char} (h : ys = [] ∨ xs ≠ []) :
    (xs ++ ys).head? = xs.head? := by
  rcases h with rfl | hxs
  · rw [List.append_nil]
  · exact List.head?_append_of_ne_nil _ hxs

theorem isEmpty_append_of_or {xs ys : List Char} (h : ys = [] ∨ xs ≠ []) :
    (xs ++ ys).isEmpty = xs.isEmpty := by
  rcases h with rfl | hxs
  · rw [List.append_nil]
  · rw [List.isEmpty_eq_false_iff.2 hxs, List.isEmpty_eq_false_iff]
    exact List.append_ne_nil_of_left_ne_nil hxs _

/-- What is asked of such a place holds of it in the longer text if it does in the part. -/
theorem PlaceTest.holds_widen (t : PlaceTest) (h : c.IsInside front rest) :
    t.holds (c.widen front rest) = t.holds c := by
  have hfront : front.reverse = [] ∨ c.before ≠ [] := h.before.imp_left fun hnil => by rw [hnil]; rfl
  have hbefore : (c.widen front rest).before.head? = c.before.head? := head?_append_of_or hfront
  have hafter : (c.widen front rest).after.head? = c.after.head? := head?_append_of_or h.after
  have hstart : (c.widen front rest).before.isEmpty = c.before.isEmpty := isEmpty_append_of_or hfront
  have hend : (c.widen front rest).after.isEmpty = c.after.isEmpty := isEmpty_append_of_or h.after
  -- no line feed is left, so the places before one are none of these
  have hfeed : ((c.widen front rest).after == ['\n']) = (c.after == ['\n']) := by
    rcases h.after with rfl | hafter
    · rw [Cursor.widen, List.append_nil]
    · obtain ⟨x, xs, hxs⟩ := List.exists_cons_of_ne_nil hafter
      have hx : x ≠ '\n' := by
        rintro rfl
        exact h.line (hxs ▸ List.mem_cons_self)
      have hne (ys : List Char) : (x :: ys == ['\n']) = false :=
        beq_eq_false_iff_ne.2 fun heq => hx (List.cons.inj heq).1
      show (c.after ++ rest == ['\n']) = _
      rw [hxs, List.cons_append, hne, hne]
  simp only [PlaceTest.holds, Cursor.isEmptyText, Cursor.atBoundary, hbefore, hafter, hstart, hend,
    hfeed]

theorem Cursor.Runs.widen {greed : Greed} {least : Nat} {greatest : Option Nat} {t : CharTest}
    (h : c.Runs greed least greatest t d) (hd : d.IsInside front rest) :
    (c.widen front rest).Runs greed least greatest t (d.widen front rest) := by
  obtain ⟨w, hpass, hall, hleast, hgreatest, hend⟩ := h
  refine ⟨w, hpass.widen front rest, hall, hleast, hgreatest, fun hgreed => ?_⟩
  refine (hend hgreed).imp_right fun hstop => ?_
  have hafter : (d.widen front rest).after.head? = d.after.head? := head?_append_of_or hd.after
  rw [Cursor.step?_eq_none, hafter]
  exact Cursor.step?_eq_none.1 hstop

theorem follow?_widen {f : Folding} {text : List Char} {c d : Cursor}
    (h : c.follow? f text = some d) (front rest : List Char) :
    (c.widen front rest).follow? f text = some (d.widen front rest) := by
  induction text generalizing c with
  | nil =>
    rw [Cursor.follow?] at h
    cases h
    exact Cursor.follow?.eq_1 f _
  | cons x text ih =>
    obtain ⟨before, position, after⟩ := c
    cases after with
    | nil => cases h
    | cons y after =>
      rw [Cursor.follow?] at h
      split at h
      · -- equal characters are equal wherever they stand
        next heq =>
        have hnext := ih h
        rw [Cursor.widen, Nat.add_right_comm] at hnext
        rw [Cursor.widen, List.cons_append, Cursor.follow?, if_pos heq]
        exact hnext
      · cases h

/-- Going back leads to a place before the same text. -/
theorem exists_back?_widen {n : Nat} {c e s : Cursor} (hbefore : e.before = c.before ++ front)
    (hafter : e.after = c.after ++ rest) (h : c.back? n = some s) :
    ∃ s', e.back? n = some s' ∧ s'.after = s.after ++ rest := by
  induction n generalizing c e with
  | zero =>
    cases h
    exact ⟨e, rfl, hafter⟩
  | succ n ih =>
    obtain ⟨before, position, after⟩ := c
    obtain ⟨before', position', after'⟩ := e
    cases before with
    | nil => cases h
    | cons x before =>
      cases hbefore
      cases hafter
      exact ih rfl rfl h

end places

/-! ## 2. Ways in a longer text -/

section ways

variable {node : Node} {c d : Cursor} {front rest : List Char} {g h : Captures}

theorem Rounds.widen {P : Path} {least : Nat} {greatest : Option Nat} {count : Nat}
    {last : Option Nat} (hP : ∀ c g d h, P c g d h → ∃ w, c.Passes w d)
    (hwiden : ∀ c g d h, P c g d h → c.IsInside front rest → d.IsInside front rest →
      P (c.widen front rest) g (d.widen front rest) h)
    (hrounds : Rounds P least greatest count last c g d h) (hc : c.IsInside front rest)
    (hd : d.IsInside front rest) :
    Rounds P least greatest count (last.map (· + front.length)) (c.widen front rest) g
      (d.widen front rest) h := by
  induction hrounds with
  | stop hcount => exact .stop hcount
  | needed hcount hstep hmore ih =>
    obtain ⟨w, hw⟩ := hP _ _ _ _ hstep
    obtain ⟨v, hv⟩ := hmore.passes hP
    have he := hc.between hd hw hv
    exact .needed hcount (hwiden _ _ _ _ hstep hc he) (ih he hd)
  | @further count last c d e g h i hcount hallows hlast hstep hmore ih =>
    obtain ⟨w, hw⟩ := hP _ _ _ _ hstep
    obtain ⟨v, hv⟩ := hmore.passes hP
    have he := hc.between hd hw hv
    refine .further hcount hallows (fun heq => hlast ?_) (hwiden _ _ _ _ hstep hc he) (ih he hd)
    -- places differ in the longer text if they do in the part
    obtain ⟨n, hn, hposition⟩ := Option.map_eq_some_iff.1 heq
    have hsame : n + front.length = c.position + front.length := hposition
    rw [hn, Nat.add_right_cancel hsame]

/-- What is looked for is there whatever is around it. -/
theorem Node.Takes.widen_look {back : Nat} {body : Node} (hregular : body.isRegular = true)
    (hforgetful : body.isForgetful = true) (hway : (Node.look back false body).Takes c g d h)
    (front rest : List Char) :
    (Node.look back false body).Takes (c.widen front rest) g (d.widen front rest) h := by
  obtain ⟨rfl, hlook⟩ := hway
  obtain ⟨-, s, e, hback, hbody⟩ := hlook.resolve_left fun h => nomatch h.1
  obtain ⟨s', hback', hafter⟩ := exists_back?_widen (e := d.widen front rest) rfl rfl hback
  -- the same word follows, and no group tells one way over it from another
  obtain ⟨w, hw, hpass⟩ := hbody.exists_mem_language hregular
  have hbegin : w <+: s'.after := hafter ▸ hpass.isPrefix.trans (List.prefix_append _ _)
  obtain ⟨i, hbody'⟩ := exists_takes_of_mem_language hregular hw (Cursor.passes_past hbegin) g
  have hsame : i = h := by
    rw [hbody'.eq_of_isForgetful hforgetful, hbody.eq_of_isForgetful hforgetful]
  exact ⟨rfl, .inr ⟨rfl, s', _, hback', hsame ▸ hbody'⟩⟩

/-- A way through an expression that lasts leads through the longer text as well. -/
theorem Node.Takes.widen (hlasting : node.isLasting = true) (hway : node.Takes c g d h)
    (hc : c.IsInside front rest) (hd : d.IsInside front rest) :
    node.Takes (c.widen front rest) g (d.widen front rest) h := by
  induction node generalizing c d g h with
  | empty => exact ⟨by rw [hway.1], hway.2⟩
  | test t =>
    obtain ⟨x, hx, hpass⟩ := Cursor.step?_eq_some.1 hway.1
    exact ⟨Cursor.step?_eq_some.2 ⟨x, hx, hpass.widen front rest⟩, hway.2⟩
  | place t =>
    obtain ⟨hplace, rfl, hgroups⟩ := hway
    exact ⟨(t.holds_widen hc).trans hplace, rfl, hgroups⟩
  | seq a b iha ihb =>
    rw [isLasting, Bool.and_eq_true] at hlasting
    obtain ⟨e, i, ha, hb⟩ := hway
    obtain ⟨w, hw⟩ := ha.passes
    obtain ⟨v, hv⟩ := hb.passes
    have he := hc.between hd hw hv
    exact ⟨e.widen front rest, i, iha hlasting.1 ha hc he, ihb hlasting.2 hb he hd⟩
  | alt a b iha ihb =>
    rw [isLasting, Bool.and_eq_true] at hlasting
    exact hway.imp (iha hlasting.1 · hc hd) (ihb hlasting.2 · hc hd)
  | capture n body ih =>
    obtain ⟨i, hbody, rfl⟩ := hway
    refine ⟨i, ih hlasting hbody hc hd, ?_⟩
    -- the group holds what stands between the two places
    obtain ⟨w, hw⟩ := hbody.passes
    have hlength : d.position - c.position ≤ c.after.length := by
      have hposition := hw.position
      have hafter := hw.length
      omega
    have hsame : (d.widen front rest).position - (c.widen front rest).position =
        d.position - c.position := Nat.add_sub_add_right _ _ _
    rw [hsame]
    show _ = (n, (c.after ++ rest).take (d.position - c.position)) :: i
    rw [List.take_append_of_le_length hlength]
  | backref n f =>
    obtain ⟨text, hlookup, hfollow, hgroups⟩ := hway
    exact ⟨text, hlookup, follow?_widen hfollow front rest, hgroups⟩
  | cond n yes no ihyes ihno =>
    rw [isLasting, Bool.and_eq_true] at hlasting
    exact hway.imp (fun h => ⟨h.1, ihyes hlasting.1 h.2 hc hd⟩)
      fun h => ⟨h.1, ihno hlasting.2 h.2 hc hd⟩
  | look back negated body =>
    rw [isLasting, Bool.and_eq_true, Bool.and_eq_true, Bool.not_eq_true'] at hlasting
    obtain ⟨⟨hnegated, hregular⟩, hforgetful⟩ := hlasting
    rw [hnegated] at hway ⊢
    exact hway.widen_look hregular hforgetful front rest
  | atomic => cases hlasting
  | run greed least greatest t => exact ⟨hway.1.widen hd, hway.2⟩
  | loop greed least greatest body ih =>
    rw [isLasting, Bool.and_eq_true] at hlasting
    exact Rounds.widen (P := body.Takes) (fun _ _ _ _ => Node.Takes.passes)
      (fun _ _ _ _ hstep hc hd => ih hlasting.2 hstep hc hd) hway hc hd

end ways

/-! ## 3. Searches of a part -/

/-- What is found in a part of a line is found in the line, if the match does not reach the end of a
part after which the line goes on, and does not begin with the part if something comes before it. -/
theorem isSome_search_of_part {p : Pattern} (hlasting : p.node.isLasting = true)
    {front part rest : List Char} {skip : Nat} {m : Match} (hskip : skip ≤ part.length)
    (hfront : front = [] ∨ 0 < skip) (h : p.search skip part = some m)
    (hrest : rest = [] ∨ m.stop.after ≠ []) (hline : '\n' ∉ part) :
    (p.search 0 (front ++ part ++ rest)).isSome = true := by
  obtain ⟨a, b, rfl, hlength, hmatch, -⟩ := search_eq_some hskip h
  obtain ⟨g, hway⟩ := Node.exists_takes_of_matchAt hmatch
  obtain ⟨w, hw⟩ := hway.passes
  -- the match begins and ends inside the part, so its places are told alike in the line
  have hstart : (Cursor.between a b).IsInside front rest := by
    refine ⟨hfront.imp_right fun hpos => ?_, hrest.imp_right fun hmore => ?_, fun hmem => ?_⟩
    · exact mt List.reverse_eq_nil_iff.1 (List.length_pos_iff.1 (Nat.lt_of_lt_of_le hpos hlength))
    · rw [hw.after]
      exact List.append_ne_nil_of_right_ne_nil _ hmore
    · exact hline (List.mem_append_right a hmem)
  have hstop : m.stop.IsInside front rest := by
    refine ⟨hstart.before.imp_right fun hbefore => ?_, hrest, fun hmem => hstart.line ?_⟩
    · rw [hw.before]
      exact List.append_ne_nil_of_right_ne_nil _ hbefore
    · rw [hw.after]
      exact List.mem_append_right _ hmem
  have hwide := hway.widen hlasting hstart hstop
  rw [widen_between] at hwide
  refine isSome_search_of_matchAt (a := front ++ a) (b := b ++ rest) ?_ (Nat.zero_le _) ?_
  · rw [List.append_assoc, List.append_assoc, List.append_assoc]
  · exact Node.matcher_isComplete hlasting _ _ _ _ _ hwide rfl

end FileQuery.Pattern

import FileQuery.Proofs.Content.Streaming

/-!
# One pass for several conditions

Conditions that are looked for in one pass do not see each other: each is answered as in a pass of its
own.  In which order they stand makes no difference, and what is decided at some place in the stream stays
as it is, whatever follows there.
-/

namespace FileQuery.Content

variable {ε η : Type} {limits : LineLimits} {state : Text.Utf8State} {taken : Nat}
variable {scanners : List Scanner} {s : Scanner}

def pass (limits : LineLimits) (ms : List Matcher) (stream : Stream ε) : Scanned ε :=
  Id.run (scan limits (fun _ => false) stream (ms.map Scanner.start))

/-! ## 1. Each scanner by itself -/

/-- Finished, the scanners of a pass say which conditions the bytes satisfy. -/
theorem map_finish_pass (limits : LineLimits) (ms : List Matcher) (chunks : List (List UInt8)) :
    (pass limits ms ⟨chunks, (none : Option Empty)⟩).scanners.map Scanner.finish =
      ms.map (·.holds limits chunks) := by
  have hmap := map_finish_scanFrom limits .between 0 (ms.map Scanner.start) chunks
  have hok : Function.Injective (Except.ok : Bool → Except Empty Bool) := fun _ _ => Except.ok.inj
  rw [← hok.list_map.eq_iff, List.map_map, List.map_map]
  refine hmap.trans ?_
  rw [List.map_map]
  exact List.map_congr_left fun m _ => Scanner.outcome_start limits m chunks

/-! ## 2. The order of the scanners -/

/-- What a pass does to its scanners, and when it ends, is the same in every order. -/
theorem exists_see (limits : LineLimits) (fault : Option ε) (state : Text.Utf8State) (taken : Nat)
    (scanners : List Scanner) (chunks : List (List UInt8)) :
    ∃ (see : Scanner → Scanner) (last : Nat) (broken : Option ε) (undecodable : Option Text.Utf8Fault),
      ∀ others : List Scanner, others.Perm scanners →
        Id.run (scanFrom limits (fun _ => false) fault state taken others chunks) =
          ⟨others.map see, last, broken, undecodable⟩ := by
  -- chunk by chunk: each of them does the same to every scanner, and whether all are decided does
  -- not depend on their order
  induction chunks generalizing state taken scanners with
  | nil =>
    simp only [scanFrom]
    cases fault with
    | some e => exact ⟨id, taken, some e, none, fun others _ => by rw [List.map_id]; rfl⟩
    | none =>
      cases state with
      | between => exact ⟨id, taken, none, none, fun others _ => by rw [List.map_id]; rfl⟩
      | inside => exact ⟨Scanner.abort, taken, none, _, fun others _ => rfl⟩
  | cons chunk rest ih =>
    rcases hdecode : Text.decode state chunk with ⟨text, e | next⟩
    · refine ⟨Scanner.abort ∘ Scanner.feed limits text, taken + 1, none, some e, fun others _ => ?_⟩
      rw [scanFrom_cons_bad rest hdecode, List.map_map]
    · have hsame (others : List Scanner) (hothers : others.Perm scanners) :
          (others.map (Scanner.feed limits text)).all Scanner.isDecided =
            (scanners.map (Scanner.feed limits text)).all Scanner.isDecided :=
        (hothers.map _).all_eq
      by_cases hall : (scanners.map (Scanner.feed limits text)).all Scanner.isDecided = true
      · refine ⟨Scanner.feed limits text, taken + 1, none, none, fun others hothers => ?_⟩
        rw [scanFrom_cons rest hdecode, hsame others hothers, if_pos hall]
      · obtain ⟨see, last, broken, undecodable, hsee⟩ :=
          ih next (taken + 1) (scanners.map (Scanner.feed limits text))
        refine ⟨see ∘ Scanner.feed limits text, last, broken, undecodable, fun others hothers => ?_⟩
        rw [scanFrom_cons rest hdecode, hsame others hothers, if_neg hall, hsee _ (hothers.map _),
          List.map_map]

/-- Conditions in another order have the same scanners in that order. -/
theorem zip_pass_perm (limits : LineLimits) {ms others : List Matcher} (h : others.Perm ms)
    (stream : Stream ε) :
    (others.zip (pass limits others stream).scanners).Perm
      (ms.zip (pass limits ms stream).scanners) := by
  obtain ⟨see, last, broken, undecodable, hsee⟩ :=
    exists_see limits stream.fault .between 0 (ms.map Scanner.start) stream.chunks
  have hpass (some : List Matcher) (hsome : some.Perm ms) :
      some.zip (pass limits some stream).scanners = some.map fun m => (m, see (Scanner.start m)) := by
    rw [pass, scan, hsee _ (hsome.map _), List.map_map]
    exact List.map_prod_left_eq_zip.symm
  rw [hpass others h, hpass ms (.refl ms)]
  exact h.map _

/-! ## 3. What is decided -/

theorem abort_of_isDecided (h : s.isDecided = true) : s.abort = s := by
  obtain ⟨b, hb⟩ := Option.isSome_iff_exists.1 h
  rw [Scanner.abort, hb]
  exact congrArg (Scanner.mk s.progress) hb.symm

theorem feed_of_isDecided (text : List Char) (h : s.isDecided = true) : s.feed limits text = s := by
  obtain ⟨b, hb⟩ := Option.isSome_iff_exists.1 h
  exact Scanner.feed_of_result text hb

def Keeps (before after : List Scanner) : Prop :=
  ∀ (i : Nat) (s : Scanner), before[i]? = some s → s.isDecided = true → after[i]? = some s

theorem Keeps.map {see : Scanner → Scanner} (h : ∀ s, s.isDecided = true → see s = s)
    (scanners : List Scanner) : Keeps scanners (scanners.map see) := by
  intro i s hs hdecided
  rw [List.getElem?_map, hs, Option.map_some, h s hdecided]

theorem Keeps.trans {before between after : List Scanner} (h : Keeps before between)
    (h' : Keeps between after) : Keeps before after :=
  fun i s hs hdecided => h' i s (h i s hs hdecided) hdecided

/-- One chunk keeps what is decided, and so does a pass over all of them. -/
theorem keeps_scanFrom (limits : LineLimits) (fault : Option ε) (state : Text.Utf8State) (taken : Nat)
    (scanners : List Scanner) (chunks : List (List UInt8)) :
    Keeps scanners
      (Id.run (scanFrom limits (fun _ => false) fault state taken scanners chunks)).scanners := by
  induction chunks generalizing state taken scanners with
  | nil =>
    simp only [scanFrom]
    cases fault with
    | some e => exact fun i s hs _ => hs
    | none =>
      cases state with
      | between => exact fun i s hs _ => hs
      | inside => exact Keeps.map (fun s => abort_of_isDecided) scanners
  | cons chunk rest ih =>
    have hfeed (text : List Char) : Keeps scanners (scanners.map (Scanner.feed limits text)) :=
      Keeps.map (fun s => feed_of_isDecided text) scanners
    -- chunk by chunk, whether the pass goes on or not
    rcases hdecode : Text.decode state chunk with ⟨text, e | next⟩
    · rw [scanFrom_cons_bad rest hdecode]
      exact (hfeed text).trans (Keeps.map (fun s => abort_of_isDecided) _)
    · rw [scanFrom_cons rest hdecode]
      split
      · exact hfeed text
      · exact (hfeed text).trans (ih next (taken + 1) _)

/-- What is decided when a stream breaks off stays so when it goes on instead. -/
theorem keeps_scanFrom_append (limits : LineLimits) (e : ε) (fault : Option η)
    (state : Text.Utf8State) (taken : Nat) (scanners : List Scanner)
    (front rest : List (List UInt8)) :
    Keeps (Id.run (scanFrom limits (fun _ => false) (some e) state taken scanners front)).scanners
      (Id.run
        (scanFrom limits (fun _ => false) fault state taken scanners (front ++ rest))).scanners := by
  induction front generalizing state taken scanners with
  | nil => exact keeps_scanFrom limits fault state taken scanners rest
  | cons chunk front ih =>
    rw [List.cons_append]
    rcases hdecode : Text.decode state chunk with ⟨text, e | next⟩
    · rw [scanFrom_cons_bad front hdecode, scanFrom_cons_bad (front ++ rest) hdecode]
      exact fun i s hs _ => hs
    · rw [scanFrom_cons front hdecode, scanFrom_cons (front ++ rest) hdecode]
      split
      · exact fun i s hs _ => hs
      · exact ih next (taken + 1) _

/-- Conditions that share a pass are answered as in passes of their own, in every order they have the
same scanners, and those that are decided after the first chunks are the same in the end. -/
theorem pass_isShared (limits : LineLimits) (ms : List Matcher) (chunks : List (List UInt8)) :
    let shared := pass limits ms ⟨chunks, (none : Option Empty)⟩
    shared.scanners.map Scanner.finish = ms.map (·.holds limits chunks) ∧
      (∀ others : List Matcher, others.Perm ms →
        (others.zip (pass limits others ⟨chunks, (none : Option Empty)⟩).scanners).Perm
          (ms.zip shared.scanners)) ∧
      ∀ front rest, chunks = front ++ rest →
        Keeps (pass limits ms ⟨front, some ()⟩).scanners shared.scanners := by
  intro shared
  refine ⟨map_finish_pass limits ms chunks, fun others h => zip_pass_perm limits h _, ?_⟩
  rintro front rest rfl
  exact keeps_scanFrom_append limits () none .between 0 (ms.map Scanner.start) front rest

/-- A text that the first chunk decides, and one that is given up with the byte of the second. -/
theorem pass_isShared_garbled :
    let shared := pass {} [.contains "b", .equals "ab"] ⟨[[0x61, 0x62], [0xff]], (none : Option Empty)⟩
    shared.scanners.map Scanner.finish = [true, false] ∧
      shared.scanners[0]? = some ⟨.contains ['b'] [], some true⟩ := by
  obtain ⟨hfinish, -, hkeeps⟩ :=
    pass_isShared {} [.contains "b", .equals "ab"] [[0x61, 0x62], [0xff]]
  exact ⟨hfinish.trans (by decide), hkeeps [[0x61, 0x62]] [[0xff]] rfl 0 _ (by decide) rfl⟩

end FileQuery.Content

import FileQuery.Proofs.Document.Reachability

/-!
# The text of a collection

What the text of a value is, said by recursion and without a limit: the members of a collection in
order, keys as quoted texts, and an ellipsis for a collection inside itself.  Only finitely many
collections can be inside one another, so the recursion ends on values that contain themselves too.
The text that is written by work on a stack is this text, unless it is longer than the limit.
-/

namespace FileQuery.Document

def Scalar.form : Scalar → Except TextFault String
  | .str s => .ok s
  | .float x => .ok x.text
  | .date d => .ok d.iso
  | .time c => .ok c.iso
  | .dateTime d => .ok (d.text "T")
  | s => s.innerText

def setForm (members : List Scalar) : Except TextFault String := do
  let texts ← members.mapM Scalar.shown
  return if texts.isEmpty then "set()" else "\x7b" ++ String.intercalate ", " texts ++ "\x7d"

theorem setText_eq (members : List Scalar) : setText members = (setForm members).map jsonString := by
  unfold setText setForm
  cases members with
  | nil => rfl
  | cons member members =>
    rw [List.isEmpty_cons, if_neg Bool.false_ne_true, List.mapM_cons]
    cases member.shown with
    | error fault => rfl
    | ok text => cases members.mapM Scalar.shown <;> rfl

/-- How many collections of a store are not among the given ones. -/
def Store.others (store : Store) (inside : List Nat) : Nat :=
  (List.range store.size).countP (· ∉ inside)

theorem Store.others_lt {store : Store} {inside : List Nat} {id : Nat} (hid : id < store.size)
    (hfresh : id ∉ inside) : store.others (id :: inside) < store.others inside := by
  have hmem : id ∈ List.range store.size := List.mem_range.2 hid
  unfold others
  generalize List.range store.size = ids at hmem
  have hle : ∀ ids : List Nat, ids.countP (· ∉ id :: inside) ≤ ids.countP (· ∉ inside) :=
    fun ids => List.countP_mono_left fun n _ hn => by simp_all
  induction ids with
  | nil => cases hmem
  | cons n ids ih =>
    rw [List.countP_cons, List.countP_cons]
    by_cases hn : n = id
    · have hrest := hle ids
      rw [if_neg (by simp [hn]), if_pos (by simpa [hn] using hfresh)]
      omega
    · have hrest := ih ((List.mem_cons.1 hmem).resolve_left (Ne.symm hn))
      have hsame : decide (n ∉ id :: inside) = decide (n ∉ inside) := by simp [hn]
      rw [hsame]
      omega

/-- The text of a value.  `inside` holds the collections around it, and inside a pair no more than
`pairDepth` collections may be nested. -/
def rendering (pairDepth : Nat) (store : Store) (inside : List Nat) : Value → Except TextFault String
  | .scalar s => s.innerText
  | .node id =>
    if _hfresh : id ∈ inside then .ok "..."
    else
      match _hid : store[id]? with
      | some (.list items) => do
        let parts ← items.mapM (rendering pairDepth store (id :: inside))
        return "[" ++ String.intercalate "," parts ++ "]"
      | some (.map entries) => do
        let members ← entries.members.mapM fun (key, v) => do
          return jsonString (← key.form) ++ ":" ++ (← rendering pairDepth store (id :: inside) v)
        return "\x7b" ++ String.intercalate "," members ++ "\x7d"
      | some (.set members) => do return jsonString (← setForm members)
      | some (.pair ..) => spacedText store pairDepth [] (.node id)
      | none => .ok "null"
termination_by store.others inside
decreasing_by
  all_goals exact Store.others_lt (Array.getElem?_eq_some_iff.1 _hid).1 _hfresh

section equations

variable {pairDepth : Nat} {store : Store} {inside : List Nat} {id : Nat}

/-- The text of a collection that is not around itself. -/
theorem rendering_node (hfresh : id ∉ inside) : rendering pairDepth store inside (.node id) =
    match store[id]? with
    | some (.list items) => items.mapM (rendering pairDepth store (id :: inside)) >>= fun texts =>
        .ok ("[" ++ String.intercalate "," texts ++ "]")
    | some (.map entries) => (entries.members.mapM fun entry => entry.1.form >>= fun form =>
        rendering pairDepth store (id :: inside) entry.2 >>= fun inner =>
          .ok (jsonString form ++ ":" ++ inner)) >>= fun texts =>
        .ok ("\x7b" ++ String.intercalate "," texts ++ "\x7d")
    | some (.set members) => setForm members >>= fun text => .ok (jsonString text)
    | some (.pair ..) => spacedText store pairDepth [] (.node id)
    | none => .ok "null" := by
  rw [rendering, dif_neg hfresh]
  split
  all_goals next h => rw [h]; try rfl

theorem rendering_list (hfresh : id ∉ inside) {items : List Value}
    (hid : store[id]? = some (.list items)) : rendering pairDepth store inside (.node id) =
      items.mapM (rendering pairDepth store (id :: inside)) >>= fun texts =>
        .ok ("[" ++ String.intercalate "," texts ++ "]") := by
  rw [rendering_node hfresh, hid]

theorem rendering_map (hfresh : id ∉ inside) {entries : Entries}
    (hid : store[id]? = some (.map entries)) : rendering pairDepth store inside (.node id) =
      (entries.members.mapM fun entry => entry.1.form >>= fun form =>
        rendering pairDepth store (id :: inside) entry.2 >>= fun inner =>
          .ok (jsonString form ++ ":" ++ inner)) >>= fun texts =>
        .ok ("\x7b" ++ String.intercalate "," texts ++ "\x7d") := by
  rw [rendering_node hfresh, hid]

end equations

/-! ## 1. Writing more and more -/

section writing

variable {length : Nat} {limit : TextLimit} {store : Store} {inside : List Nat}

theorem Written.add_eq_ok {w : Written} {text : String} (h : w.length + text.length ≤ length) :
    w.add length text = .ok ⟨w.text ++ text, w.length + text.length⟩ := by
  rw [Written.add, if_neg (Nat.not_lt_of_le h)]

theorem Written.add_eq_error {w : Written} {text : String}
    (h : length < w.length + text.length) : w.add length text = .error (.tooLong length) := by
  rw [Written.add, if_pos h]

/-- Two texts in a row are written as one. -/
theorem Written.add_add {β : Type} (w : Written) (s t : String)
    (next : Written → Except TextFault β) :
    (w.add length s >>= fun more => more.add length t >>= next) = w.add length (s ++ t) >>= next := by
  have hlength : w.length + (s ++ t).length = w.length + s.length + t.length := by
    rw [String.length_append, Nat.add_assoc]
  by_cases hs : w.length + s.length ≤ length
  · rw [Written.add_eq_ok hs]
    show Written.add length ⟨w.text ++ s, w.length + s.length⟩ t >>= next = _
    by_cases ht : w.length + s.length + t.length ≤ length
    · have hboth : w.length + (s ++ t).length ≤ length := by omega
      rw [Written.add_eq_ok ht, Written.add_eq_ok hboth, hlength, String.append_assoc]
    · have hboth : length < w.length + (s ++ t).length := by omega
      rw [Written.add_eq_error hboth, Written.add_eq_error (Nat.lt_of_not_le ht)]
  · have hboth : length < w.length + (s ++ t).length := by omega
    rw [Written.add_eq_error (Nat.lt_of_not_le hs), Written.add_eq_error hboth]
    rfl

/-- A piece of work is done, and then what is left. -/
theorem writeTasks_cons (w : Written) (task : Task) (rest : List Task) :
    writeTasks limit store inside w (task :: rest) = match task with
      | .leave id => writeTasks limit store (inside.erase id) w rest
      | .text s => w.add limit.length s >>= fun more => writeTasks limit store inside more rest
      | .value v => openValue limit store inside v >>= fun opened =>
          w.add limit.length opened.text >>= fun more =>
            writeTasks limit store opened.inside more (opened.tasks ++ rest) := by
  cases task with
  | leave id => rw [writeTasks]
  | text s =>
    dsimp only
    rw [writeTasks]
    split
    · next h => rw [h]; rfl
    · next h => rw [h]; rfl
  | value v =>
    dsimp only
    rw [writeTasks]
    split
    · next h => rw [h]; rfl
    · next opened hopened =>
      rw [hopened]
      show _ = w.add limit.length opened.text >>= _
      split
      · next h => rw [h]; rfl
      · next h => rw [h]; rfl

theorem writeTasks_text (w : Written) (s : String) (rest : List Task) :
    writeTasks limit store inside w (.text s :: rest) =
      w.add limit.length s >>= fun more => writeTasks limit store inside more rest :=
  writeTasks_cons w (.text s) rest

theorem writeTasks_leave (id : Nat) (w : Written) (rest : List Task) :
    writeTasks limit store (id :: inside) w (.leave id :: rest) =
      writeTasks limit store inside w rest := by
  rw [writeTasks_cons]
  show writeTasks limit store ((id :: inside).erase id) w rest = _
  rw [List.erase_cons_head]

theorem writeTasks_value (w : Written) (v : Value) (rest : List Task) :
    writeTasks limit store inside w (.value v :: rest) =
      openValue limit store inside v >>= fun opened => w.add limit.length opened.text >>= fun more =>
        writeTasks limit store opened.inside more (opened.tasks ++ rest) :=
  writeTasks_cons w (.value v) rest

theorem writeTasks_opened {v : Value} {opened : Opened}
    (h : openValue limit store inside v = .ok opened) (w : Written) (rest : List Task) :
    writeTasks limit store inside w (.value v :: rest) =
      w.add limit.length opened.text >>= fun more =>
        writeTasks limit store opened.inside more (opened.tasks ++ rest) := by
  rw [writeTasks_value, h]
  rfl

theorem writeTasks_refused {v : Value} {fault : TextFault}
    (h : openValue limit store inside v = .error fault) (w : Written) (rest : List Task) :
    writeTasks limit store inside w (.value v :: rest) = .error fault := by
  rw [writeTasks_value, h]
  rfl

def Writes (limit : TextLimit) (store : Store) (inside : List Nat) (v : Value) (text : String) : Prop :=
  ∀ w rest, writeTasks limit store inside w (.value v :: rest) =
    w.add limit.length text >>= fun more => writeTasks limit store inside more rest

theorem writes_at_once {v : Value} {text : String}
    (h : openValue limit store inside v = .ok ⟨text, [], inside⟩) :
    Writes limit store inside v text :=
  fun w rest => writeTasks_opened h w rest

/-! ## 2. Members -/

def joined (separator : String) : List String → String
  | [] => ""
  | text :: rest => separator ++ text ++ joined "," rest

theorem joined_comma {texts : List String} (h : texts ≠ []) :
    joined "," texts = "," ++ joined "" texts := by
  cases texts with
  | nil => exact absurd rfl h
  | cons text rest => rw [joined, joined, String.empty_append, String.append_assoc]

theorem intercalate_eq_joined (texts : List String) :
    String.intercalate "," texts = joined "" texts := by
  induction texts with
  | nil => rfl
  | cons text rest ih =>
    rw [joined, String.empty_append]
    cases rest with
    | nil => rw [String.intercalate_singleton, joined, String.append_empty]
    | cons next rest =>
      rw [String.intercalate_cons_cons, ih, joined_comma (List.cons_ne_nil _ _),
        String.append_assoc]

/-- Members are written with what stands before each of them, and then the bracket that closes. -/
theorem writeTasks_members {members : List (String × Value)} {texts : List String}
    (h : List.Forall₂ (fun member text => ∃ inner, Writes limit store inside member.2 inner ∧
      text = member.1 ++ inner) members texts) (closing : String) (rest : List Task) :
    ∀ separator w, writeTasks limit store inside w
        (memberTasks separator members ++ .text closing :: rest) =
      w.add limit.length (joined separator texts ++ closing) >>= fun more =>
        writeTasks limit store inside more rest := by
  induction h with
  | nil =>
    intro separator w
    rw [joined, String.empty_append]
    exact writeTasks_text w closing rest
  | @cons member text members texts hmember _ ih =>
    intro separator w
    obtain ⟨label, v⟩ := member
    obtain ⟨inner, hwrites, rfl⟩ := hmember
    -- behind the label, the value and what is left are written in turn
    have hvalue : (fun more => writeTasks limit store inside more
          (.value v :: (memberTasks "," members ++ .text closing :: rest))) =
        fun more => more.add limit.length inner >>= fun more =>
          more.add limit.length (joined "," texts ++ closing) >>= fun more =>
            writeTasks limit store inside more rest := by
      funext more
      rw [hwrites]
      congr 1
      funext more
      exact ih "," more
    show writeTasks limit store inside w (.text (separator ++ label) :: .value v ::
      (memberTasks "," members ++ .text closing :: rest)) = _
    rw [writeTasks_text, hvalue, Written.add_add, Written.add_add, joined]
    simp only [String.append_assoc]

theorem writes_collection {v : Value} {id : Nat} {opening closing : String}
    {members : List (String × Value)} {texts : List String}
    (hopen : openValue limit store inside v =
      .ok ⟨opening, collectionTasks id closing members, id :: inside⟩)
    (h : List.Forall₂ (fun member text => ∃ inner, Writes limit store (id :: inside) member.2 inner ∧
      text = member.1 ++ inner) members texts) :
    Writes limit store inside v (opening ++ String.intercalate "," texts ++ closing) := by
  intro w rest
  -- when the bracket is closed, the collection is left
  have hmembers : (fun more => writeTasks limit store (id :: inside) more
        (collectionTasks id closing members ++ rest)) =
      fun more => more.add limit.length (joined "" texts ++ closing) >>= fun more =>
        writeTasks limit store inside more rest := by
    funext more
    rw [collectionTasks, List.append_assoc]
    show writeTasks limit store (id :: inside) more
      (memberTasks "" members ++ .text closing :: .leave id :: rest) = _
    rw [writeTasks_members h]
    congr 1
    funext more
    exact writeTasks_leave id more rest
  rw [writeTasks_opened hopen]
  show (w.add limit.length opening >>= fun more => writeTasks limit store (id :: inside) more
    (collectionTasks id closing members ++ rest)) = _
  rw [hmembers, Written.add_add, intercalate_eq_joined, String.append_assoc]

/-! ## 3. Keys -/

theorem length_le_jsonString (s : String) : s.length ≤ (jsonString s).length := by
  have hchars := length_le_flatMap_jsonChar s.toList
  rw [← String.length_toList, ← String.length_toList (s := jsonString s), toList_jsonString]
  simp only [List.length_cons, List.length_append]
  omega

/-- The text of a key is its form in quotes, unless already this form is too long. -/
theorem Scalar.keyText_of_form (limit : Nat) {key : Scalar} {form : String} (h : key.form = .ok form) :
    key.keyText limit = .ok (jsonString form) ∨
      key.keyText limit = .error (.tooLong limit) ∧ limit < form.length := by
  have hshort : key.text limit = .ok form → key.keyText limit = .ok (jsonString form) := by
    intro htext
    rw [keyText, htext]
    rfl
  cases key with
  -- only bytes are measured, and in quotes
  | bytes b =>
    simp only [Scalar.form, innerText, Except.ok.injEq] at h
    subst h
    by_cases hlong : limit < (jsonString (bytesText b)).length
    · refine .inr ⟨?_, hlong⟩
      rw [keyText, text, if_pos hlong]
      rfl
    · apply Or.inl
      apply hshort
      rw [text, if_neg hlong]
  | _ =>
    apply Or.inl
    apply hshort
    simpa only [Scalar.form, text] using h

def HasMemberText (pairDepth : Nat) (store : Store) (inside : List Nat) (entry : Scalar × Value)
    (text : String) : Prop :=
  ∃ form inner, entry.1.form = .ok form ∧ rendering pairDepth store inside entry.2 = .ok inner ∧
    text = jsonString form ++ ":" ++ inner

theorem labelled_of_texts (length : Nat) {pairDepth : Nat} {entries : List (Scalar × Value)}
    {texts : List String} (h : List.Forall₂ (HasMemberText pairDepth store inside) entries texts) :
    (∃ members, labelled length entries = .ok members ∧
      List.Forall₂ (fun member text => ∃ inner,
        rendering pairDepth store inside member.2 = .ok inner ∧ text = member.1 ++ inner)
        members texts) ∨
    (labelled length entries = .error (.tooLong length) ∧
      ∀ separator, length < (joined separator texts).length) := by
  induction h with
  | nil => exact .inl ⟨[], rfl, .nil⟩
  | @cons entry text entries texts hentry _ ih =>
    obtain ⟨form, inner, hform, hinner, htext⟩ := hentry
    rw [labelled]
    rcases Scalar.keyText_of_form length hform with hkey | ⟨hkey, hlong⟩
    · rw [hkey]
      rcases ih with ⟨members, hmembers, hall⟩ | ⟨hrest, hlong⟩
      · rw [hmembers]
        exact .inl ⟨_, rfl, .cons ⟨inner, hinner, htext⟩ hall⟩
      · -- a label that is too long makes the text too long, and so does one that comes later
        rw [hrest]
        refine .inr ⟨rfl, fun separator => ?_⟩
        have hcomma := hlong ","
        rw [joined, String.length_append]
        omega
    · rw [hkey]
      refine .inr ⟨rfl, fun separator => ?_⟩
      have hquoted := length_le_jsonString form
      rw [joined, htext]
      simp only [String.length_append]
      omega

/-! ## 4. Values -/

theorem writes_list {id : Nat} {items : List Value} {texts : List String} (hfresh : id ∉ inside)
    (hid : store[id]? = some (.list items))
    (h : List.Forall₂ (Writes limit store (id :: inside)) items texts) :
    Writes limit store inside (.node id) ("[" ++ String.intercalate "," texts ++ "]") := by
  have hopen : openValue limit store inside (.node id) =
      .ok ⟨"[", collectionTasks id "]" (items.map (("", ·))), id :: inside⟩ := by
    rw [openValue, if_neg hfresh, hid]
  refine writes_collection hopen (List.forall₂_map_left_iff.2 ?_)
  exact h.imp fun _ text hwrites => ⟨text, hwrites, String.empty_append.symm⟩

theorem writes_map {id : Nat} {entries : Entries} {texts : List String} (hfresh : id ∉ inside)
    (hid : store[id]? = some (.map entries))
    (hentries : List.Forall₂ (HasMemberText limit.pairDepth store (id :: inside)) entries.members
      texts)
    (hwrites : ∀ v inner, rendering limit.pairDepth store (id :: inside) v = .ok inner →
      Writes limit store (id :: inside) v inner) :
    Writes limit store inside (.node id) ("\x7b" ++ String.intercalate "," texts ++ "\x7d") := by
  have hlabels : openValue limit store inside (.node id) =
      labelled limit.length entries.members >>= fun members =>
        .ok ⟨"\x7b", collectionTasks id "\x7d" members, id :: inside⟩ := by
    rw [openValue, if_neg hfresh, hid]
    rfl
  rcases labelled_of_texts limit.length hentries with ⟨members, hmembers, hall⟩ | ⟨hrefused, hlong⟩
  · rw [hmembers] at hlabels
    refine writes_collection hlabels (hall.imp fun member text hmember => ?_)
    obtain ⟨inner, hinner, htext⟩ := hmember
    exact ⟨inner, hwrites member.2 inner hinner, htext⟩
  · -- the text is already too long by what is known of one key
    intro w rest
    rw [hrefused] at hlabels
    have htotal := hlong ""
    rw [writeTasks_refused hlabels, Written.add_eq_error]
    · rfl
    · rw [intercalate_eq_joined, String.length_append, String.length_append]
      omega

/-- A value whose rendering there is, is written as this rendering. -/
theorem writes_rendering {v : Value} {text : String}
    (h : rendering limit.pairDepth store inside v = .ok text) :
    Writes limit store inside v text := by
  -- inwards, from collection to collection
  fun_induction rendering limit.pairDepth store inside v generalizing text with
  | case1 inside s => exact writes_at_once (by rw [openValue, h]; rfl)
  | case2 inside id hinside =>
    cases h
    exact writes_at_once (by rw [openValue, if_pos hinside])
  | case3 inside id hfresh items hid ih =>
    obtain ⟨texts, htexts, h⟩ := bind_eq_ok.1 h
    cases h
    exact writes_list hfresh hid ((mapM_eq_ok.1 htexts).imp fun v _ htext => ih v htext)
  | case4 inside id hfresh entries hid ih =>
    obtain ⟨texts, htexts, h⟩ := bind_eq_ok.1 h
    cases h
    have hentries : List.Forall₂ (HasMemberText limit.pairDepth store (id :: inside))
        entries.members texts := by
      refine (mapM_eq_ok.1 htexts).imp fun entry text htext => ?_
      obtain ⟨form, hform, htext⟩ := bind_eq_ok.1 htext
      obtain ⟨inner, hinner, htext⟩ := bind_eq_ok.1 htext
      cases htext
      exact ⟨form, inner, hform, hinner, rfl⟩
    exact writes_map hfresh hid hentries fun v _ hinner => ih v hinner
  | case5 inside id hfresh members hid =>
    apply writes_at_once
    rw [openValue, if_neg hfresh, hid]
    obtain ⟨form, hform, h⟩ := bind_eq_ok.1 h
    cases h
    show (setText members >>= _) = _
    rw [setText_eq, hform]
    rfl
  | case6 inside id hfresh first second hid =>
    apply writes_at_once
    rw [openValue, if_neg hfresh, hid]
    show (spacedText store limit.pairDepth [] (.node id) >>= _) = _
    rw [h]
    rfl
  | case7 inside id hfresh hid =>
    cases h
    apply writes_at_once
    rw [openValue, if_neg hfresh, hid]

end writing

/-! ## 5. Collections -/

section collections

variable {limit : TextLimit} {store : Store} {v : Value} {text : String}

/-- The text of a list or a map is its rendering, or there is none since the rendering is too long. -/
theorem textOf_of_rendering (hlimit : 2 ≤ limit.length) {id : Nat}
    (h : rendering limit.pairDepth store [] (.node id) = .ok text) :
    textOf limit store (.node id) =
      if text.length ≤ limit.length then .ok text else .error (.tooLong limit.length) := by
  have hwrites : (writeTasks limit store [] ⟨"", 0⟩ [.value (.node id)]).map (·.text) =
      if text.length ≤ limit.length then .ok text else .error (.tooLong limit.length) := by
    rw [writes_rendering h]
    by_cases hlong : text.length ≤ limit.length
    · have hadd : (0 : Nat) + text.length ≤ limit.length := by omega
      rw [Written.add_eq_ok hadd, if_pos hlong]
      show (writeTasks limit store [] _ []).map (·.text) = _
      rw [writeTasks, Except.map, String.empty_append]
    · have hadd : limit.length < 0 + text.length := by omega
      rw [Written.add_eq_error hadd, if_neg hlong]
      rfl
  rw [textOf]
  split
  · -- an empty list and an empty map are written without being measured
    next hid =>
    rw [rendering_list List.not_mem_nil hid, List.mapM_nil] at h
    cases h
    exact (if_pos hlimit).symm
  · next hid =>
    rw [rendering_map List.not_mem_nil hid, List.mapM_nil] at h
    cases h
    exact (if_pos hlimit).symm
  · exact hwrites

/-- An integer that is not too long to be written, or any other scalar. -/
def Scalar.IsShort : Scalar → Prop
  | .int i => Number.isWritable i = true
  | _ => True

/-- A scalar, list, map or set in which no integer is too long to be written, or a pair that has a
text. -/
def Store.IsWritableAt (store : Store) (pairDepth : Nat) : Value → Prop
  | .scalar s => s.IsShort
  | .node id =>
    match store[id]? with
    | some (.map entries) => ∀ entry ∈ entries.members, entry.1.IsShort
    | some (.set members) => ∀ member ∈ members, member.IsShort
    | some (.pair ..) => ∃ text, spacedText store pairDepth [] (.node id) = .ok text
    | _ => True

theorem Scalar.IsShort.exists_innerText {s : Scalar} (h : s.IsShort) :
    ∃ text, s.innerText = .ok text := by
  cases s with
  | int i =>
    have hwritable : Number.isWritable i = true := h
    rw [innerText, integerText, if_pos hwritable]
    exact ⟨_, rfl⟩
  | float x => cases x <;> exact ⟨_, rfl⟩
  | _ => exact ⟨_, rfl⟩

theorem Scalar.IsShort.exists_form {s : Scalar} (h : s.IsShort) : ∃ text, s.form = .ok text := by
  cases s with
  | int i => exact h.exists_innerText
  | _ => exact ⟨_, rfl⟩

theorem Scalar.IsShort.exists_shown {s : Scalar} (h : s.IsShort) : ∃ text, s.shown = .ok text := by
  cases s with
  | int i => exact h.exists_innerText
  | _ => exact ⟨_, rfl⟩

theorem exists_setForm {members : List Scalar} (h : ∀ member ∈ members, member.IsShort) :
    ∃ text, setForm members = .ok text := by
  obtain ⟨texts, htexts⟩ := exists_mapM fun member hmember => (h member hmember).exists_shown
  exact ⟨_, bind_eq_ok.2 ⟨texts, htexts, rfl⟩⟩

/-- A value all parts of which can be written has a rendering. -/
theorem exists_rendering {pairDepth : Nat} (inside : List Nat)
    (h : ∀ u, store.HoldsDeeply v u → store.IsWritableAt pairDepth u) :
    ∃ text, rendering pairDepth store inside v = .ok text := by
  -- what is in a member is in the collection
  have hmember : ∀ {v u : Value},
      (∀ w, store.HoldsDeeply v w → store.IsWritableAt pairDepth w) →
      store.Holds v u → ∀ w, store.HoldsDeeply u w → store.IsWritableAt pairDepth w :=
    fun hv hu w hw => hv w (.head hu hw)
  fun_induction rendering pairDepth store inside v with
  | case1 inside s => exact Scalar.IsShort.exists_innerText (h (.scalar s) .refl)
  | case2 => exact ⟨_, rfl⟩
  | case3 inside id hfresh items hid ih =>
    have hitems : ∀ u ∈ items, ∃ text, rendering pairDepth store (id :: inside) u = .ok text :=
      fun u hu => ih u (hmember h (.item (items?_node hid) hu))
    obtain ⟨texts, htexts⟩ := exists_mapM hitems
    exact ⟨_, bind_eq_ok.2 ⟨texts, htexts, rfl⟩⟩
  | case4 inside id hfresh entries hid ih =>
    have hkeys := h (.node id) .refl
    rw [Store.IsWritableAt, hid] at hkeys
    have hentries : ∀ entry ∈ entries.members, ∃ text, (do
        return jsonString (← entry.1.form) ++ ":" ++
          (← rendering pairDepth store (id :: inside) entry.2) : Except TextFault String) = .ok text := by
      intro entry hentry
      obtain ⟨form, hform⟩ := (hkeys entry hentry).exists_form
      obtain ⟨inner, hinner⟩ :=
        ih entry.2 (hmember h (.member (entries?_node hid) hentry))
      rw [hform, hinner]
      exact ⟨_, rfl⟩
    obtain ⟨texts, htexts⟩ := exists_mapM hentries
    exact ⟨_, bind_eq_ok.2 ⟨texts, htexts, rfl⟩⟩
  | case5 inside id hfresh members hid =>
    have hmembers := h (.node id) .refl
    rw [Store.IsWritableAt, hid] at hmembers
    obtain ⟨form, hform⟩ := exists_setForm hmembers
    exact ⟨_, bind_eq_ok.2 ⟨form, hform, rfl⟩⟩
  | case6 inside id hfresh first second hid =>
    have hpair := h (.node id) .refl
    rw [Store.IsWritableAt, hid] at hpair
    exact hpair
  | case7 => exact ⟨_, rfl⟩

/-- The text of a list or a map, whatever is shared in it and wherever it contains itself: the
rendering, if that is within the limit, and otherwise the fault that it would be too long. -/
theorem textOf_collection (hlimit : 2 ≤ limit.length)
    (hv : (∃ items, store.items? v = some items) ∨ ∃ entries, store.entries? v = some entries)
    (hparts : ∀ u, store.HoldsDeeply v u → store.IsWritableAt limit.pairDepth u) :
    ∃ text, rendering limit.pairDepth store [] v = .ok text ∧ textOf limit store v =
      if text.length ≤ limit.length then .ok text else .error (.tooLong limit.length) := by
  have hnode : ∃ id, v = .node id := by
    rcases hv with ⟨items, hitems⟩ | ⟨entries, hentries⟩
    · obtain ⟨id, hid, -⟩ := exists_of_items? hitems
      exact ⟨id, hid⟩
    · obtain ⟨id, hid, -⟩ := exists_of_entries? hentries
      exact ⟨id, hid⟩
  obtain ⟨id, rfl⟩ := hnode
  obtain ⟨text, htext⟩ := exists_rendering [] hparts
  exact ⟨text, htext, textOf_of_rendering hlimit htext⟩

/-- A list that stands twice in another, a map that contains itself, and a number as a key: the text
within one limit, and the fault within a smaller one. -/
theorem textOf_collection_cyclic :
    let store : Store := #[
      .map { members := [(.str "a", .node 1), (.int 7, .node 0)] },
      .list [.node 2, .node 2, .scalar (.date ⟨2024, 1, 5⟩)],
      .list []]
    (∀ u, store.HoldsDeeply (.node 0) u → store.IsWritableAt 960 u) ∧
      textOf { length := 64 } store (.node 0) = .ok "\x7b\"a\":[[],[],\"2024-01-05\"],\"7\":...\x7d" ∧
      textOf { length := 16 } store (.node 0) = .error (.tooLong 16) := by
  intro store
  have hmapAt : store[0]? = some (.map
      { members := [(.str "a", .node 1), (.int 7, .node 0)] }) := rfl
  have hlistAt : store[1]? = some (.list
      [.node 2, .node 2, .scalar (.date ⟨2024, 1, 5⟩)]) := rfl
  have hemptyAt : store[2]? = some (.list []) := rfl
  have hparts : ∀ u, store.HoldsDeeply (.node 0) u → store.IsWritableAt 960 u := by
    intro u hu
    have hknown : u = .node 0 ∨ u = .node 1 ∨ u = .node 2 ∨
        u = .scalar (.date ⟨2024, 1, 5⟩) := by
      -- from the map on, no other values are held
      induction hu with
      | refl => exact .inl rfl
      | tail _ hlast ih =>
        rcases ih with rfl | rfl | rfl | rfl
        · have hmem := (holds_map_iff hmapAt).1 hlast
          simp only [List.map_cons, List.map_nil, List.mem_cons, List.not_mem_nil] at hmem
          rcases hmem with rfl | rfl | hnone
          · exact .inr (.inl rfl)
          · exact .inl rfl
          · cases hnone
        · have hmem := (holds_list_iff hlistAt).1 hlast
          simp only [List.mem_cons, List.not_mem_nil] at hmem
          rcases hmem with rfl | rfl | rfl | hnone
          · exact .inr (.inr (.inl rfl))
          · exact .inr (.inr (.inl rfl))
          · exact .inr (.inr (.inr rfl))
          · cases hnone
        · cases (holds_list_iff hemptyAt).1 hlast
        · exact absurd hlast (not_holds_scalar _ _)
    rcases hknown with rfl | rfl | rfl | rfl
    · show ∀ entry ∈ [(Scalar.str "a", Value.node 1), (.int 7, .node 0)], entry.1.IsShort
      rw [List.forall_mem_cons, List.forall_mem_cons]
      exact ⟨trivial, (by decide +kernel : Number.isWritable 7 = true), nofun⟩
    · trivial
    · trivial
    · trivial
  have hmap : (∃ items, store.items? (.node 0) = some items) ∨
      ∃ entries, store.entries? (.node 0) = some entries := .inr ⟨_, rfl⟩
  have hrendering : rendering 960 store [] (.node 0) =
      .ok "\x7b\"a\":[[],[],\"2024-01-05\"],\"7\":...\x7d" := by
    decide +kernel
  refine ⟨hparts, ?_, ?_⟩
  · obtain ⟨text, htext, htextOf⟩ :=
      textOf_collection (by decide : 2 ≤ ({ length := 64 } : TextLimit).length) hmap hparts
    rw [hrendering] at htext
    cases htext
    rw [htextOf, if_pos (by decide)]
  · obtain ⟨text, htext, htextOf⟩ :=
      textOf_collection (by decide : 2 ≤ ({ length := 16 } : TextLimit).length) hmap hparts
    rw [hrendering] at htext
    cases htext
    rw [htextOf, if_neg (by decide)]

end collections

end FileQuery.Document

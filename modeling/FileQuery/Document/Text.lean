import FileQuery.Document.Shown
import FileQuery.Document.Store

/-!
The texts of values.  A collection is written on one line without blanks, and as an ellipsis where it
is met again inside itself; its text may not be longer than a limit.
-/

namespace FileQuery.Document

/-- How long the text of a value may be, and how deep collections may be nested inside a pair before
the interpreter runs out of stack. -/
structure TextLimit where
  length : Nat := 16 * 1024 * 1024
  pairDepth : Nat := 960
deriving DecidableEq, Repr

structure Written where
  text : String
  length : Nat

def Written.add (limit : Nat) (w : Written) (text : String) : Except TextFault Written :=
  let length := w.length + text.length
  if limit < length then .error (.tooLong limit) else .ok ⟨w.text ++ text, length⟩

/-- The text of a key inside a pair, where dates, times and bytes cannot be keys. -/
def pairKeyText : Scalar → Except TextFault String
  | .date _ => .error (.foreignKey "datetime.date")
  | .time _ => .error (.foreignKey "datetime.time")
  | .dateTime _ => .error (.foreignKey "datetime.datetime")
  | .bytes _ => .error (.foreignKey "bytes")
  | .str s => .ok (jsonString s)
  | key => key.innerText.map jsonString

/-- The text of a value inside a pair, with a blank after every comma and colon.  `inside` holds the
collections around it, and `depth` more may be nested in them. -/
def spacedText (store : Store) : Nat → List Nat → Value → Except TextFault String
  | _, _, .scalar s => s.innerText
  | 0, _, .node _ => .error .tooDeep
  | depth + 1, inside, .node id =>
    if id ∈ inside then .error .circular
    else
      let inner (v : Value) := spacedText store depth (id :: inside) v
      match store[id]? with
      | none => .ok "null"
      | some (.list items) => do
        return "[" ++ String.intercalate ", " (← items.mapM inner) ++ "]"
      | some (.pair first second) => do
        return "[" ++ (← inner first) ++ ", " ++ (← inner second) ++ "]"
      | some (.map entries) => do
        let members ← entries.members.mapM fun (key, v) => do
          return (← pairKeyText key) ++ ": " ++ (← inner v)
        return "\x7b" ++ String.intercalate ", " members ++ "\x7d"
      | some (.set members) => setText members

inductive Task where
  | value (v : Value)
  | text (s : String)
  | leave (id : Nat)

def memberTasks (separator : String) : List (String × Value) → List Task
  | [] => []
  | (label, v) :: rest => .text (separator ++ label) :: .value v :: memberTasks "," rest

def collectionTasks (id : Nat) (closing : String) (members : List (String × Value)) : List Task :=
  memberTasks "" members ++ [.text closing, .leave id]

def labelled (limit : Nat) : List (Scalar × Value) → Except TextFault (List (String × Value))
  | [] => .ok []
  | (key, v) :: rest => do
    let label ← key.keyText limit
    let members ← labelled limit rest
    return (label ++ ":", v) :: members

/-- What is written at once for a value, the work that this leaves, and the collections around that
work. -/
structure Opened where
  text : String
  tasks : List Task
  inside : List Nat

/-- Begins with a value.  `inside` holds the collections around it. -/
def openValue (limit : TextLimit) (store : Store) (inside : List Nat) :
    Value → Except TextFault Opened
  | .scalar s => do return ⟨← s.innerText, [], inside⟩
  | .node id =>
    if id ∈ inside then .ok ⟨"...", [], inside⟩
    else
      match store[id]? with
      | some (.list items) => .ok ⟨"[", collectionTasks id "]" (items.map (("", ·))), id :: inside⟩
      | some (.map entries) => do
        let members ← labelled limit.length entries.members
        return ⟨"\x7b", collectionTasks id "\x7d" members, id :: inside⟩
      | some (.set members) => do return ⟨← setText members, [], inside⟩
      | some (.pair ..) => do return ⟨← spacedText store limit.pairDepth [] (.node id), [], inside⟩
      | none => .ok ⟨"null", [], inside⟩

theorem Written.length_add {limit : Nat} {w more : Written} {text : String}
    (h : w.add limit text = .ok more) : more.length = w.length + text.length ∧ more.length ≤ limit := by
  unfold Written.add at h
  dsimp only at h
  split at h
  · cases h
  · next hlimit =>
    cases h
    exact ⟨rfl, Nat.le_of_not_lt hlimit⟩

theorem length_memberTasks (separator : String) (members : List (String × Value)) :
    (memberTasks separator members).length = 2 * members.length := by
  induction members generalizing separator with
  | nil => rfl
  | cons member rest ih =>
    rw [memberTasks, List.length_cons, List.length_cons, List.length_cons, ih]
    omega

theorem length_collectionTasks (id : Nat) (closing : String) (members : List (String × Value)) :
    (collectionTasks id closing members).length = 2 * members.length + 2 := by
  rw [collectionTasks, List.length_append, length_memberTasks]
  rfl

theorem length_labelled {limit : Nat} {entries : List (Scalar × Value)}
    {members : List (String × Value)}
    (h : labelled limit entries = .ok members) : members.length = entries.length := by
  induction entries generalizing members with
  | nil =>
    cases h
    rfl
  | cons entry rest ih =>
    rw [labelled] at h
    cases hkey : entry.1.keyText limit <;> rw [hkey] at h
    · cases h
    · cases hrest : labelled limit rest <;> rw [hrest] at h <;> cases h
      exact congrArg (· + 1) (ih hrest)

/-- How many pieces of work a collection leaves. -/
def Collection.work : Collection → Nat
  | .list items => 2 * items.length + 2
  | .map entries => 2 * entries.members.length + 2
  | _ => 0

def Store.work (store : Store) : Nat := store.toList.foldr (fun c n => c.work + n) 0

theorem Store.work_le {store : Store} {id : Nat} {c : Collection} (h : store[id]? = some c) :
    c.work ≤ store.work := by
  have hmem : c ∈ store.toList := Array.mem_toList_iff.2 (Array.mem_of_getElem? h)
  unfold Store.work
  generalize store.toList = collections at hmem
  induction collections with
  | nil => cases hmem
  | cons d rest ih =>
    rw [List.foldr_cons]
    cases hmem with
    | head => exact Nat.le_add_right _ _
    | tail _ hrest => exact Nat.le_trans (ih hrest) (Nat.le_add_left _ _)

/-- A value that leaves work is a collection, whose bracket is written at once. -/
theorem length_openValue {limit : TextLimit} {store : Store} {inside : List Nat} {v : Value}
    {opened : Opened} (h : openValue limit store inside v = .ok opened) :
    opened.tasks = [] ∨ opened.text.length = 1 ∧ opened.tasks.length ≤ store.work := by
  cases v with
  | scalar s =>
    cases hs : s.innerText <;> rw [openValue, hs] at h <;> cases h
    exact .inl rfl
  | node id =>
    rw [openValue] at h
    split at h
    · cases h
      exact .inl rfl
    · -- sets and pairs are written in one go
      split at h
      · next items hc =>
        cases h
        refine .inr ⟨(by decide : "[".length = 1), ?_⟩
        rw [length_collectionTasks, List.length_map]
        exact Store.work_le hc
      · next entries hc =>
        cases hmembers : labelled limit.length entries.members <;> rw [hmembers] at h <;> cases h
        refine .inr ⟨(by decide : "\x7b".length = 1), ?_⟩
        rw [length_collectionTasks, length_labelled hmembers]
        exact Store.work_le hc
      · next members _ =>
        cases htext : setText members <;> rw [htext] at h <;> cases h
        exact .inl rfl
      · cases htext : spacedText store limit.pairDepth [] (.node id) <;> rw [htext] at h <;> cases h
        exact .inl rfl
      · cases h
        exact .inl rfl

/-- Does one piece of work after the other.  `inside` holds the collections that have been opened and
not left. -/
def writeTasks (limit : TextLimit) (store : Store) (inside : List Nat) (w : Written)
    (tasks : List Task) : Except TextFault Written :=
  match tasks with
  | [] => .ok w
  | .leave id :: rest => writeTasks limit store (inside.erase id) w rest
  | .text s :: rest =>
    match _h : w.add limit.length s with
    | .error fault => .error fault
    | .ok more => writeTasks limit store inside more rest
  | .value v :: rest =>
    match _hopened : openValue limit store inside v with
    | .error fault => .error fault
    | .ok opened =>
      match _h : w.add limit.length opened.text with
      | .error fault => .error fault
      | .ok more => writeTasks limit store opened.inside more (opened.tasks ++ rest)
-- each collection that is opened brings the text nearer to the limit
termination_by (limit.length + 1 - w.length) * (store.work + 1) + tasks.length
decreasing_by
  · exact Nat.lt_succ_self _
  · have hlength := Written.length_add _h
    have hleft : limit.length + 1 - more.length ≤ limit.length + 1 - w.length := by omega
    have hbound := Nat.mul_le_mul_right (store.work + 1) hleft
    simp only [List.length_cons]
    omega
  · have hlength := Written.length_add _h
    rw [List.length_append, List.length_cons]
    rcases length_openValue _hopened with hnone | ⟨hone, hwork⟩
    · have hleft : limit.length + 1 - more.length ≤ limit.length + 1 - w.length := by omega
      have hbound := Nat.mul_le_mul_right (store.work + 1) hleft
      rw [hnone, List.length_nil]
      omega
    · have hleft : limit.length + 1 - more.length + 1 ≤ limit.length + 1 - w.length := by omega
      have hbound := Nat.mul_le_mul_right (store.work + 1) hleft
      rw [Nat.succ_mul] at hbound
      omega

/-- The text of a value, as comparisons see it. -/
def textOf (limit : TextLimit) (store : Store) (v : Value) : Except TextFault String :=
  match v with
  | .scalar s => s.text limit.length
  | .node id =>
    match store[id]? with
    | some (.list []) => .ok "[]"
    | some (.map ⟨[], _⟩) => .ok "\x7b\x7d"
    | _ => (writeTasks limit store [] ⟨"", 0⟩ [.value v]).map (·.text)

end FileQuery.Document

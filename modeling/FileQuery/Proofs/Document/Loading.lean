import FileQuery.Document.Load
import FileQuery.Proofs.Document.LongNumbers
import FileQuery.Proofs.Document.PlainText

/-!
# What bytes are in a format

Bytes are documents of a format, or unusable, or the reading breaks off: in JSON and TOML at an integer
with too many digits, in YAML where the library does.  Documents of JSON and of TOML are plain.
-/

namespace FileQuery.Document

/-! ## 1. Trees are plain documents -/

def Store.IsPlain (store : Store) : Prop :=
  ∀ c ∈ store, (∃ items, c = .list items) ∨ ∃ entries, c = .map entries

theorem Store.IsPlain.push {store : Store} (h : store.IsPlain) {c : Collection}
    (hc : (∃ items, c = .list items) ∨ ∃ entries, c = .map entries) :
    Store.IsPlain (Array.push store c) := by
  intro c' hmem
  rcases Array.mem_push.1 hmem with hold | rfl
  · exact h c' hold
  · exact hc

mutual
theorem Tree.isPlain_place {store : Store} (h : store.IsPlain) :
    ∀ t : Tree, (t.place store).2.IsPlain
  | .scalar _ => h
  | .list items => (Tree.isPlain_placeItems h items []).push (.inl ⟨_, rfl⟩)
  | .map entries => (Tree.isPlain_placeEntries h entries []).push (.inr ⟨_, rfl⟩)
theorem Tree.isPlain_placeItems {store : Store} (h : store.IsPlain) :
    ∀ (items : List Tree) (done : List Value), (Tree.placeItems done store items).2.IsPlain
  | [], _ => h
  | t :: rest, _ => Tree.isPlain_placeItems (Tree.isPlain_place h t) rest _
theorem Tree.isPlain_placeEntries {store : Store} (h : store.IsPlain) :
    ∀ (entries : List (String × Tree)) (done : List (Scalar × Value)),
      (Tree.placeEntries done store entries).2.IsPlain
  | [], _ => h
  | (_, t) :: rest, _ => Tree.isPlain_placeEntries (Tree.isPlain_place h t) rest _
end

theorem Tree.isPlain_toRoot (t : Tree) : t.toRoot.IsPlain :=
  Tree.isPlain_place (fun _ hc => absurd hc (by simp)) t

/-! ## 2. Texts -/

variable {readers : Readers} {format : Format}

def BreaksIn (readers : Readers) : Format → List Char → BadValue → Prop
  | .yaml, s, v => readers.yaml.readAll s = .error (.badValue v)
  | .json, _, v | .toml, _, v => v.IsTooLong

theorem breaksAt_readText (readers : Readers) (format : Format) (s : List Char) :
    BreaksAt (BreaksIn readers format s) (readText readers format s) := by
  cases format with
  | yaml => exact fun _ h => h
  | json => exact (Json.breaksAt_read _ s).map _
  | toml => exact (Toml.breaksAt_read _ s).map _

theorem isPlain_readText (hformat : format ≠ .yaml) {s : List Char} {roots : List Root}
    (h : readText readers format s = .ok roots) : ∀ root ∈ roots, root.IsPlain := by
  cases format with
  | yaml => exact absurd rfl hformat
  | json | toml =>
    obtain ⟨t, -, rfl⟩ := map_eq_ok.1 h
    intro root hroot
    rw [List.mem_singleton.1 hroot]
    exact t.isPlain_toRoot

/-! ## 3. Bytes -/

/-- What the reader of a format breaks off at in bytes, which are a text. -/
def BreaksInBytes (readers : Readers) (format : Format) (bytes : List UInt8) (v : BadValue) : Prop :=
  ∃ s, Text.readUtf8 bytes = .ok s ∧ BreaksIn readers format s v

theorem load_cases (readers : Readers) (format : Format) (bytes : List UInt8) :
    (∃ roots, load readers format bytes = .ok roots) ∨
    (∃ reason, load readers format bytes = .error (.unusable ⟨format, reason⟩)) ∨
    ∃ v, load readers format bytes = .error (.badValue v) ∧ BreaksInBytes readers format bytes v := by
  unfold load
  split
  · next fault _ => exact .inr (.inl ⟨.notUtf8 fault, rfl⟩)
  · next s hs =>
    cases hread : readText readers format s with
    | ok roots => exact .inl ⟨roots, rfl⟩
    | error fault =>
      cases fault with
      | malformed => exact .inr (.inl ⟨.parseError, rfl⟩)
      | tooDeep => exact .inr (.inl ⟨.tooDeep, rfl⟩)
      | badValue v => exact .inr (.inr ⟨v, rfl, s, hs, breaksAt_readText readers format s v hread⟩)

theorem isPlain_load (hformat : format ≠ .yaml) {bytes : List UInt8} {roots : List Root}
    (h : load readers format bytes = .ok roots) : ∀ root ∈ roots, root.IsPlain := by
  unfold load at h
  split at h
  · cases h
  · exact isPlain_readText hformat (mapError_eq_ok.1 h)

end FileQuery.Document

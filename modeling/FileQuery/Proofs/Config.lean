import FileQuery.Config.Load
import FileQuery.Document.Yaml
import FileQuery.Proofs.Text.Decoding
import Mathlib.Algebra.Group.Nat.Defs
import Mathlib.Tactic.Push

/-!
# Settings from a configuration file

A setting is what stands under its key, if that has its kind, and its default otherwise, whatever the
other members are.  Where no settings are read at all, either there is no document, since the bytes are
no text or the library gives up on them, or a member that is no setting has a key with too many digits
to be told of.
-/

namespace FileQuery.Config

open Document (Entries ReadFault Root Scalar Store Value YamlLibrary)

/-! ## 1. What members hold -/

def int? : Value → Option Int
  | .scalar (.int n) => some n
  | _ => none

def truth? : Value → Option Bool
  | .scalar (.bool b) => some b
  | _ => none

def text? : Value → Option String
  | .scalar (.str s) => some s
  | _ => none

variable {key : Scalar} {value : Value} {rest members : List (Scalar × Value)}

def held {α : Type} (kind? : Value → Option α) (members : List (Scalar × Value)) (key : String)
    (otherwise : α) : α :=
  ((members.find? fun member => member.1 == .str key).bind fun member => kind? member.2).getD otherwise

def withMembers (config : Config) (members : List (Scalar × Value)) : Config where
  maxDocumentSize := held int? members "max_structured_size" config.maxDocumentSize
  chunkSize := held int? members "content_chunk_size" config.chunkSize
  includeHidden := held truth? members "include_hidden" config.includeHidden
  followSymlinks := held truth? members "follow_symlinks" config.followSymlinks
  logLevel := held text? members "log_level" config.logLevel

def HaveDistinctKeys (members : List (Scalar × Value)) : Prop :=
  members.Pairwise fun x y => x.1.sameKey y.1 = false

theorem find?_eq_none_of_distinct {name : String}
    (h : HaveDistinctKeys ((.str name, value) :: rest)) :
    rest.find? (fun member => member.1 == .str name) = none := by
  rw [List.find?_eq_none]
  intro member hmember hkey
  have hne := (List.pairwise_cons.1 h).1 member hmember
  simp [eq_of_beq hkey, Scalar.sameKey] at hne

/-- Since keys are distinct, what the first member holds is not held by those after it. -/
theorem held_cons {α : Type} {kind? : Value → Option α}
    (h : HaveDistinctKeys ((key, value) :: rest)) (name : String) (otherwise : α) :
    held kind? ((key, value) :: rest) name otherwise =
      held kind? rest name (held kind? [(key, value)] name otherwise) := by
  by_cases hkey : key = .str name
  · subst hkey
    simp [held, find?_eq_none_of_distinct h]
  · have hother : (key == Scalar.str name) = false := by simpa using hkey
    simp [held, hother]

theorem withMembers_cons (config : Config) (h : HaveDistinctKeys ((key, value) :: rest)) :
    config.withMembers ((key, value) :: rest) =
      (config.withMembers [(key, value)]).withMembers rest := by
  simp only [withMembers, held_cons h]

/-! ## 2. A member that is a setting, and one that is none -/

/-- A value is taken over for a setting if it has its kind. -/
theorem take_fst {field : Field} (h : field ∈ fields) (store : Store) (value : Value)
    (config : Config) :
    (field.take store value config).1 = config.withMembers [(.str field.key, value)] := by
  simp only [fields, List.mem_cons, List.not_mem_nil, or_false] at h
  rcases h with rfl | rfl | rfl | rfl | rfl
  all_goals
    rcases value with s | id
    · cases s <;> rfl
    · rfl

theorem withMembers_of_unknown (config : Config) (h : ∀ field ∈ fields, key ≠ .str field.key)
    (value : Value) : config.withMembers [(key, value)] = config := by
  simp only [fields, integerField, truthField, List.forall_mem_cons] at h
  obtain ⟨hsize, hchunk, hhidden, hlinks, hlevel, -⟩ := h
  simp [withMembers, held, hsize, hchunk, hhidden, hlinks, hlevel]

/-- A key that cannot be told of: an integer with too many digits. -/
def IsLong (key : Scalar) : Prop := ∃ n, key = .int n ∧ 10 ^ Number.digitLimit ≤ n.natAbs

theorem isLong_int {n : Int} : IsLong (.int n) ↔ Number.isWritable n = false := by
  rw [IsLong, Number.isWritable]
  -- the power is too great to be multiplied out
  generalize Number.digitLimit = limit
  simp

theorem shown_cases (key : Scalar) : (¬ IsLong key ∧ ∃ shown, key.shown = .ok shown) ∨
    (IsLong key ∧ key.shown = .error .integerTooLong) := by
  cases key with
  | int n =>
    rw [isLong_int, Scalar.shown, Document.integerText]
    cases Number.isWritable n with
    | true => exact .inl ⟨nofun, _, rfl⟩
    | false => exact .inr ⟨rfl, rfl⟩
  | _ => exact .inl ⟨nofun, _, rfl⟩

/-! ## 3. The members of a section -/

variable {store : Store}

/-- A member changes no setting but the one that it is, and ends the reading only if it cannot be told
of. -/
theorem takeMembers_cons (config : Config) (key : Scalar) (value : Value)
    (rest : List (Scalar × Value)) :
    (¬ IsLong key ∧ ∃ remarks, takeMembers store config ((key, value) :: rest) =
      (takeMembers store (config.withMembers [(key, value)]) rest).map
        fun taken => (taken.1, remarks ++ taken.2)) ∨
    (IsLong key ∧
      takeMembers store config ((key, value) :: rest) = .error (.key .integerTooLong)) := by
  rw [takeMembers]
  split
  · next field hfound =>
    obtain rfl : key = .str field.key := by simpa using List.find?_some hfound
    refine .inl ⟨nofun, (field.take store value config).2, ?_⟩
    rw [← take_fst (List.mem_of_find?_eq_some hfound) store value config]
    show (takeMembers store (field.take store value config).1 rest >>= fun taken =>
      .ok (taken.1, (field.take store value config).2 ++ taken.2)) = _
    cases takeMembers store (field.take store value config).1 rest <;> rfl
  · -- a key that is no setting is only told of
    next hfound =>
    have hunknown : ∀ field ∈ fields, key ≠ .str field.key := by
      simpa using List.find?_eq_none.1 hfound
    rw [withMembers_of_unknown config hunknown value]
    refine (shown_cases key).imp (fun ⟨hlong, shown, hshown⟩ => ⟨hlong, [.unknownKey shown], ?_⟩)
      fun ⟨hlong, hshown⟩ => ⟨hlong, ?_⟩
    · rw [hshown]
      show (takeMembers store config rest >>= fun taken =>
        .ok (taken.1, .unknownKey shown :: taken.2)) = _
      cases takeMembers store config rest <;> rfl
    · rw [hshown]
      rfl

/-- The members of a section change the settings to those that they hold. -/
theorem takeMembers_of_told (store : Store) (h : HaveDistinctKeys members)
    (htold : ∀ m ∈ members, ¬ IsLong m.1) (config : Config) :
    ∃ remarks, takeMembers store config members = .ok (config.withMembers members, remarks) := by
  induction members generalizing config with
  | nil => exact ⟨[], rfl⟩
  | cons member rest ih =>
    obtain ⟨hmember, hrest⟩ := List.forall_mem_cons.1 htold
    rcases takeMembers_cons config member.1 member.2 rest with ⟨-, remarks, htake⟩ | ⟨hlong, -⟩
    · obtain ⟨more, hmore⟩ := ih h.of_cons hrest (config.withMembers [member])
      refine ⟨remarks ++ more, ?_⟩
      rw [htake, hmore, withMembers_cons config h]
      rfl
    · exact absurd hlong hmember

/-- A member that cannot be told of ends the reading, wherever it stands. -/
theorem takeMembers_of_long (h : ∃ m ∈ members, IsLong m.1) (config : Config) :
    takeMembers store config members = .error (.key .integerTooLong) := by
  induction members generalizing config with
  | nil =>
    obtain ⟨_, hm, -⟩ := h
    cases hm
  | cons member rest ih =>
    rcases takeMembers_cons config member.1 member.2 rest with ⟨hmember, _, htake⟩ | ⟨-, htake⟩
    · obtain hlong | hrest := (List.exists_mem_cons_iff _ _ _).1 h
      · exact absurd hlong hmember
      · rw [htake, ih hrest]
        rfl
    · exact htake

/-! ## 4. Documents -/

def sectionOf? (root : Root) : Option Entries :=
  ((root.store.entries? root.value).bind (·.get? "detect")).bind root.store.entries?

def settingsOf (root? : Option Root) : Config :=
  ({} : Config).withMembers (((root?.bind sectionOf?).map Entries.members).getD [])

theorem ofDocument_of_sectionOf? {root : Root} {entries : Entries}
    (h : sectionOf? root = some entries) :
    ofDocument root = takeMembers root.store {} entries.members := by
  obtain ⟨part, hpart, hmembers⟩ := Option.bind_eq_some_iff.1 h
  rw [ofDocument, hpart]
  simp only [hmembers]

theorem ofDocument_of_no_section {root : Root} (h : sectionOf? root = none) :
    ∃ remarks, ofDocument root = .ok ({}, remarks) := by
  unfold ofDocument
  split
  · exact ⟨[], rfl⟩
  · next part hpart =>
    rw [sectionOf?, hpart, Option.bind_some] at h
    simp only [h]
    exact ⟨_, rfl⟩

/-- A document has settings, unless a member of its section cannot be told of. -/
theorem ofDocument_cases (root : Root) :
    (∃ remarks, ofDocument root = .ok (settingsOf (some root), remarks)) ∨
    (∃ entries, sectionOf? root = some entries ∧ ∃ m ∈ entries.members, IsLong m.1) ∧
      ofDocument root = .error (.key .integerTooLong) := by
  cases hsection : sectionOf? root with
  | none =>
    obtain ⟨remarks, hremarks⟩ := ofDocument_of_no_section hsection
    exact .inl ⟨remarks, by rw [hremarks, settingsOf, Option.bind_some, hsection]; rfl⟩
  | some entries =>
    rw [ofDocument_of_sectionOf? hsection]
    by_cases hlong : ∃ m ∈ entries.members, IsLong m.1
    · exact .inr ⟨⟨entries, rfl, hlong⟩, takeMembers_of_long hlong {}⟩
    · push Not at hlong
      obtain ⟨remarks, hremarks⟩ := takeMembers_of_told root.store entries.distinct hlong {}
      exact .inl ⟨remarks, by rw [hremarks, settingsOf, Option.bind_some, hsection]; rfl⟩

/-! ## 5. Files -/

/-- What a library finds in a file: what it finds in the text whose encoding the bytes are, or a fault
that it meets before the bytes turn out to be no text. -/
inductive Finds (yaml : YamlLibrary) (bytes : List UInt8) : Except ReadFault (Option Root) → Prop
  | text {text : List Char} : Text.encode text = bytes → Finds yaml bytes (yaml.readOnly text)
  | early {fault : ReadFault} : (∀ text, Text.encode text ≠ bytes) →
      yaml.earlyFault? bytes = some fault → Finds yaml bytes (.error fault)

/-- The files that have no settings: they are no text and nothing was wrong before, the library gives
up on the nesting or breaks off, or a member of the section has an integer with too many digits as its
key. -/
inductive Escapes (yaml : YamlLibrary) (bytes : List UInt8) : Fault → Prop
  | notUtf8 {fault : Text.Utf8Fault} : (∀ text, Text.encode text ≠ bytes) →
      yaml.earlyFault? bytes = none → Text.readUtf8 bytes = .error fault →
      Escapes yaml bytes (.notUtf8 fault)
  | tooDeep : Finds yaml bytes (.error .tooDeep) → Escapes yaml bytes .tooDeep
  | badValue {v : Document.BadValue} : Finds yaml bytes (.error (.badValue v)) →
      Escapes yaml bytes (.badValue v)
  | key {root : Root} {entries : Entries} : Finds yaml bytes (.ok (some root)) →
      sectionOf? root = some entries → (∃ m ∈ entries.members, IsLong m.1) →
      Escapes yaml bytes (.key .integerTooLong)

variable {yaml : YamlLibrary} {bytes : List UInt8}

theorem ofBytes_of_finds {found : Except ReadFault (Option Root)} (h : Finds yaml bytes found) :
    ofBytes yaml bytes = ofReading found := by
  cases h with
  | text htext => rw [ofBytes, Text.readUtf8_eq_ok.2 htext]
  | early hnone hearly =>
    obtain ⟨fault, hfault⟩ := Text.exists_readUtf8_eq_error.2 hnone
    rw [ofBytes, hfault, hearly]

/-- The settings that a file has, given what the library finds in it. -/
theorem finds_cases {found : Except ReadFault (Option Root)} (h : Finds yaml bytes found) :
    (∃ fault, Escapes yaml bytes fault ∧ ofReading found = .error fault) ∨
      ∃ root? remarks, (found = .ok root? ∨ found = .error .malformed ∧ root? = none) ∧
        ofReading found = .ok (settingsOf root?, remarks) := by
  match found, h with
  | .error .malformed, _ => exact .inr ⟨none, _, .inr ⟨rfl, rfl⟩, rfl⟩
  | .error .tooDeep, h => exact .inl ⟨_, .tooDeep h, rfl⟩
  | .error (.badValue v), h => exact .inl ⟨_, .badValue h, rfl⟩
  | .ok none, _ => exact .inr ⟨none, [], .inl rfl, rfl⟩
  | .ok (some root), h =>
    rcases ofDocument_cases root with ⟨remarks, hremarks⟩ | ⟨⟨entries, hsection, hlong⟩, hfault⟩
    · exact .inr ⟨some root, remarks, .inl rfl, hremarks⟩
    · exact .inl ⟨_, .key h hsection hlong, hfault⟩

/-- Files whose bytes are no text, and in which nothing is wrong before. -/
theorem finds_or_notUtf8 (yaml : YamlLibrary) (bytes : List UInt8) :
    (∃ found, Finds yaml bytes found) ∨
      ∃ fault, Escapes yaml bytes (.notUtf8 fault) ∧ ofBytes yaml bytes = .error (.notUtf8 fault) := by
  cases htext : Text.readUtf8 bytes with
  | ok text => exact .inl ⟨_, .text (Text.readUtf8_eq_ok.1 htext)⟩
  | error fault =>
    have hnone := Text.exists_readUtf8_eq_error.1 ⟨fault, htext⟩
    cases hearly : yaml.earlyFault? bytes with
    | some early => exact .inl ⟨_, .early hnone hearly⟩
    | none =>
      refine .inr ⟨fault, .notUtf8 hnone hearly htext, ?_⟩
      rw [ofBytes, htext, hearly]

theorem ofBytes_of_escapes {fault : Fault} (h : Escapes yaml bytes fault) :
    ofBytes yaml bytes = .error fault := by
  cases h with
  | notUtf8 _ hearly hfault => rw [ofBytes, hfault, hearly]
  | tooDeep h => exact ofBytes_of_finds h
  | badValue h => exact ofBytes_of_finds h
  | key h hsection hlong =>
    rw [ofBytes_of_finds h, ofReading, ofDocument_of_sectionOf? hsection, takeMembers_of_long hlong]

/-- A file has settings, each the value under its key if that has its kind and else the default, just
where nothing escapes; a document that is malformed counts as none. -/
theorem ofBytes_settings (yaml : YamlLibrary) (bytes : List UInt8) :
    (∀ fault, ofBytes yaml bytes = .error fault ↔ Escapes yaml bytes fault) ∧
    ((∀ fault, ¬ Escapes yaml bytes fault) → ∃ found root? remarks, Finds yaml bytes found ∧
      (found = .ok root? ∨ found = .error .malformed ∧ root? = none) ∧
      ofBytes yaml bytes = .ok (settingsOf root?, remarks)) := by
  have hcases : (∃ fault, Escapes yaml bytes fault) ∨ ∃ found root? remarks, Finds yaml bytes found ∧
      (found = .ok root? ∨ found = .error .malformed ∧ root? = none) ∧
      ofBytes yaml bytes = .ok (settingsOf root?, remarks) := by
    rcases finds_or_notUtf8 yaml bytes with ⟨found, hfound⟩ | ⟨fault, hescapes, -⟩
    · rcases finds_cases hfound with ⟨fault, hescapes, -⟩ | ⟨root?, remarks, hroot, hsettings⟩
      · exact .inl ⟨fault, hescapes⟩
      · exact .inr ⟨found, root?, remarks, hfound, hroot, (ofBytes_of_finds hfound).trans hsettings⟩
    · exact .inl ⟨_, hescapes⟩
  refine ⟨fun fault => ⟨fun h => ?_, ofBytes_of_escapes⟩, fun h => ?_⟩
  · rcases hcases with ⟨fault', hescapes⟩ | ⟨_, _, _, -, -, hsettings⟩
    · rw [ofBytes_of_escapes hescapes] at h
      cases h
      exact hescapes
    · rw [hsettings] at h
      cases h
  · exact hcases.resolve_left fun ⟨fault, hfault⟩ => h fault hfault

/-- A truth value is none of the numbers, and other settings are not disturbed. -/
theorem ofBytes_settings_truth :
    let yaml := Document.Yaml.library {}
    let bytes := "detect: {content_chunk_size: true, 7: x, include_hidden: true}".toUTF8.toList
    (∀ fault, ¬ Escapes yaml bytes fault) ∧ ∃ root? remarks,
      settingsOf root? = { includeHidden := true } ∧
      ofBytes yaml bytes = .ok (settingsOf root?, remarks) := by
  intro yaml bytes
  have hread : ofBytes yaml bytes = .ok ({ includeHidden := true },
      [.wrongKind "'content_chunk_size'" "int" "bool", .unknownKey "7"]) := by
    decide +kernel
  obtain ⟨hescapes, hsettings⟩ := ofBytes_settings yaml bytes
  have hnone : ∀ fault, ¬ Escapes yaml bytes fault := by
    intro fault hfault
    have herror := (hescapes fault).2 hfault
    rw [hread] at herror
    cases herror
  obtain ⟨_, root?, remarks, -, -, hremarks⟩ := hsettings hnone
  have hsame : settingsOf root? = { includeHidden := true } := by
    rw [hread] at hremarks
    exact (congrArg Prod.fst (Except.ok.inj hremarks)).symm
  exact ⟨hnone, root?, remarks, hsame, hremarks⟩

/-- Bytes that are no text have no settings. -/
theorem ofBytes_not_utf8 :
    ofBytes (Document.Yaml.library {}) [0xff] = .error (.notUtf8 ⟨[0xff], 0, .start⟩) := rfl

end FileQuery.Config

import FileQuery.Text.Utf8
import Mathlib.Data.List.Basic
import Mathlib.Tactic.Basic

/-!
# Decoding is the inverse of encoding

Decoding reads one byte at a time and may be interrupted between any two.  It gives the longest text
whose encoding the bytes begin with, and it stands between two characters at the end exactly if the
bytes are the encoding of that text.
-/

namespace FileQuery.Text

/-! ## 1. Encoded texts -/

def encode (text : List Char) : List UInt8 := text.flatMap String.utf8EncodeChar

@[simp] theorem encode_cons (c : Char) (text : List Char) :
    encode (c :: text) = String.utf8EncodeChar c ++ encode text := rfl

@[simp] theorem encode_append (text more : List Char) :
    encode (text ++ more) = encode text ++ encode more := List.flatMap_append

/-- The longest text that bytes begin with. -/
structure IsLongestText (bytes : List UInt8) (text : List Char) : Prop where
  begins : encode text <+: bytes
  longest : ∀ other, encode other <+: bytes → (encode other).length ≤ (encode text).length

/-! ## 2. Reading without regard to the bytes before -/

/-- What bytes read as from a state on: the characters, and the state after them unless a byte is
refused. -/
def Utf8State.read (state : Utf8State) : List UInt8 → List Char × Option Utf8State
  | [] => ([], some state)
  | b :: rest =>
    match state.step b with
    | .char c => (c :: (Utf8State.between.read rest).1, (Utf8State.between.read rest).2)
    | .more state => state.read rest
    | .bad => ([], none)

theorem decodeFrom_eq_read (done : List Char) (state : Utf8State) (count : Nat)
    (bytes : List UInt8) :
    (decodeFrom done state count bytes).1 = done.reverse ++ (state.read bytes).1 ∧
      (decodeFrom done state count bytes).2.toOption = (state.read bytes).2 := by
  induction bytes generalizing done state count with
  | nil => exact ⟨(List.append_nil _).symm, rfl⟩
  | cons b rest ih =>
    rw [decodeFrom, Utf8State.read]
    cases state.step b with
    | char c =>
      obtain ⟨htext, hstate⟩ := ih (c :: done) .between (count + 1)
      rw [List.reverse_cons, List.append_assoc] at htext
      exact ⟨htext, hstate⟩
    | more next => exact ih done next (count + 1)
    | bad => exact ⟨(List.append_nil _).symm, rfl⟩

/-- Bytes can be read in pieces. -/
theorem Utf8State.read_append (state : Utf8State) (bytes more : List UInt8) :
    state.read (bytes ++ more) =
      match state.read bytes with
      | (text, some next) => (text ++ (next.read more).1, (next.read more).2)
      | (text, none) => (text, none) := by
  induction bytes generalizing state with
  | nil => rfl
  | cons b rest ih =>
    rw [List.cons_append, Utf8State.read, Utf8State.read]
    cases state.step b with
    | char c =>
      simp only [ih]
      rcases Utf8State.between.read rest with ⟨text, _ | next⟩ <;> rfl
    | more next => exact ih next
    | bad => rfl

/-! ## 3. How characters are written

The last byte of a character of several bytes holds its last six bits; `bits` are those before. -/

section written

variable {v bits x : Nat}

theorem toNat_ofNat_of_valid (h : v.isValidChar) : (Char.ofNat v).val.toNat = v := by
  rw [Char.ofNat, dif_pos h]
  rfl

theorem byte_of_lt {n : Nat} (h : n < 256) : (UInt8.ofNat n).toNat = n :=
  UInt8.toNat_ofNat_of_lt' h

theorem utf8EncodeChar_one (h : v < 128) :
    String.utf8EncodeChar (Char.ofNat v) = [UInt8.ofNat v] := by
  rw [String.utf8EncodeChar, toNat_ofNat_of_valid (.inl (by omega))]
  exact if_pos (by omega)

theorem utf8EncodeChar_two (h : 2 ≤ bits) (h' : bits < 32) (hx : x < 64) :
    String.utf8EncodeChar (Char.ofNat (bits * 64 + x)) =
      [UInt8.ofNat (0xc0 + bits), UInt8.ofNat (0x80 + x)] := by
  have hfirst : (bits * 64 + x) / 64 % 32 + 192 = 0xc0 + bits := by omega
  have hlast : (bits * 64 + x) % 64 + 128 = 0x80 + x := by omega
  rw [String.utf8EncodeChar, toNat_ofNat_of_valid (.inl (by omega))]
  simp only [if_neg (show ¬ bits * 64 + x ≤ 127 by omega),
    if_pos (show bits * 64 + x ≤ 2047 by omega), hfirst, hlast]

theorem utf8EncodeChar_three (h : 32 ≤ bits) (h' : bits < 1024) (hx : x < 64)
    (hscalar : bits < 0x360 ∨ 0x37f < bits) :
    String.utf8EncodeChar (Char.ofNat (bits * 64 + x)) = [UInt8.ofNat (0xe0 + bits / 64),
      UInt8.ofNat (0x80 + bits % 64), UInt8.ofNat (0x80 + x)] := by
  have hvalid : (bits * 64 + x).isValidChar := by
    rcases hscalar with hlow | hhigh
    · exact .inl (by omega)
    · exact .inr ⟨by omega, by omega⟩
  have hfirst : (bits * 64 + x) / 4096 % 16 + 224 = 0xe0 + bits / 64 := by omega
  have hnext : (bits * 64 + x) / 64 % 64 + 128 = 0x80 + bits % 64 := by omega
  have hlast : (bits * 64 + x) % 64 + 128 = 0x80 + x := by omega
  rw [String.utf8EncodeChar, toNat_ofNat_of_valid hvalid]
  simp only [if_neg (show ¬ bits * 64 + x ≤ 127 by omega),
    if_neg (show ¬ bits * 64 + x ≤ 2047 by omega),
    if_pos (show bits * 64 + x ≤ 65535 by omega), hfirst, hnext, hlast]

theorem utf8EncodeChar_four (h : 1024 ≤ bits) (h' : bits < 17408) (hx : x < 64) :
    String.utf8EncodeChar (Char.ofNat (bits * 64 + x)) = [UInt8.ofNat (0xf0 + bits / 4096),
      UInt8.ofNat (0x80 + bits / 64 % 64), UInt8.ofNat (0x80 + bits % 64),
      UInt8.ofNat (0x80 + x)] := by
  have hfirst : (bits * 64 + x) / 262144 % 8 + 240 = 0xf0 + bits / 4096 := by omega
  have hnext : (bits * 64 + x) / 4096 % 64 + 128 = 0x80 + bits / 64 % 64 := by omega
  have hthird : (bits * 64 + x) / 64 % 64 + 128 = 0x80 + bits % 64 := by omega
  have hlast : (bits * 64 + x) % 64 + 128 = 0x80 + x := by omega
  rw [String.utf8EncodeChar, toNat_ofNat_of_valid (.inr ⟨by omega, by omega⟩)]
  simp only [if_neg (show ¬ bits * 64 + x ≤ 127 by omega),
    if_neg (show ¬ bits * 64 + x ≤ 2047 by omega),
    if_neg (show ¬ bits * 64 + x ≤ 65535 by omega), hfirst, hnext, hthird, hlast]

/-- A character has a code point below 128, or one with as many bits as two, three or four bytes
hold. -/
theorem exists_bits (c : Char) :
    (∃ v < 128, c = Char.ofNat v) ∨ ∃ bits, ∃ x < 64, c = Char.ofNat (bits * 64 + x) ∧
      (2 ≤ bits ∧ bits < 32 ∨
        32 ≤ bits ∧ bits < 1024 ∧ (bits < 0x360 ∨ 0x37f < bits) ∨
        1024 ≤ bits ∧ bits < 17408) := by
  have hvalid : c.toNat < 0xd800 ∨ 0xdfff < c.toNat ∧ c.toNat < 0x110000 := c.valid
  by_cases hascii : c.toNat < 128
  · exact .inl ⟨c.toNat, hascii, (Char.ofNat_toNat c).symm⟩
  · refine .inr ⟨c.toNat / 64, c.toNat % 64, Nat.mod_lt _ (by decide), ?_, by omega⟩
    rw [Nat.div_add_mod', Char.ofNat_toNat]

end written

/-! ## 4. Characters that are written are read -/

section steps

variable {b : UInt8} {rest seen : List UInt8} {v bits x missing low high : Nat}

namespace Utf8State

theorem read_first_two (h : 0xc2 ≤ b.toNat) (h' : b.toNat < 0xe0) :
    between.read (b :: rest) = (inside [b] (b.toNat - 0xc0) 1 0x80 0xbf).read rest := by
  rw [read, step, firstByte, if_neg (by omega), if_neg (by omega), if_pos h']

theorem read_first_three (h : 0xe0 ≤ b.toNat) (h' : b.toNat < 0xf0) :
    between.read (b :: rest) =
      (inside [b] (b.toNat - 0xe0) 2 (if b.toNat = 0xe0 then 0xa0 else 0x80) 0xbf).read rest := by
  rw [read, step, firstByte, if_neg (by omega), if_neg (by omega), if_neg (by omega), if_pos h']

theorem read_first_four (h : 0xf0 ≤ b.toNat) (h' : b.toNat < 0xf5) :
    between.read (b :: rest) =
      (inside [b] (b.toNat - 0xf0) 3 (if b.toNat = 0xf0 then 0x90 else 0x80)
        (if b.toNat = 0xf4 then 0x8f else 0xbf)).read rest := by
  rw [read, step, firstByte, if_neg (by omega), if_neg (by omega), if_neg (by omega),
    if_neg (by omega), if_pos h']

/-- A byte that is in range takes the next step inside a character. -/
theorem step_of_range (h : low ≤ b.toNat) (h' : b.toNat ≤ high) :
    (inside seen bits missing low high).step b =
      if missing ≤ 1 then .char (Char.ofNat (bits * 64 + (b.toNat - 0x80)))
      else .more (inside (seen ++ [b]) (bits * 64 + (b.toNat - 0x80)) (missing - 1) 0x80
        (if isSurrogate (bits * 64 + (b.toNat - 0x80)) (missing - 1) then 0x7f else 0xbf)) := by
  have hrange : ¬ (b.toNat < low || high < b.toNat) = true := by
    simp only [Bool.or_eq_true, decide_eq_true_eq]
    omega
  rw [step, if_neg hrange]

theorem read_last (h : low ≤ b.toNat) (h' : b.toNat ≤ high) :
    (inside seen bits 1 low high).read (b :: rest) =
      (Char.ofNat (bits * 64 + (b.toNat - 0x80)) :: (between.read rest).1,
        (between.read rest).2) := by
  rw [read, step_of_range h h', if_pos (by decide)]

theorem read_further (hmissing : 1 < missing) (h : low ≤ b.toNat) (h' : b.toNat ≤ high) :
    (inside seen bits missing low high).read (b :: rest) =
      (inside (seen ++ [b]) (bits * 64 + (b.toNat - 0x80)) (missing - 1) 0x80
        (if isSurrogate (bits * 64 + (b.toNat - 0x80)) (missing - 1) then 0x7f else 0xbf)).read
          rest := by
  rw [read, step_of_range h h', if_neg (by omega)]

theorem read_one (h : v < 128) : between.read (UInt8.ofNat v :: rest) =
    (Char.ofNat v :: (between.read rest).1, (between.read rest).2) := by
  have hb : (UInt8.ofNat v).toNat = v := byte_of_lt (by omega)
  rw [read, step, firstByte, if_pos (by omega), hb]

theorem read_two (h : 2 ≤ bits) (h' : bits < 32) (hx : x < 64) :
    between.read (UInt8.ofNat (0xc0 + bits) :: UInt8.ofNat (0x80 + x) :: rest) =
      (Char.ofNat (bits * 64 + x) :: (between.read rest).1, (between.read rest).2) := by
  have hb := byte_of_lt (n := 0xc0 + bits) (by omega)
  have hlast := byte_of_lt (n := 0x80 + x) (by omega)
  rw [read_first_two (by omega) (by omega), read_last (by omega) (by omega), hb, hlast,
    Nat.add_sub_cancel_left, Nat.add_sub_cancel_left]

theorem read_three (h : 32 ≤ bits) (h' : bits < 1024) (hx : x < 64)
    (hscalar : bits < 0x360 ∨ 0x37f < bits) :
    between.read (UInt8.ofNat (0xe0 + bits / 64) :: UInt8.ofNat (0x80 + bits % 64) ::
        UInt8.ofNat (0x80 + x) :: rest) =
      (Char.ofNat (bits * 64 + x) :: (between.read rest).1, (between.read rest).2) := by
  have hb := byte_of_lt (n := 0xe0 + bits / 64) (by omega)
  have hb' := byte_of_lt (n := 0x80 + bits % 64) (by omega)
  have hlast := byte_of_lt (n := 0x80 + x) (by omega)
  -- below the lower bound of the second byte, two bytes would do
  have hlow : (if 0xe0 + bits / 64 = 0xe0 then 0xa0 else 0x80) ≤ 0x80 + bits % 64 := by
    split <;> omega
  have hbits : (0xe0 + bits / 64 - 0xe0) * 64 + (0x80 + bits % 64 - 0x80) = bits := by omega
  have hsurrogate : isSurrogate bits 1 = false := by
    simp [isSurrogate]
    omega
  rw [read_first_three (by omega) (by omega), hb,
    read_further (by decide) (by rwa [hb']) (by omega), hb', hbits, hsurrogate,
    read_last (by omega) (by rw [if_neg (by decide)]; omega), hlast, Nat.add_sub_cancel_left]

theorem read_four (h : 1024 ≤ bits) (h' : bits < 17408) (hx : x < 64) :
    between.read (UInt8.ofNat (0xf0 + bits / 4096) :: UInt8.ofNat (0x80 + bits / 64 % 64) ::
        UInt8.ofNat (0x80 + bits % 64) :: UInt8.ofNat (0x80 + x) :: rest) =
      (Char.ofNat (bits * 64 + x) :: (between.read rest).1, (between.read rest).2) := by
  have hb := byte_of_lt (n := 0xf0 + bits / 4096) (by omega)
  have hb' := byte_of_lt (n := 0x80 + bits / 64 % 64) (by omega)
  have hb'' := byte_of_lt (n := 0x80 + bits % 64) (by omega)
  have hlast := byte_of_lt (n := 0x80 + x) (by omega)
  -- the bounds of the second byte are those of the first and the last character
  have hlow : (if 0xf0 + bits / 4096 = 0xf0 then 0x90 else 0x80) ≤ 0x80 + bits / 64 % 64 := by
    split <;> omega
  have hhigh : 0x80 + bits / 64 % 64 ≤ if 0xf0 + bits / 4096 = 0xf4 then 0x8f else 0xbf := by
    split <;> omega
  have hbits : (0xf0 + bits / 4096 - 0xf0) * 64 + (0x80 + bits / 64 % 64 - 0x80) = bits / 64 := by
    omega
  have hbits' : bits / 64 * 64 + (0x80 + bits % 64 - 0x80) = bits := by omega
  have hfirst : isSurrogate (bits / 64) 2 = false := rfl
  have hsecond : isSurrogate bits 1 = false := by
    simp [isSurrogate]
    omega
  rw [read_first_four (by omega) (by omega), hb,
    read_further (by decide) (by rwa [hb']) (by rwa [hb']), hb', hbits, hfirst,
    read_further (by decide) (by omega) (by rw [if_neg (by decide)]; omega), hb'', hbits', hsecond,
    read_last (by omega) (by rw [if_neg (by decide)]; omega), hlast, Nat.add_sub_cancel_left]

theorem read_char (c : Char) (rest : List UInt8) :
    between.read (String.utf8EncodeChar c ++ rest) =
      (c :: (between.read rest).1, (between.read rest).2) := by
  rcases exists_bits c with ⟨v, hv, rfl⟩ | ⟨bits, x, hx, rfl, h | h | h⟩
  · rw [utf8EncodeChar_one hv]
    exact read_one hv
  · rw [utf8EncodeChar_two h.1 h.2 hx]
    exact read_two h.1 h.2 hx
  · rw [utf8EncodeChar_three h.1 h.2.1 hx h.2.2]
    exact read_three h.1 h.2.1 hx h.2.2
  · rw [utf8EncodeChar_four h.1 h.2 hx]
    exact read_four h.1 h.2 hx

theorem read_encode (text : List Char) (rest : List UInt8) :
    between.read (encode text ++ rest) =
      (text ++ (between.read rest).1, (between.read rest).2) := by
  induction text with
  | nil => rfl
  | cons c text ih => rw [encode_cons, List.append_assoc, read_char, ih, List.cons_append]

end Utf8State

end steps

/-! ## 5. Characters that are read were written -/

/-- The states that bytes can lead to: between two characters, or inside one of two, three or four
bytes, of which some are there, with the bits that these hold. -/
inductive Utf8State.Begun : Utf8State → Prop
  | between : Begun .between
  | oneOfTwo (bits : Nat) : 2 ≤ bits → bits < 32 →
      Begun (.inside [UInt8.ofNat (0xc0 + bits)] bits 1 0x80 0xbf)
  | oneOfThree (bits : Nat) : bits < 16 →
      Begun (.inside [UInt8.ofNat (0xe0 + bits)] bits 2 (if bits = 0 then 0xa0 else 0x80) 0xbf)
  | twoOfThree (bits : Nat) : 32 ≤ bits → bits < 1024 →
      Begun (.inside [UInt8.ofNat (0xe0 + bits / 64), UInt8.ofNat (0x80 + bits % 64)] bits 1 0x80
        (if isSurrogate bits 1 then 0x7f else 0xbf))
  | oneOfFour (bits : Nat) : bits ≤ 4 →
      Begun (.inside [UInt8.ofNat (0xf0 + bits)] bits 3 (if bits = 0 then 0x90 else 0x80)
        (if bits = 4 then 0x8f else 0xbf))
  | twoOfFour (bits : Nat) : 16 ≤ bits → bits < 272 →
      Begun (.inside [UInt8.ofNat (0xf0 + bits / 64), UInt8.ofNat (0x80 + bits % 64)] bits 2 0x80
        0xbf)
  | threeOfFour (bits : Nat) : 1024 ≤ bits → bits < 17408 →
      Begun (.inside [UInt8.ofNat (0xf0 + bits / 4096), UInt8.ofNat (0x80 + bits / 64 % 64),
        UInt8.ofNat (0x80 + bits % 64)] bits 1 0x80 0xbf)

namespace Utf8State

variable {state next : Utf8State} {b : UInt8} {c : Char}

/-- A byte that is not refused inside a character is in range. -/
theorem range_of_step {seen : List UInt8} {bits missing low high : Nat}
    (h : (inside seen bits missing low high).step b ≠ .bad) :
    low ≤ b.toNat ∧ b.toNat ≤ high := by
  rw [step] at h
  by_cases hrange : (b.toNat < low || high < b.toNat) = true
  · rw [if_pos hrange] at h
    exact absurd rfl h
  · simp only [Bool.or_eq_true, decide_eq_true_eq] at hrange
    omega

/-- A byte of a character after the first, by its six bits. -/
theorem eq_ofNat_of_le (h : 0x80 ≤ b.toNat) : b = UInt8.ofNat (0x80 + (b.toNat - 0x80)) := by
  rw [Nat.add_sub_cancel' h, UInt8.ofNat_toNat]

/-- A character that a byte completes is written with the bytes that began it and that byte. -/
theorem Begun.char (hbegun : state.Begun) (h : state.step b = .char c) :
    String.utf8EncodeChar c = state.seen ++ [b] := by
  cases hbegun with
  | between =>
    rw [step, firstByte] at h
    by_cases hascii : b.toNat < 0x80
    · rw [if_pos hascii] at h
      rw [← Utf8Step.char.inj h, utf8EncodeChar_one hascii, UInt8.ofNat_toNat]
      rfl
    · rw [if_neg hascii] at h
      repeat' split at h
      all_goals cases h
  | oneOfTwo bits hlow hhigh =>
    obtain ⟨hb, hb'⟩ := range_of_step (by rw [h]; nofun)
    rw [step_of_range hb hb', if_pos (by decide)] at h
    rw [← Utf8Step.char.inj h, utf8EncodeChar_two hlow hhigh (by omega), ← eq_ofNat_of_le hb]
    rfl
  | twoOfThree bits hlow hhigh =>
    obtain ⟨hb, hb'⟩ := range_of_step (by rw [h]; nofun)
    -- no byte is in range after the first two of a surrogate
    have hscalar : bits < 0x360 ∨ 0x37f < bits := by
      by_contra hsurrogate
      rw [if_pos (by simp [isSurrogate]; omega)] at hb'
      omega
    have hx : b.toNat - 0x80 < 64 := by
      split at hb' <;> omega
    rw [step_of_range hb hb', if_pos (by decide)] at h
    rw [← Utf8Step.char.inj h, utf8EncodeChar_three hlow hhigh hx hscalar, ← eq_ofNat_of_le hb]
    rfl
  | threeOfFour bits hlow hhigh =>
    obtain ⟨hb, hb'⟩ := range_of_step (by rw [h]; nofun)
    rw [step_of_range hb hb', if_pos (by decide)] at h
    rw [← Utf8Step.char.inj h, utf8EncodeChar_four hlow hhigh (by omega), ← eq_ofNat_of_le hb]
    rfl
  | _ =>
    obtain ⟨hb, hb'⟩ := range_of_step (by rw [h]; nofun)
    rw [step_of_range hb hb', if_neg (by decide)] at h
    cases h

/-- The first byte of a character that it does not complete. -/
theorem begun_firstByte (h : firstByte b = .more next) : next.Begun ∧ next.seen = [b] := by
  -- the byte is told from the bits that it holds
  have hb : ∀ n, n ≤ b.toNat → UInt8.ofNat (n + (b.toNat - n)) = b := fun n hn => by
    rw [Nat.add_sub_cancel' hn, UInt8.ofNat_toNat]
  rw [firstByte] at h
  by_cases h1 : b.toNat < 0x80
  · rw [if_pos h1] at h
    cases h
  by_cases h2 : b.toNat < 0xc2
  · rw [if_neg h1, if_pos h2] at h
    cases h
  by_cases h3 : b.toNat < 0xe0
  · rw [if_neg h1, if_neg h2, if_pos h3] at h
    cases h
    have hbegun := Begun.oneOfTwo (b.toNat - 0xc0) (by omega) (by omega)
    rw [hb 0xc0 (by omega)] at hbegun
    exact ⟨hbegun, rfl⟩
  by_cases h4 : b.toNat < 0xf0
  · rw [if_neg h1, if_neg h2, if_neg h3, if_pos h4] at h
    cases h
    have hbegun := Begun.oneOfThree (b.toNat - 0xe0) (by omega)
    have hzero : b.toNat - 0xe0 = 0 ↔ b.toNat = 0xe0 := by omega
    simp only [hb 0xe0 (by omega), hzero] at hbegun
    exact ⟨hbegun, rfl⟩
  by_cases h5 : b.toNat < 0xf5
  · rw [if_neg h1, if_neg h2, if_neg h3, if_neg h4, if_pos h5] at h
    cases h
    have hbegun := Begun.oneOfFour (b.toNat - 0xf0) (by omega)
    have hzero : b.toNat - 0xf0 = 0 ↔ b.toNat = 0xf0 := by omega
    have hfour : b.toNat - 0xf0 = 4 ↔ b.toNat = 0xf4 := by omega
    simp only [hb 0xf0 (by omega), hzero, hfour] at hbegun
    exact ⟨hbegun, rfl⟩
  · rw [if_neg h1, if_neg h2, if_neg h3, if_neg h4, if_neg h5] at h
    cases h

/-- A byte inside a character that it does not complete. -/
theorem Begun.more (hbegun : state.Begun) (h : state.step b = .more next) :
    next.Begun ∧ next.seen = state.seen ++ [b] := by
  cases hbegun with
  | between => exact begun_firstByte h
  | oneOfThree bits hbits =>
    obtain ⟨hb, hb'⟩ := range_of_step (by rw [h]; nofun)
    rw [step_of_range hb hb', if_neg (by decide)] at h
    cases h
    have hb80 : 0x80 ≤ b.toNat := by
      split at hb <;> omega
    -- the bits that were known come before the six of this byte
    have hfirst : (bits * 64 + (b.toNat - 0x80)) / 64 = bits := by omega
    have hlast : (bits * 64 + (b.toNat - 0x80)) % 64 = b.toNat - 0x80 := by omega
    have hnext := Begun.twoOfThree (bits * 64 + (b.toNat - 0x80))
      (by split at hb <;> omega) (by omega)
    rw [hfirst, hlast, ← eq_ofNat_of_le hb80] at hnext
    exact ⟨hnext, rfl⟩
  | oneOfFour bits hbits =>
    obtain ⟨hb, hb'⟩ := range_of_step (by rw [h]; nofun)
    rw [step_of_range hb hb', if_neg (by decide)] at h
    cases h
    have hb80 : 0x80 ≤ b.toNat := by
      split at hb <;> omega
    have hbf : b.toNat ≤ 0xbf := by
      split at hb' <;> omega
    have hfirst : (bits * 64 + (b.toNat - 0x80)) / 64 = bits := by omega
    have hlast : (bits * 64 + (b.toNat - 0x80)) % 64 = b.toNat - 0x80 := by omega
    have hnext := Begun.twoOfFour (bits * 64 + (b.toNat - 0x80))
      (by split at hb <;> omega) (by split at hb' <;> omega)
    rw [hfirst, hlast, ← eq_ofNat_of_le hb80] at hnext
    exact ⟨hnext, rfl⟩
  | twoOfFour bits hlow hhigh =>
    obtain ⟨hb, hb'⟩ := range_of_step (by rw [h]; nofun)
    have hsurrogate : isSurrogate (bits * 64 + (b.toNat - 0x80)) (2 - 1) = false := by
      simp [isSurrogate]
      omega
    rw [step_of_range hb hb', if_neg (by decide), hsurrogate] at h
    cases h
    have hfirst : (bits * 64 + (b.toNat - 0x80)) / 4096 = bits / 64 := by omega
    have hsecond : (bits * 64 + (b.toNat - 0x80)) / 64 = bits := by omega
    have hlast : (bits * 64 + (b.toNat - 0x80)) % 64 = b.toNat - 0x80 := by omega
    have hnext := Begun.threeOfFour (bits * 64 + (b.toNat - 0x80)) (by omega) (by omega)
    rw [hfirst, hsecond, hlast, ← eq_ofNat_of_le hb] at hnext
    exact ⟨hnext, rfl⟩
  | _ =>
    obtain ⟨hb, hb'⟩ := range_of_step (by rw [h]; nofun)
    rw [step_of_range hb hb', if_pos (by decide)] at h
    cases h

/-- Bytes that are read, with those before them of a character that was begun, are the encoding of
what is read and the bytes of a character that is begun; where a byte is refused, they begin so. -/
theorem Begun.encode_read (hbegun : state.Begun) (bytes : List UInt8) :
    encode (state.read bytes).1 <+: state.seen ++ bytes ∧
      ∀ next, (state.read bytes).2 = some next →
        next.Begun ∧ state.seen ++ bytes = encode (state.read bytes).1 ++ next.seen := by
  induction bytes generalizing state with
  | nil =>
    refine ⟨List.nil_prefix, fun next hnext => ?_⟩
    cases hnext
    exact ⟨hbegun, List.append_nil _⟩
  | cons b rest ih =>
    rw [read]
    cases hstep : state.step b with
    | char c =>
      have hc := hbegun.char hstep
      have hbytes : state.seen ++ b :: rest = String.utf8EncodeChar c ++ rest := by
        rw [hc, List.append_assoc, List.singleton_append]
      obtain ⟨htext, hnext⟩ := ih .between
      rw [hbytes, encode_cons]
      refine ⟨(List.prefix_append_right_inj _).2 htext, fun next h => ?_⟩
      obtain ⟨hbegun', hrest⟩ := hnext next h
      refine ⟨hbegun', ?_⟩
      rw [List.append_assoc]
      exact congrArg _ hrest
    | more next =>
      obtain ⟨hbegun', hseen⟩ := hbegun.more hstep
      have hbytes : state.seen ++ b :: rest = next.seen ++ rest := by
        rw [hseen, List.append_assoc, List.singleton_append]
      rw [hbytes]
      exact ih hbegun'
    -- a byte that is refused ends the reading, and nothing has been read
    | bad =>
      refine ⟨List.nil_prefix, fun next h => ?_⟩
      cases h

/-! ## 6. The longest text -/

/-- What is read of bytes is the longest text that they begin with. -/
theorem isLongestText_read (bytes : List UInt8) :
    IsLongestText bytes (between.read bytes).1 := by
  refine ⟨(Begun.between.encode_read bytes).1, fun other hother => ?_⟩
  obtain ⟨rest, rfl⟩ := hother
  rw [read_encode, encode_append, List.length_append]
  exact Nat.le_add_right _ _

/-- Reading ends between two characters exactly if the bytes are the encoding of what is read. -/
theorem read_eq_between_iff (bytes : List UInt8) :
    (between.read bytes).2 = some .between ↔ encode (between.read bytes).1 = bytes := by
  constructor
  · intro h
    obtain ⟨-, hbytes⟩ := (Begun.between.encode_read bytes).2 _ h
    exact (hbytes.trans (List.append_nil _)).symm
  · intro h
    have hread := read_encode (between.read bytes).1 []
    rw [List.append_nil, h] at hread
    rw [hread]
    rfl

end Utf8State

theorem length_le_encode (text : List Char) : text.length ≤ (encode text).length := by
  induction text with
  | nil => exact Nat.le_refl 0
  | cons c text ih =>
    have hc : 0 < (String.utf8EncodeChar c).length := by
      rw [String.length_utf8EncodeChar]
      exact c.utf8Size_pos
    rw [encode_cons, List.length_append, List.length_cons]
    omega

/-- There is only one longest text. -/
theorem IsLongestText.eq_read {bytes : List UInt8} {text : List Char} (h : IsLongestText bytes text) :
    text = (Utf8State.between.read bytes).1 := by
  obtain ⟨rest, hrest⟩ := h.begins
  have hread := Utf8State.read_encode text rest
  rw [hrest] at hread
  have hlength := h.longest _ (Utf8State.isLongestText_read bytes).begins
  rw [hread, encode_append, List.length_append] at hlength
  have hmore := length_le_encode (Utf8State.between.read rest).1
  have hnone : (Utf8State.between.read rest).1 = [] := List.eq_nil_of_length_eq_zero (by omega)
  rw [hread, hnone, List.append_nil]

/-! ## 7. Whole texts -/

theorem decode_eq_read (state : Utf8State) (bytes : List UInt8) :
    (decode state bytes).1 = (state.read bytes).1 ∧
      (decode state bytes).2.toOption = (state.read bytes).2 := by
  rw [decode]
  exact decodeFrom_eq_read [] state _ bytes

theorem read_of_decode {state : Utf8State} {bytes : List UInt8} {text : List Char}
    {next : Except Utf8Fault Utf8State} (h : decode state bytes = (text, next)) :
    state.read bytes = (text, next.toOption) := by
  obtain ⟨htext, hnext⟩ := decode_eq_read state bytes
  rw [h] at htext hnext
  exact Prod.ext htext.symm hnext.symm

theorem decode_encode (text : List Char) :
    decode .between (encode text) = (text, .ok .between) := by
  have hread := Utf8State.read_encode text []
  rw [List.append_nil] at hread
  rcases hdecode : decode .between (encode text) with ⟨decoded, _ | next⟩
  · rw [read_of_decode hdecode] at hread
    cases congrArg Prod.snd hread
  · rw [read_of_decode hdecode] at hread
    cases congrArg Prod.snd hread
    rw [show decoded = text from (congrArg Prod.fst hread).trans (List.append_nil text)]

theorem readUtf8_encode (text : List Char) : readUtf8 (encode text) = .ok text := by
  rw [readUtf8, decode_encode]
  rfl

/-- Bytes are the text whose encoding they are. -/
theorem readUtf8_eq_ok {bytes : List UInt8} {text : List Char} :
    readUtf8 bytes = .ok text ↔ encode text = bytes := by
  refine ⟨fun h => ?_, fun h => h ▸ readUtf8_encode text⟩
  unfold readUtf8 at h
  split at h
  · cases h
  · next decoded state hdecode =>
    split at h
    · cases h
    · next hend =>
      cases h
      have hread := read_of_decode hdecode
      -- only between two characters there is no fault at the end
      have hbetween : state = .between := by
        cases state with
        | between => rfl
        | inside => cases hend
      have hencode := (Utf8State.read_eq_between_iff bytes).1 (by rw [hread, hbetween]; rfl)
      rwa [hread] at hencode

theorem exists_readUtf8_eq_error {bytes : List UInt8} :
    (∃ fault, readUtf8 bytes = .error fault) ↔ ∀ text, encode text ≠ bytes := by
  cases h : readUtf8 bytes with
  | ok text => exact iff_of_false nofun fun hnone => hnone text (readUtf8_eq_ok.1 h)
  | error fault =>
    refine iff_of_true ⟨fault, rfl⟩ fun text htext => ?_
    rw [readUtf8_eq_ok.2 htext] at h
    cases h

end FileQuery.Text

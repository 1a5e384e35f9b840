import FileQuery.Proofs.Text.Decoding
import FileQuery.Text.Utf8.Lossy

/-!
# Bytes that need not be a text

No character and no undecodable sequence goes on over a byte of ASCII, so what is before such a byte and
what is behind it can be taken to pieces separately.
-/

namespace FileQuery.Text

/-! ## 1. The first piece -/

def Piece.bytes : Piece → List UInt8
  | .char c => String.utf8EncodeChar c
  | .undecodable bytes => bytes

theorem utf8Length_eq (c : Char) : utf8Length c = c.utf8Size := by
  have hone : c.val ≤ 0x7f ↔ c.toNat < 0x80 := UInt32.le_iff_toNat_le.trans Nat.lt_succ_iff.symm
  have htwo : c.val ≤ 0x7ff ↔ c.toNat < 0x800 := UInt32.le_iff_toNat_le.trans Nat.lt_succ_iff.symm
  have hthree : c.val ≤ 0xffff ↔ c.toNat < 0x10000 :=
    UInt32.le_iff_toNat_le.trans Nat.lt_succ_iff.symm
  simp only [utf8Length, ← hone, ← htwo, ← hthree]
  rfl

theorem Piece.length_bytes (p : Piece) : p.bytes.length = p.length := by
  cases p with
  | char c => rw [bytes, length, String.length_utf8EncodeChar, utf8Length_eq]
  | undecodable bytes => rfl

namespace Utf8State

variable {state : Utf8State} {b : UInt8}

theorem blamed_isPrefix (state : Utf8State) : state.blamed <+: state.seen := by
  cases state with
  | between => exact List.nil_prefix
  | inside seen bits missing low high =>
    rw [blamed]
    split
    · exact List.take_prefix 1 seen
    · exact List.prefix_refl seen

theorem step_between_ascii (hb : b.toNat < 128) :
    between.step b = .char (Char.ofNat b.toNat) := by
  rw [step, firstByte, if_pos hb]

/-- Inside a character no byte of ASCII is in range. -/
theorem Begun.step_ascii (hbegun : state.Begun) (hstate : state ≠ .between) (hb : b.toNat < 128) :
    state.step b = .bad := by
  cases hbegun with
  | between => exact absurd rfl hstate
  | oneOfTwo | twoOfThree | twoOfFour | threeOfFour =>
    by_contra hgood
    have hrange := range_of_step hgood
    omega
  | oneOfThree | oneOfFour =>
    by_contra hgood
    have hrange := range_of_step hgood
    split at hrange <;> omega

end Utf8State

variable {state : Utf8State} {b : UInt8}

theorem faultOf_bytes (hstate : state ≠ .between) (count : Nat) :
    (state.faultOf count b).bytes = state.blamed := by
  cases state with
  | between => exact absurd rfl hstate
  | inside => rfl

/-- The bytes of the first piece begin the bytes that it is taken from. -/
theorem firstPiece_isPrefix (hbegun : state.Begun) (bytes : List UInt8) :
    (firstPiece state bytes).bytes <+: state.seen ++ bytes := by
  induction bytes generalizing state with
  | nil => exact state.blamed_isPrefix.trans (List.prefix_append _ _)
  | cons b rest ih =>
    have hbytes : state.seen ++ b :: rest = (state.seen ++ [b]) ++ rest := by simp
    rw [firstPiece]
    cases hstep : state.step b with
    | char c =>
      rw [hbytes, ← hbegun.char hstep]
      exact List.prefix_append _ _
    | more next =>
      obtain ⟨hnext, hseen⟩ := hbegun.more hstep
      rw [hbytes, ← hseen]
      exact ih hnext
    | bad =>
      -- between characters the byte itself is blamed, inside of one what came before it
      by_cases hstate : state = .between
      · subst hstate
        exact List.prefix_append [b] rest
      · show (state.faultOf 0 b).bytes <+: _
        rw [faultOf_bytes hstate]
        exact state.blamed_isPrefix.trans (List.prefix_append _ _)

/-- A piece that has begun does not go on over a byte of ASCII. -/
theorem firstPiece_append (hb : b.toNat < 128) (hbegun : state.Begun) {bytes : List UInt8}
    (h : state ≠ .between ∨ bytes ≠ []) (rest : List UInt8) :
    firstPiece state (bytes ++ b :: rest) = firstPiece state bytes := by
  induction bytes generalizing state with
  | nil =>
    have hstate : state ≠ .between := h.resolve_right (fun hne => hne rfl)
    have hfirst : firstPiece state (b :: rest) = .undecodable (state.faultOf 0 b).bytes := by
      rw [firstPiece, hbegun.step_ascii hstate hb]
    rw [List.nil_append, hfirst, faultOf_bytes hstate, firstPiece]
  | cons x bytes ih =>
    rw [List.cons_append, firstPiece, firstPiece]
    cases hstep : state.step x with
    | char c => rfl
    | more next =>
      obtain ⟨hnext, hseen⟩ := hbegun.more hstep
      refine ih hnext (.inl fun hbetween => ?_)
      rw [hbetween] at hseen
      simp [Utf8State.seen] at hseen
    | bad => rfl

/-! ## 2. All pieces -/

theorem piecesFrom_append (before done : List Piece) (bytes : List UInt8) :
    piecesFrom (done ++ before) bytes = before.reverse ++ piecesFrom done bytes := by
  fun_induction piecesFrom done bytes with
  | case1 done => rw [piecesFrom, List.reverse_append]
  | case2 done b rest piece ih =>
    rw [piecesFrom]
    exact ih

theorem pieces_nil : pieces [] = [] := by
  rw [pieces, piecesFrom]
  rfl

theorem pieces_cons (b : UInt8) (rest : List UInt8) :
    pieces (b :: rest) = firstPiece .between (b :: rest) ::
      pieces (rest.drop ((firstPiece .between (b :: rest)).length - 1)) := by
  rw [pieces, piecesFrom]
  exact piecesFrom_append [_] [] _

/-- A byte of ASCII is a piece of its own, and divides the pieces before it from those behind. -/
theorem pieces_append_ascii (hb : b.toNat < 128) (bytes rest : List UInt8) :
    pieces (bytes ++ b :: rest) =
      pieces bytes ++ .char (Char.ofNat b.toNat) :: pieces rest := by
  induction hlength : bytes.length using Nat.strongRecOn generalizing bytes with
  | _ n ih =>
    cases bytes with
    | nil =>
      have hfirst : firstPiece .between (b :: rest) = .char (Char.ofNat b.toNat) := by
        rw [firstPiece, Utf8State.step_between_ascii hb]
      have hone : (Piece.char (Char.ofNat b.toNat)).length - 1 = 0 := by
        rw [← Piece.length_bytes, Piece.bytes, utf8EncodeChar_one hb]
        rfl
      rw [List.nil_append, pieces_cons, hfirst, hone, pieces_nil]
      rfl
    | cons x bytes =>
      obtain ⟨piece, hpiece⟩ : ∃ piece, piece = firstPiece .between (x :: bytes) := ⟨_, rfl⟩
      have hsame : firstPiece .between (x :: bytes ++ b :: rest) = piece := by
        rw [hpiece]
        exact firstPiece_append hb .between (.inr (List.cons_ne_nil _ _)) rest
      -- the piece ends before the byte, so the rest is shorter and still has it
      have hinside : piece.length ≤ bytes.length + 1 := by
        rw [← Piece.length_bytes, hpiece]
        exact (firstPiece_isPrefix .between (x :: bytes)).length_le
      rw [List.cons_append] at hsame ⊢
      rw [pieces_cons, hsame, pieces_cons x bytes, ← hpiece,
        List.drop_append_of_le_length (by omega), List.cons_append]
      congr 1
      exact ih _ (by rw [List.length_drop, ← hlength, List.length_cons]; omega) _ rfl

end FileQuery.Text

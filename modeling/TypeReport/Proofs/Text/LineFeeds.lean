import TypeReport.Proofs.Text.Lines
import TypeReport.Proofs.Text.Offsets

/-! # Line feeds

The line feeds before an offset can be counted among the bytes, because the byte of a line
feed is no part of any other character (`count_take_bytes`).  The last line of a text starts
behind the last of them (`exists_lastLine`). -/

namespace TypeReport.Text

/-! ### Bytes -/

/-- The bytes of the UTF-8 encoding of a text. -/
def bytes (s : Text) : List UInt8 := s.flatMap String.utf8EncodeChar

def lfByte : UInt8 := 10

theorem length_bytes (s : Text) : s.bytes.length = s.size := by
  induction s with
  | nil => rfl
  | cons c s ih =>
      have hbytes : bytes (c :: s) = String.utf8EncodeChar c ++ bytes s := List.flatMap_cons
      rw [hbytes, List.length_append, String.length_utf8EncodeChar, ih, size_cons]

theorem ofNat_ne_lfByte {n : Nat} (h : n % 256 ≠ 10) : UInt8.ofNat n ≠ lfByte := by
  intro heq
  apply h
  have hvalue := congrArg UInt8.toNat heq
  rwa [UInt8.toNat_ofNat'] at hvalue

/-- The byte of a line feed is no part of any other character. -/
theorem lfByte_not_mem {c : Char} (h : c ≠ '\n') : lfByte ∉ String.utf8EncodeChar c := by
  have hvalue : c.val.toNat ≠ 10 := fun hc => h (Char.ext (UInt32.toNat_inj.1 hc))
  intro hmem
  unfold String.utf8EncodeChar at hmem
  dsimp only at hmem
  split at hmem
  case isTrue hle =>
    rw [List.mem_singleton] at hmem
    exact ofNat_ne_lfByte (by omega) hmem.symm
  case isFalse =>
    split at hmem
    case isTrue =>
      simp only [List.mem_cons, List.not_mem_nil, or_false] at hmem
      rcases hmem with hmem | hmem
      all_goals exact ofNat_ne_lfByte (by omega) hmem.symm
    case isFalse =>
      split at hmem
      case isTrue =>
        simp only [List.mem_cons, List.not_mem_nil, or_false] at hmem
        rcases hmem with hmem | hmem | hmem
        all_goals exact ofNat_ne_lfByte (by omega) hmem.symm
      case isFalse =>
        simp only [List.mem_cons, List.not_mem_nil, or_false] at hmem
        rcases hmem with hmem | hmem | hmem | hmem
        all_goals exact ofNat_ne_lfByte (by omega) hmem.symm

/-- The line feeds among the first bytes of a text are those of the characters that fit. -/
theorem count_take_bytes (s : Text) (n : Nat) :
    (s.bytes.take n).count lfByte = (s.upTo n).count '\n' := by
  induction s generalizing n with
  | nil =>
      rw [bytes, List.flatMap_nil, List.take_nil]
      rfl
  | cons c s ih =>
      have hbytes : bytes (c :: s) = String.utf8EncodeChar c ++ bytes s := List.flatMap_cons
      have hlength := String.length_utf8EncodeChar c
      rw [hbytes, List.take_append, List.count_append, hlength, ih, upTo]
      by_cases hc : c = '\n'
      · subst hc
        have hlf : String.utf8EncodeChar '\n' = [lfByte] := by decide
        have hsize : '\n'.utf8Size = 1 := by decide
        rw [hlf, hsize]
        cases n with
        | zero =>
            have hnil : upTo s 0 = [] := size_eq_zero_iff.1 (Nat.le_zero.1 (floor_le s 0))
            rw [if_neg (by omega), Nat.zero_sub, hnil]
            rfl
        | succ n =>
            rw [if_pos (by omega), List.count_cons_self, List.take_of_length_le (by simp),
              List.count_singleton_self, Nat.add_comm]
      · have hnot : (List.take n (String.utf8EncodeChar c)).count lfByte = 0 :=
          List.count_eq_zero_of_not_mem fun hmem => lfByte_not_mem hc (List.mem_of_mem_take hmem)
        rw [hnot, Nat.zero_add]
        split
        case isTrue => rw [List.count_cons_of_ne hc]
        case isFalse hlt =>
          have hsub : n - c.utf8Size = 0 := by omega
          have hnil : upTo s 0 = [] := size_eq_zero_iff.1 (Nat.le_zero.1 (floor_le s 0))
          rw [hsub, hnil]

/-! ### The last line of a text -/

/-- Where the last line of a text starts. -/
def lastLineStart (s : Text) : Nat := ((offsets '\n' s).getLast?).elim 0 (· + 1)

theorem exists_lastLine (s : Text) :
    ∃ a b, s = a ++ b ∧ a.size = s.lastLineStart ∧
      (s.reverse.takeWhile (· ≠ '\n')).length = b.length := by
  obtain ⟨a, b, hs, ha, hb⟩ := exists_endsLine_append s
  refine ⟨a, b, hs, ?_, ?_⟩
  · rcases ha with rfl | hlast
    · rw [hs, List.nil_append, lastLineStart, offsets, offsetsFrom_eq_nil hb]
      rfl
    · obtain ⟨lead, rfl⟩ := List.getLast?_eq_some_iff.1 hlast
      rw [hs, lastLineStart, offsets, offsetsFrom_append, offsetsFrom_append, offsetsFrom_eq_nil hb,
        List.append_nil, offsetsFrom, if_pos rfl, offsetsFrom, List.getLast?_concat, size_line,
        Nat.zero_add]
      rfl
  · rw [hs, takeWhile_reverse_append ha hb, List.length_reverse]

end TypeReport.Text

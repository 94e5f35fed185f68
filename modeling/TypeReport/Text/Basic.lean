/-! # Texts and their bytes

A text is the list of its characters.  Offsets into a text count the bytes of
its UTF-8 encoding, so a text also has a `size`, and not every offset is a
character boundary.  `upTo s n` is the longest leading part of `s` that fits
into `n` bytes and `after s n` is the rest of `s` (`upTo_append_after`); the
size of the former, `floor s n`, is the greatest boundary not beyond `n`.  A
text can be cut at an offset (`splitAt?`) exactly when some leading part of it has
that size (`splitAt?_eq_some_iff`).  `offsets c s` are the places of a character,
in increasing order (`pairwise_offsets`). -/

namespace TypeReport

/-- A text, as the list of its characters. -/
abbrev Text := List Char

namespace Text

/-! ### Size -/

/-- Number of bytes in the UTF-8 encoding of a text. -/
def size : Text → Nat
  | [] => 0
  | c :: s => c.utf8Size + size s

@[simp] theorem size_nil : size [] = 0 := rfl

@[simp] theorem size_cons (c : Char) (s : Text) : size (c :: s) = c.utf8Size + size s := rfl

@[simp] theorem size_append (s t : Text) : size (s ++ t) = size s + size t := by
  induction s with
  | nil => simp
  | cons c s ih => simp [ih, Nat.add_assoc]

/-! ### Cutting at an offset -/

/-- The longest leading part of a text that fits into `n` bytes. -/
def upTo : Text → Nat → Text
  | [], _ => []
  | c :: s, n => if c.utf8Size ≤ n then c :: upTo s (n - c.utf8Size) else []

/-- What follows the longest leading part that fits into `n` bytes. -/
def after : Text → Nat → Text
  | [], _ => []
  | c :: s, n => if c.utf8Size ≤ n then after s (n - c.utf8Size) else c :: s

@[simp] theorem upTo_append_after (s : Text) (n : Nat) : upTo s n ++ after s n = s := by
  induction s generalizing n with
  | nil => rfl
  | cons c s ih =>
      by_cases h : c.utf8Size ≤ n
      · simp [upTo, after, h, ih]
      · simp [upTo, after, h]

/-- The greatest character boundary of a text that is at most `n`. -/
def floor (s : Text) (n : Nat) : Nat := size (upTo s n)

theorem floor_le (s : Text) (n : Nat) : floor s n ≤ n := by
  induction s generalizing n with
  | nil => simp [floor, upTo]
  | cons c s ih =>
      have := ih (n - c.utf8Size)
      simp only [floor] at this ⊢
      by_cases h : c.utf8Size ≤ n
      · simp only [upTo, h, if_true, size_cons]; omega
      · simp [upTo, h]

theorem floor_le_size (s : Text) (n : Nat) : floor s n ≤ size s := by
  have := congrArg size (upTo_append_after s n)
  simp only [size_append] at this
  simp only [floor]; omega

/-- The two parts of a text around an offset, if the offset is a character boundary. -/
def splitAt? (s : Text) (n : Nat) : Option (Text × Text) :=
  if floor s n = n then some (upTo s n, after s n) else none

theorem append_of_splitAt? {s a b : Text} {n : Nat} (h : splitAt? s n = some (a, b)) :
    a ++ b = s ∧ size a = n := by
  unfold splitAt? at h
  split at h
  case isTrue hn =>
    simp only [Option.some.injEq, Prod.mk.injEq] at h
    obtain ⟨rfl, rfl⟩ := h
    exact ⟨upTo_append_after s n, hn⟩
  case isFalse => simp at h

theorem upTo_append (a b : Text) : upTo (a ++ b) (size a) = a := by
  induction a with
  | nil =>
      cases b with
      | nil => rfl
      | cons c b =>
          have := Char.utf8Size_pos c
          simp [upTo, show ¬ c.utf8Size ≤ 0 by omega]
  | cons c a ih => simp [upTo, ih]

theorem after_append (a b : Text) : after (a ++ b) (size a) = b := by
  have h := upTo_append_after (a ++ b) (size a)
  rw [upTo_append] at h
  exact List.append_cancel_left h

/-- A text can be cut at an offset exactly when some leading part of it has that size. -/
theorem splitAt?_eq_some_iff {s a b : Text} {n : Nat} :
    splitAt? s n = some (a, b) ↔ a ++ b = s ∧ size a = n := by
  constructor
  · exact append_of_splitAt?
  · rintro ⟨rfl, rfl⟩
    simp [splitAt?, floor, upTo_append, after_append]

/-! ### The places of a character -/

/-- The offsets of a character in a text that itself starts at offset `n`. -/
def offsetsFrom (c : Char) (n : Nat) : Text → List Nat
  | [] => []
  | d :: s =>
      if d = c then n :: offsetsFrom c (n + d.utf8Size) s else offsetsFrom c (n + d.utf8Size) s

def offsets (c : Char) (s : Text) : List Nat := offsetsFrom c 0 s

theorem le_of_mem_offsetsFrom {c : Char} {m n : Nat} {s : Text} (h : m ∈ offsetsFrom c n s) :
    n ≤ m := by
  induction s generalizing n with
  | nil => simp [offsetsFrom] at h
  | cons d s ih =>
      unfold offsetsFrom at h
      split at h
      · rcases List.mem_cons.1 h with rfl | h
        · exact Nat.le_refl _
        · have := ih h; omega
      · have := ih h; omega

theorem pairwise_offsetsFrom (c : Char) (n : Nat) (s : Text) :
    (offsetsFrom c n s).Pairwise (· < ·) := by
  induction s generalizing n with
  | nil => simp [offsetsFrom]
  | cons d s ih =>
      have hd := Char.utf8Size_pos d
      unfold offsetsFrom
      split
      · refine List.pairwise_cons.2 ⟨fun m hm => ?_, ih _⟩
        have := le_of_mem_offsetsFrom hm
        omega
      · exact ih _

theorem pairwise_offsets (c : Char) (s : Text) : (offsets c s).Pairwise (· < ·) :=
  pairwise_offsetsFrom c 0 s

theorem length_offsetsFrom (c : Char) (n : Nat) (s : Text) :
    (offsetsFrom c n s).length = s.count c := by
  induction s generalizing n with
  | nil => rfl
  | cons d s ih =>
      unfold offsetsFrom
      split
      · next h => simp [ih, h]
      · next h => simp [ih, h]

theorem length_offsets (c : Char) (s : Text) : (offsets c s).length = s.count c :=
  length_offsetsFrom c 0 s

end Text
end TypeReport

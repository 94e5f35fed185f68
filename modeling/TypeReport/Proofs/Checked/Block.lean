import TypeReport.Proofs.Block.Partition
import TypeReport.Proofs.Checked.Operations
import TypeReport.Proofs.Run.Concatenation

/-! # Checked splitting

A stream is split by a loop over its lines that counts the bytes it has gone through.  A
block is cut out of the stream between the offsets of two opening lines, the last one from
the offset of its opening line on.  Both are boundaries, since the offset is always the
size of the lines that the loop has gone through. -/

namespace TypeReport.Checked

/-- Goes on with splitting a stream of which some lines are left: the first of them has the
number `n` and starts at `offset`, and the last of the blocks before it, which is not
complete, at `start?`. -/
def splitFrom (d : Dialect) (input : Text) (blocks : List Block) (start? : Option Nat)
    (offset n : Nat) : List Text → Checked (Except Failure (List Block))
  | [] =>
      match start? with
      | none => return .ok blocks
      | some start => do return .ok (blocks ++ [⟨blocks.length, ← after input start⟩])
  | line :: lines =>
      if d.opensBlock line then
        match start? with
        | none => splitFrom d input blocks (some offset) (offset + line.size) (n + 1) lines
        | some start => do
            let block := ⟨blocks.length, ← between input start offset⟩
            splitFrom d input (blocks ++ [block]) (some offset) (offset + line.size) (n + 1) lines
      else if start?.isNone && !line.isBlank then
        return .error (.malformedStart n line.trimEnd)
      else
        splitFrom d input blocks start? (offset + line.size) (n + 1) lines

def split (d : Dialect) (input : Text) : Checked (Except Failure (List Block)) :=
  splitFrom d input [] none 0 1 input.rawLines

theorem number_concat (texts : List Text) (s : Text) :
    Block.number (texts ++ [s]) = Block.number texts ++ [⟨(Block.number texts).length, s⟩] := by
  rw [Block.number_append, Block.number, Block.number, List.length_mapIdx]
  exact congrArg (fun n => _ ++ [Block.mk n s]) (Nat.zero_add _)

/-- Behind an opening line the loop completes the block of that line and goes on to the next
opening line. -/
theorem splitFrom_some (d : Dialect) (before current : Text) (texts : List Text) (n : Nat)
    (ls : List Text) :
    splitFrom d (before ++ current ++ ls.flatten) (Block.number texts) (some before.size)
        (before ++ current).size n ls =
      some (.ok (Block.number (texts ++
        (current ++ (Runs.cut d.opensBlock ls).lead.flatten) ::
          (Runs.cut d.opensBlock ls).runs.map List.flatten))) := by
  induction ls generalizing before current texts n with
  | nil =>
      have hafter : after (before ++ current) before.size = some current := after_append _ _
      simp only [splitFrom, List.flatten_nil, List.append_nil, hafter, Runs.cut, List.map_nil,
        number_concat]
      rfl
  | cons line ls ih =>
      have hnext : before ++ current ++ (line ++ ls.flatten) =
          before ++ (current ++ line) ++ ls.flatten := by simp only [List.append_assoc]
      have hsize : (before ++ current).size + line.size = (before ++ (current ++ line)).size := by
        rw [← List.append_assoc, Text.size_append (before ++ current)]
      rw [splitFrom, Runs.cut, List.flatten_cons]
      by_cases hopens : d.opensBlock line = true
      · have hblock : between (before ++ current ++ (line ++ ls.flatten)) before.size
            (before ++ current).size = some current := between_append _ _ _
        have hstart := ih (before ++ current) line (texts ++ [current]) (n + 1)
        rw [number_concat, List.append_assoc texts, List.append_assoc (before ++ current),
          Text.size_append (before ++ current)] at hstart
        rw [if_pos hopens, if_pos hopens]
        simp only [hblock, Option.bind_eq_bind, Option.bind_some, hstart, List.flatten_nil,
          List.append_nil, List.map_cons, List.flatten_cons, List.singleton_append]
      · have hrest := ih before (current ++ line) texts (n + 1)
        rw [if_neg hopens, if_neg hopens, if_neg (by simp), hnext, hsize, hrest,
          List.flatten_cons, List.append_assoc current]

/-- Before the first opening line the loop looks for a line that is not blank. -/
theorem splitFrom_none (d : Dialect) (before : Text) (n : Nat) (ls : List Text) :
    splitFrom d (before ++ ls.flatten) [] none before.size n ls =
      some (match ((Runs.cut d.opensBlock ls).lead.zipIdx n).find? (!·.1.isBlank) with
        | some (line, m) => .error (.malformedStart m line.trimEnd)
        | none => .ok (Block.number ((Runs.cut d.opensBlock ls).runs.map List.flatten))) := by
  induction ls generalizing before n with
  | nil => rfl
  | cons line ls ih =>
      rw [splitFrom, Runs.cut, List.flatten_cons, ← List.append_assoc, ← Text.size_append]
      by_cases hopens : d.opensBlock line = true
      · rw [if_pos hopens, if_pos hopens]
        exact splitFrom_some d before line [] (n + 1) ls
      · rw [if_neg hopens, if_neg hopens, List.zipIdx_cons, List.find?_cons]
        by_cases hblank : line.isBlank = true
        · rw [if_neg (by simp [hblank]), ih]
          simp only [hblank, Bool.not_true]
        · rw [if_pos (by simpa using hblank)]
          simp only [hblank, Bool.not_false]
          rfl

theorem split_eq (d : Dialect) (input : Text) : split d input = some (Block.split d input) := by
  have h := splitFrom_none d [] 1 input.rawLines
  rw [List.nil_append, Text.flatten_rawLines] at h
  exact h

end TypeReport.Checked

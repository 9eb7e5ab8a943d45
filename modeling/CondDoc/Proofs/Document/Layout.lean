import CondDoc.Proofs.Document.Tree

namespace CondDoc

theorem Tail.length_marks_pos (tail : Tail) : 0 < tail.marks.length := by
  cases tail <;> exact Nat.succ_pos _

mutual

theorem Tree.blocks_within (before : Nat) (tree : Tree) (block : Block)
    (h : block ∈ tree.blocks before) :
    (before : Int) < block.start ∧ block.start < block.stop ∧
      block.stop ≤ (before + tree.marks.length : Nat) := by
  cases tree with
  | empty => cases h
  | line text rest =>
    obtain ⟨hstart, hlong, hstop⟩ := rest.blocks_within (before + 1) block h
    rw [Tree.marks, List.length_cons]
    omega
  | block opening condition body tail rest =>
    have hpos := tail.length_marks_pos
    simp only [Tree.blocks, List.mem_append, List.mem_cons] at h
    simp only [Tree.marks, List.length_cons, List.length_append]
    rcases h with h | h | rfl | h
    · obtain ⟨hstart, hlong, hstop⟩ := body.blocks_within (before + 1) block h
      omega
    · obtain ⟨hstart, hlong, hstop⟩ := tail.blocks_within _ block h
      omega
    · dsimp only
      omega
    · obtain ⟨hstart, hlong, hstop⟩ := rest.blocks_within _ block h
      omega

theorem Tail.blocks_within (before : Nat) (tail : Tail) (block : Block)
    (h : block ∈ tail.blocks before) :
    (before : Int) < block.start ∧ block.start < block.stop ∧
      block.stop < (before + tail.marks.length : Nat) := by
  cases tail with
  | close closing => cases h
  | elseIf line condition body tail =>
    have hpos := tail.length_marks_pos
    simp only [Tail.blocks, List.mem_append] at h
    simp only [Tail.marks, List.length_cons, List.length_append]
    rcases h with h | h
    · obtain ⟨hstart, hlong, hstop⟩ := body.blocks_within (before + 1) block h
      omega
    · obtain ⟨hstart, hlong, hstop⟩ := tail.blocks_within _ block h
      omega
  | otherwise line body closing =>
    obtain ⟨hstart, hlong, hstop⟩ := body.blocks_within (before + 1) block h
    simp only [Tail.marks, List.length_cons, List.length_append, List.length_nil]
    omega

end

theorem Tail.branches_within (before : Nat) (tail : Tail) (branch : Branch)
    (h : branch ∈ tail.branches before) :
    (before : Int) < branch.start ∧ branch.stop < (before + tail.marks.length : Nat) := by
  cases tail with
  | close closing => cases h
  | elseIf line condition body tail =>
    have hpos := tail.length_marks_pos
    simp only [Tail.branches, List.mem_cons] at h
    simp only [Tail.marks, List.length_cons, List.length_append]
    rcases h with rfl | h
    · dsimp only
      omega
    · obtain ⟨hstart, hstop⟩ := tail.branches_within _ branch h
      omega
  | otherwise line body closing =>
    obtain rfl := List.mem_singleton.1 h
    simp only [Tail.marks, List.length_cons, List.length_append, List.length_nil]
    omega

mutual

/-- Later blocks are closed on later lines. -/
theorem Tree.pairwise_blocks (before : Nat) (tree : Tree) :
    (tree.blocks before).Pairwise fun first second => first.stop < second.stop := by
  cases tree with
  | empty => exact .nil
  | line text rest => exact rest.pairwise_blocks (before + 1)
  | block opening condition body tail rest =>
    have hpos := tail.length_marks_pos
    have hbody := body.blocks_within (before + 1)
    have htail := tail.blocks_within (before + 1 + body.marks.length)
    have hrest := rest.blocks_within (before + 1 + body.marks.length + tail.marks.length)
    rw [Tree.blocks, List.pairwise_append, List.pairwise_append, List.pairwise_cons]
    refine ⟨body.pairwise_blocks _, ⟨tail.pairwise_blocks _, ⟨?_, rest.pairwise_blocks _⟩, ?_⟩, ?_⟩
    · intro later hlater
      have := hrest later hlater
      dsimp only
      omega
    · intro first hfirst later hlater
      have := htail first hfirst
      rcases List.mem_cons.1 hlater with rfl | hlater
      · dsimp only
        omega
      · have := hrest later hlater
        omega
    · intro first hfirst later hlater
      have := hbody first hfirst
      rcases List.mem_append.1 hlater with hlater | hlater
      · have := htail later hlater
        omega
      · rcases List.mem_cons.1 hlater with rfl | hlater
        · dsimp only
          omega
        · have := hrest later hlater
          omega

theorem Tail.pairwise_blocks (before : Nat) (tail : Tail) :
    (tail.blocks before).Pairwise fun first second => first.stop < second.stop := by
  cases tail with
  | close closing => exact .nil
  | elseIf line condition body tail =>
    rw [Tail.blocks, List.pairwise_append]
    refine ⟨body.pairwise_blocks _, tail.pairwise_blocks _, ?_⟩
    intro first hfirst later hlater
    have hbody := body.blocks_within _ first hfirst
    have htail := tail.blocks_within _ later hlater
    omega
  | otherwise line body closing => exact body.pairwise_blocks _

end

end CondDoc

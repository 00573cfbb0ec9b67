import SplitTest.Text.Blank

/-! Runs of characters of one kind.  A run at the beginning of a text is taken or dropped as a whole
where what follows it begins with a character of another kind. -/

namespace SplitTest.Text

variable {p : Char → Bool} {cs rest : List Char}

theorem dropWhile_append_of_head (hcs : ∀ c ∈ cs, p c = true)
    (hrest : ∀ c ∈ rest.head?, p c = false) : (cs ++ rest).dropWhile p = rest := by
  rw [List.dropWhile_append_of_pos hcs]
  cases rest with
  | nil => rfl
  | cons c rest => simp [hrest c rfl]

theorem takeWhile_append_of_head (hcs : ∀ c ∈ cs, p c = true)
    (hrest : ∀ c ∈ rest.head?, p c = false) : (cs ++ rest).takeWhile p = cs := by
  rw [List.takeWhile_append_of_pos hcs]
  cases rest with
  | nil => simp
  | cons c rest => simp [hrest c rfl]

/-- What stands between two runs is left when they are trimmed. -/
theorem trimBy_between {before after : List Char} (hbefore : ∀ c ∈ before, p c = true)
    (hafter : ∀ c ∈ after, p c = true) (hcs : ∀ c ∈ cs, p c = false) (hne : cs ≠ []) :
    trimBy p (before ++ (cs ++ after)) = cs := by
  have hhead : ∀ c ∈ (cs ++ after).head?, p c = false := by
    intro c hc
    obtain ⟨d, ds, rfl⟩ := List.exists_cons_of_ne_nil hne
    exact hcs c (List.mem_of_mem_head? hc)
  have hlast : ∀ c ∈ cs.reverse.head?, p c = false := fun c hc =>
    hcs c (List.mem_reverse.mp (List.mem_of_mem_head? hc))
  have hreverse : ∀ c ∈ after.reverse, p c = true := fun c hc =>
    hafter c (List.mem_reverse.mp hc)
  rw [trimBy, dropWhile_append_of_head hbefore hhead, List.reverse_append,
    dropWhile_append_of_head hreverse hlast, List.reverse_reverse]

end SplitTest.Text

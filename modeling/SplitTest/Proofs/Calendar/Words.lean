import SplitTest.Calendar.Word
import SplitTest.Proofs.Text.Digits

/-! The words of texts that are made of numbers, marks and letters.  A run of digits is one word,
with a fraction too, up to the first character that cannot go on with it. -/

namespace SplitTest.Word

open Text

theorem isDigit_of_isDigit {c : Char} (h : c.isDigit = true) : isDigit c = true := by
  rw [isDigit, digit?_of_isDigit h, Option.isSome_some]

theorem isLetter_of_isDigit {c : Char} (h : c.isDigit = true) : isLetter c = false := by
  rw [isLetter, isDigit_of_isDigit h, Bool.not_true, Bool.and_false]

theorem ne_dot_of_isDigit {c : Char} (h : c.isDigit = true) : c ≠ '.' :=
  ne_of_isDigit h rfl

theorem dot_notMem_of_digits {cs : List Char} {n : Nat} (h : Digits cs n) : '.' ∉ cs :=
  fun hc => ne_dot_of_isDigit (h.isDigit _ hc) rfl

/-- A text before which a number ends. -/
inductive EndsNumber : List Char → Prop
  | nil : EndsNumber []
  | cons {c : Char} (h : isDigit c = false ∧ c ≠ '.' ∧ c ≠ ',') (rest : List Char) :
      EndsNumber (c :: rest)

/-- Inside a number, digits go on with it. -/
theorem splitFrom_inside {mode : Mode} (hmode : mode = .number ∨ mode = .dottedNumber)
    {ds : List Char} (hds : ∀ c ∈ ds, c.isDigit = true) (acc rest : List Char) :
    splitFrom (some (mode, false, acc)) (ds ++ rest) =
      splitFrom (some (mode, false, ds.reverse ++ acc)) rest := by
  induction ds generalizing acc with
  | nil => rfl
  | cons c ds ih =>
    obtain ⟨hc, hds⟩ := List.forall_mem_cons.mp hds
    rw [List.cons_append, List.reverse_cons, List.append_assoc, List.cons_append, List.nil_append,
      ← ih hds]
    rcases hmode with rfl | rfl
    · simp only [splitFrom, isDigit_of_isDigit hc, if_true]
    · simp only [splitFrom, isDigit_of_isDigit hc, Bool.or_true, if_true]

theorem splitFrom_none_digits {ds : List Char} {n : Nat} (h : Digits ds n) (rest : List Char) :
    splitFrom none (ds ++ rest) = splitFrom (some (.number, false, ds.reverse)) rest := by
  obtain ⟨c, ds, rfl, hc, hds⟩ := h.eq_cons
  rw [List.cons_append, splitFrom]
  simp only [isLetter_of_isDigit hc, isDigit_of_isDigit hc, Bool.false_eq_true, if_false, if_true,
    splitFrom_inside (.inl rfl) hds, List.reverse_cons]

theorem splitFrom_digits {ds rest : List Char} {n : Nat} (h : Digits ds n)
    (hrest : EndsNumber rest) : splitFrom none (ds ++ rest) = ds :: splitFrom none rest := by
  rw [splitFrom_none_digits h]
  cases hrest with
  | nil => simp [splitFrom, finish]
  | cons hc rest =>
    obtain ⟨hdigit, hdot, hcomma⟩ := hc
    simp [splitFrom, finish, hdigit, hdot, hcomma]

/-- A number with a fraction does not fall apart at its point. -/
theorem finish_decimal {ds fs : List Char} {n m : Nat} (hds : Digits ds n) (hfs : Digits fs m) :
    finish .dottedNumber false (ds ++ '.' :: fs) = [ds ++ '.' :: fs] := by
  have hcount {cs : List Char} {k : Nat} (h : Digits cs k) : cs.count '.' = 0 :=
    List.count_eq_zero.mpr (dot_notMem_of_digits h)
  have hlast : ∃ c, (ds ++ '.' :: fs).getLast? = some c ∧ c.isDigit = true := by
    refine ⟨fs.getLast hfs.ne_nil, ?_, hfs.isDigit _ (List.getLast_mem hfs.ne_nil)⟩
    rw [List.getLast?_append, List.getLast?_cons_of_ne_nil hfs.ne_nil,
      List.getLast?_eq_some_getLast hfs.ne_nil, Option.some_or]
  obtain ⟨c, hc, hdigit⟩ := hlast
  have hdot : c ≠ '.' := ne_dot_of_isDigit hdigit
  have hcomma : c ≠ ',' := by
    rintro rfl
    simp at hdigit
  -- With one point only, and a digit at its end, the word is left whole.
  simp [finish, List.count_append, hcount hds, hcount hfs, hc, hdot, hcomma]

theorem splitFrom_decimal {ds fs rest : List Char} {n m : Nat} (hds : Digits ds n)
    (hfs : Digits fs m) (hrest : EndsNumber rest) :
    splitFrom none (ds ++ '.' :: (fs ++ rest)) = (ds ++ '.' :: fs) :: splitFrom none rest := by
  have hword : (fs.reverse ++ '.' :: ds.reverse).reverse = ds ++ '.' :: fs := by simp
  have hafter : ((fs.reverse ++ '.' :: ds.reverse).head? == some '.') = false := by
    obtain ⟨c, hc⟩ := Option.isSome_iff_exists.mp (List.getLast?_isSome.mpr hfs.ne_nil)
    have hdot : c ≠ '.' := ne_dot_of_isDigit (hfs.isDigit c (List.mem_of_getLast? hc))
    rw [List.head?_append, List.head?_reverse, hc, Option.some_or]
    simpa using hdot
  rw [splitFrom_none_digits hds, splitFrom]
  simp only [show isDigit '.' = false from rfl, Bool.false_eq_true, if_false, BEq.rfl,
    Bool.true_or, if_true, splitFrom_inside (.inr rfl) hfs.isDigit]
  generalize fs.reverse ++ '.' :: ds.reverse = acc at hword hafter
  cases hrest with
  | nil => simp [splitFrom, hword, finish_decimal hds hfs]
  | cons hc rest =>
    obtain ⟨hdigit, hdot, hcomma⟩ := hc
    simp [splitFrom, hword, finish_decimal hds hfs, hdigit, hdot, hafter]

theorem splitFrom_mark {c : Char} (hletter : isLetter c = false) (hdigit : isDigit c = false)
    (rest : List Char) :
    splitFrom none (c :: rest) = [if isBlank c then ' ' else c] :: splitFrom none rest := by
  rw [splitFrom, if_neg (by simp [hletter]), if_neg (by simp [hdigit])]

/-- A letter before a digit is a word. -/
theorem splitFrom_letter {c : Char} (hletter : isLetter c = true) {ds : List Char} {n : Nat}
    (hds : Digits ds n) (rest : List Char) :
    splitFrom none (c :: (ds ++ rest)) = [c] :: splitFrom none (ds ++ rest) := by
  obtain ⟨d, ds, rfl, hd, -⟩ := hds.eq_cons
  have hdot : d ≠ '.' := ne_dot_of_isDigit hd
  rw [splitFrom, if_pos hletter, List.cons_append, splitFrom]
  simp [isLetter_of_isDigit hd, hdot, finish, splitFrom]

end SplitTest.Word

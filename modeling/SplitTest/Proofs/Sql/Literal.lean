import Mathlib.Data.List.Infix
import SplitTest.Proofs.Sql.Scan

/-! A written literal delimits itself.  A scanner that starts on it reads its value and stops at its
closing quote, whatever comes next, unless that is another quote; and what it takes for a literal is
always the written form of the value it reads.  So different values have different literals, and no
value contains anything that would end its literal early. -/

namespace SplitTest.Scan

open Literal (quote double)

/-- The rest after a literal begins after the first quote that can close it. -/
theorem suffix_of_literal?_quote {cs value rest : List Char}
    (h : literal? (quote :: cs) = some (value, rest)) : rest <:+ cs := by
  obtain ⟨hcs, -⟩ := eq_double_of_literal? h
  cases value with
  | nil =>
    obtain rfl : cs = rest := by simpa [double] using hcs
    exact List.suffix_rfl
  | cons c value =>
    -- The first quote is the first half of a doubled one.
    obtain ⟨rfl, rfl⟩ : c = quote ∧ cs = quote :: (double value ++ quote :: rest) := by
      by_cases hc : c = quote
      · simpa [double, hc] using hcs
      · simp [double, hc, Ne.symm hc] at hcs
    exact ⟨quote :: (double value ++ [quote]), by simp⟩

end SplitTest.Scan

namespace SplitTest.Literal

/-- Reads the literal at the start of a text: its value, and the text after its closing quote. -/
def scan? : List Char → Option (String × List Char)
  | [] => none
  | c :: rest =>
    if c = quote then (Scan.literal? rest).map fun r => (String.ofList r.1, r.2) else none

/-- A literal is read exactly where one is written that no quote follows. -/
theorem scan?_eq_some_iff {cs rest : List Char} {v : String} :
    scan? cs = some (v, rest) ↔ cs = (encode v).toList ++ rest ∧ rest.head? ≠ some quote := by
  rw [toList_encode_append]
  constructor
  · intro h
    cases cs with
    | nil => cases h
    | cons c cs =>
      rw [scan?] at h
      split at h
      · obtain ⟨⟨value, after⟩, hread, heq⟩ := Option.map_eq_some_iff.mp h
        obtain ⟨rfl, rfl⟩ : String.ofList value = v ∧ after = rest := by simpa using heq
        obtain ⟨rfl, hrest⟩ := Scan.eq_double_of_literal? hread
        exact ⟨by simp [*], hrest⟩
      · cases h
  · rintro ⟨rfl, hrest⟩
    rw [scan?, if_pos rfl, Scan.literal?_double _ _ hrest]
    simp

theorem encode_injective : Function.Injective encode := by
  intro v w h
  have hv : scan? ((encode v).toList ++ []) = some (v, []) := scan?_eq_some_iff.mpr ⟨rfl, by simp⟩
  have hw : scan? ((encode v).toList ++ []) = some (w, []) :=
    scan?_eq_some_iff.mpr ⟨h ▸ rfl, by simp⟩
  exact (Prod.mk.inj (Option.some.inj (hv.symm.trans hw))).1

/-- Whatever follows a literal, all of its value is read and none of its text is left. -/
theorem prefix_of_scan? {v w : String} {cs rest : List Char}
    (h : scan? ((encode v).toList ++ cs) = some (w, rest)) :
    v.toList <+: w.toList ∧ rest <:+ cs := by
  rw [toList_encode_append, scan?, if_pos rfl, Scan.literal?_double_append] at h
  simp only [Option.map_map, Option.map_eq_some_iff] at h
  obtain ⟨⟨value, after⟩, hread, heq⟩ := h
  obtain ⟨rfl, rfl⟩ : String.ofList (v.toList ++ value) = w ∧ after = rest := by simpa using heq
  exact ⟨by simp, Scan.suffix_of_literal?_quote hread⟩

/-- A scanner that starts on a literal reads its value and leaves what follows, if that does not
begin with a quote.  Nothing else has this literal, and whatever follows, the scanner does not stop
within it. -/
theorem scan?_of_encode (v : String) (rest : List Char) (h : rest.head? ≠ some quote) :
    scan? ((encode v).toList ++ rest) = some (v, rest) ∧ (∀ w, encode w = encode v → w = v) ∧
      ∀ cs w after, scan? ((encode v).toList ++ cs) = some (w, after) →
        v.toList <+: w.toList ∧ after <:+ cs :=
  ⟨scan?_eq_some_iff.mpr ⟨rfl, h⟩, fun _ hw => encode_injective hw, fun _ _ _ => prefix_of_scan?⟩

/-- A value that begins and ends with quotes, with a comment and what looks like a literal in it. -/
theorem scan?_of_encode_quotes :
    let v := String.ofList [quote, quote, ' ', '-', '-', ' ', quote, 'x', quote]
    let rest := [' ', 'O', 'R', ' ', quote, quote]
    rest.head? ≠ some quote ∧ scan? ((encode v).toList ++ rest) = some (v, rest) :=
  ⟨by decide, (scan?_of_encode _ _ (by decide)).1⟩

end SplitTest.Literal

import SplitTest.Proofs.Text.Runs
import SplitTest.Sql

/-! What a scanner sees in an SQL text.  A comment runs from two hyphens to the end of its line, a
literal from a quote to the next quote that is not doubled; all else is code.  A text that has
neither quotes nor comments is seen character by character, and a written literal as the value that
it denotes, whatever follows, as long as what follows cannot be taken for a part of it. -/

namespace SplitTest.Literal

theorem double_of_notMem {cs : List Char} (h : quote ∉ cs) : double cs = cs := by
  induction cs with
  | nil => rfl
  | cons c cs ih =>
    obtain ⟨hc, hcs⟩ := not_or.mp (mt List.mem_cons.mpr h)
    rw [double, if_neg (Ne.symm hc), ih hcs]

/-- A literal without quotes inside is its value between two quotes. -/
theorem encode_of_notMem {s : String} (h : quote ∉ s.toList) :
    encode s = String.singleton quote ++ s ++ String.singleton quote := by
  rw [encode, double_of_notMem h, ← String.toList_inj]
  simp

theorem toList_encode_append (s : String) (rest : List Char) :
    (encode s).toList ++ rest = quote :: (double s.toList ++ quote :: rest) := by
  simp [encode]

end SplitTest.Literal

namespace SplitTest.Scan

open Literal (quote double)

/-- A part of an SQL text as a scanner sees it. -/
inductive Part
  /-- A character of code. -/
  | code (c : Char)
  /-- A literal that denotes `s`. -/
  | literal (s : String)
  /-- A literal that does not end. -/
  | unclosed
  deriving DecidableEq

/-- A character that ends a line, and so a comment. -/
def isLineEnd (c : Char) : Bool :=
  c == '\n' || c == '\r'

/-- The value of a literal whose opening quote has been read, and the text after its closing quote;
nothing if it does not end. -/
def literal? : List Char → Option (List Char × List Char)
  | [] => none
  | [c] => if c = quote then some ([], []) else none
  | c :: d :: rest =>
    if c = quote then
      if d = quote then (literal? rest).map fun (value, after) => (quote :: value, after)
      else some ([], d :: rest)
    else (literal? (d :: rest)).map fun (value, after) => (c :: value, after)

/-- The parts of a text; `skip` counts the characters that the last part still covers. -/
def partsFrom : (skip : Nat) → List Char → List Part
  | _, [] => []
  | skip + 1, _ :: rest => partsFrom skip rest
  | 0, c :: rest =>
    if c = quote then
      match literal? rest with
      | some (value, after) =>
        .literal (String.ofList value) :: partsFrom (rest.length - after.length) rest
      | none => [.unclosed]
    else if c = '-' ∧ rest.head? = some '-' then
      partsFrom (rest.takeWhile (!isLineEnd ·)).length rest
    else .code c :: partsFrom 0 rest

/-- The parts of a text, without its comments. -/
def parts (cs : List Char) : List Part :=
  partsFrom 0 cs

/-- A literal with its value forgotten; any other part stays as it is. -/
def Part.mark : Part → Part
  | literal _ => literal ""
  | p => p

/-- The shape of a text: comments are dropped, and every literal is replaced by the same mark. -/
def skeleton (cs : List Char) : List Part :=
  (parts cs).map Part.mark

/-! ### Comments, literals and code -/

theorem partsFrom_eq_parts (skip : Nat) (cs : List Char) :
    partsFrom skip cs = parts (cs.drop skip) := by
  induction skip generalizing cs with
  | zero => rfl
  | succ skip ih =>
    cases cs with
    | nil => rfl
    | cons c rest => exact ih rest

theorem parts_code {c : Char} {rest : List Char} (hquote : c ≠ quote)
    (hhyphen : c = '-' → rest.head? ≠ some '-') :
    parts (c :: rest) = .code c :: parts rest := by
  rw [parts, partsFrom, if_neg hquote, if_neg fun h => hhyphen h.1 h.2]
  rfl

/-- A comment is not seen; it ends where its line ends. -/
theorem parts_comment {line rest : List Char} (hline : ∀ c ∈ line, isLineEnd c = false)
    (hend : ∀ c ∈ rest.head?, isLineEnd c = true) :
    parts ('-' :: '-' :: (line ++ rest)) = parts rest := by
  have hwhole : ∀ c ∈ '-' :: line, isLineEnd c = false :=
    List.forall_mem_cons.mpr ⟨rfl, hline⟩
  have htake : (('-' :: line) ++ rest).takeWhile (!isLineEnd ·) = '-' :: line :=
    Text.takeWhile_append_of_head (by simpa using hwhole) (by simpa using hend)
  rw [List.cons_append] at htake
  rw [parts, partsFrom, if_neg (by decide), if_pos ⟨rfl, rfl⟩, partsFrom_eq_parts, htake]
  simp

/-- Doubled characters are a part of the value, whatever follows them. -/
theorem literal?_double_append (value cs : List Char) :
    literal? (double value ++ cs) = (literal? cs).map fun r => (value ++ r.1, r.2) := by
  induction value with
  | nil => simp [double]
  | cons c value ih =>
    by_cases hc : c = quote
    · simp [double, literal?, hc, ih, Function.comp_def]
    · rw [double, if_neg hc, List.cons_append]
      cases htail : double value ++ cs with
      | nil =>
        obtain ⟨-, rfl⟩ := List.append_eq_nil_iff.mp htail
        simp [literal?, hc]
      | cons d tail =>
        rw [literal?, if_neg hc, ← htail, ih]
        simp [Function.comp_def]

theorem literal?_double (value rest : List Char) (h : rest.head? ≠ some quote) :
    literal? (double value ++ quote :: rest) = some (value, rest) := by
  have hclosed : literal? (quote :: rest) = some ([], rest) := by
    cases rest with
    | nil => rfl
    | cons d rest => simp_all [literal?]
  rw [literal?_double_append, hclosed]
  simp

/-- What is read as a literal is its value doubled, a quote that closes it, and the rest. -/
theorem eq_double_of_literal? {cs value rest : List Char} (h : literal? cs = some (value, rest)) :
    cs = double value ++ quote :: rest ∧ rest.head? ≠ some quote := by
  induction cs using literal?.induct generalizing value with
  | case1 => simp [literal?] at h
  | case2 =>
    obtain ⟨rfl, rfl⟩ : [] = value ∧ [] = rest := by simpa [literal?] using h
    simp [double]
  | case3 c hc => simp [literal?, hc] at h
  | case4 tail ih =>
    rw [literal?, if_pos rfl, if_pos rfl, Option.map_eq_some_iff] at h
    obtain ⟨⟨inner, after⟩, hread, heq⟩ := h
    obtain ⟨rfl, rfl⟩ : quote :: inner = value ∧ after = rest := by simpa using heq
    obtain ⟨rfl, hrest⟩ := ih hread
    exact ⟨by simp [double], hrest⟩
  | case5 d tail hd =>
    obtain ⟨rfl, rfl⟩ : [] = value ∧ d :: tail = rest := by simpa [literal?, hd] using h
    exact ⟨rfl, by simpa using hd⟩
  | case6 c d tail hc ih =>
    rw [literal?, if_neg hc, Option.map_eq_some_iff] at h
    obtain ⟨⟨inner, after⟩, hread, heq⟩ := h
    obtain ⟨rfl, rfl⟩ : c :: inner = value ∧ after = rest := by simpa using heq
    obtain ⟨htail, hrest⟩ := ih hread
    exact ⟨by simp [double, hc, htail], hrest⟩

/-- A written literal is seen as its value if no quote follows it. -/
theorem parts_encode (s : String) {rest : List Char} (h : rest.head? ≠ some quote) :
    parts ((Literal.encode s).toList ++ rest) = .literal s :: parts rest := by
  have hafter : (double s.toList ++ quote :: rest).drop
      ((double s.toList ++ quote :: rest).length - rest.length) = rest := by
    rw [List.append_cons, List.length_append, Nat.add_sub_cancel, List.drop_left]
  rw [Literal.toList_encode_append, parts, partsFrom, if_pos rfl, literal?_double _ _ h]
  simp only [partsFrom_eq_parts, hafter, String.ofList_toList]

/-! ### Texts that are seen alike wherever they stand -/

/-- A text that a preceding literal or hyphen cannot run into. -/
def Fits (rest : List Char) : Prop :=
  rest.head? ≠ some quote ∧ rest.head? ≠ some '-'

/-- A text after which the scanner is where it was before, so that it does not change how the text
that follows is seen. -/
def Closed (cs : List Char) : Prop :=
  ∀ rest, Fits rest → parts (cs ++ rest) = parts cs ++ parts rest

/-- A text without quotes and without two hyphens in a row. -/
def Plain (cs : List Char) : Prop :=
  quote ∉ cs ∧ ¬['-', '-'] <:+: cs

instance (cs : List Char) : Decidable (Plain cs) :=
  inferInstanceAs (Decidable (_ ∧ _))

theorem fits_nil : Fits [] := by
  simp [Fits]

theorem fits_cons {c : Char} {rest : List Char} (hquote : c ≠ quote) (hhyphen : c ≠ '-') :
    Fits (c :: rest) := by
  simp [Fits, hquote, hhyphen]

theorem plain_nil : Plain [] := by
  simp [Plain]

theorem plain_cons {c : Char} {cs : List Char} :
    Plain (c :: cs) ↔ c ≠ quote ∧ (c = '-' → cs.head? ≠ some '-') ∧ Plain cs := by
  have hfirst : ['-', '-'] <+: c :: cs ↔ c = '-' ∧ cs.head? = some '-' := by
    cases cs <;> simp [List.cons_prefix_cons, eq_comm]
  simp only [Plain, List.mem_cons, List.infix_cons_iff, hfirst, not_or, ne_eq, eq_comm (a := quote)]
  grind

/-- A plain text is seen character by character if its last hyphen is not followed by another. -/
theorem parts_append_of_plain {cs rest : List Char} (h : Plain cs)
    (hjoin : cs.getLast? = some '-' → rest.head? ≠ some '-') :
    parts (cs ++ rest) = cs.map .code ++ parts rest := by
  induction cs with
  | nil => rfl
  | cons c cs ih =>
    obtain ⟨hquote, hhyphen, hplain⟩ := plain_cons.mp h
    -- The character after `c` is in the plain text, or the first of the rest if `c` is the last.
    have hnext : c = '-' → (cs ++ rest).head? ≠ some '-' := by
      cases cs with
      | nil => simpa using hjoin
      | cons d cs => simpa using hhyphen
    have hlast : cs.getLast? = some '-' → rest.head? ≠ some '-' := by
      cases cs with
      | nil => simp
      | cons d cs => simpa [List.getLast?_cons_cons] using hjoin
    rw [List.cons_append, parts_code hquote hnext, ih hplain hlast]
    rfl

theorem Plain.parts_eq {cs : List Char} (h : Plain cs) : parts cs = cs.map .code := by
  have hseen : parts (cs ++ []) = cs.map .code ++ parts [] := parts_append_of_plain h (by simp)
  simpa [parts, partsFrom] using hseen

theorem Plain.closed {cs : List Char} (h : Plain cs) : Closed cs := fun rest hrest => by
  rw [parts_append_of_plain h fun _ => hrest.2, h.parts_eq]

theorem Plain.left {cs ds : List Char} (h : Plain (cs ++ ds)) : Plain cs := by
  refine ⟨fun hquote => h.1 (List.mem_append_left ds hquote), fun hhyphens => h.2 ?_⟩
  exact hhyphens.trans (List.prefix_append cs ds).isInfix

theorem Plain.right {cs ds : List Char} (h : Plain (cs ++ ds)) : Plain ds := by
  refine ⟨fun hquote => h.1 (List.mem_append_right cs hquote), fun hhyphens => h.2 ?_⟩
  exact hhyphens.trans (List.suffix_append cs ds).isInfix

theorem Plain.append {cs ds : List Char} (hcs : Plain cs) (hds : Plain ds)
    (hjoin : cs.getLast? = some '-' → ds.head? ≠ some '-') : Plain (cs ++ ds) := by
  induction cs with
  | nil => exact hds
  | cons c cs ih =>
    obtain ⟨hquote, hhyphen, hplain⟩ := plain_cons.mp hcs
    refine plain_cons.mpr ⟨hquote, ?_, ih hplain ?_⟩
    · cases cs with
      | nil => simpa using hjoin
      | cons d cs => simpa using hhyphen
    · cases cs with
      | nil => simp
      | cons d cs => simpa [List.getLast?_cons_cons] using hjoin

end SplitTest.Scan

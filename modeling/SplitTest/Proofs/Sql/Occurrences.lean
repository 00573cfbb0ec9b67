import Mathlib.Algebra.GroupWithZero.Nat
import SplitTest.Proofs.Sql.Woven

/-! How often a join stands in a text.  A text adds joins to those of the text after it: none if it
is woven, as no join can arise where it ends.  A text in which the alias of a join cannot occur adds
none either, whatever other joins it has. -/

namespace SplitTest

open Literal (quote)
open Scan

/-- The number of characters of a text at which a word begins. -/
def occurrences (w : List Char) : List Char → Nat
  | [] => 0
  | c :: cs => (if w.isPrefixOf (c :: cs) then 1 else 0) + occurrences w cs

section

variable {w v cs rest : List Char}

theorem occurrences_cons_of_prefix {c : Char} (h : w <+: c :: cs) :
    occurrences w (c :: cs) = 1 + occurrences w cs := by
  rw [occurrences, if_pos (List.isPrefixOf_iff_prefix.mpr h)]

theorem occurrences_cons_of_not_starts {c : Char} (h : ¬w <+: c :: cs) :
    occurrences w (c :: cs) = occurrences w cs := by
  rw [occurrences, if_neg (mt List.isPrefixOf_iff_prefix.mp h), Nat.zero_add]

theorem occurrences_eq_zero (h : ¬w <:+: cs) : occurrences w cs = 0 := by
  induction cs with
  | nil => rfl
  | cons c cs ih =>
    rw [occurrences_cons_of_not_starts fun hstarts => h hstarts.isInfix,
      ih fun hwithin => h (List.infix_cons hwithin)]

/-- A word that begins in the first of two texts has its beginning `v` in the first, or some of `v`
in the second. -/
theorem not_prefix_append {c : Char} (hv : ¬v <:+: c :: cs) (hrest : ∀ d ∈ rest.head?, d ∉ v.tail) :
    ¬v <+: c :: cs ++ rest := by
  rintro ⟨after, heq⟩
  rcases List.append_eq_append_iff.mp heq with ⟨middle, hcs, -⟩ | ⟨middle, hmiddle, hafter⟩
  · exact hv ⟨[], middle, hcs.symm⟩
  · cases middle with
    | nil => exact hv ⟨[], [], by rw [hmiddle, List.append_nil, List.append_nil, List.nil_append]⟩
    | cons d middle =>
      have hd : d ∈ v.tail := by simp [hmiddle]
      exact hrest d (by simp [hafter]) hd

/-- A text without the beginning `v` of a word adds no occurrences of the word. -/
theorem occurrences_append (hw : v <+: w) (hv : ¬v <:+: cs)
    (hrest : ∀ d ∈ rest.head?, d ∉ v.tail) :
    occurrences w (cs ++ rest) = occurrences w rest := by
  induction cs with
  | nil => rfl
  | cons c cs ih =>
    have hstarts : ¬w <+: c :: (cs ++ rest) := fun h => not_prefix_append hv hrest (hw.trans h)
    rw [List.cons_append, occurrences_cons_of_not_starts hstarts,
      ih fun hwithin => hv (List.infix_cons hwithin)]

end

/-! ### Texts that add joins -/

/-- A text that adds `n` occurrences of `w`, a word that begins with a join, to those of whatever
text comes after it. -/
structure Sql.Adds (w : List Char) (n : Nat) (q : Sql) : Prop where
  begins : ∀ c ∈ q.chars.head?, c ∉ Watchword.join.chars.tail
  counts : ∀ rest : List Char, (∀ c ∈ rest.head?, c ∉ Watchword.join.chars.tail) →
    occurrences w (q.chars ++ rest) = n + occurrences w rest

namespace Sql

variable {w : List Char} {n m : Nat} {p q : Sql}

theorem Woven.adds (h : q.Woven .join) (hw : Watchword.join.chars <+: w)
    (hbegins : ∀ c ∈ q.chars.head?, c ∉ Watchword.join.chars.tail) : q.Adds w 0 :=
  ⟨hbegins, fun rest hrest => by
    rw [occurrences_append hw h.not_infix_chars hrest, Nat.zero_add]⟩

namespace Adds

theorem append (hp : p.Adds w n) (hq : q.Adds w m) : (p ++ q).Adds w (n + m) where
  begins c hc := by
    rw [chars_append, List.head?_append] at hc
    rcases Option.or_eq_some_iff.mp hc with hc | ⟨-, hc⟩
    · exact hp.begins c hc
    · exact hq.begins c hc
  counts rest hrest := by
    have hbegins : ∀ c ∈ (q.chars ++ rest).head?, c ∉ Watchword.join.chars.tail := by
      intro c hc
      rw [List.head?_append] at hc
      rcases Option.or_eq_some_iff.mp hc with hc | ⟨-, hc⟩
      · exact hq.begins c hc
      · exact hrest c hc
    rw [chars_append, List.append_assoc, hp.counts _ hbegins, hq.counts rest hrest, Nat.add_assoc]

theorem empty : empty.Adds w 0 :=
  ⟨by simp [chars, text, Sql.empty], fun rest _ => by simp [chars, text, Sql.empty]⟩

/-- Texts that add joins, each after a separator. -/
theorem separated {separator : Sql} (hseparator : separator.Adds w 0) {qs : List Sql}
    {ns : List Nat} (h : List.Forall₂ (fun q n => q.Adds w n) qs ns) :
    (concat (qs.map (separator ++ ·))).Adds w ns.sum := by
  induction h with
  | nil => exact empty
  | @cons q n qs ns hq _ ih =>
    have hfirst := (hseparator.append hq).append ih
    rwa [Nat.zero_add] at hfirst

end Adds

theorem join_cons (separator q : Sql) (qs : List Sql) :
    join separator (q :: qs) = q ++ concat (qs.map (separator ++ ·)) := by
  induction qs generalizing q with
  | nil => rfl
  | cons q' qs ih =>
    have hjoin : join separator (q :: q' :: qs) = q ++ (separator ++ join separator (q' :: qs)) :=
      rfl
    rw [hjoin, ih, List.map_cons, concat_cons, append_assoc]

end Sql

/-! ### Texts without the alias of a join -/

/-- Whether no `i` stands before a blank, wherever the text stands; `letter` says that one stands
right before it. -/
def aloof (letter : Bool) : List Char → Bool
  | [] => !letter
  | c :: cs => !(letter && c == ' ') && aloof (c == 'i') cs

/-- A text in which no `i` stands before a blank. -/
def Sql.Aloof (q : Sql) : Prop :=
  aloof false q.chars = true

section

variable {letter : Bool} {cs ds : List Char}

theorem aloof_append (hcs : aloof letter cs = true) (hds : aloof false ds = true) :
    aloof letter (cs ++ ds) = true := by
  induction cs generalizing letter with
  | nil =>
    obtain rfl : letter = false := by simpa [aloof] using hcs
    exact hds
  | cons c cs ih =>
    simp only [aloof, List.cons_append, Bool.and_eq_true] at hcs ⊢
    exact ⟨hcs.1, ih hcs.2⟩

theorem aloof_of_notMem (h : 'i' ∉ cs) : aloof false cs = true := by
  induction cs with
  | nil => rfl
  | cons c cs ih =>
    obtain ⟨hc, hcs⟩ := not_or.mp (mt List.mem_cons.mpr h)
    have hletter : (c == 'i') = false := by simpa using Ne.symm hc
    simp [aloof, hletter, ih hcs]

theorem not_infix_of_aloof (h : aloof letter cs = true) : ¬['i', ' '] <:+: cs := by
  induction cs generalizing letter with
  | nil => simp
  | cons c cs ih =>
    simp only [aloof, Bool.and_eq_true] at h
    intro hwithin
    rcases List.infix_cons_iff.mp hwithin with hstarts | hrest
    · obtain ⟨rfl, after, rfl⟩ := List.cons_prefix_cons.mp hstarts
      simp [aloof] at h
    · exact ih h.2 hrest

theorem Literal.mem_of_mem_double {c : Char} (h : c ∈ Literal.double cs) : c ∈ cs := by
  induction cs with
  | nil => exact h
  | cons d cs ih =>
    rw [Literal.double] at h
    split at h <;> simp_all <;> tauto

end

namespace Sql.Aloof

variable {p q : Sql} {qs : List Sql}

theorem append (hp : p.Aloof) (hq : q.Aloof) : (p ++ q).Aloof := by
  rw [Aloof, chars_append]
  exact aloof_append hp hq

theorem nil : (concat []).Aloof := rfl

theorem cons (hq : q.Aloof) (hqs : (concat qs).Aloof) : (concat (q :: qs)).Aloof :=
  hq.append hqs

/-- A written text is read through. -/
theorem written {cs : List Char} (h : aloof false cs = true) :
    (Sql.code (String.ofList cs)).Aloof := by
  rwa [Aloof, chars_code, String.toList_ofList]

theorem next {cs : List Char} (h : aloof false cs = true) (hqs : (concat qs).Aloof) :
    (concat (Sql.code (String.ofList cs) :: qs)).Aloof :=
  (written h).cons hqs

theorem code {s : String} (h : 'i' ∉ s.toList) : (Sql.code s).Aloof := by
  rw [Aloof, chars_code]
  exact aloof_of_notMem h

theorem literal {s : String} (h : 'i' ∉ s.toList) : (Sql.literal s).Aloof := by
  have hquote : 'i' ≠ quote := by decide
  rw [Aloof, chars_literal, Literal.encode, String.toList_ofList]
  refine aloof_of_notMem ?_
  simpa [hquote] using mt Literal.mem_of_mem_double h

theorem concat_of_forall (h : ∀ q ∈ qs, q.Aloof) : (concat qs).Aloof := by
  induction qs with
  | nil => exact nil
  | cons q qs ih =>
    obtain ⟨hq, hqs⟩ := List.forall_mem_cons.mp h
    exact hq.cons (ih hqs)

theorem join {separator : Sql} (hseparator : separator.Aloof) (h : ∀ q ∈ qs, q.Aloof) :
    (Sql.join separator qs).Aloof := by
  cases qs with
  | nil => exact nil
  | cons q qs =>
    obtain ⟨hq, hqs⟩ := List.forall_mem_cons.mp h
    rw [join_cons]
    exact hq.append (concat_of_forall (List.forall_mem_map.mpr fun p hp =>
      hseparator.append (hqs p hp)))

end Sql.Aloof

end SplitTest

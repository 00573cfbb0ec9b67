import Mathlib.Data.List.TakeWhile
import SplitTest.Proofs.Sql.Scan

/-! The lexemes of an SQL text: its parts, and the comments between them.  Together they make up the
text again, as long as every literal ends, and the lexemes of two texts in a row are those of the
one and of the other unless the first ends within a literal or a comment. -/

namespace SplitTest.Scan

open Literal (quote double)

/-- A lexeme of an SQL text. -/
inductive Lexeme
  /-- A part of the text. -/
  | part (p : Part)
  /-- A comment, by what stands after its two hyphens. -/
  | comment (s : String)
  deriving DecidableEq

namespace Lexeme

/-- A lexeme that is not a comment is a part. -/
def part? : Lexeme → Option Part
  | part p => some p
  | comment _ => none

def text : Lexeme → List Char
  | part (.code c) => [c]
  | part (.literal s) => (Literal.encode s).toList
  | part .unclosed => []
  | comment s => '-' :: '-' :: s.toList

/-- A lexeme that is complete, and ends where the character `next` or the end of the text comes. -/
def EndsBefore (next : Option Char) : Lexeme → Prop
  | part (.code c) => c ≠ quote ∧ (c = '-' → next ≠ some '-')
  | part (.literal _) => next ≠ some quote
  | part .unclosed => False
  | comment s => (∀ c ∈ s.toList, isLineEnd c = false) ∧ ∀ c ∈ next, isLineEnd c = true

end Lexeme

/-- The lexemes of a text; `skip` counts the characters that the last lexeme still covers. -/
def lexemesFrom : (skip : Nat) → List Char → List Lexeme
  | _, [] => []
  | skip + 1, _ :: rest => lexemesFrom skip rest
  | 0, c :: rest =>
    if c = quote then
      match literal? rest with
      | some (value, after) =>
        .part (.literal (String.ofList value)) :: lexemesFrom (rest.length - after.length) rest
      | none => [.part .unclosed]
    else if c = '-' ∧ rest.head? = some '-' then
      let line := rest.tail.takeWhile (!isLineEnd ·)
      .comment (String.ofList line) :: lexemesFrom (line.length + 1) rest
    else .part (.code c) :: lexemesFrom 0 rest

def lexemes (cs : List Char) : List Lexeme :=
  lexemesFrom 0 cs

/-- How a text is cut into lexemes. -/
inductive Lexes : List Char → List Lexeme → Prop
  | nil : Lexes [] []
  | cons {l : Lexeme} {rest : List Char} {ls : List Lexeme} (hl : l.EndsBefore rest.head?)
      (h : Lexes rest ls) : Lexes (l.text ++ rest) (l :: ls)
  | unclosed {rest : List Char} (h : literal? rest = none) :
      Lexes (quote :: rest) [.part .unclosed]

/-! ### Cutting a text -/

theorem lexemesFrom_eq (skip : Nat) (cs : List Char) :
    lexemesFrom skip cs = lexemes (cs.drop skip) := by
  induction skip generalizing cs with
  | zero => rfl
  | succ skip ih =>
    cases cs with
    | nil => rfl
    | cons c rest => exact ih rest

theorem drop_literal {cs value after : List Char} (h : literal? cs = some (value, after)) :
    cs.drop (cs.length - after.length) = after := by
  rw [(eq_double_of_literal? h).1, List.append_cons, List.length_append, Nat.add_sub_cancel,
    List.drop_left]

theorem text_literal (s : String) (rest : List Char) :
    (Lexeme.part (.literal s)).text ++ rest = quote :: (double s.toList ++ quote :: rest) :=
  Literal.toList_encode_append s rest

/-- A text cut at the end of its first line. -/
theorem cut_line (cs : List Char) :
    ∃ line rest, cs = line ++ rest ∧ cs.takeWhile (!isLineEnd ·) = line ∧
      (∀ c ∈ line, isLineEnd c = false) ∧ ∀ c ∈ rest.head?, isLineEnd c = true := by
  refine ⟨_, cs.dropWhile (!isLineEnd ·), List.takeWhile_append_dropWhile.symm, rfl, ?_, ?_⟩
  · intro c hc
    simpa using List.mem_takeWhile_imp hc
  · intro c hc
    rw [← List.find?_not_eq_head?_dropWhile] at hc
    simpa using List.find?_some hc

theorem lexes_lexemes (cs : List Char) : Lexes cs (lexemes cs) := by
  -- A lexeme can cover many characters, so the induction is on the length of what is left.
  induction hn : cs.length using Nat.strongRecOn generalizing cs with
  | ind n ih =>
    subst hn
    cases cs with
    | nil => exact .nil
    | cons c rest =>
      unfold lexemes lexemesFrom
      split
      · rename_i hquote
        subst hquote
        split
        · rename_i value after hread
          obtain ⟨hrest, hafter⟩ := eq_double_of_literal? hread
          have hlexes := Lexes.cons (l := .part (.literal (String.ofList value))) hafter
            (ih after.length (by simp [hrest]; omega) after rfl)
          rw [lexemesFrom_eq, drop_literal hread]
          rwa [text_literal, String.toList_ofList, ← hrest] at hlexes
        · rename_i hread
          exact .unclosed hread
      · rename_i hquote
        split
        · rename_i hhyphens
          obtain ⟨rfl, hnext⟩ := hhyphens
          obtain ⟨tail, rfl⟩ : ∃ tail, rest = '-' :: tail := by
            cases rest with
            | nil => simp at hnext
            | cons d tail => exact ⟨tail, by simpa using hnext⟩
          obtain ⟨line, after, rfl, htake, hline, hend⟩ := cut_line tail
          have hlexes := Lexes.cons (l := .comment (String.ofList line))
            ⟨by simpa using hline, hend⟩ (ih after.length (by simp; omega) after rfl)
          simpa only [Lexeme.text, String.toList_ofList, List.cons_append, List.tail_cons, htake,
            lexemesFrom_eq, List.drop_succ_cons, List.drop_left] using hlexes
        · rename_i hhyphens
          exact .cons (l := .part (.code c)) ⟨hquote, fun hc hnext => hhyphens ⟨hc, hnext⟩⟩
            (ih rest.length (by simp) rest rfl)

theorem Lexes.lexemes_eq {cs : List Char} {ls : List Lexeme} (h : Lexes cs ls) :
    lexemes cs = ls := by
  induction h with
  | nil => rfl
  | @cons l rest ls hl _ ih =>
    match l with
    | .part (.code c) =>
      show lexemesFrom 0 (c :: rest) = _
      rw [lexemesFrom, if_neg hl.1, if_neg fun h => hl.2 h.1 h.2]
      exact congrArg _ ih
    | .part (.literal value) =>
      have hread := literal?_double value.toList rest hl
      rw [text_literal, lexemes, lexemesFrom, if_pos rfl, hread]
      simp only [lexemesFrom_eq, drop_literal hread, String.ofList_toList, ih]
    | .comment s =>
      have hquote : '-' ≠ quote := by decide
      show lexemesFrom 0 ('-' :: '-' :: (s.toList ++ rest)) = _
      have htake : (s.toList ++ rest).takeWhile (!isLineEnd ·) = s.toList :=
        Text.takeWhile_append_of_head (by simpa using hl.1) (by simpa using hl.2)
      rw [lexemesFrom, if_neg hquote, if_pos ⟨rfl, rfl⟩]
      simp only [List.tail_cons, htake, lexemesFrom_eq, List.drop_succ_cons,
        List.drop_left, String.ofList_toList, ih]
  | unclosed hread => rw [lexemes, lexemesFrom, if_pos rfl, hread]

theorem parts_eq_filterMap (cs : List Char) : parts cs = (lexemes cs).filterMap Lexeme.part? := by
  have h := lexes_lexemes cs
  generalize lexemes cs = ls at h
  induction h with
  | nil => rfl
  | @cons l rest ls hl _ ih =>
    match l with
    | .part (.code c) =>
      show parts (c :: rest) = .code c :: _
      rw [parts_code hl.1 hl.2, ih]
    | .part (.literal value) =>
      show parts ((Literal.encode value).toList ++ rest) = .literal value :: _
      rw [parts_encode _ hl, ih]
    | .comment s =>
      show parts ('-' :: '-' :: (s.toList ++ rest)) = _
      rw [parts_comment hl.1 hl.2, ih]
      rfl
  | unclosed hread =>
    rw [parts, partsFrom, if_pos rfl, hread]
    rfl

/-- The lexemes make up the text if every literal ends. -/
theorem flatMap_text {cs : List Char} (hclosed : .part .unclosed ∉ lexemes cs) :
    (lexemes cs).flatMap Lexeme.text = cs := by
  have h := lexes_lexemes cs
  generalize lexemes cs = ls at h hclosed
  induction h with
  | nil => rfl
  | cons _ _ ih => rw [List.flatMap_cons, ih (List.not_mem_of_not_mem_cons hclosed)]
  | unclosed => simp at hclosed

theorem Plain.lexemes_eq {cs : List Char} (h : Plain cs) :
    lexemes cs = cs.map fun c => .part (.code c) := by
  refine Lexes.lexemes_eq ?_
  induction cs with
  | nil => exact .nil
  | cons c cs ih =>
    obtain ⟨hquote, hhyphen, hcs⟩ := plain_cons.mp h
    exact .cons (l := .part (.code c)) ⟨hquote, hhyphen⟩ (ih hcs)

/-! ### Texts in a row -/

/-- A list of lexemes that ends with a comment. -/
def EndsWithComment (ls : List Lexeme) : Prop :=
  ∃ s, ls.getLast? = some (.comment s)

instance (ls : List Lexeme) : Decidable (EndsWithComment ls) :=
  match h : ls.getLast? with
  | some (.comment s) => .isTrue ⟨s, h⟩
  | some (.part p) => .isFalse (by simp [EndsWithComment, h])
  | none => .isFalse (by simp [EndsWithComment, h])

theorem endsWithComment_cons {l : Lexeme} {ls : List Lexeme} :
    EndsWithComment (l :: ls) ↔ EndsWithComment ls ∨ ls = [] ∧ ∃ s, l = .comment s := by
  cases ls with
  | nil => simp [EndsWithComment]
  | cons l' ls => simp [EndsWithComment, List.getLast?_cons_cons]

theorem Lexes.ne_nil {cs : List Char} {ls : List Lexeme} (h : Lexes cs ls) (hls : ls ≠ []) :
    cs ≠ [] := by
  rintro rfl
  exact hls h.lexemes_eq.symm

theorem Lexeme.EndsBefore.append {l : Lexeme} {cs : List Char} (h : l.EndsBefore cs.head?)
    (hcs : cs ≠ []) (rest : List Char) : l.EndsBefore (cs ++ rest).head? := by
  cases cs with
  | nil => exact absurd rfl hcs
  | cons => exact h

theorem Lexeme.EndsBefore.of_fits {l : Lexeme} (h : l.EndsBefore none) (hl : ∀ s, l ≠ .comment s)
    {rest : List Char} (hfits : Fits rest) : l.EndsBefore rest.head? :=
  match l with
  | .part (.code _) => ⟨h.1, fun _ => hfits.2⟩
  | .part (.literal _) => hfits.1
  | .part .unclosed => h
  | .comment s => absurd rfl (hl s)

/-- The lexemes of two texts in a row, if the first ends neither within a literal nor within a
comment and the second cannot be taken for its continuation. -/
theorem Lexes.append {cs rest : List Char} {ls ls' : List Lexeme} (h : Lexes cs ls)
    (h' : Lexes rest ls') (hclosed : .part .unclosed ∉ ls) (hend : ¬EndsWithComment ls)
    (hfits : Fits rest) : Lexes (cs ++ rest) (ls ++ ls') := by
  induction h with
  | nil => exact h'
  | @cons l cs ls hl hcs ih =>
    rw [List.mem_cons, not_or] at hclosed
    rw [endsWithComment_cons, not_or] at hend
    rw [List.append_assoc]
    refine .cons ?_ (ih hclosed.2 hend.1)
    -- Only the last lexeme of the first text meets the second text.
    by_cases hnil : cs = []
    · subst hnil
      exact hl.of_fits (fun s hs => hend.2 ⟨hcs.lexemes_eq.symm, s, hs⟩) hfits
    · exact hl.append hnil rest
  | unclosed => simp at hclosed

theorem lexemes_append {cs rest : List Char} (hclosed : .part .unclosed ∉ lexemes cs)
    (hend : ¬EndsWithComment (lexemes cs)) (hfits : Fits rest) :
    lexemes (cs ++ rest) = lexemes cs ++ lexemes rest :=
  ((lexes_lexemes cs).append (lexes_lexemes rest) hclosed hend hfits).lexemes_eq

/-- What follows a comment on its line belongs to the comment. -/
theorem Lexes.append_line {cs line rest : List Char} {ls ls' : List Lexeme} (h : Lexes cs ls)
    (hcomment : EndsWithComment ls) (hline : ∀ c ∈ line, isLineEnd c = false)
    (hend : ∀ c ∈ rest.head?, isLineEnd c = true) (h' : Lexes rest ls') :
    ∃ init s, ls = init ++ [.comment s] ∧
      Lexes (cs ++ (line ++ rest)) (init ++ .comment (s ++ String.ofList line) :: ls') := by
  induction h with
  | nil => simp [EndsWithComment] at hcomment
  | @cons l cs ls hl hcs ih =>
    rcases endsWithComment_cons.mp hcomment with hcomment | ⟨rfl, s, rfl⟩
    · obtain ⟨init, s, rfl, hlexes⟩ := ih hcomment
      refine ⟨l :: init, s, rfl, ?_⟩
      rw [List.append_assoc]
      exact .cons (hl.append (hcs.ne_nil (by simp)) _) hlexes
    · cases hcs
      have hlexes := Lexes.cons (l := .comment (s ++ String.ofList line))
        ⟨by simpa using List.forall_mem_append.mpr ⟨hl.1, hline⟩, hend⟩ h'
      exact ⟨[], s, rfl, by simpa [Lexeme.text] using hlexes⟩
  | unclosed => simp [EndsWithComment] at hcomment

theorem literal?_append_of_notMem {cs rest : List Char} (h : literal? cs = none)
    (hrest : quote ∉ rest) : literal? (cs ++ rest) = none := by
  by_contra hread
  obtain ⟨⟨value, after⟩, hread⟩ := Option.ne_none_iff_exists'.mp hread
  obtain ⟨heq, hafter⟩ := eq_double_of_literal? hread
  rw [List.append_cons, List.append_eq_append_iff] at heq
  rcases heq with ⟨tail, htail, rfl⟩ | ⟨tail, rfl, rfl⟩
  -- The closing quote can be neither the last character of `cs` nor in the text after it.
  · rcases tail.eq_nil_or_concat with rfl | ⟨tail, c, rfl⟩
    · rw [List.append_nil] at htail
      rw [← htail, literal?_double value [] (by simp)] at h
      simp at h
    · rw [List.concat_eq_append, ← List.append_assoc] at htail
      obtain ⟨-, hc⟩ := List.append_inj' htail rfl
      simp [← List.singleton_inj.mp hc] at hrest
  · have hclosed : tail.head? ≠ some quote := by
      cases tail with
      | nil => simp
      | cons => exact hafter
    rw [List.append_assoc, List.singleton_append, literal?_double value tail hclosed] at h
    simp at h

theorem Lexes.unclosed_append {cs rest : List Char} {ls : List Lexeme} (h : Lexes cs ls)
    (hunclosed : .part .unclosed ∈ ls) (hrest : quote ∉ rest) :
    .part .unclosed ∈ lexemes (cs ++ rest) := by
  induction h with
  | nil => simp at hunclosed
  | @cons l cs ls hl hcs ih =>
    rcases List.mem_cons.mp hunclosed with rfl | hunclosed
    · exact hl.elim
    · have hne : cs ≠ [] := hcs.ne_nil (List.ne_nil_of_mem hunclosed)
      rw [List.append_assoc, (Lexes.cons (hl.append hne rest) (lexes_lexemes _)).lexemes_eq]
      exact List.mem_cons_of_mem _ (ih hunclosed)
  | unclosed hread =>
    rw [List.cons_append, (Lexes.unclosed (literal?_append_of_notMem hread hrest)).lexemes_eq]
    exact List.mem_singleton_self _

/-- After a text that ends neither within a literal nor within a comment the scanner is where it was
before. -/
theorem closed_of_lexemes {cs : List Char} (hclosed : .part .unclosed ∉ lexemes cs)
    (hend : ¬EndsWithComment (lexemes cs)) : Closed cs := by
  intro rest hfits
  simp only [parts_eq_filterMap, lexemes_append hclosed hend hfits, List.filterMap_append]

end SplitTest.Scan

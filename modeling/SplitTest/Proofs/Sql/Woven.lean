import Mathlib.Data.List.Chain
import SplitTest.Proofs.Sql.Lexemes
import SplitTest.Proofs.Sql.Readable

/-! Words that a text does not have.  Pieces of a text are held apart by blanks and marks, so a word
that no piece has is not in the text either: it cannot begin in one piece and end in another. -/

namespace SplitTest

open Literal (quote)
open Scan

/-! ### Words in lists -/

section

variable {α β : Type} {w xs ys : List α}

/-- What stands in a list around an element that is not in `w` stands on one side of it. -/
theorem infix_of_infix_append_cons {c : α} (hc : c ∉ w) (h : w <:+: xs ++ c :: ys) :
    w <:+: xs ∨ w <:+: ys := by
  obtain ⟨before, after, heq⟩ := h
  rcases List.append_eq_append_iff.mp heq with ⟨middle, hxs, -⟩ | ⟨middle, hbefore, hys⟩
  · exact .inl ⟨before, middle, hxs.symm⟩
  · cases middle with
    | nil => exact .inl ⟨before, [], by rw [List.append_nil, hbefore, List.append_nil]⟩
    | cons d middle =>
      obtain ⟨rfl, rfl⟩ := List.cons.inj hys
      rcases List.append_eq_append_iff.mp hbefore with ⟨start, -, hw⟩ | ⟨start, -, hstart⟩
      · exact absurd (hw ▸ List.mem_append_right _ List.mem_cons_self) hc
      · cases start with
        | nil =>
          exact absurd (List.mem_of_mem_head? (by rw [← List.nil_append w, ← hstart]; rfl)) hc
        | cons e start =>
          obtain ⟨-, rfl⟩ := List.cons.inj hstart
          exact .inr ⟨start, after, rfl⟩

/-- In a list of parts, each of which has an end or a neighbour's beginning that is not in `w`, `w`
occurs only within a part. -/
theorem infix_of_infix_flatMap {g : β → List α} {Ends Begins : β → Prop} (hw : w ≠ [])
    (hends : ∀ p, Ends p → ∃ xs c, g p = xs ++ [c] ∧ c ∉ w)
    (hbegins : ∀ p, Begins p → ∃ c xs, g p = c :: xs ∧ c ∉ w) {ps : List β}
    (hchain : ps.IsChain fun p p' => Ends p ∨ Begins p') (h : w <:+: ps.flatMap g) :
    ∃ p ∈ ps, w <:+: g p := by
  induction ps with
  | nil => exact absurd (List.eq_nil_of_infix_nil h) hw
  | cons p ps ih =>
    have hrest : w <:+: ps.flatMap g → ∃ q ∈ p :: ps, w <:+: g q := by
      intro h
      obtain ⟨q, hq, hwq⟩ := ih hchain.tail h
      exact ⟨q, List.mem_cons_of_mem _ hq, hwq⟩
    rw [List.flatMap_cons] at h
    cases ps with
    | nil => exact ⟨p, List.mem_cons_self, by simpa using h⟩
    | cons p' ps =>
      rcases (List.isChain_cons_cons.mp hchain).1 with hp | hp'
      · obtain ⟨xs, c, hg, hc⟩ := hends p hp
        rw [hg, List.append_assoc, List.singleton_append] at h
        rcases infix_of_infix_append_cons hc h with hxs | hps
        · exact ⟨p, List.mem_cons_self, hg ▸ hxs.trans (List.prefix_append xs [c]).isInfix⟩
        · exact hrest hps
      · obtain ⟨c, xs, hg, hc⟩ := hbegins p' hp'
        rw [List.flatMap_cons, hg, List.cons_append] at h
        rcases infix_of_infix_append_cons hc h with hp | hps
        · exact ⟨p, List.mem_cons_self, hp⟩
        · refine hrest ?_
          rw [List.flatMap_cons, hg, List.cons_append]
          exact List.infix_cons hps

end

/-! ### Words in parts -/

namespace Scan

variable {w cs : List Char} {ls : List Lexeme}

/-- Code at the beginning of a text that ends no line stands there in the text: a comment before it
would end before a line end. -/
theorem Lexes.isPrefix_chars (h : Lexes cs ls) (hw : ∀ c ∈ w, isLineEnd c = false)
    (hstarts : w.map .code <+: ls.filterMap Lexeme.part?) : w <+: cs := by
  induction h generalizing w with
  | nil => simpa using hstarts
  | @cons l rest ls hl _ ih =>
    cases w with
    | nil => exact List.nil_prefix
    | cons c w =>
      obtain ⟨hc, hw'⟩ := List.forall_mem_cons.mp hw
      match l with
      | .part (.code d) =>
        obtain ⟨hcd, hrest⟩ := List.cons_prefix_cons.mp hstarts
        obtain rfl := Part.code.inj hcd
        exact List.cons_prefix_cons.mpr ⟨rfl, ih hw' hrest⟩
      | .part (.literal s) => exact absurd (List.cons_prefix_cons.mp hstarts).1 (by simp)
      | .comment s =>
        obtain ⟨rest', rfl⟩ := ih hw hstarts
        exact absurd (hl.2 c rfl) (by simp [hc])
  | unclosed =>
    cases w with
    | nil => exact List.nil_prefix
    | cons c w => exact absurd (List.cons_prefix_cons.mp hstarts).1 (by simp)

theorem Lexes.isInfix_chars (h : Lexes cs ls) (hw : ∀ c ∈ w, isLineEnd c = false)
    (hwithin : w.map .code <:+: ls.filterMap Lexeme.part?) : w <:+: cs := by
  induction h with
  | nil => simpa using hwithin
  | @cons l rest ls hl hrest ih =>
    have hsuffix (h : w <:+: rest) : w <:+: l.text ++ rest :=
      h.trans (List.suffix_append _ _).isInfix
    match l with
    | .part p =>
      rcases List.infix_cons_iff.mp hwithin with hhead | htail
      · exact ((Lexes.cons hl hrest).isPrefix_chars hw hhead).isInfix
      · exact hsuffix (ih htail)
    | .comment s => exact hsuffix (ih hwithin)
  | unclosed hread =>
    rcases List.infix_cons_iff.mp hwithin with hhead | htail
    · exact ((Lexes.unclosed hread).isPrefix_chars hw hhead).isInfix
    · obtain rfl : w = [] := by simpa using List.eq_nil_of_infix_nil htail
      exact List.nil_infix

/-- A word in the code of a text is in the text. -/
theorem infix_of_infix_parts (hw : ∀ c ∈ w, isLineEnd c = false)
    (h : w.map .code <:+: parts cs) : w <:+: cs := by
  rw [parts_eq_filterMap] at h
  exact (lexes_lexemes cs).isInfix_chars hw h

end Scan

/-! ### Woven texts -/

/-- A character of a word. -/
def isWordChar (c : Char) : Bool := c.isAlphanum || c == '_'

/-- A part within a word. -/
def Scan.Part.inWord : Part → Bool
  | code c => isWordChar c
  | _ => false

/-- A word that texts are watched for. -/
inductive Watchword
  /-- What the names of derived tables begin with; it counts in code only. -/
  | tableMark
  /-- What joins begin with; it counts in literals and comments too. -/
  | join

namespace Watchword

def chars : Watchword → List Char
  | tableMark => ['_', '_']
  | join => ['J', 'O', 'I', 'N']

/-- A text does not have the word. -/
def Absent (w : Watchword) (s : String) : Prop := ¬w.chars <:+: s.toList

instance (w : Watchword) (s : String) : Decidable (w.Absent s) :=
  inferInstanceAs (Decidable (¬w.chars <:+: s.toList))

/-- Whether a text has no watchword. -/
def check : List Char → Bool
  | [] => true
  | '_' :: '_' :: _ => false
  | 'J' :: 'O' :: 'I' :: 'N' :: _ => false
  | _ :: cs => check cs

variable (w : Watchword)

theorem chars_ne_nil : w.chars ≠ [] := by
  cases w <;> simp [chars]

theorem isWordChar_of_mem {c : Char} (h : c ∈ w.chars) : isWordChar c = true := by
  cases w with
  | tableMark =>
    obtain rfl : c = '_' := by simpa [chars] using h
    rfl
  | join =>
    simp only [chars, List.mem_cons, List.not_mem_nil, or_false] at h
    rcases h with rfl | rfl | rfl | rfl <;> rfl

theorem notMem_of_isWordChar {c : Char} (h : isWordChar c = false) : c ∉ w.chars := fun hmem =>
  absurd (w.isWordChar_of_mem hmem) (by simp [h])

theorem not_infix_of_check {cs : List Char} (h : check cs = true) : ¬w.chars <:+: cs := by
  induction cs using check.induct with
  | case1 => exact fun hwithin => w.chars_ne_nil (List.eq_nil_of_infix_nil hwithin)
  | case2 => simp [check] at h
  | case3 => simp [check] at h
  | case4 c cs hmark hjoin ih =>
    rw [check] at h
    · intro hwithin
      rcases List.infix_cons_iff.mp hwithin with ⟨rest, hstarts⟩ | hrest
      · cases w with
        | tableMark =>
          obtain ⟨rfl, rfl⟩ := List.cons.inj hstarts
          exact hmark rest rfl rfl
        | join =>
          obtain ⟨rfl, rfl⟩ := List.cons.inj hstarts
          exact hjoin rest rfl rfl
      · exact ih h hrest
    · exact hmark
    · exact hjoin

theorem absent_of_check {cs : List Char} (h : check cs = true) : w.Absent (String.ofList cs) := by
  rw [Absent, String.toList_ofList]
  exact w.not_infix_of_check h

end Watchword

namespace Scan.Plain

/-- Whether characters are those of a plain text; `hyphen` says that the last one was a hyphen. -/
def check (hyphen : Bool) : List Char → Bool
  | [] => true
  | c :: rest => c != quote && !(hyphen && c == '-') && check (c == '-') rest

theorem of_check {hyphen : Bool} {cs : List Char} (h : check hyphen cs = true) :
    Plain cs ∧ (hyphen = true → cs.head? ≠ some '-') := by
  induction cs generalizing hyphen with
  | nil => simp [plain_nil]
  | cons c rest ih =>
    simp only [check, Bool.and_eq_true, bne_iff_ne, Bool.not_eq_true', Bool.and_eq_false_iff,
      beq_eq_false_iff_ne] at h
    obtain ⟨⟨hquote, hhyphen⟩, hrest⟩ := h
    obtain ⟨hplain, hnext⟩ := ih hrest
    refine ⟨plain_cons.mpr ⟨hquote, fun hc => hnext (by simp [hc]), hplain⟩, ?_⟩
    intro htrue
    simpa [htrue] using hhyphen

end Scan.Plain

namespace Piece

/-- A piece that begins with a blank, a mark or a literal. -/
def Begins : Piece → Prop
  | code s => Plain s.toList ∧ ∃ c cs, s.toList = c :: cs ∧ isWordChar c = false
  | literal _ => True
  | comment _ => False

/-- A piece that ends with a blank, a mark or a literal. -/
def Ends : Piece → Prop
  | code s => Plain s.toList ∧ ∃ cs c, s.toList = cs ++ [c] ∧ isWordChar c = false
  | literal _ => True
  | comment _ => False

theorem Begins.exists_parts {p : Piece} (h : p.Begins) :
    ∃ x xs, p.parts = x :: xs ∧ x.inWord = false := by
  cases p with
  | code s =>
    obtain ⟨hplain, c, cs, hs, hc⟩ := h
    exact ⟨.code c, cs.map .code, by rw [Piece.parts, hplain.parts_eq, hs, List.map_cons], hc⟩
  | literal s => exact ⟨.literal s, [], rfl, rfl⟩
  | comment s => exact h.elim

theorem Ends.exists_parts {p : Piece} (h : p.Ends) :
    ∃ xs x, p.parts = xs ++ [x] ∧ x.inWord = false := by
  cases p with
  | code s =>
    obtain ⟨hplain, cs, c, hs, hc⟩ := h
    refine ⟨cs.map .code, .code c, ?_, hc⟩
    rw [Piece.parts, hplain.parts_eq, hs, List.map_append, List.map_singleton]
  | literal s => exact ⟨[], .literal s, rfl, rfl⟩
  | comment s => exact h.elim

/-- A piece does not have a watchword where it counts. -/
def Lacks (w : Watchword) : Piece → Prop
  | code s => w.Absent s
  | literal s | comment s => w = .join → w.Absent s

end Piece

/-- A text in whose pieces a watchword does not occur, and in which it cannot go from one piece to
the next. -/
structure Sql.Woven (w : Watchword) (q : Sql) : Prop where
  apart : q.pieces.IsChain fun p p' => p.Ends ∨ p'.Begins
  lacks : ∀ p ∈ q.pieces, p.Lacks w

/-- A text that begins with a blank, a mark or a literal, unless it is empty. -/
def Sql.Begins (q : Sql) : Prop :=
  ∀ p ∈ q.pieces.head?, p.Begins

/-- A text that ends with a blank, a mark or a literal, unless it is empty. -/
def Sql.Ends (q : Sql) : Prop :=
  ∀ p ∈ q.pieces.getLast?, p.Ends

/-- A woven text that can stand after any other. -/
structure Sql.Edged (w : Watchword) (q : Sql) : Prop extends Sql.Woven w q where
  begins : q.Begins

/-- Whether a plain text begins with a blank or a mark. -/
def Piece.checkBegins (cs : List Char) : Bool :=
  Plain.check false cs && cs.head?.any (!isWordChar ·)

/-- Whether a plain text ends with a blank or a mark. -/
def Piece.checkEnds (cs : List Char) : Bool :=
  Plain.check false cs && cs.getLast?.any (!isWordChar ·)

/-- Whether a text ends with a blank or a mark, and has no watchword. -/
def Watchword.checkEnd (cs : List Char) : Bool :=
  check cs && Piece.checkEnds cs

/-- Whether a text begins and ends with blanks or marks, and has no watchword. -/
def Watchword.checkEdges (cs : List Char) : Bool :=
  checkEnd cs && Piece.checkBegins cs

namespace Piece

variable {cs : List Char}

theorem begins_code (h : checkBegins cs = true) : (code (String.ofList cs)).Begins := by
  obtain ⟨hplain, hhead⟩ := Bool.and_eq_true_iff.mp h
  refine ⟨by simpa using (Plain.of_check hplain).1, ?_⟩
  obtain ⟨c, hc, hword⟩ := (Option.any_eq_true _ _).mp hhead
  obtain ⟨rest, hrest⟩ := List.head?_eq_some_iff.mp hc
  exact ⟨c, rest, by rw [String.toList_ofList, hrest], by simpa using hword⟩

theorem ends_code (h : checkEnds cs = true) : (code (String.ofList cs)).Ends := by
  obtain ⟨hplain, hlast⟩ := Bool.and_eq_true_iff.mp h
  refine ⟨by simpa using (Plain.of_check hplain).1, ?_⟩
  obtain ⟨c, hc, hword⟩ := (Option.any_eq_true _ _).mp hlast
  obtain ⟨before, hbefore⟩ := List.getLast?_eq_some_iff.mp hc
  exact ⟨before, c, by rw [String.toList_ofList, hbefore], by simpa using hword⟩

end Piece

namespace Sql

variable {w : Watchword} {p q : Sql} {qs : List Sql}

theorem Begins.next {cs : List Char} (h : Piece.checkBegins cs = true) :
    (concat (Sql.code (String.ofList cs) :: qs)).Begins := by
  intro x hx
  obtain rfl : Piece.code (String.ofList cs) = x := by
    simpa [concat_cons, pieces_append, Sql.code] using hx
  exact Piece.begins_code h

theorem Ends.code {cs : List Char} (h : Piece.checkEnds cs = true) :
    (Sql.code (String.ofList cs)).Ends := by
  intro x hx
  obtain rfl : Piece.code (String.ofList cs) = x := by simpa [Sql.code] using hx
  exact Piece.ends_code h

namespace Woven

theorem append_of (hp : p.Woven w) (hq : q.Woven w)
    (hseam : ∀ x ∈ p.pieces.getLast?, ∀ y ∈ q.pieces.head?, x.Ends ∨ y.Begins) :
    (p ++ q).Woven w :=
  ⟨List.isChain_append.mpr ⟨hp.apart, hq.apart, hseam⟩,
    List.forall_mem_append.mpr ⟨hp.lacks, hq.lacks⟩⟩

theorem append (hp : p.Woven w) (hq : q.Edged w) : (p ++ q).Woven w :=
  hp.append_of hq.toWoven fun _ _ y hy => .inr (hq.begins y hy)

theorem single {x : Piece} (h : x.Lacks w) : (Sql.mk [x]).Woven w :=
  ⟨List.isChain_singleton x, List.forall_mem_singleton.mpr h⟩

theorem code {s : String} (h : w.Absent s) : (code s).Woven w := .single h

theorem comment {s : String} (h : w = .join → w.Absent s) : (comment s).Woven w := .single h

theorem literal {s : String} (h : w = .join → w.Absent s) : (literal s).Woven w := .single h

/-- A written word. -/
theorem word {cs : List Char} (h : Watchword.check cs = true) :
    (Sql.code (String.ofList cs)).Woven w :=
  .code (w.absent_of_check h)

theorem nil : (concat []).Woven w :=
  ⟨List.isChain_nil, List.forall_mem_nil _⟩

theorem slot (hq : q.Woven w) (hqs : (concat qs).Edged w) : (concat (q :: qs)).Woven w :=
  hq.append hqs

/-- A written text that ends with a mark may stand before anything. -/
theorem after {cs : List Char} (h : Watchword.checkEnd cs = true) (hq : q.Woven w) :
    (Sql.code (String.ofList cs) ++ q).Woven w := by
  obtain ⟨hword, hend⟩ := Bool.and_eq_true_iff.mp h
  exact append_of (.word hword) hq fun x hx _ _ => .inl (Ends.code hend x hx)

theorem opens {cs : List Char} (h : Watchword.checkEnd cs = true) (hqs : (concat qs).Woven w) :
    (concat (Sql.code (String.ofList cs) :: qs)).Woven w :=
  .after h hqs

end Woven

namespace Edged

theorem append (hp : p.Edged w) (hq : q.Edged w) : (p ++ q).Edged w := by
  refine ⟨hp.toWoven.append hq, fun x hx => ?_⟩
  rw [pieces_append] at hx
  cases hpieces : p.pieces with
  | nil => exact hq.begins x (by simpa [hpieces] using hx)
  | cons y ys => exact hp.begins x (by simpa [hpieces] using hx)

theorem empty : empty.Edged w :=
  ⟨.nil, by simp [Sql.empty, Sql.Begins]⟩

theorem nil : (concat []).Edged w := empty

theorem literal {s : String} (h : w = .join → w.Absent s) : (literal s).Edged w :=
  ⟨.single h, fun x hx => by
    obtain rfl : Piece.literal s = x := by simpa [Sql.literal] using hx
    trivial⟩

/-- A written text between marks may stand after and before anything. -/
theorem next {cs : List Char} (h : Watchword.checkEdges cs = true) (hqs : (concat qs).Woven w) :
    (concat (Sql.code (String.ofList cs) :: qs)).Edged w := by
  obtain ⟨hend, hbegin⟩ := Bool.and_eq_true_iff.mp h
  exact ⟨.opens hend hqs, .next hbegin⟩

/-- A written text may end with a word where the next one begins with a mark. -/
theorem starts {cs : List Char} (hword : Watchword.check cs = true)
    (hbegin : Piece.checkBegins cs = true) (hqs : (concat qs).Edged w) :
    (concat (Sql.code (String.ofList cs) :: qs)).Edged w :=
  ⟨.slot (.word hword) hqs, .next hbegin⟩

theorem code {cs : List Char} (h : Watchword.checkEdges cs = true) :
    (Sql.code (String.ofList cs)).Edged w :=
  @next _ [] _ h .nil

theorem slot (hq : q.Edged w) (hqs : (concat qs).Edged w) : (concat (q :: qs)).Edged w :=
  hq.append hqs

end Edged

theorem Woven.join {cs : List Char} (h : Watchword.checkEdges cs = true)
    (hqs : ∀ q ∈ qs, q.Woven w) : (Sql.join (Sql.code (String.ofList cs)) qs).Woven w := by
  induction qs with
  | nil => exact Edged.empty.toWoven
  | cons q rest ih =>
    obtain ⟨hq, hrest⟩ := List.forall_mem_cons.mp hqs
    cases rest with
    | nil => exact hq.slot .nil
    | cons q' rest => exact hq.slot (.next h (ih hrest))

end Sql

/-! ### Texts without a word -/

theorem Literal.prefix_of_prefix_double {w cs : List Char} (hw : quote ∉ w)
    (h : w <+: double cs) : w <+: cs := by
  induction w generalizing cs with
  | nil => exact List.nil_prefix
  | cons c w ih =>
    obtain ⟨hc, hw⟩ := not_or.mp (mt List.mem_cons.mpr hw)
    cases cs with
    | nil => exact h
    | cons d cs =>
      rw [double] at h
      split at h
      · exact absurd (List.cons_prefix_cons.mp h).1.symm hc
      · obtain ⟨rfl, hrest⟩ := List.cons_prefix_cons.mp h
        exact List.cons_prefix_cons.mpr ⟨rfl, ih hw hrest⟩

theorem Literal.infix_of_infix_double {w cs : List Char} (hw : quote ∉ w)
    (h : w <:+: double cs) : w <:+: cs := by
  induction cs with
  | nil => exact h
  | cons c cs ih =>
    have hwhole : w <+: double (c :: cs) → w <+: c :: cs := prefix_of_prefix_double hw
    have hquote {rest : List Char} (h : w <+: quote :: rest) : w <+: quote :: cs := by
      cases w with
      | nil => exact List.nil_prefix
      | cons d w => exact absurd ((List.cons_prefix_cons.mp h).1 ▸ List.mem_cons_self) hw
    rw [double] at h hwhole
    split at h
    · rename_i hc
      subst hc
      rcases List.infix_cons_iff.mp h with hstarts | h
      · exact (hquote hstarts).isInfix
      rcases List.infix_cons_iff.mp h with hstarts | h
      · exact (hquote hstarts).isInfix
      · exact List.infix_cons (ih h)
    · rename_i hc
      rcases List.infix_cons_iff.mp h with hstarts | h
      · exact (hwhole (by rwa [if_neg hc])).isInfix
      · exact List.infix_cons (ih h)

namespace Watchword

theorem quote_notMem (w : Watchword) : quote ∉ w.chars :=
  w.notMem_of_isWordChar (by decide)

theorem Absent.text_literal {w : Watchword} {s : String} (h : w.Absent s) :
    ¬w.chars <:+: (Piece.literal s).text.toList := by
  have hquote := w.quote_notMem
  have htext : (Piece.literal s).text.toList =
      [] ++ quote :: (Literal.double s.toList ++ quote :: []) := by
    simp [Piece.text, Literal.encode]
  rw [htext]
  intro hwithin
  rcases infix_of_infix_append_cons hquote hwithin with hnil | hwithin
  · exact w.chars_ne_nil (List.eq_nil_of_infix_nil hnil)
  rcases infix_of_infix_append_cons hquote hwithin with hvalue | hnil
  · exact h (Literal.infix_of_infix_double hquote hvalue)
  · exact w.chars_ne_nil (List.eq_nil_of_infix_nil hnil)

theorem Absent.text_comment {w : Watchword} {s : String} (h : w.Absent s) :
    ¬w.chars <:+: (Piece.comment s).text.toList := by
  have hspace : ' ' ∉ w.chars := w.notMem_of_isWordChar (by decide)
  have hhyphen : '-' ∉ w.chars := w.notMem_of_isWordChar (by decide)
  have htext : (Piece.comment s).text.toList = ['-', '-'] ++ ' ' :: s.toList := by
    simp [Piece.text]
  rw [htext]
  intro hwithin
  rcases infix_of_infix_append_cons hspace hwithin with hhyphens | hname
  · cases hw : w.chars with
    | nil => exact w.chars_ne_nil hw
    | cons c cs =>
      have hc : c ∈ ['-', '-'] := hhyphens.subset (by simp [hw])
      have hmem : c ∈ w.chars := by simp [hw]
      simp only [List.mem_cons, List.not_mem_nil, or_false, or_self] at hc
      exact hhyphen (hc ▸ hmem)
  · exact h hname

end Watchword

namespace Sql

theorem chars_eq_flatMap (q : Sql) : q.chars = q.pieces.flatMap fun p => p.text.toList := by
  simp [chars, text, List.flatMap_map]

/-- A woven text names no composed table. -/
theorem Woven.not_infix_parts {q : Sql} (h : q.Woven .tableMark) :
    ¬[.code '_', .code '_'] <:+: q.parts := by
  have hmark {p : Part} (hp : p.inWord = false) : p ∉ [Part.code '_', Part.code '_'] := by
    simp only [List.mem_cons, List.not_mem_nil, or_false, or_self]
    rintro rfl
    exact absurd hp (by decide)
  have hends (p : Piece) (h : p.Ends) :
      ∃ xs x, p.parts = xs ++ [x] ∧ x ∉ [Part.code '_', Part.code '_'] := by
    obtain ⟨xs, x, hparts, hx⟩ := h.exists_parts
    exact ⟨xs, x, hparts, hmark hx⟩
  have hbegins (p : Piece) (h : p.Begins) :
      ∃ x xs, p.parts = x :: xs ∧ x ∉ [Part.code '_', Part.code '_'] := by
    obtain ⟨x, xs, hparts, hx⟩ := h.exists_parts
    exact ⟨x, xs, hparts, hmark hx⟩
  intro hwithin
  obtain ⟨p, hp, hmark⟩ := infix_of_infix_flatMap (by simp) hends hbegins h.apart hwithin
  have hlacks := h.lacks p hp
  cases p with
  | code s => exact hlacks (infix_of_infix_parts (w := ['_', '_']) (by simp [isLineEnd]) hmark)
  | literal s => simpa [Piece.parts] using hmark.length_le
  | comment s => simpa [Piece.parts] using hmark.length_le

/-- A woven text has no join. -/
theorem Woven.not_infix_chars {q : Sql} (h : q.Woven .join) :
    ¬Watchword.join.chars <:+: q.chars := by
  have hnotMem {c : Char} (hc : isWordChar c = false) : c ∉ Watchword.join.chars :=
    Watchword.join.notMem_of_isWordChar hc
  have hends (p : Piece) (h : p.Ends) :
      ∃ xs c, p.text.toList = xs ++ [c] ∧ c ∉ Watchword.join.chars := by
    cases p with
    | code s =>
      obtain ⟨-, cs, c, hs, hc⟩ := h
      exact ⟨cs, c, hs, hnotMem hc⟩
    | literal s =>
      exact ⟨quote :: Literal.double s.toList, quote, by simp [Piece.text, Literal.encode],
        hnotMem (by decide)⟩
    | comment s => exact h.elim
  have hbegins (p : Piece) (h : p.Begins) :
      ∃ c xs, p.text.toList = c :: xs ∧ c ∉ Watchword.join.chars := by
    cases p with
    | code s =>
      obtain ⟨-, c, cs, hs, hc⟩ := h
      exact ⟨c, cs, hs, hnotMem hc⟩
    | literal s =>
      exact ⟨quote, Literal.double s.toList ++ [quote], by simp [Piece.text, Literal.encode],
        hnotMem (by decide)⟩
    | comment s => exact h.elim
  intro hwithin
  rw [chars_eq_flatMap] at hwithin
  obtain ⟨p, hp, hjoin⟩ := infix_of_infix_flatMap (by simp [Watchword.chars]) hends hbegins
    h.apart hwithin
  have hlacks := h.lacks p hp
  cases p with
  | code s => exact hlacks hjoin
  | literal s => exact (hlacks rfl).text_literal hjoin
  | comment s => exact (hlacks rfl).text_comment hjoin

end Sql

end SplitTest

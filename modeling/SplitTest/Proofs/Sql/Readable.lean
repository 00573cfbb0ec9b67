import SplitTest.Proofs.Sql.Scan

/-! SQL texts that a scanner reads as they are meant: the code as code, each literal as its value,
and no comment.  A `Readable` text is so read whenever the text after it cannot run into it, and a
`Framed` one can itself stand after anything.  Templates are framed, and hold readable texts
apart. -/

namespace SplitTest

open Literal (quote)
open Scan

/-- What a piece is meant to be. -/
def Piece.parts : Piece → List Part
  | code s => Scan.parts s.toList
  | literal s => [.literal s]
  | comment _ => []

/-- What a text is meant to be. -/
def Sql.parts (q : Sql) : List Part :=
  q.pieces.flatMap Piece.parts

/-- The characters of a text. -/
def Sql.chars (q : Sql) : List Char :=
  q.text.toList

/-- A text whose end no other text can take part in, and that has none of the marks of literals and
comments. -/
structure Tight (s : String) : Prop where
  plain : Plain s.toList
  first : ∃ c rest, s.toList = c :: rest ∧ c ≠ quote ∧ c ≠ '-'
  last : s.toList.getLast? ≠ some '-'

/-- A text of one line. -/
def OneLine (s : String) : Prop :=
  ∀ c ∈ s.toList, isLineEnd c = false

/-- A text that begins on a new line. -/
def BeginsLine (s : String) : Prop :=
  ∃ cs, s.toList = '\n' :: cs

theorem OneLine.of {cs : List Char} (h : cs.all (!isLineEnd ·) = true) :
    OneLine (String.ofList cs) := by
  simpa [OneLine] using h

theorem OneLine.forall_mem {names : List String}
    (h : names.all (fun name => name.toList.all (!isLineEnd ·)) = true) :
    ∀ name ∈ names, OneLine name := by
  simpa [OneLine] using h

theorem OneLine.append {s t : String} (hs : OneLine s) (ht : OneLine t) : OneLine (s ++ t) := by
  simpa only [OneLine, String.toList_append, List.forall_mem_append] using And.intro hs ht

theorem OneLine.between {s name t : String} (hs : OneLine s) (hname : OneLine name)
    (ht : OneLine t) : OneLine (s ++ name ++ t) :=
  .append (.append hs hname) ht

theorem BeginsLine.of {cs : List Char} : BeginsLine (String.ofList ('\n' :: cs)) :=
  ⟨cs, String.toList_ofList⟩

namespace Tight

/-- Whether characters are those of a tight text; `hyphen` says that the last one was a hyphen. -/
def check (hyphen : Bool) : List Char → Bool
  | [] => !hyphen
  | c :: rest => c != quote && !(hyphen && c == '-') && check (c == '-') rest

theorem plain_of_check {hyphen : Bool} {cs : List Char} (h : check hyphen cs = true) :
    Plain cs ∧ (hyphen = true → cs.head? ≠ some '-' ∧ cs ≠ []) ∧ cs.getLast? ≠ some '-' := by
  induction cs generalizing hyphen with
  | nil => simpa [check, plain_nil] using h
  | cons c rest ih =>
    simp only [check, Bool.and_eq_true, bne_iff_ne, Bool.not_eq_true', Bool.and_eq_false_iff,
      beq_eq_false_iff_ne] at h
    obtain ⟨⟨hquote, hhyphen⟩, hrest⟩ := h
    obtain ⟨hplain, hnext, hlast⟩ := ih hrest
    refine ⟨plain_cons.mpr ⟨hquote, fun hc => (hnext (by simp [hc])).1, hplain⟩, ?_, ?_⟩
    · intro htrue
      simpa [htrue] using hhyphen
    · cases rest with
      | nil => simpa [check] using hrest
      | cons d rest => simpa [List.getLast?_cons_cons] using hlast

/-- A written text is tight if a check of its characters says so. -/
theorem of {cs : List Char} (h : check true cs = true) : Tight (String.ofList cs) := by
  obtain ⟨hplain, hfirst, hlast⟩ := plain_of_check h
  obtain ⟨hhead, hne⟩ := hfirst rfl
  obtain ⟨c, rest, rfl⟩ := List.exists_cons_of_ne_nil hne
  constructor
  · simpa using hplain
  · exact ⟨c, rest, by simp, (plain_cons.mp hplain).1, by simpa using hhead⟩
  · simpa using hlast

theorem of_append {cs ds : List Char} (h : check true (cs ++ ds) = true) :
    Tight (String.ofList cs ++ String.ofList ds) := by
  rw [← String.ofList_append]
  exact .of h

theorem append {s t : String} (hs : Tight s) (ht : Tight t) : Tight (s ++ t) := by
  obtain ⟨c, rest, hc, hquote, hhyphen⟩ := hs.first
  obtain ⟨d, rest', hd, -, -⟩ := ht.first
  constructor
  · rw [String.toList_append]
    exact hs.plain.append ht.plain fun h => absurd h hs.last
  · exact ⟨c, rest ++ t.toList, by simp [hc], hquote, hhyphen⟩
  · rw [String.toList_append, List.getLast?_append, hd]
    simpa [hd, Option.or_eq_some_iff] using ht.last

end Tight

namespace Sql

/-! ### The characters and the parts of composed texts -/

theorem pieces_append (p q : Sql) : (p ++ q).pieces = p.pieces ++ q.pieces := rfl

theorem append_assoc (p q r : Sql) : p ++ q ++ r = p ++ (q ++ r) :=
  congrArg Sql.mk (List.append_assoc _ _ _)

theorem concat_cons (q : Sql) (qs : List Sql) : concat (q :: qs) = q ++ concat qs := rfl

theorem nil_append (q : Sql) : concat [] ++ q = q := rfl

theorem append_empty (q : Sql) : q ++ empty = q :=
  congrArg Sql.mk (List.append_nil _)

theorem concat_append (ps qs : List Sql) : concat (ps ++ qs) = concat ps ++ concat qs :=
  congrArg Sql.mk List.flatMap_append

@[simp] theorem text_append (p q : Sql) : (p ++ q).text = p.text ++ q.text := by
  rw [text, pieces_append, List.map_append, String.join_append]
  rfl

@[simp] theorem text_code (s : String) : (code s).text = s := by
  simp [text, code, Piece.text]

@[simp] theorem text_literal (s : String) : (literal s).text = Literal.encode s := by
  simp [text, literal, Piece.text]

@[simp] theorem text_comment (s : String) : (comment s).text = "-- " ++ s := by
  simp [text, comment, Piece.text]

@[simp] theorem text_concat_nil : (concat []).text = "" := rfl

@[simp] theorem text_concat_cons (q : Sql) (qs : List Sql) :
    (concat (q :: qs)).text = q.text ++ (concat qs).text :=
  text_append q (concat qs)

@[simp] theorem text_concat_append (ps qs : List Sql) :
    (concat (ps ++ qs)).text = (concat ps).text ++ (concat qs).text := by
  rw [concat_append, text_append]

theorem chars_append (p q : Sql) : (p ++ q).chars = p.chars ++ q.chars := by
  rw [chars, text_append, String.toList_append]
  rfl

theorem parts_append (p q : Sql) : (p ++ q).parts = p.parts ++ q.parts :=
  List.flatMap_append

theorem chars_code (s : String) : (code s).chars = s.toList := by
  rw [chars, text_code]

theorem chars_literal (s : String) : (literal s).chars = (Literal.encode s).toList := by
  rw [chars, text_literal]

theorem chars_comment (s : String) : (comment s).chars = '-' :: '-' :: ' ' :: s.toList := by
  simp [chars]

theorem parts_code (s : String) : (code s).parts = Scan.parts s.toList := by
  simp [parts, code, Piece.parts]

theorem parts_literal (s : String) : (literal s).parts = [.literal s] := rfl

theorem parts_comment (s : String) : (comment s).parts = [] := rfl

theorem chars_nil : (concat []).chars = [] := rfl

/-! ### Readable and framed texts -/

/-- A text that is seen as it is meant whenever the text after it cannot run into it. -/
def Readable (q : Sql) : Prop :=
  ∀ rest, Fits rest → Scan.parts (q.chars ++ rest) = q.parts ++ Scan.parts rest

/-- A readable text that can stand after any other. -/
structure Framed (q : Sql) : Prop where
  readable : q.Readable
  fits : ∀ rest, Fits rest → Fits (q.chars ++ rest)

/-- A text that is seen as it is meant whatever stands before and after it. -/
structure Sealed (q : Sql) : Prop where
  seen : ∀ rest, Scan.parts (q.chars ++ rest) = q.parts ++ Scan.parts rest
  fits : ∀ rest, Fits (q.chars ++ rest)

theorem Readable.parts_eq {q : Sql} (h : q.Readable) : Scan.parts q.chars = q.parts := by
  simpa [Scan.parts, partsFrom] using h [] fits_nil

theorem Readable.closed {q : Sql} (h : q.Readable) : Closed q.chars := fun rest hrest => by
  rw [h rest hrest, h.parts_eq]

namespace Readable

theorem code {s : String} (h : Closed s.toList) : (code s).Readable := by
  intro rest hrest
  rw [chars_code, Sql.parts_code, h rest hrest]

theorem literal (s : String) : (literal s).Readable := by
  intro rest hrest
  rw [chars_literal, parts_literal, parts_encode s hrest.1, List.singleton_append]

theorem append {p q : Sql} (hp : p.Readable) (hq : q.Framed) : (p ++ q).Readable := by
  intro rest hrest
  rw [chars_append, List.append_assoc, hp _ (hq.fits rest hrest), hq.readable rest hrest,
    Sql.parts_append, List.append_assoc]

end Readable

namespace Framed

theorem empty : empty.Framed where
  readable _ _ := rfl
  fits _ hrest := hrest

theorem append {p q : Sql} (hp : p.Framed) (hq : q.Framed) : (p ++ q).Framed where
  readable := hp.readable.append hq
  fits rest hrest := by
    rw [chars_append, List.append_assoc]
    exact hp.fits _ (hq.fits rest hrest)

/-- A sealed text in front of a readable one frames it. -/
theorem before {p q : Sql} (hp : p.Sealed) (hq : q.Readable) : (p ++ q).Framed where
  readable rest hrest := by
    rw [chars_append, List.append_assoc, hp.seen, hq rest hrest, Sql.parts_append,
      List.append_assoc]
  fits rest _ := by
    rw [chars_append, List.append_assoc]
    exact hp.fits _

end Framed

namespace Sealed

theorem framed {q : Sql} (h : q.Sealed) : q.Framed where
  readable rest _ := h.seen rest
  fits rest _ := h.fits rest

theorem code {s : String} (hs : Tight s) : (code s).Sealed where
  seen rest := by
    rw [chars_code, Sql.parts_code, parts_append_of_plain hs.plain fun h => absurd h hs.last,
      hs.plain.parts_eq]
  fits rest := by
    obtain ⟨c, cs, hc, hquote, hhyphen⟩ := hs.first
    rw [chars_code, hc]
    exact fits_cons hquote hhyphen

theorem append {p q : Sql} (hp : p.Sealed) (hq : q.Sealed) : (p ++ q).Sealed where
  seen rest := by
    rw [chars_append, List.append_assoc, hp.seen, hq.seen, Sql.parts_append, List.append_assoc]
  fits rest := by
    rw [chars_append, List.append_assoc]
    exact hp.fits _

end Sealed

theorem Framed.code {s : String} (hs : Tight s) : (Sql.code s).Framed :=
  (Sealed.code hs).framed

theorem Readable.of_tight {s : String} (hs : Tight s) : (Sql.code s).Readable :=
  (Framed.code hs).readable

theorem Readable.before {p q : Sql} (hp : p.Sealed) (hq : q.Readable) : (p ++ q).Readable :=
  (Framed.before hp hq).readable

/-! ### Templates

A template is a list of texts; tight ones stand between those that are readable only. -/

variable {s : String} {q : Sql} {qs : List Sql}

theorem Framed.nil : (concat []).Framed :=
  .empty

theorem Framed.tight (hs : Tight s) (hqs : (concat qs).Readable) :
    (concat (Sql.code s :: qs)).Framed :=
  .before (.code hs) hqs

theorem Framed.next (hq : q.Framed) (hqs : (concat qs).Framed) : (concat (q :: qs)).Framed :=
  hq.append hqs

theorem Readable.nil : (concat []).Readable :=
  Framed.nil.readable

theorem Readable.tight (hs : Tight s) (hqs : (concat qs).Readable) :
    (concat (Sql.code s :: qs)).Readable :=
  (Framed.tight hs hqs).readable

theorem Readable.next (hq : q.Readable) (hqs : (concat qs).Framed) :
    (concat (q :: qs)).Readable :=
  hq.append hqs

/-- A readable text stands between a tight text and a framed rest. -/
theorem Framed.slot (hs : Tight s) (hq : q.Readable) (hqs : (concat qs).Framed) :
    (concat (Sql.code s :: q :: qs)).Framed :=
  .tight hs (.next hq hqs)

theorem Readable.slot (hs : Tight s) (hq : q.Readable) (hqs : (concat qs).Framed) :
    (concat (Sql.code s :: q :: qs)).Readable :=
  .tight hs (.next hq hqs)

theorem Framed.last (hs : Tight s) : (concat [Sql.code s]).Framed :=
  .tight hs .nil

theorem Readable.last (hs : Tight s) : (concat [Sql.code s]).Readable :=
  .tight hs .nil

/-- Two texts in a row may be tight together only. -/
theorem Framed.glued {t : String} (h : Tight (s ++ t)) (hqs : (concat qs).Readable) :
    (concat (Sql.code s :: Sql.code t :: qs)).Framed := by
  have hchars : (Sql.code (s ++ t) ++ concat qs).chars =
      (concat (Sql.code s :: Sql.code t :: qs)).chars := by
    simp only [concat_cons, chars_append, chars_code, String.toList_append, List.append_assoc]
  have hparts : (Sql.code (s ++ t) ++ concat qs).parts =
      (concat (Sql.code s :: Sql.code t :: qs)).parts := by
    have hplain := h.plain
    simp only [concat_cons, Sql.parts_append, Sql.parts_code]
    rw [String.toList_append] at hplain ⊢
    rw [hplain.parts_eq, hplain.left.parts_eq, hplain.right.parts_eq, List.map_append,
      List.append_assoc]
  -- Neither text need be tight on its own, so the fact is that of the one text they make.
  have hglued := Framed.before (.code h) hqs
  constructor
  · intro rest hrest
    rw [← hchars, ← hparts, hglued.readable rest hrest]
  · intro rest hrest
    rw [← hchars]
    exact hglued.fits rest hrest

/-- A comment of one line is not seen if the text after it begins on a new line. -/
theorem Readable.comment {name : String} (hname : OneLine name) (hs : BeginsLine s)
    (hqs : (concat (Sql.code s :: qs)).Readable) :
    (concat (Sql.comment name :: Sql.code s :: qs)).Readable := by
  intro rest hrest
  obtain ⟨line, hline⟩ := hs
  have hspace : ∀ c ∈ ' ' :: name.toList, isLineEnd c = false :=
    List.forall_mem_cons.mpr ⟨rfl, hname⟩
  have hnext : (concat (Sql.code s :: qs)).chars ++ rest =
      '\n' :: (line ++ ((concat qs).chars ++ rest)) := by
    rw [concat_cons, chars_append, chars_code, hline, List.append_assoc, List.cons_append]
  have hend : ∀ c ∈ ((concat (Sql.code s :: qs)).chars ++ rest).head?, isLineEnd c = true := by
    simp [hnext, isLineEnd]
  have hseen := Scan.parts_comment hspace hend
  rw [concat_cons, chars_append, chars_comment, Sql.parts_append, Sql.parts_comment,
    List.nil_append, List.append_assoc, ← hqs rest hrest]
  exact hseen

/-- Texts that are held apart by a tight one. -/
theorem Readable.join {separator : String} (hs : Tight separator) {qs : List Sql}
    (hqs : ∀ q ∈ qs, q.Readable) : (Sql.join (Sql.code separator) qs).Readable := by
  induction qs with
  | nil => exact Framed.empty.readable
  | cons q rest ih =>
    obtain ⟨hq, hrest⟩ := List.forall_mem_cons.mp hqs
    cases rest with
    | nil => exact hq.next .nil
    | cons q' rest => exact hq.next (.tight hs (ih hrest))

end Sql
end SplitTest

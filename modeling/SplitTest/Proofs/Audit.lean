import Mathlib.Data.List.DropRight
import SplitTest.Audit
import SplitTest.Proofs.Sql.Lexemes

/-! Scripts are cut back into their queries at the semicolons that a scanner sees outside literals
and comments.  All that is asked of a layout is that it changes no more than the blanks outside
literals and comments, and of a query that its literals end and that it is a single statement.  Then
the cut succeeds exactly if no query ends with a comment, as such a comment takes in the semicolon
after it. -/

namespace SplitTest

/-! ### Trimmed texts -/

namespace Text

variable {p : Char → Bool}

theorem trimBy_append_left {start : List Char} (h : ∀ c ∈ start, p c = true) (cs : List Char) :
    trimBy p (start ++ cs) = trimBy p cs := by
  rw [trimBy, List.dropWhile_append_of_pos h, trimBy]

theorem exists_trimBy (p : Char → Bool) (cs : List Char) :
    ∃ start tail, cs = start ++ (trimBy p cs ++ tail) ∧ (∀ c ∈ start, p c = true) ∧
      ∀ c ∈ tail, p c = true := by
  refine ⟨cs.takeWhile p, (cs.dropWhile p).rtakeWhile p, ?_, fun c hc => List.mem_takeWhile_imp hc,
    fun c hc => List.mem_rtakeWhile_imp hc⟩
  have hright : trimBy p cs ++ (cs.dropWhile p).rtakeWhile p = cs.dropWhile p :=
    List.rdropWhile_append_rtakeWhile
  rw [hright, List.takeWhile_append_dropWhile]

theorem trimBy_trimBy (cs : List Char) : trimBy p (trimBy p cs) = trimBy p cs := by
  have hleft : (trimBy p cs).dropWhile p = trimBy p cs := by
    obtain ⟨tail, htail⟩ : trimBy p cs <+: cs.dropWhile p := List.rdropWhile_prefix p _
    cases htrim : trimBy p cs with
    | nil => rfl
    | cons c rest =>
      rw [htrim, List.cons_append] at htail
      have hc : p c = false := by
        simpa [← htail] using List.head?_dropWhile_not p cs
      rw [List.dropWhile_cons_of_neg (by simp [hc])]
  have hright : (trimBy p cs).rdropWhile p = trimBy p cs := List.rdropWhile_idempotent p _
  rw [trimBy, hleft]
  exact hright

theorem getLast?_trimBy (cs : List Char) : ∀ c ∈ (trimBy p cs).getLast?, p c = false := by
  intro c hc
  rw [trimBy, List.getLast?_reverse, Option.mem_def] at hc
  simpa [hc] using List.head?_dropWhile_not p (cs.dropWhile p).reverse

end Text

namespace Scan

open Literal (quote)
open Text (isBlank trimList)

/-! ### Blanks -/

def Lexeme.isBlank : Lexeme → Bool
  | part (.code c) => Text.isBlank c
  | _ => false

/-- The lexemes other than blanks. -/
def significant (ls : List Lexeme) : List Lexeme :=
  ls.filter (!·.isBlank)

theorem significant_append (ls ls' : List Lexeme) :
    significant (ls ++ ls') = significant ls ++ significant ls' :=
  List.filter_append _ _

theorem significant_blanks {cs : List Char} (h : ∀ c ∈ cs, isBlank c = true) :
    significant (cs.map fun c => .part (.code c)) = [] := by
  simpa [significant, Lexeme.isBlank] using h

variable {blanks : List Char} (h : ∀ c ∈ blanks, isBlank c = true)
include h

theorem quote_notMem_of_blank : quote ∉ blanks := fun hmem =>
  absurd (h quote hmem) (by decide)

theorem hyphen_notMem_of_blank : '-' ∉ blanks := fun hmem =>
  absurd (h '-' hmem) (by decide)

theorem plain_of_blank : Plain blanks :=
  ⟨quote_notMem_of_blank h, fun hhyphens => hyphen_notMem_of_blank h (hhyphens.subset (by simp))⟩

theorem fits_of_blank : Fits blanks :=
  ⟨fun hhead => quote_notMem_of_blank h (List.mem_of_mem_head? hhead),
    fun hhead => hyphen_notMem_of_blank h (List.mem_of_mem_head? hhead)⟩

theorem lexemes_blank_append (cs : List Char) :
    lexemes (blanks ++ cs) = (blanks.map fun c => .part (.code c)) ++ lexemes cs := by
  refine Lexes.lexemes_eq ?_
  induction blanks with
  | nil => exact lexes_lexemes cs
  | cons b blanks ih =>
    have hquote : b ≠ quote := fun hb => quote_notMem_of_blank h (hb ▸ List.mem_cons_self)
    have hhyphen : b ≠ '-' := fun hb => hyphen_notMem_of_blank h (hb ▸ List.mem_cons_self)
    exact .cons (l := .part (.code b)) ⟨hquote, fun hb => absurd hb hhyphen⟩
      (ih (List.forall_mem_cons.mp h).2)

theorem significant_append_blanks (ls : List Lexeme) :
    significant (ls ++ blanks.map fun c => .part (.code c)) = significant ls := by
  rw [significant_append, significant_blanks h, List.append_nil]

theorem significant_blanks_append (ls : List Lexeme) :
    significant ((blanks.map fun c => .part (.code c)) ++ ls) = significant ls := by
  rw [significant_append, significant_blanks h, List.nil_append]

omit h

theorem significant_concat {l : Lexeme} (hl : l.isBlank = false) (ls : List Lexeme) :
    significant (ls ++ [l]) = significant ls ++ [l] := by
  simp [significant, List.filter_append, hl]

theorem endsWithComment_concat {l : Lexeme} {ls : List Lexeme} :
    EndsWithComment (ls ++ [l]) ↔ ∃ s, l = .comment s := by
  simp [EndsWithComment]

/-- If the last character of a text is no blank, neither is its last lexeme. -/
theorem endsWithComment_significant {cs : List Char} (hclosed : .part .unclosed ∉ lexemes cs)
    (hlast : ∀ c ∈ cs.getLast?, isBlank c = false) :
    EndsWithComment (significant (lexemes cs)) ↔ EndsWithComment (lexemes cs) := by
  have htext := flatMap_text hclosed
  rcases (lexemes cs).eq_nil_or_concat with hnil | ⟨init, l, hconcat⟩
  · rw [hnil]
    rfl
  · rw [hconcat, List.concat_eq_append] at htext ⊢
    have hl : l.isBlank = false := by
      match l with
      | .part (.code c) =>
        refine hlast c ?_
        simp [← htext, Lexeme.text]
      | .part (.literal _) | .part .unclosed | .comment _ => rfl
    rw [significant_concat hl, endsWithComment_concat, endsWithComment_concat]

/-- Trimming adds no part to a text, and cuts off blanks and the blanks of a comment at the end
only. -/
theorem lexemes_trimList {cs : List Char} (hclosed : .part .unclosed ∉ lexemes cs) :
    (∀ p, .part p ∈ lexemes (trimList cs) → .part p ∈ lexemes cs) ∧
      (EndsWithComment (lexemes (trimList cs)) ↔ EndsWithComment (significant (lexemes cs))) := by
  obtain ⟨start, tail, hcs, hstart, htail⟩ := Text.exists_trimBy isBlank cs
  have hlast : ∀ c ∈ (trimList cs).getLast?, isBlank c = false := Text.getLast?_trimBy cs
  change cs = start ++ (trimList cs ++ tail) at hcs
  generalize trimList cs = t at hcs hlast
  subst hcs
  rw [lexemes_blank_append hstart] at hclosed ⊢
  rw [significant_blanks_append hstart]
  have htailPlain : lexemes tail = tail.map fun c => .part (.code c) :=
    (plain_of_blank htail).lexemes_eq
  have htclosed : .part .unclosed ∉ lexemes t := fun hmem => hclosed
    (List.mem_append_right _ ((lexes_lexemes t).unclosed_append hmem (quote_notMem_of_blank htail)))
  -- A comment at the end of the trimmed text has taken the blanks on its line with it.
  by_cases hend : EndsWithComment (lexemes t)
  · obtain ⟨line, rest, rfl, -, hline, hrest⟩ := cut_line tail
    have hrestBlank : ∀ c ∈ rest, isBlank c = true := (List.forall_mem_append.mp htail).2
    obtain ⟨init, s, hinit, hlexes⟩ :=
      (lexes_lexemes t).append_line hend hline hrest (lexes_lexemes rest)
    rw [hlexes.lexemes_eq, hinit, (plain_of_blank hrestBlank).lexemes_eq]
    refine ⟨fun p hp => ?_, iff_of_true (endsWithComment_concat.mpr ⟨s, rfl⟩) ?_⟩
    · have hp : .part p ∈ init := by simpa using hp
      simp [hp]
    · rw [List.append_cons, significant_append_blanks hrestBlank, significant_concat rfl]
      exact endsWithComment_concat.mpr ⟨_, rfl⟩
  · rw [lexemes_append htclosed hend (fits_of_blank htail), htailPlain,
      significant_append_blanks htail]
    refine ⟨fun p hp => ?_, (endsWithComment_significant htclosed hlast).symm⟩
    simp [hp]

/-! ### Statements -/

/-- The semicolon after a statement. -/
def semicolon : Lexeme := .part (.code ';')

/-- A text cut at the semicolons that are seen outside literals and comments. -/
def statements (s : String) : List String :=
  ((lexemes s.toList).splitOn semicolon).map fun ls => String.ofList (ls.flatMap Lexeme.text)

/-- A text whose literals end, and in which no semicolon is seen outside literals and comments. -/
structure IsStatement (cs : List Char) : Prop where
  closed : .part .unclosed ∉ lexemes cs
  single : semicolon ∉ lexemes cs

theorem length_splitOn {α : Type} [BEq α] [LawfulBEq α] (a : α) (xs : List α) :
    (xs.splitOn a).length = xs.count a + 1 := by
  induction xs with
  | nil => rfl
  | cons x xs ih =>
    rw [List.splitOn_cons_eq_if_modifyHead, List.count_cons]
    split <;> simp [ih]

theorem fits_semicolon (cs : List Char) : Fits (';' :: cs) :=
  fits_cons (by decide) (by decide)

theorem lexemes_semicolon (cs : List Char) : lexemes (';' :: cs) = semicolon :: lexemes cs := by
  have hlexes : Lexes (';' :: cs) (semicolon :: lexemes cs) :=
    .cons (l := semicolon) ⟨by decide, by simp⟩ (lexes_lexemes cs)
  exact hlexes.lexemes_eq

/-- Texts that each end before the semicolon after them are found again. -/
theorem splitOn_semicolons {pieces : List (List Char)} (h : ∀ p ∈ pieces, IsStatement p)
    (hend : ∀ p ∈ pieces, ¬EndsWithComment (lexemes p)) :
    (lexemes (pieces.flatMap (· ++ [';']))).splitOn semicolon = pieces.map lexemes ++ [[]] := by
  induction pieces with
  | nil => rfl
  | cons p pieces ih =>
    obtain ⟨⟨hclosed, hsingle⟩, h⟩ := List.forall_mem_cons.mp h
    obtain ⟨hp, hend⟩ := List.forall_mem_cons.mp hend
    rw [List.flatMap_cons, List.append_assoc, List.singleton_append,
      lexemes_append hclosed hp (fits_semicolon _), lexemes_semicolon,
      List.splitOn_append_cons_self_of_not_mem hsingle, ih h hend]
    rfl

/-- Of the semicolons after texts those are seen that no comment takes in.  All texts but the first
begin on a new line, where a comment before them ends. -/
theorem count_semicolons {pieces : List (List Char)} (h : ∀ p ∈ pieces, IsStatement p)
    (hline : ∀ p ∈ pieces.tail, ∃ rest, p = '\n' :: rest) :
    (lexemes (pieces.flatMap (· ++ [';']))).count semicolon =
      pieces.countP fun p => ¬EndsWithComment (lexemes p) := by
  induction pieces with
  | nil => rfl
  | cons p pieces ih =>
    obtain ⟨⟨hclosed, hsingle⟩, h⟩ := List.forall_mem_cons.mp h
    have hcount := ih h fun p hp => hline p (List.mem_of_mem_tail hp)
    have hnext : ∀ c ∈ (pieces.flatMap (· ++ [';'])).head?, isLineEnd c = true := by
      cases pieces with
      | nil => simp
      | cons p' pieces =>
        obtain ⟨rest, rfl⟩ := hline p' List.mem_cons_self
        simp [isLineEnd]
    rw [List.flatMap_cons, List.append_assoc, List.countP_cons, ← hcount]
    by_cases hend : EndsWithComment (lexemes p)
    · have hsemicolon : ∀ c ∈ [';'], isLineEnd c = false := List.forall_mem_singleton.mpr rfl
      obtain ⟨init, s, hinit, hlexes⟩ :=
        (lexes_lexemes p).append_line hend hsemicolon hnext (lexes_lexemes _)
      have hnone : init.count semicolon = 0 :=
        List.count_eq_zero.mpr fun hmem => hsingle (hinit ▸ List.mem_append_left _ hmem)
      rw [hlexes.lexemes_eq, List.count_append, hnone]
      simp [hend, semicolon]
    · rw [List.singleton_append, lexemes_append hclosed hend (fits_semicolon _),
        lexemes_semicolon, List.count_append, List.count_eq_zero.mpr hsingle]
      simp [hend]

end Scan

/-! ### Scripts -/

namespace Audit

open Scan
open Text (trim trimList)

/-- The texts before the semicolons of a script. -/
def pieces : List (List Char) → List (List Char)
  | [] => []
  | t :: ts => t :: ts.map fun t => '\n' :: '\n' :: t

theorem intercalate_pieces (t : List Char) (ts : List (List Char)) :
    [';', '\n', '\n'].intercalate (t :: ts) ++ [';'] = (pieces (t :: ts)).flatMap (· ++ [';']) := by
  induction ts generalizing t with
  | nil => simp [pieces]
  | cons u ts ih =>
    rw [List.intercalate_cons_cons, List.append_assoc, ih]
    simp [pieces]

theorem toList_scriptBy (layout : String → String) {queries : List String} (hne : queries ≠ []) :
    (scriptBy layout queries).toList =
      (pieces (queries.map fun q => (layout q).toList)).flatMap (· ++ [';']) := by
  obtain ⟨q, queries, rfl⟩ := List.exists_cons_of_ne_nil hne
  rw [List.map_cons, ← intercalate_pieces, scriptBy, String.toList_append,
    String.toList_intercalate, List.map_map]
  rfl

/-! ### Pieces of a script -/

section

variable {t : List Char} {ts : List (List Char)}

theorem isBlank_of_mem_break : ∀ c ∈ ['\n', '\n'], Text.isBlank c = true :=
  List.forall_mem_cons.mpr ⟨rfl, List.forall_mem_singleton.mpr rfl⟩

theorem lexemes_break (t : List Char) : lexemes ('\n' :: '\n' :: t) =
    [.part (.code '\n'), .part (.code '\n')] ++ lexemes t :=
  lexemes_blank_append isBlank_of_mem_break t

theorem isStatement_break (h : IsStatement t) : IsStatement ('\n' :: '\n' :: t) := by
  constructor
  · simpa [lexemes_break] using h.closed
  · simpa [lexemes_break, semicolon] using h.single

theorem endsWithComment_break :
    EndsWithComment (lexemes ('\n' :: '\n' :: t)) ↔ EndsWithComment (lexemes t) := by
  simp [lexemes_break, endsWithComment_cons]

theorem forall_mem_pieces {P : List Char → Prop} (h : ∀ t ∈ ts, P t)
    (hbreak : ∀ t, P t → P ('\n' :: '\n' :: t)) : ∀ p ∈ pieces ts, P p := by
  cases ts with
  | nil => simp [pieces]
  | cons t ts =>
    obtain ⟨ht, hts⟩ := List.forall_mem_cons.mp h
    exact List.forall_mem_cons.mpr
      ⟨ht, List.forall_mem_map.mpr fun t' ht' => hbreak t' (hts t' ht')⟩

theorem countP_pieces (ts : List (List Char)) :
    (pieces ts).countP (fun p => ¬EndsWithComment (lexemes p)) =
      ts.countP fun t => ¬EndsWithComment (lexemes t) := by
  cases ts with
  | nil => rfl
  | cons t ts => simp [pieces, List.countP_cons, List.countP_map, Function.comp_def,
      endsWithComment_break]

theorem trimList_pieces (h : ∀ t ∈ ts, trimList t = t) : (pieces ts).map trimList = ts := by
  cases ts with
  | nil => rfl
  | cons t ts =>
    obtain ⟨ht, hts⟩ := List.forall_mem_cons.mp h
    have hbreak (t : List Char) : trimList ('\n' :: '\n' :: t) = trimList t :=
      Text.trimBy_append_left isBlank_of_mem_break t
    simp only [pieces, List.map_cons, List.map_map, ht, Function.comp_def, hbreak]
    rw [List.map_congr_left hts, List.map_id']

theorem beginsLine_of_mem_pieces : ∀ p ∈ (pieces ts).tail, ∃ rest, p = '\n' :: rest := by
  cases ts with
  | nil => simp [pieces]
  | cons t ts => simp [pieces]

end

/-! ### Laid out queries -/

/-- A layout changes nothing of a query but the blanks outside literals and comments. -/
def KeepsLexemes (layout : String → String) (query : String) : Prop :=
  significant (lexemes (layout query).toList) = significant (lexemes query.toList)

theorem part_mem_significant {p : Part} {ls : List Lexeme} (hp : Lexeme.isBlank (.part p) = false) :
    .part p ∈ significant ls ↔ .part p ∈ ls := by
  simp [significant, hp]

section

variable {layout : String → String} {q : String} (hlayout : KeepsLexemes layout q)
  (hq : IsStatement q.toList)
include hlayout hq

theorem closed_layout : .part .unclosed ∉ lexemes (layout q).toList := by
  rw [← part_mem_significant rfl, hlayout, part_mem_significant rfl]
  exact hq.closed

theorem isStatement_trimList : IsStatement (trimList (layout q).toList) := by
  have hparts := (lexemes_trimList (closed_layout hlayout hq)).1
  refine ⟨fun hmem => closed_layout hlayout hq (hparts _ hmem), fun hmem => hq.single ?_⟩
  have hblank : Lexeme.isBlank (.part (.code ';')) = false := by decide
  rw [semicolon, ← part_mem_significant hblank, ← hlayout, part_mem_significant hblank]
  exact hparts _ hmem

theorem endsWithComment_trimList : EndsWithComment (lexemes (trimList (layout q).toList)) ↔
    EndsWithComment (significant (lexemes q.toList)) := by
  rw [(lexemes_trimList (closed_layout hlayout hq)).2, hlayout]

end

/-- Queries whose literals end and that are single statements are laid out and joined to a script.
The script is cut back into them, up to the blanks at their ends, exactly if none of them ends with
a comment. -/
theorem statements_scriptBy {layout : String → String} {queries : List String}
    (hne : queries ≠ []) (hlayout : ∀ q ∈ queries, KeepsLexemes layout q)
    (hqueries : ∀ q ∈ queries, IsStatement q.toList) :
    (∃ cut, statements (scriptBy (fun q => trim (layout q)) queries) = cut ++ [""] ∧
        cut.map trim = queries.map fun q => trim (layout q)) ↔
      ∀ q ∈ queries, ¬EndsWithComment (significant (lexemes q.toList)) := by
  let ts := queries.map fun q => trimList (layout q).toList
  have hstatements : ∀ p ∈ pieces ts, IsStatement p :=
    forall_mem_pieces (List.forall_mem_map.mpr fun q hq =>
      isStatement_trimList (hlayout q hq) (hqueries q hq)) fun _ => isStatement_break
  have hends : (∀ t ∈ ts, ¬EndsWithComment (lexemes t)) ↔
      ∀ q ∈ queries, ¬EndsWithComment (significant (lexemes q.toList)) := by
    rw [List.forall_mem_map]
    exact forall₂_congr fun q hq =>
      not_congr (endsWithComment_trimList (hlayout q hq) (hqueries q hq))
  have hchars : (scriptBy (fun q => trim (layout q)) queries).toList =
      (pieces ts).flatMap (· ++ [';']) := by
    simp only [toList_scriptBy _ hne, trim, String.toList_ofList, ts]
  rw [← hends]
  constructor
  -- A semicolon is seen for each query that does not end with a comment, so their number decides.
  · rintro ⟨cut, hcut, htrim⟩
    have hlength : cut.length = ts.length := by
      simpa [ts] using congrArg List.length htrim
    have hcount : (statements (scriptBy (fun q => trim (layout q)) queries)).length =
        ts.countP (fun t => ¬EndsWithComment (lexemes t)) + 1 := by
      rw [statements, List.length_map, length_splitOn, hchars,
        count_semicolons hstatements beginsLine_of_mem_pieces, countP_pieces]
    have hall : ts.countP (fun t => ¬EndsWithComment (lexemes t)) = ts.length := by
      rw [hcut, List.length_append, hlength] at hcount
      exact (Nat.add_right_cancel hcount).symm
    simpa using List.countP_eq_length.mp hall
  · intro hend
    have hpieces : ∀ p ∈ pieces ts, ¬EndsWithComment (lexemes p) :=
      forall_mem_pieces hend fun _ => mt endsWithComment_break.mp
    refine ⟨(pieces ts).map String.ofList, ?_, ?_⟩
    · rw [statements, hchars, splitOn_semicolons hstatements hpieces, List.map_append,
        List.map_map]
      congr 1
      refine List.map_congr_left fun p hp => ?_
      rw [Function.comp_apply, flatMap_text (hstatements p hp).closed]
    · have htrimmed : ∀ t ∈ ts, trimList t = t :=
        List.forall_mem_map.mpr fun q _ => Text.trimBy_trimBy _
      have htrim : trim ∘ String.ofList = String.ofList ∘ trimList := by
        funext p
        simp [trim]
      rw [List.map_map, htrim, ← List.map_map, trimList_pieces htrimmed, List.map_map]
      rfl

/-- A literal and a comment with semicolons in them, in the middle of queries. -/
theorem statements_scriptBy_semicolons :
    let queries := ["SELECT \x27a;b\x27 -- c;d\n  , 2", " select 1\n"]
    queries ≠ [] ∧ (∀ q ∈ queries, KeepsLexemes Layout.ofText q) ∧
      (∀ q ∈ queries, IsStatement q.toList) ∧
      ∃ cut, statements (script queries) = cut ++ [""] ∧
        cut.map trim = queries.map layoutQuery := by
  intro queries
  have hne : queries ≠ [] := by simp [queries]
  have hlayout : ∀ q ∈ queries, KeepsLexemes Layout.ofText q := by
    unfold KeepsLexemes
    decide +kernel
  have hqueries : ∀ q ∈ queries, IsStatement q.toList := by
    have hboth : ∀ q ∈ queries, .part .unclosed ∉ lexemes q.toList ∧
        semicolon ∉ lexemes q.toList := by decide +kernel
    exact fun q hq => ⟨(hboth q hq).1, (hboth q hq).2⟩
  refine ⟨hne, hlayout, hqueries, (statements_scriptBy hne hlayout hqueries).mpr ?_⟩
  decide +kernel

/-- The semicolon after a query that ends with a comment is a part of the comment. -/
theorem semicolon_lost_in_comment :
    let queries := ["SELECT 1 -- a", "SELECT 2"]
    (∀ q ∈ queries, KeepsLexemes Layout.ofText q ∧ .part .unclosed ∉ lexemes q.toList ∧
        semicolon ∉ lexemes q.toList) ∧
      script queries = "SELECT 1 -- a;\n\nSELECT 2;" ∧
      statements (script queries) = ["SELECT 1 -- a;\n\nSELECT 2", ""] := by
  unfold KeepsLexemes
  decide +kernel

end Audit
end SplitTest

import SplitTest.Proofs.Sql.Nesting
import SplitTest.Proofs.Sql.Woven
import SplitTest.Text.Blank

/-! The tokens of an SQL text: its words, and the marks and literals between them.  A word that a
text uses as the name of a derived table stands in the characters of its code, so a text without
such characters uses none. -/

namespace SplitTest

open Scan

/-- A token of an SQL text. -/
inductive Token
  /-- A name, a keyword or a number. -/
  | word (cs : List Char)
  /-- A mark or a literal. -/
  | part (p : Part)
  deriving DecidableEq

namespace Token

def mark (c : Char) : Token := part (.code c)

def keyword (s : String) : Token := word s.toList

/-- The name of a derived table. -/
def table? : Token → Option (List Char)
  | word ('_' :: '_' :: cs) => some ('_' :: '_' :: cs)
  | _ => none

/-- The number of parentheses that are open after a token. -/
def depth? (n : Nat) : Token → Option Nat
  | word _ => some n
  | part p => p.depth? n

end Token

namespace Scan

/-- The word of the characters that have been read, if there are any. -/
def wordOf (cs : List Char) : List Token :=
  if cs = [] then [] else [.word cs]

theorem wordOf_nil : wordOf [] = [] := rfl

/-- A mark, or nothing in place of a blank. -/
def markOf (c : Char) : List Token :=
  if Text.isBlank c then [] else [.mark c]

/-- The tokens of parts after the characters of a word that has begun. -/
def tokensFrom (cs : List Char) : List Part → List Token
  | [] => wordOf cs
  | .code c :: ps =>
    if isWordChar c then tokensFrom (cs ++ [c]) ps
    else wordOf cs ++ markOf c ++ tokensFrom [] ps
  | p :: ps => wordOf cs ++ [.part p] ++ tokensFrom [] ps

def tokens (ps : List Part) : List Token :=
  tokensFrom [] ps

/-- The number of parentheses that are open after some tokens. -/
def tokenDepth? (n : Nat) (ts : List Token) : Option Nat :=
  ts.foldlM Token.depth? n

/-- The derived tables that tokens name. -/
def uses (ts : List Token) : List (List Char) :=
  ts.filterMap Token.table?

/-- A name is read after FROM or JOIN. -/
def Reads (name : List Char) (ts : List Token) : Prop :=
  [.keyword "FROM", .word name] <:+: ts ∨ [.keyword "JOIN", .word name] <:+: ts

instance (name : List Char) (ts : List Token) : Decidable (Reads name ts) :=
  inferInstanceAs (Decidable (_ ∨ _))

/-! ### Words -/

/-- A word ends where a part comes that is in no word. -/
theorem tokensFrom_of_head {cs : List Char} {ps : List Part}
    (h : ∀ p ∈ ps.head?, p.inWord = false) :
    tokensFrom cs ps = tokensFrom cs [] ++ tokens ps := by
  cases ps with
  | nil => simp [tokens, tokensFrom, wordOf_nil]
  | cons p ps =>
    cases p with
    | code c =>
      have hc : isWordChar c = false := h _ rfl
      simp [tokens, tokensFrom, wordOf_nil, hc]
    | literal s => simp [tokens, tokensFrom, wordOf_nil]
    | unclosed => simp [tokens, tokensFrom, wordOf_nil]

theorem tokensFrom_append_of_head {cs : List Char} (ps : List Part) {qs : List Part}
    (h : ∀ p ∈ qs.head?, p.inWord = false) :
    tokensFrom cs (ps ++ qs) = tokensFrom cs ps ++ tokens qs := by
  induction ps generalizing cs with
  | nil => exact tokensFrom_of_head h
  | cons p ps ih =>
    cases p with
    | code c =>
      simp only [List.cons_append, tokensFrom, ih]
      split <;> simp
    | literal s => simp [tokensFrom, ih]
    | unclosed => simp [tokensFrom, ih]

theorem tokensFrom_append_of_last {cs : List Char} {ps : List Part} (qs : List Part)
    (h : ∀ p ∈ ps.getLast?, p.inWord = false) (hcs : ps = [] → cs = []) :
    tokensFrom cs (ps ++ qs) = tokensFrom cs ps ++ tokens qs := by
  induction ps generalizing cs with
  | nil => simp [hcs rfl, tokens, tokensFrom, wordOf_nil]
  | cons p ps ih =>
    have hlast : ∀ q ∈ ps.getLast?, q.inWord = false := by
      cases ps with
      | nil => simp
      | cons q ps => simpa [List.getLast?_cons_cons] using h
    have hrest : tokensFrom [] (ps ++ qs) = tokensFrom [] ps ++ tokens qs := ih hlast fun _ => rfl
    cases p with
    | code c =>
      by_cases hc : isWordChar c = true
      · have hne : ps ≠ [] := by
          rintro rfl
          exact absurd hc (by simpa [Part.inWord] using h)
        simp only [List.cons_append, tokensFrom, if_pos hc]
        exact ih hlast fun hnil => absurd hnil hne
      · simp [tokensFrom, hc, hrest]
    | literal s => simp [tokensFrom, hrest]
    | unclosed => simp [tokensFrom, hrest]

theorem tokens_append_of_head (ps : List Part) {qs : List Part}
    (h : ∀ p ∈ qs.head?, p.inWord = false) : tokens (ps ++ qs) = tokens ps ++ tokens qs :=
  tokensFrom_append_of_head ps h

theorem tokens_append_of_last {ps : List Part} (qs : List Part)
    (h : ∀ p ∈ ps.getLast?, p.inWord = false) : tokens (ps ++ qs) = tokens ps ++ tokens qs :=
  tokensFrom_append_of_last qs h fun _ => rfl

/-- A text of one word. -/
theorem tokens_word {cs : List Char} (h : cs.all isWordChar = true) (hne : cs ≠ []) :
    tokens (cs.map .code) = [.word cs] := by
  have hfrom (before : List Char) :
      tokensFrom before (cs.map .code) = tokensFrom (before ++ cs) [] := by
    clear hne
    induction cs generalizing before with
    | nil => simp
    | cons c cs ih =>
      obtain ⟨hc, hcs⟩ := Bool.and_eq_true_iff.mp h
      rw [List.map_cons, tokensFrom.eq_def]
      simp only [if_pos hc, ih hcs, List.append_assoc, List.singleton_append]
  rw [tokens, hfrom, List.nil_append, tokensFrom, wordOf, if_neg hne]

theorem of_word_mem_wordOf {w cs : List Char} (h : .word w ∈ wordOf cs) : w = cs := by
  unfold wordOf at h
  split at h
  · simp at h
  · simpa using h

/-- The characters of a word stand in the code one after the other. -/
theorem infix_of_mem_tokensFrom {w cs : List Char} {ps : List Part}
    (h : .word w ∈ tokensFrom cs ps) : w.map .code <:+: cs.map Part.code ++ ps := by
  -- Where a part is in no word, `w` is the word that ends there, or comes after it.
  have hend {cs : List Char} {p : Part} {ps : List Part} {ts : List Token} (hts : .word w ∉ ts)
      (hrest : .word w ∈ tokensFrom [] ps → w.map .code <:+: ps)
      (h : .word w ∈ wordOf cs ++ ts ++ tokensFrom [] ps) :
      w.map .code <:+: cs.map Part.code ++ p :: ps := by
    rw [List.mem_append, List.mem_append] at h
    rcases h with (hword | hmark) | htail
    · obtain rfl := of_word_mem_wordOf hword
      exact (List.prefix_append _ _).isInfix
    · exact absurd hmark hts
    · exact (List.infix_cons (hrest htail)).trans (List.suffix_append _ _).isInfix
  induction ps generalizing cs with
  | nil =>
    obtain rfl := of_word_mem_wordOf h
    exact (List.prefix_append _ _).isInfix
  | cons p ps ih =>
    have hrest (h : .word w ∈ tokensFrom [] ps) : w.map .code <:+: ps := by
      simpa using ih h
    cases p with
    | code c =>
      unfold tokensFrom at h
      split at h
      · simpa using ih h
      · refine hend ?_ hrest h
        unfold markOf
        split <;> simp [Token.mark]
    | literal s => exact hend (by simp) hrest h
    | unclosed => exact hend (by simp) hrest h

theorem mem_uses {w : List Char} {ts : List Token} (h : w ∈ uses ts) :
    .word w ∈ ts ∧ ∃ cs, w = '_' :: '_' :: cs := by
  obtain ⟨t, ht, hw⟩ := List.mem_filterMap.mp h
  unfold Token.table? at hw
  split at hw
  · rename_i cs
    obtain rfl := Option.some.inj hw
    exact ⟨ht, cs, rfl⟩
  · cases hw

/-- Parts without the mark of a derived table name none. -/
theorem uses_tokens_eq_nil {ps : List Part} (h : ¬[.code '_', .code '_'] <:+: ps) :
    uses (tokens ps) = [] := by
  refine List.eq_nil_iff_forall_not_mem.mpr fun w hw => h ?_
  obtain ⟨hmem, cs, rfl⟩ := mem_uses hw
  have hword : [] ++ [.code '_', .code '_'] ++ cs.map Part.code <:+: ps := by
    simpa using infix_of_mem_tokensFrom hmem
  exact (List.infix_append [] [.code '_', .code '_'] (cs.map Part.code)).trans hword

theorem uses_append (ts us : List Token) : uses (ts ++ us) = uses ts ++ uses us :=
  List.filterMap_append

theorem Reads.of_within {name : List Char} {ts us : List Token} (h : Reads name ts)
    (hwithin : ts <:+: us) : Reads name us :=
  h.imp (·.trans hwithin) (·.trans hwithin)

/-! ### Parentheses -/

theorem tokenDepth?_append (n : Nat) (ts us : List Token) :
    tokenDepth? n (ts ++ us) = (tokenDepth? n ts).bind fun m => tokenDepth? m us :=
  List.foldlM_append

theorem tokenDepth?_cons (n : Nat) (t : Token) (ts : List Token) :
    tokenDepth? n (t :: ts) = (t.depth? n).bind fun m => tokenDepth? m ts :=
  List.foldlM_cons

/-- Words and blanks leave parentheses as they are. -/
theorem Part.depth?_code {c : Char} (h : isWordChar c = true ∨ Text.isBlank c = true) (n : Nat) :
    (Part.code c).depth? n = some n := by
  have hopen : c ≠ '(' := by
    rintro rfl
    exact absurd h (by decide)
  have hclose : c ≠ ')' := by
    rintro rfl
    exact absurd h (by decide)
  rw [Part.depth?, if_neg hopen, if_neg hclose]

theorem tokenDepth?_wordOf (n : Nat) (cs : List Char) : tokenDepth? n (wordOf cs) = some n := by
  unfold wordOf
  split <;> rfl

theorem tokenDepth?_singleton (n : Nat) (t : Token) : tokenDepth? n [t] = t.depth? n := by
  rw [tokenDepth?_cons]
  exact Option.bind_fun_some _

theorem tokenDepth?_markOf (n : Nat) (c : Char) :
    tokenDepth? n (markOf c) = (Part.code c).depth? n := by
  unfold markOf
  split
  · rename_i hblank
    rw [Part.depth?_code (.inr hblank)]
    rfl
  · exact tokenDepth?_singleton n (.mark c)

theorem tokenDepth?_tokensFrom (n : Nat) (cs : List Char) (ps : List Part) :
    tokenDepth? n (tokensFrom cs ps) = depth? n ps := by
  have hpart (p : Part) (ps : List Part) (ts : List Token) (n : Nat) (cs : List Char)
      (hts : tokenDepth? n ts = p.depth? n)
      (ih : ∀ n, tokenDepth? n (tokensFrom [] ps) = depth? n ps) :
      tokenDepth? n (wordOf cs ++ ts ++ tokensFrom [] ps) = depth? n (p :: ps) := by
    simp only [tokenDepth?_append, tokenDepth?_wordOf, Option.bind_some, hts, ih, depth?_cons]
  induction ps generalizing cs n with
  | nil => exact tokenDepth?_wordOf n cs
  | cons p ps ih =>
    cases p with
    | code c =>
      simp only [tokensFrom]
      split
      · rename_i hword
        rw [ih, depth?_cons, Part.depth?_code (.inl hword), Option.bind_some]
      · exact hpart _ ps _ n cs (tokenDepth?_markOf n c) fun n => ih n []
    | literal s => exact hpart _ ps _ n cs (tokenDepth?_singleton n _) fun n => ih n []
    | unclosed => exact hpart _ ps _ n cs (tokenDepth?_singleton n _) fun n => ih n []

theorem tokenDepth?_tokens (n : Nat) (ps : List Part) : tokenDepth? n (tokens ps) = depth? n ps :=
  tokenDepth?_tokensFrom n [] ps

end Scan

namespace Sql

/-- The tokens of a text. -/
def tokens (q : Sql) : List Token :=
  Scan.tokens q.parts

variable {p q : Sql}

theorem tokens_append_of_begins (h : q.Begins) : (p ++ q).tokens = p.tokens ++ q.tokens := by
  have hhead : ∀ x ∈ q.parts.head?, x.inWord = false := by
    unfold parts
    cases hpieces : q.pieces with
    | nil => simp
    | cons x xs =>
      obtain ⟨y, ys, hparts, hy⟩ := (h x (by simp [hpieces])).exists_parts
      simpa [List.flatMap_cons, hparts] using hy
  rw [tokens, parts_append, tokens_append_of_head _ hhead]
  rfl

theorem tokens_append_of_ends (h : p.Ends) : (p ++ q).tokens = p.tokens ++ q.tokens := by
  have hlast : ∀ x ∈ p.parts.getLast?, x.inWord = false := by
    unfold parts
    rcases p.pieces.eq_nil_or_concat with hpieces | ⟨xs, x, hpieces⟩
    · simp [hpieces]
    · obtain ⟨ys, y, hparts, hy⟩ := (h x (by simp [hpieces])).exists_parts
      simpa [hpieces, List.flatMap_append, hparts] using hy
  rw [tokens, parts_append, tokens_append_of_last _ hlast]
  rfl

theorem tokens_comment_append (s : String) (q : Sql) : (comment s ++ q).tokens = q.tokens := rfl

/-- A written text between blanks or marks is read apart from what stands around it. -/
theorem tokens_around {cs : List Char} (hbegin : Piece.checkBegins cs = true)
    (hend : Piece.checkEnds cs = true) (p q : Sql) :
    (p ++ (Sql.code (String.ofList cs) ++ q)).tokens =
      p.tokens ++ ((Sql.code (String.ofList cs)).tokens ++ q.tokens) := by
  rw [tokens_append_of_begins, tokens_append_of_ends (.code hend)]
  exact @Begins.next [q] _ hbegin

theorem tokens_join {cs : List Char} (hbegin : Piece.checkBegins cs = true)
    (hend : Piece.checkEnds cs = true) (qs : List Sql) :
    (Sql.join (Sql.code (String.ofList cs)) qs).tokens =
      ((qs.map tokens).intersperse (Sql.code (String.ofList cs)).tokens).flatten := by
  induction qs with
  | nil => rfl
  | cons q rest ih =>
    cases rest with
    | nil =>
      have hjoin : Sql.join (Sql.code (String.ofList cs)) [q] = q ++ empty := rfl
      rw [hjoin, append_empty]
      simp
    | cons q' rest =>
      have hjoin : Sql.join (Sql.code (String.ofList cs)) (q :: q' :: rest) =
          q ++ (Sql.code (String.ofList cs) ++
            Sql.join (Sql.code (String.ofList cs)) (q' :: rest)) := rfl
      rw [hjoin, tokens_around hbegin hend, ih]
      simp

theorem Balanced.tokenDepth? (h : q.Balanced) (n : Nat) : tokenDepth? n q.tokens = some n := by
  rw [tokens, tokenDepth?_tokens]
  exact h n

/-- A woven text names no derived table. -/
theorem Woven.uses_eq_nil (h : q.Woven .tableMark) : uses q.tokens = [] :=
  uses_tokens_eq_nil h.not_infix_parts

end Sql

end SplitTest

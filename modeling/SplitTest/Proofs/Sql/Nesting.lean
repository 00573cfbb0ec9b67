import SplitTest.Proofs.Sql.Lexemes
import SplitTest.Proofs.Sql.PlainTexts

/-! Parentheses in SQL texts.  A text is complete if its literals end and each parenthesis that is
opened outside literals and comments is closed, none before it is opened.  A template keeps track of
the parentheses that are open between the texts it holds apart, so a template of complete texts is
complete, and a complete text between two of its parentheses is closed by the second. -/

namespace SplitTest

open Literal (quote)

namespace Scan

/-! ### Depth -/

/-- The number of parentheses that are open after a part, where `n` are open before it; there is
none if the part is a literal that does not end or closes a parenthesis that is not open. -/
def Part.depth? (n : Nat) : Part → Option Nat
  | code c =>
    if c = '(' then some (n + 1)
    else if c = ')' then if n = 0 then none else some (n - 1)
    else some n
  | literal _ => some n
  | unclosed => none

/-- The number of parentheses that are open after some parts. -/
def depth? (n : Nat) (ps : List Part) : Option Nat :=
  ps.foldlM Part.depth? n

/-- A text whose literals end and whose parentheses are balanced. -/
def Complete (cs : List Char) : Prop :=
  depth? 0 (parts cs) = some 0

instance (cs : List Char) : Decidable (Complete cs) :=
  inferInstanceAs (Decidable (_ = _))

/-- The parts up to the parenthesis that closes one opened before them, and the parts after it; `n`
more parentheses are open. -/
def enclosed? (n : Nat) : List Part → Option (List Part × List Part)
  | [] => none
  | p :: rest =>
    if n = 0 ∧ p = .code ')' then some ([], rest)
    else do
      let m ← p.depth? n
      let (inside, after) ← enclosed? m rest
      some (p :: inside, after)

theorem depth?_append (n : Nat) (ps qs : List Part) :
    depth? n (ps ++ qs) = (depth? n ps).bind fun m => depth? m qs :=
  List.foldlM_append

theorem depth?_cons (n : Nat) (p : Part) (ps : List Part) :
    depth? n (p :: ps) = (p.depth? n).bind fun m => depth? m ps :=
  List.foldlM_cons

theorem Part.depth?_add {p : Part} {n m : Nat} (h : p.depth? n = some m) (k : Nat) :
    p.depth? (n + k) = some (m + k) := by
  cases p with
  | code c =>
    simp only [depth?] at h ⊢
    split_ifs at h ⊢ <;> simp_all <;> omega
  | literal s => simpa [depth?] using h
  | unclosed => simp [depth?] at h

theorem depth?_add {ps : List Part} {n m : Nat} (h : depth? n ps = some m) (k : Nat) :
    depth? (n + k) ps = some (m + k) := by
  induction ps generalizing n with
  | nil => simpa [depth?] using h
  | cons p ps ih =>
    rw [depth?_cons, Option.bind_eq_some_iff] at h ⊢
    obtain ⟨l, hp, h⟩ := h
    exact ⟨l + k, p.depth?_add hp k, ih h⟩

theorem Complete.depth? {cs : List Char} (h : Complete cs) (n : Nat) :
    depth? n (parts cs) = some n := by
  simpa using depth?_add h n

theorem unclosed_notMem_of_depth? {ps : List Part} {n m : Nat} (h : depth? n ps = some m) :
    .unclosed ∉ ps := by
  induction ps generalizing n with
  | nil => simp
  | cons p ps ih =>
    rw [depth?_cons, Option.bind_eq_some_iff] at h
    obtain ⟨l, hp, h⟩ := h
    rintro (_ | ⟨_, hmem⟩)
    · simp [Part.depth?] at hp
    · exact ih h hmem

/-- What is balanced has no parenthesis that closes one opened before it. -/
theorem enclosed?_append {ps : List Part} {n m : Nat} (h : depth? n ps = some m)
    (qs : List Part) :
    enclosed? n (ps ++ qs) = (enclosed? m qs).map fun (inside, after) => (ps ++ inside, after) := by
  induction ps generalizing n with
  | nil =>
    obtain rfl : n = m := by simpa [Scan.depth?] using h
    simp
  | cons p ps ih =>
    rw [depth?_cons, Option.bind_eq_some_iff] at h
    obtain ⟨l, hp, h⟩ := h
    have hinside : ¬(n = 0 ∧ p = .code ')') := by
      rintro ⟨rfl, rfl⟩
      simp [Part.depth?] at hp
    rw [List.cons_append, enclosed?, if_neg hinside, hp]
    simp only [Option.bind_eq_bind, Option.bind_some, ih h]
    cases enclosed? m qs <;> rfl

theorem Complete.enclosed? {cs : List Char} (h : Complete cs) (after : List Part) :
    enclosed? 0 (parts cs ++ .code ')' :: after) = some (parts cs, after) := by
  rw [enclosed?_append h]
  simp [Scan.enclosed?]

theorem Complete.closed {cs : List Char} (h : Complete cs)
    (hend : ¬EndsWithComment (lexemes cs)) : Closed cs := by
  refine closed_of_lexemes (fun hmem => unclosed_notMem_of_depth? h ?_) hend
  rw [parts_eq_filterMap]
  exact List.mem_filterMap.mpr ⟨_, hmem, rfl⟩

/-- A text without parentheses. -/
def Unnested (cs : List Char) : Prop :=
  ∀ c ∈ cs, c ≠ '(' ∧ c ≠ ')'

instance (cs : List Char) : Decidable (Unnested cs) :=
  List.decidableBAll _ cs

theorem Unnested.depth? {cs : List Char} (h : Unnested cs) (n : Nat) :
    depth? n (cs.map .code) = some n := by
  induction cs with
  | nil => rfl
  | cons c cs ih =>
    obtain ⟨⟨hopen, hclose⟩, hcs⟩ := List.forall_mem_cons.mp h
    rw [List.map_cons, depth?_cons, Part.depth?, if_neg hopen, if_neg hclose]
    exact ih hcs

theorem Plain.complete {cs : List Char} (hplain : Plain cs) (h : Unnested cs) : Complete cs := by
  rw [Complete, hplain.parts_eq]
  exact h.depth? 0

/-! ### Texts in parentheses -/

/-- Within a text, `sql` stands in parentheses before `label`: the parenthesis before it is seen as
code, and the one that closes it is that after it. -/
def Encloses (cs sql label : List Char) : Prop :=
  ∃ before after, cs = before ++ '(' :: (sql ++ ')' :: (label ++ after)) ∧
    parts cs = parts before ++ .code '(' :: parts (sql ++ ')' :: (label ++ after)) ∧
    enclosed? 0 (parts (sql ++ ')' :: (label ++ after))) = some (parts sql, parts (label ++ after))

/-- Within a text, `sql` stands between parentheses before `label`, and the scanner is outside
literals and comments where the first of them comes. -/
def Embeds (cs sql label : List Char) : Prop :=
  ∃ before after, cs = before ++ '(' :: (sql ++ ')' :: (label ++ after)) ∧ Closed before

/-- A text after which any other is seen as it is alone. -/
def Seals (cs : List Char) : Prop :=
  ∀ rest, parts (cs ++ rest) = parts cs ++ parts rest

theorem seals_nil : Seals [] := fun _ => rfl

theorem Seals.append {cs ds : List Char} (hcs : Seals cs) (hds : Seals ds) : Seals (cs ++ ds) :=
  fun rest => by
    rw [List.append_assoc, hcs, hds, hcs ds, List.append_assoc]

theorem Seals.closed_append {cs ds : List Char} (hcs : Seals cs) (hds : Closed ds) :
    Closed (cs ++ ds) := fun rest hrest => by
  rw [List.append_assoc, hcs, hds rest hrest, hcs ds, List.append_assoc]

theorem Embeds.between {start cs tail sql label : List Char} (hstart : Seals start)
    (h : Embeds cs sql label) : Embeds (start ++ (cs ++ tail)) sql label := by
  obtain ⟨before, after, rfl, hbefore⟩ := h
  exact ⟨start ++ before, after ++ tail, by simp, hstart.closed_append hbefore⟩

theorem parts_parenthesis {c : Char} (hc : c = '(' ∨ c = ')') (cs : List Char) :
    parts (c :: cs) = .code c :: parts cs := by
  rcases hc with rfl | rfl <;> exact parts_code (by decide) (by simp)

/-- A complete text that does not end within a comment is closed by the parenthesis after it. -/
theorem Embeds.encloses {cs sql label : List Char} (h : Embeds cs sql label) (hsql : Complete sql)
    (hclosed : Closed sql) : Encloses cs sql label := by
  obtain ⟨before, after, rfl, hbefore⟩ := h
  refine ⟨before, after, rfl, ?_, ?_⟩
  · rw [hbefore _ (fits_cons (by decide) (by decide)), parts_parenthesis (.inl rfl)]
  · rw [hclosed _ (fits_cons (by decide) (by decide)), parts_parenthesis (.inr rfl),
      hsql.enclosed?]

end Scan

/-! ### Numbers -/

theorem Scan.Unnested.of_isDigit (c : Char) (hdigit : c.isDigit = true) : c ≠ '(' ∧ c ≠ ')' := by
  constructor
  · rintro rfl
    exact absurd hdigit (by decide)
  · rintro rfl
    exact absurd hdigit (by decide)

open Scan

theorem Scan.Unnested.append {s t : String} (hs : Unnested s.toList) (ht : Unnested t.toList) :
    Unnested (s ++ t).toList :=
  forall_append hs ht

theorem unnested_int (n : Int) : Unnested (toString n).toList :=
  forall_int Unnested.of_isDigit (by decide) n

theorem Double.unnested_text (x : Double) : Unnested x.text.toList :=
  x.forall_text Unnested.of_isDigit (forall_of_all rfl) (forall_of_all rfl)

theorem unnested_numberText (x : Double) : Unnested (numberText x).toList :=
  forall_numberText Unnested.of_isDigit (forall_of_all rfl) (forall_of_all rfl) x

namespace Sql

open Scan

/-! ### Balanced texts -/

/-- A text within which the number of open parentheses goes from `a` to `b`. -/
def Leads (a b : Nat) (q : Sql) : Prop :=
  depth? a q.parts = some b

instance (a b : Nat) (q : Sql) : Decidable (q.Leads a b) :=
  inferInstanceAs (Decidable (_ = _))

/-- A text that leaves as many parentheses open as it finds. -/
def Balanced (q : Sql) : Prop :=
  ∀ n, q.Leads n n

namespace Leads

variable {a b c : Nat} {p q : Sql} {qs : List Sql}

theorem append (hp : p.Leads a b) (hq : q.Leads b c) : (p ++ q).Leads a c := by
  rw [Leads, Sql.parts_append, depth?_append, hp]
  exact hq

theorem code {cs : List Char} (h : depth? a (Scan.parts cs) = some b) :
    (Sql.code (String.ofList cs)).Leads a b := by
  rwa [Leads, Sql.parts_code, String.toList_ofList]

theorem nil : (concat []).Leads a a := rfl

theorem next (hq : q.Leads a b) (hqs : (concat qs).Leads b c) : (concat (q :: qs)).Leads a c :=
  hq.append hqs

theorem slot (hq : q.Balanced) (hqs : (concat qs).Leads a b) : (concat (q :: qs)).Leads a b :=
  (hq a).append hqs

theorem tight {cs : List Char} (h : depth? a (Scan.parts cs) = some b)
    (hqs : (concat qs).Leads b c) : (concat (Sql.code (String.ofList cs) :: qs)).Leads a c :=
  (code h).append hqs

end Leads

namespace Balanced

variable {p q : Sql}

theorem of (h : q.Leads 0 0) : q.Balanced := fun n => by
  have hadd := depth?_add h n
  rwa [Nat.zero_add] at hadd

theorem empty : empty.Balanced := fun _ => rfl

theorem literal (s : String) : (literal s).Balanced := fun _ => rfl

theorem comment (s : String) : (comment s).Balanced := fun _ => rfl

theorem append (hp : p.Balanced) (hq : q.Balanced) : (p ++ q).Balanced := fun n =>
  (hp n).append (hq n)

theorem code {s : String} (h : Complete s.toList) : (Sql.code s).Balanced := fun n => by
  rw [Leads, Sql.parts_code]
  exact h.depth? n

/-- A written text is balanced if a count of its parentheses says so. -/
theorem written {cs : List Char} (h : depth? 0 (Scan.parts cs) = some 0) :
    (Sql.code (String.ofList cs)).Balanced :=
  .of (.code h)

theorem written_append {cs ds : List Char} (h : depth? 0 (Scan.parts (cs ++ ds)) = some 0) :
    (Sql.code (String.ofList cs ++ String.ofList ds)).Balanced := by
  rw [← String.ofList_append]
  exact written h

theorem join {separator : Sql} (hs : separator.Balanced) {qs : List Sql}
    (hqs : ∀ q ∈ qs, q.Balanced) : (Sql.join separator qs).Balanced := by
  induction qs with
  | nil => exact empty
  | cons q rest ih =>
    obtain ⟨hq, hrest⟩ := List.forall_mem_cons.mp hqs
    cases rest with
    | nil => exact hq.append empty
    | cons q' rest => exact hq.append (hs.append (ih hrest))

theorem complete (hbalanced : q.Balanced) (hreadable : q.Readable) : Complete q.chars := by
  rw [Complete, hreadable.parts_eq]
  exact hbalanced 0

end Balanced

/-! ### Texts in a template -/

theorem Sealed.seals {q : Sql} (h : q.Sealed) : Seals q.chars := fun rest => by
  rw [h.seen, h.framed.readable.parts_eq]

/-- A tight text after a readable one seals it. -/
theorem Readable.seals {q : Sql} (hq : q.Readable) {s : String} (hs : Tight s) :
    Seals (q ++ Sql.code s).chars := by
  have hcode := Sealed.code hs
  intro rest
  rw [(hq.append hcode.framed).parts_eq, chars_append, List.append_assoc,
    hq _ (hcode.fits rest), hcode.seen, Sql.parts_append, List.append_assoc]

/-- A comment is closed by the line break after it. -/
theorem seals_comment {name s : String} (hname : OneLine name) (hs : BeginsLine s)
    (htight : Tight s) : Seals (comment name ++ Sql.code s).chars := by
  have hseen (rest : List Char) :
      Scan.parts ((comment name ++ Sql.code s).chars ++ rest) = Scan.parts (s.toList ++ rest) := by
    obtain ⟨line, hline⟩ := hs
    have hspace : ∀ c ∈ ' ' :: name.toList, isLineEnd c = false :=
      List.forall_mem_cons.mpr ⟨rfl, hname⟩
    have hend : ∀ c ∈ ('\n' :: (line ++ rest)).head?, isLineEnd c = true := by
      simp [isLineEnd]
    rw [chars_append, chars_comment, Sql.chars_code, hline, List.append_assoc]
    exact Scan.parts_comment hspace hend
  have hcode : Seals s.toList := by
    simpa [Sql.chars_code] using (Sealed.code htight).seals
  intro rest
  have halone := hseen []
  rw [List.append_nil, List.append_nil] at halone
  rw [hseen, halone, hcode rest]

/-- In a template, a text that ends with a comment takes in the rest of its line, and with it the
parenthesis that would close it. -/
theorem leads_of_comment {p : Sql} (hp : p.Readable) {start : String} (hstart : Tight start)
    (hopen : (p ++ Sql.code start).Leads 0 1) {sql : String} (hsql : Complete sql.toList)
    (hcomment : EndsWithComment (lexemes sql.toList)) {line after : String} (hline : OneLine line)
    (hafter : BeginsLine after) {qs : List Sql} (hqs : (concat (Sql.code after :: qs)).Readable)
    (hbalanced : (concat (Sql.code after :: qs)).Balanced) :
    depth? 0 (Scan.parts (p ++ concat (Sql.code start :: Sql.code sql ::
      Sql.code (line ++ after) :: qs)).chars) = some 1 := by
  have hchars : (p ++ concat (Sql.code start :: Sql.code sql ::
      Sql.code (line ++ after) :: qs)).chars =
      (p ++ Sql.code start).chars ++
        (sql.toList ++ (line.toList ++ (concat (Sql.code after :: qs)).chars)) := by
    simp [concat_cons, chars_append, Sql.chars_code]
  have hnext : ∀ c ∈ (concat (Sql.code after :: qs)).chars.head?, isLineEnd c = true := by
    obtain ⟨rest, hrest⟩ := hafter
    simp [concat_cons, chars_append, Sql.chars_code, hrest, isLineEnd]
  obtain ⟨init, text, hinit, hlexes⟩ := (lexes_lexemes sql.toList).append_line hcomment hline hnext
    (lexes_lexemes _)
  -- The parenthesis that would close the text stands in `line`, of which the scanner sees nothing.
  have hparts : Scan.parts
      (sql.toList ++ (line.toList ++ (concat (Sql.code after :: qs)).chars)) =
        Scan.parts sql.toList ++ (concat (Sql.code after :: qs)).parts := by
    rw [← hqs.parts_eq]
    simp [parts_eq_filterMap, hlexes.lexemes_eq, hinit, List.filterMap_cons, Lexeme.part?]
  rw [hchars, hp.seals hstart, hparts, (hp.append (.code hstart)).parts_eq, depth?_append, hopen,
    Option.bind_some, depth?_append, hsql.depth? 1, Option.bind_some]
  exact hbalanced 1

/-- A template with a text in parentheses. -/
theorem embeds_template {p : Sql} (hp : p.Readable) {before : String} (hbefore : Tight before)
    (sql label after : String) (qs : List Sql) :
    Embeds (p ++ concat (Sql.code (before ++ "(") :: Sql.code sql ::
      Sql.code (")" ++ label ++ after) :: qs)).chars sql.toList label.toList := by
  refine ⟨(p ++ Sql.code before).chars, after.toList ++ (concat qs).chars, ?_, ?_⟩
  · simp [concat_cons, chars_append, Sql.chars_code]
  · exact (hp.append (.code hbefore)).closed

/-- A text among others that are held apart by a tight one. -/
theorem exists_join {separator : String} (hs : Tight separator) {qs : List Sql}
    (hqs : ∀ q ∈ qs, q.Readable) {q : Sql} (hq : q ∈ qs) :
    ∃ start tail, Seals start ∧
      (Sql.join (Sql.code separator) qs).chars = start ++ (q.chars ++ tail) := by
  induction qs with
  | nil => simp at hq
  | cons q' rest ih =>
    obtain ⟨hq', hrest⟩ := List.forall_mem_cons.mp hqs
    cases rest with
    | nil =>
      obtain rfl := List.mem_singleton.mp hq
      refine ⟨[], [], seals_nil, ?_⟩
      simp [Sql.join, concat_cons, chars_append, chars_nil]
    | cons q'' rest =>
      have hjoin : (Sql.join (Sql.code separator) (q' :: q'' :: rest)).chars =
          (q' ++ Sql.code separator).chars ++
            (Sql.join (Sql.code separator) (q'' :: rest)).chars := by
        rw [chars_append, List.append_assoc, ← chars_append, ← chars_append]
        rfl
      rcases List.mem_cons.mp hq with rfl | hmem
      · refine ⟨[], separator.toList ++ (Sql.join (Sql.code separator) (q'' :: rest)).chars,
          seals_nil, ?_⟩
        rw [hjoin, chars_append, Sql.chars_code, List.append_assoc, List.nil_append]
      · obtain ⟨start, tail, hstart, heq⟩ := ih hrest hmem
        refine ⟨(q' ++ Sql.code separator).chars ++ start, tail, (hq'.seals hs).append hstart, ?_⟩
        rw [hjoin, heq, List.append_assoc]

end Sql
end SplitTest

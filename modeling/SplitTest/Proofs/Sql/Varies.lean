import SplitTest.Proofs.Sql.Readable

/-! Two texts that differ in their comments and in the values of some literals only.  A comment may
differ where it ends with its line; then the texts without comments are the same up to the literals,
and a scanner sees the same parts in both, up to the values of these literals. -/

namespace SplitTest

open Scan

namespace Scan

/-! ### Texts without comments -/

/-- What the last character was for a reader that drops comments and does not know literals. -/
inductive Mode
  | code
  | hyphen
  | comment

/-- The characters outside comments, where a comment runs from any two hyphens to the end of the
line. -/
def uncommented : Mode → List Char → List Char
  | .hyphen, [] => ['-']
  | _, [] => []
  | .code, c :: rest =>
    if c = '-' then uncommented .hyphen rest else c :: uncommented .code rest
  | .hyphen, c :: rest =>
    if c = '-' then uncommented .comment rest else '-' :: c :: uncommented .code rest
  | .comment, c :: rest =>
    if isLineEnd c then c :: uncommented .code rest else uncommented .comment rest

theorem uncommented_append {cs ds : List Char} (h : ∀ m, uncommented m cs = uncommented m ds)
    (before : List Char) (m : Mode) :
    uncommented m (before ++ cs) = uncommented m (before ++ ds) := by
  induction before generalizing m with
  | nil => exact h m
  | cons c before ih => cases m <;> simp only [List.cons_append, uncommented, ih]

theorem uncommented_comment {cs rest : List Char} {e : Char} (hcs : ∀ c ∈ cs, isLineEnd c = false)
    (he : isLineEnd e = true) :
    uncommented .comment (cs ++ e :: rest) = e :: uncommented .code rest := by
  induction cs with
  | nil => simp [uncommented, he]
  | cons c cs ih =>
    obtain ⟨hc, hcs⟩ := List.forall_mem_cons.mp hcs
    simp [uncommented, hc, ih hcs]

/-- Nothing of a comment is left, whether or not the text before it ends in a comment or in a
hyphen. -/
theorem uncommented_hyphens {cs : List Char} {e : Char} (hcs : ∀ c ∈ cs, isLineEnd c = false)
    (he : isLineEnd e = true) (rest : List Char) (m : Mode) :
    uncommented m ('-' :: '-' :: (cs ++ e :: rest)) = e :: uncommented .code rest := by
  have hhyphen : isLineEnd '-' = false := rfl
  have hline : ∀ c ∈ '-' :: cs, isLineEnd c = false := List.forall_mem_cons.mpr ⟨hhyphen, hcs⟩
  cases m with
  | code => simpa [uncommented] using uncommented_comment hcs he
  | hyphen => simpa [uncommented] using uncommented_comment hline he
  | comment =>
    simpa [uncommented, hhyphen] using uncommented_comment hcs he

/-! ### Parts with other literals -/

/-- The same parts but for some literals, which have the values `values` in the first list and
`others` in the second, in this order. -/
inductive Refilled : List Part → List Part → (values others : List String) → Prop
  | nil : Refilled [] [] [] []
  | same (p : Part) {ps qs : List Part} {values others : List String}
      (rest : Refilled ps qs values others) : Refilled (p :: ps) (p :: qs) values others
  | literal (value other : String) {ps qs : List Part} {values others : List String}
      (rest : Refilled ps qs values others) :
      Refilled (.literal value :: ps) (.literal other :: qs) (value :: values) (other :: others)

namespace Refilled

variable {ps qs : List Part} {values others : List String}

theorem skip (before : List Part) (h : Refilled ps qs values others) :
    Refilled (before ++ ps) (before ++ qs) values others := by
  induction before with
  | nil => exact h
  | cons p before ih => exact .same p ih

theorem map_mark_eq (h : Refilled ps qs values others) : ps.map Part.mark = qs.map Part.mark := by
  induction h with
  | nil => rfl
  | same p _ ih => rw [List.map_cons, List.map_cons, ih]
  | literal value other _ ih => rw [List.map_cons, List.map_cons, ih, Part.mark, Part.mark]

theorem eq_of_values_eq (h : Refilled ps qs values others) (heq : values = others) : ps = qs := by
  induction h with
  | nil => rfl
  | same p _ ih => rw [ih heq]
  | literal value other _ ih =>
    obtain ⟨rfl, hrest⟩ := List.cons.inj heq
    rw [ih hrest]

end Refilled
end Scan

/-! ### Texts with other comments and literals -/

/-- The same pieces but for comments, each of one line and followed by a line break, and for some
literals, which have the values `values` in the first list and `others` in the second. -/
inductive Piece.Vary : List Piece → List Piece → (values others : List String) → Prop
  | nil : Vary [] [] [] []
  | same (p : Piece) {ps qs : List Piece} {values others : List String}
      (rest : Vary ps qs values others) : Vary (p :: ps) (p :: qs) values others
  | literal (value other : String) {ps qs : List Piece} {values others : List String}
      (rest : Vary ps qs values others) :
      Vary (.literal value :: ps) (.literal other :: qs) (value :: values) (other :: others)
  | comment {name other text : String} {ps qs : List Piece} {values others : List String}
      (hname : OneLine name) (hother : OneLine other) (htext : BeginsLine text)
      (rest : Vary ps qs values others) :
      Vary (.comment name :: .code text :: ps) (.comment other :: .code text :: qs) values others

namespace Piece.Vary

variable {ps qs ps' qs' : List Piece} {values others values' others' : List String}

theorem refl (ps : List Piece) : Vary ps ps [] [] := by
  induction ps with
  | nil => exact .nil
  | cons p ps ih => exact .same p ih

theorem append (h : Vary ps qs values others) (h' : Vary ps' qs' values' others') :
    Vary (ps ++ ps') (qs ++ qs') (values ++ values') (others ++ others') := by
  induction h with
  | nil => exact h'
  | same p _ ih => exact .same p ih
  | literal value other _ ih => exact .literal value other ih
  | comment hname hother htext _ ih => exact .comment hname hother htext ih

theorem refilled (h : Vary ps qs values others) :
    Refilled (ps.flatMap Piece.parts) (qs.flatMap Piece.parts) values others := by
  induction h with
  | nil => exact .nil
  | same p _ ih => exact ih.skip p.parts
  | literal value other _ ih => exact .literal value other ih
  | comment _ _ _ _ ih => exact ih.skip _

/-- Where the literals agree as well, the texts without comments are the same. -/
theorem uncommented_eq (h : Vary ps qs values others) (heq : values = others) (m : Mode) :
    uncommented m (Sql.chars ⟨ps⟩) = uncommented m (Sql.chars ⟨qs⟩) := by
  have hcons (p : Piece) (ps : List Piece) :
      Sql.chars ⟨p :: ps⟩ = p.text.toList ++ Sql.chars ⟨ps⟩ := by
    simp [Sql.chars, Sql.text]
  -- For every mode, since a piece may end anywhere: after a hyphen or inside a comment, too.
  induction h generalizing m with
  | nil => rfl
  | same p _ ih =>
    rw [hcons, hcons]
    exact uncommented_append (ih heq) _ m
  | literal value other _ ih =>
    obtain ⟨rfl, hrest⟩ := List.cons.inj heq
    rw [hcons, hcons]
    exact uncommented_append (ih hrest) _ m
  | @comment name other text ps qs _ _ hname hother htext _ ih =>
    obtain ⟨line, hline⟩ := htext
    have hstart {name : String} (h : OneLine name) (ps : List Piece) :
        uncommented m (Sql.chars ⟨.comment name :: .code text :: ps⟩) =
          '\n' :: uncommented .code (line ++ Sql.chars ⟨ps⟩) := by
      have hspace : ∀ c ∈ ' ' :: name.toList, isLineEnd c = false :=
        List.forall_mem_cons.mpr ⟨rfl, h⟩
      rw [hcons, hcons]
      simpa [Piece.text, hline] using uncommented_hyphens hspace
        (show isLineEnd '\n' = true from rfl) (line ++ Sql.chars ⟨ps⟩) m
    rw [hstart hname, hstart hother, uncommented_append (ih heq)]

end Piece.Vary

namespace Sql

/-- A text and another one in which the comments and the values of some literals are different. -/
def Varies (p q : Sql) (values others : List String) : Prop :=
  Piece.Vary p.pieces q.pieces values others

/-- Lists of texts that vary one by one. -/
inductive AllVary : List Sql → List Sql → (values others : List String) → Prop
  | nil : AllVary [] [] [] []
  | cons {p q : Sql} {ps qs : List Sql} {values others values' others' : List String}
      (first : p.Varies q values others) (rest : AllVary ps qs values' others') :
      AllVary (p :: ps) (q :: qs) (values ++ values') (others ++ others')

namespace Varies

variable {p q p' q' : Sql} {ps qs : List Sql} {values others values' others' : List String}

theorem refl (p : Sql) : p.Varies p [] [] :=
  Piece.Vary.refl p.pieces

theorem literal (value other : String) :
    (Sql.literal value).Varies (Sql.literal other) [value] [other] :=
  Piece.Vary.literal value other .nil

theorem append (h : p.Varies q values others) (h' : p'.Varies q' values' others') :
    (p ++ p').Varies (q ++ q') (values ++ values') (others ++ others') :=
  Piece.Vary.append h h'

/-- In a template, the same text may stand in front of a text that varies. -/
theorem skip (p : Sql) (h : (concat ps).Varies (concat qs) values others) :
    (concat (p :: ps)).Varies (concat (p :: qs)) values others :=
  (refl p).append h

/-- In a template, a text that varies may stand in front of another. -/
theorem cons (h : p.Varies q values others)
    (h' : (concat ps).Varies (concat qs) values' others') :
    (concat (p :: ps)).Varies (concat (q :: qs)) (values ++ values') (others ++ others') :=
  h.append h'

/-- In a template, a text that varies may stand in front of fixed text. -/
theorem here (h : p.Varies q values others) :
    (concat (p :: ps)).Varies (concat (q :: ps)) values others := by
  simpa using h.cons (refl (concat ps))

/-- In a template, a comment may vary if a line break follows it. -/
theorem comment {name other text : String} (hname : OneLine name) (hother : OneLine other)
    (htext : BeginsLine text) (h : (concat ps).Varies (concat qs) values others) :
    (concat (Sql.comment name :: Sql.code text :: ps)).Varies
      (concat (Sql.comment other :: Sql.code text :: qs)) values others :=
  Piece.Vary.comment hname hother htext h

theorem join (separator : Sql) (h : AllVary ps qs values others) :
    (Sql.join separator ps).Varies (Sql.join separator qs) values others := by
  induction h with
  | nil => exact refl _
  | @cons p q ps qs _ _ _ _ first rest ih =>
    cases rest with
    | nil => exact first.cons (refl (concat []))
    | cons => exact first.cons (.skip separator ih)

/-- A text whose parts are seen as they are meant keeps its shape. -/
theorem refilled (h : p.Varies q values others) (hp : p.Readable) (hq : q.Readable) :
    Refilled (Scan.parts p.chars) (Scan.parts q.chars) values others := by
  rw [hp.parts_eq, hq.parts_eq]
  exact Piece.Vary.refilled h

end Varies

namespace AllVary

variable {ps qs ps' qs' : List Sql} {values others values' others' : List String}

theorem refl (ps : List Sql) : AllVary ps ps [] [] := by
  induction ps with
  | nil => exact .nil
  | cons p ps ih => exact .cons (.refl p) ih

theorem append (h : AllVary ps qs values others) (h' : AllVary ps' qs' values' others') :
    AllVary (ps ++ ps') (qs ++ qs') (values ++ values') (others ++ others') := by
  induction h with
  | nil => exact h'
  | cons first _ ih =>
    rw [List.append_assoc, List.append_assoc]
    exact .cons first ih

end AllVary
end Sql
end SplitTest

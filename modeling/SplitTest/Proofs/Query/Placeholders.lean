import Mathlib.Data.List.Nodup
import SplitTest.Proofs.Calendar.Stamp
import SplitTest.Proofs.Except
import SplitTest.Proofs.Schema.Minimal
import SplitTest.Proofs.Sql.PlainTexts
import SplitTest.Proofs.Sql.Woven
import SplitTest.Proofs.Text.Runs
import SplitTest.Query.Override

/-! Overrides with their placeholders filled in.  No placeholder begins within another, and the
literals that are put in the places have a quote at both ends, which no placeholder contains.  So
nothing that one kind of placeholder is replaced by hides, completes or joins a placeholder of
another kind, and replacing one kind after the other is replacing all of them at once. -/

namespace SplitTest

open Literal (quote encode double)
open Text (isBlank replacePass dropWhile_append_of_head takeWhile_append_of_head)

namespace Placeholder

/-! ### Placeholders in a text -/

/-- A placeholder as it stands in a text: a name with any blanks around it between double braces. -/
inductive Mark (name : String) : List Char → Prop
  | intro {before after : List Char} (hbefore : ∀ c ∈ before, isBlank c = true)
      (hafter : ∀ c ∈ after, isBlank c = true) :
      Mark name ('\x7b' :: '\x7b' :: (before ++ (name.toList ++ (after ++ ['\x7d', '\x7d']))))

/-- A character of the name of a placeholder. -/
def isNameChar (c : Char) : Bool :=
  !isBlank c && c != '\x7b' && c != '\x7d' && c != quote

/-- A text that can be the name of a placeholder. -/
structure IsName (name : String) : Prop where
  ne_nil : name.toList ≠ []
  isNameChar : ∀ c ∈ name.toList, isNameChar c = true

theorem IsName.of {name : String}
    (h : (!name.toList.isEmpty && name.toList.all Placeholder.isNameChar) = true) :
    IsName name := by
  obtain ⟨hne, hall⟩ := Bool.and_eq_true_iff.mp h
  exact ⟨by simpa using hne, List.all_eq_true.mp hall⟩

theorem isNameChar_of_isBlank {c : Char} (h : isBlank c = true) : isNameChar c = false := by
  simp [isNameChar, h]

section

variable {name : String} (hname : IsName name)
include hname

theorem IsName.head?_append {rest : List Char} :
    ∀ c ∈ (name.toList ++ rest).head?, isBlank c = false := by
  intro c hc
  obtain ⟨d, ds, hd⟩ := List.exists_cons_of_ne_nil hname.ne_nil
  have hletter := hname.isNameChar d (hd ▸ List.mem_cons_self)
  rw [hd] at hc
  obtain rfl : d = c := by simpa using hc
  cases hblank : isBlank d with
  | false => rfl
  | true => rw [isNameChar_of_isBlank hblank] at hletter; cases hletter

/-- A placeholder is found where it stands. -/
theorem length?_append {mark : List Char} (h : Mark name mark) (rest : List Char) :
    length? name (mark ++ rest) = some mark.length := by
  obtain ⟨hbefore, hafter⟩ := h
  rename_i before after
  have hinner : (before ++ (name.toList ++ (after ++ ['\x7d', '\x7d'])) ++ rest).dropWhile isBlank =
      name.toList ++ (after ++ '\x7d' :: '\x7d' :: rest) := by
    rw [List.append_assoc, dropWhile_append_of_head hbefore]
    · simp
    · rw [List.append_assoc]
      exact hname.head?_append
  have hend : (after ++ '\x7d' :: '\x7d' :: rest).dropWhile isBlank = '\x7d' :: '\x7d' :: rest := by
    refine dropWhile_append_of_head hafter fun c hc => ?_
    obtain rfl : '\x7d' = c := by simpa using hc
    decide +kernel
  have hprefix : name.toList.isPrefixOf
      (name.toList ++ (after ++ '\x7d' :: '\x7d' :: rest)) = true :=
    List.isPrefixOf_iff_prefix.mpr (List.prefix_append ..)
  simp only [List.cons_append, length?, hinner, hprefix, if_true, ← String.length_toList,
    List.drop_left, hend]
  simp
  omega

/-- Two placeholders at the beginning of a text are the same. -/
theorem Mark.eq_of_append {name' : String} (hname' : IsName name')
    {mark mark' rest rest' : List Char} (h : Mark name mark) (h' : Mark name' mark')
    (heq : mark ++ rest = mark' ++ rest') :
    name = name' ∧ mark = mark' ∧ rest = rest' := by
  have hsame : name = name' := by
    have hread {name : String} (hname : IsName name) {mark : List Char} (h : Mark name mark)
        (rest : List Char) :
        (((mark ++ rest).drop 2).dropWhile isBlank).takeWhile isNameChar = name.toList := by
      obtain ⟨hbefore, hafter⟩ := h
      simp only [List.cons_append, List.drop_succ_cons, List.drop_zero, List.append_assoc]
      rw [dropWhile_append_of_head hbefore hname.head?_append,
        takeWhile_append_of_head hname.isNameChar]
      intro c hc
      rw [List.head?_append, Option.mem_def, Option.or_eq_some_iff] at hc
      rcases hc with hc | ⟨-, hc⟩
      · exact isNameChar_of_isBlank (hafter c (List.mem_of_mem_head? hc))
      · obtain rfl : '\x7d' = c := by simpa using hc
        decide +kernel
    rw [← String.toList_inj, ← hread hname h rest, heq, hread hname' h']
  subst hsame
  have hlength : mark.length = mark'.length := by
    have hfound := length?_append hname h rest
    rw [heq, length?_append hname h' rest'] at hfound
    exact (Option.some.inj hfound).symm
  exact ⟨rfl, List.append_inj heq hlength⟩

/-- The double brace that a placeholder begins with stands in it once, and it has no quote. -/
theorem Mark.exists_inner {mark : List Char} (h : Mark name mark) :
    ∃ inner, mark = '\x7b' :: '\x7b' :: inner ∧ inner ≠ [] ∧
      ∀ c ∈ inner, c ≠ '\x7b' ∧ c ≠ quote := by
  obtain ⟨hbefore, hafter⟩ := h
  have hblank {c : Char} (hc : isBlank c = true) : c ≠ '\x7b' ∧ c ≠ quote := by
    constructor <;> rintro rfl <;> exact absurd hc (by decide +kernel)
  refine ⟨_, rfl, by simp, fun c hc => ?_⟩
  simp only [List.mem_append] at hc
  rcases hc with hc | hc | hc | hc
  · exact hblank (hbefore c hc)
  · have hletter := hname.isNameChar c hc
    simp only [Placeholder.isNameChar, Bool.and_eq_true, bne_iff_ne] at hletter
    exact ⟨hletter.1.1.2, hletter.2⟩
  · exact hblank (hafter c hc)
  · obtain rfl : c = '\x7d' := by simpa using hc
    decide

theorem Mark.quote_notMem {mark : List Char} (h : Mark name mark) : quote ∉ mark := by
  obtain ⟨inner, rfl, -, hinner⟩ := h.exists_inner hname
  have hbrace : quote ≠ '\x7b' := by decide
  simp only [List.mem_cons, hbrace, false_or]
  exact fun hmem => (hinner quote hmem).2 rfl

end

/-- What is found is a placeholder. -/
theorem exists_mark_of_length? {name : String} {cs : List Char} {n : Nat}
    (h : length? name cs = some n) : ∃ mark rest, Mark name mark ∧ cs = mark ++ rest := by
  unfold length? at h
  split at h
  · rename_i inner
    simp only at h
    split at h
    · rename_i hprefix
      split at h
      · rename_i rest hend
        obtain ⟨tail, htail⟩ := List.isPrefixOf_iff_prefix.mp hprefix
        have hdrop : (inner.dropWhile isBlank).drop name.length = tail := by
          rw [← htail, ← String.length_toList, List.drop_left]
        rw [hdrop] at hend
        have hbefore : ∀ c ∈ inner.takeWhile isBlank, isBlank c = true :=
          fun c hc => List.mem_takeWhile_imp hc
        have hafter : ∀ c ∈ tail.takeWhile isBlank, isBlank c = true :=
          fun c hc => List.mem_takeWhile_imp hc
        refine ⟨_, rest, .intro hbefore hafter, ?_⟩
        have htail' : tail = tail.takeWhile isBlank ++ '\x7d' :: '\x7d' :: rest := by
          rw [← hend, List.takeWhile_append_dropWhile]
        have hinner : inner = inner.takeWhile isBlank ++ (name.toList ++ tail) := by
          rw [htail, List.takeWhile_append_dropWhile]
        simp only [List.cons_append, List.append_assoc, List.nil_append, ← htail', ← hinner]
      · cases h
    · cases h
  · cases h

theorem length?_eq_none {name : String} {cs : List Char}
    (h : ∀ mark, Mark name mark → ¬mark <+: cs) : length? name cs = none := by
  cases hfound : length? name cs with
  | none => rfl
  | some n =>
    obtain ⟨mark, rest, hmark, rfl⟩ := exists_mark_of_length? hfound
    exact absurd (List.prefix_append mark rest) (h mark hmark)

/-! ### One pass -/

section

variable {found : List Char → Option Nat} {replacement cs : List Char}

theorem replacePass_append_of_none {text : List Char}
    (h : ∀ c ∈ text, ∀ rest, found (c :: rest) = none) :
    replacePass found replacement 0 (text ++ cs) =
      text ++ replacePass found replacement 0 cs := by
  induction text with
  | nil => rfl
  | cons c text ih =>
    obtain ⟨hc, htext⟩ := List.forall_mem_cons.mp h
    rw [List.cons_append, replacePass, hc, ih htext, List.cons_append]

theorem replacePass_skip (covered : List Char) :
    replacePass found replacement covered.length (covered ++ cs) =
      replacePass found replacement 0 cs := by
  induction covered with
  | nil => rfl
  | cons c covered ih => exact ih

theorem replacePass_append_of_found {part : List Char} (hne : part ≠ [])
    (h : found (part ++ cs) = some part.length) :
    replacePass found replacement 0 (part ++ cs) =
      replacement ++ replacePass found replacement 0 cs := by
  obtain ⟨c, covered, rfl⟩ := List.exists_cons_of_ne_nil hne
  rw [List.cons_append] at h ⊢
  rw [replacePass, h]
  exact congrArg _ (replacePass_skip covered)

end

/-! ### All placeholders at once -/

/-- `out` is `cs` with every placeholder of `ps` replaced by its text.  Each place of `cs` is looked
at as it stands there, and no replacement is looked at again. -/
inductive Filled (ps : List (String × String)) : List Char → List Char → Prop
  | nil : Filled ps [] []
  | mark {name text : String} {mark cs out : List Char} (hp : (name, text) ∈ ps)
      (hmark : Mark name mark) (h : Filled ps cs out) : Filled ps (mark ++ cs) (text.toList ++ out)
  | keep {c : Char} {cs out : List Char}
      (hnone : ∀ p ∈ ps, ∀ mark, Mark p.1 mark → ¬mark <+: c :: cs) (h : Filled ps cs out) :
      Filled ps (c :: cs) (c :: out)

/-- Placeholders to be filled in: names, no two of them the same, with literals. -/
structure Fillable (ps : List (String × String)) : Prop where
  isName : ∀ p ∈ ps, IsName p.1
  nodup : (ps.map Prod.fst).Nodup
  literal : ∀ p ∈ ps, ∃ value, p.2 = encode value

theorem Fillable.of_append {ps qs : List (String × String)} (h : Fillable (ps ++ qs)) :
    Fillable ps := by
  refine ⟨fun p hp => h.isName p (List.mem_append_left _ hp), ?_,
    fun p hp => h.literal p (List.mem_append_left _ hp)⟩
  have hnodup := h.nodup
  rw [List.map_append] at hnodup
  exact hnodup.of_append_left

theorem encode_toList (value : String) :
    (encode value).toList = quote :: (double value.toList ++ [quote]) :=
  String.toList_ofList

namespace Filled

variable {ps : List (String × String)} {cs out : List Char}

theorem refl (cs : List Char) : Filled [] cs cs := by
  induction cs with
  | nil => exact .nil
  | cons c cs ih => exact .keep (List.forall_mem_nil _) ih

section

variable (hps : Fillable ps)
include hps

/-- What begins a filled text and has no quote began the text before. -/
theorem begins_of_begins (h : Filled ps cs out) {w : List Char} (hquote : quote ∉ w)
    (hw : w <+: out) : w <+: cs := by
  induction h generalizing w with
  | nil => exact hw
  | @mark name text mark cs out hp hmark h ih =>
    obtain ⟨value, rfl⟩ : ∃ value, text = encode value := hps.literal _ hp
    cases w with
    | nil => exact List.nil_prefix
    | cons c w =>
      rw [encode_toList, List.cons_append] at hw
      exact absurd ((List.cons_prefix_cons.mp hw).1 ▸ List.mem_cons_self) hquote
  | keep hnone h ih =>
    cases w with
    | nil => exact List.nil_prefix
    | cons c w =>
      obtain ⟨rfl, hrest⟩ := List.cons_prefix_cons.mp hw
      exact List.cons_prefix_cons.mpr ⟨rfl, ih (mt (List.mem_cons_of_mem _) hquote) hrest⟩

/-- No placeholder begins without a brace. -/
theorem exists_append_of_notMem {w : List Char} (hw : '\x7b' ∉ w) (h : Filled ps (w ++ cs) out) :
    ∃ out', out = w ++ out' ∧ Filled ps cs out' := by
  induction w generalizing out with
  | nil => exact ⟨out, rfl, h⟩
  | cons c w ih =>
    obtain ⟨hc, hw⟩ := not_or.mp (mt List.mem_cons.mpr hw)
    generalize hcs : c :: w ++ cs = text at h
    cases h with
    | nil => cases hcs
    | mark hp hmark h =>
      obtain ⟨inner, rfl, -⟩ := hmark.exists_inner (hps.isName _ hp)
      exact absurd (List.cons.inj hcs).1.symm hc
    | keep hnone h =>
      obtain ⟨rfl, rfl⟩ := List.cons.inj hcs
      obtain ⟨out', rfl, h'⟩ := ih hw h
      exact ⟨out', rfl, h'⟩

/-- A placeholder of another name is left as it is, since none of `ps` begins in it. -/
theorem exists_append_of_mark {name : String} (hname : IsName name)
    (hnew : name ∉ ps.map Prod.fst) {mark : List Char} (hmark : Mark name mark)
    (h : Filled ps (mark ++ cs) out) : ∃ out', out = mark ++ out' ∧ Filled ps cs out' := by
  obtain ⟨inner, hinner, hne, hclear⟩ := hmark.exists_inner hname
  generalize htext : mark ++ cs = text at h
  cases h with
  | nil => simp [hinner] at htext
  | mark hp hmark' h =>
    obtain ⟨rfl, -⟩ := hmark.eq_of_append hname (hps.isName _ hp) hmark' htext
    exact absurd (List.mem_map_of_mem hp) hnew
  | keep hnone h =>
    rw [hinner, List.cons_append] at htext
    obtain ⟨rfl, rfl⟩ := List.cons.inj htext
    -- The second brace begins no placeholder, as no brace comes after it.
    generalize htext : '\x7b' :: inner ++ cs = text at h
    cases h with
    | nil => cases htext
    | mark hp hmark' h =>
      obtain ⟨inner', rfl, -⟩ := hmark'.exists_inner (hps.isName _ hp)
      obtain ⟨c, rest, rfl⟩ := List.exists_cons_of_ne_nil hne
      have hbrace : c = '\x7b' := (List.cons.inj (List.cons.inj htext).2).1
      exact absurd hbrace (hclear c List.mem_cons_self).1
    | keep hnone h =>
      obtain ⟨rfl, rfl⟩ := List.cons.inj htext
      obtain ⟨out', rfl, h'⟩ := exists_append_of_notMem hps
        (fun hmem => (hclear _ hmem).1 rfl) h
      exact ⟨out', by rw [hinner]; rfl, h'⟩

/-- Filling in one more kind of placeholder: where the texts so far have no braces, it is as if the
new kind had been filled in together with the others. -/
theorem step (hbrace : ∀ p ∈ ps, '\x7b' ∉ p.2.toList) {name text : String} (hname : IsName name)
    (hnew : name ∉ ps.map Prod.fst) (h : Filled ps cs out) :
    Filled (ps ++ [(name, text)]) cs (replacePass (length? name) text.toList 0 out) := by
  induction hlength : cs.length using Nat.strong_induction_on generalizing cs out with
  | _ n ih =>
    subst hlength
    cases h with
    | nil => exact .nil
    | @mark name' text' mark cs out hp hmark h =>
      have hshort : cs.length < (mark ++ cs).length := by
        obtain ⟨inner, rfl, -⟩ := hmark.exists_inner (hps.isName _ hp)
        simp
        omega
      have hnone : ∀ c ∈ text'.toList, ∀ rest, length? name (c :: rest) = none := by
        intro c hc rest
        refine length?_eq_none fun mark' hmark' hprefix => ?_
        obtain ⟨inner, rfl, -⟩ := hmark'.exists_inner hname
        exact hbrace _ hp ((List.cons_prefix_cons.mp hprefix).1 ▸ hc)
      rw [replacePass_append_of_none hnone]
      exact .mark (List.mem_append_left _ hp) hmark (ih _ hshort h rfl)
    | @keep c cs out hnone h =>
      by_cases hfound : ∃ mark, Mark name mark ∧ mark <+: c :: cs
      · obtain ⟨mark, hmark, rest, hrest⟩ := hfound
        have hkept : Filled ps (mark ++ rest) (c :: out) := hrest ▸ .keep hnone h
        obtain ⟨out', hout, h'⟩ := exists_append_of_mark hps hname hnew hmark hkept
        obtain ⟨inner, hinner, -⟩ := hmark.exists_inner hname
        have hshort : rest.length < (c :: cs).length := by
          rw [← hrest, hinner]
          simp
          omega
        rw [hout, ← hrest, replacePass_append_of_found (by simp [hinner])
          (length?_append hname hmark out')]
        exact .mark (List.mem_append_right _ (List.mem_singleton_self _)) hmark
          (ih _ hshort h' rfl)
      · rw [not_exists] at hfound
        have hkept : length? name (c :: out) = none := by
          refine length?_eq_none fun mark hmark hprefix => hfound mark ⟨hmark, ?_⟩
          exact (Filled.keep hnone h).begins_of_begins hps (hmark.quote_notMem hname) hprefix
        rw [replacePass, hkept]
        refine .keep (fun p hp => ?_) (ih _ (Nat.lt_succ_self _) h rfl)
        rcases List.mem_append.mp hp with hp | hp
        · exact hnone p hp
        · obtain rfl := List.mem_singleton.mp hp
          exact fun mark hmark hprefix => hfound mark ⟨hmark, hprefix⟩

/-- A text has one filled form. -/
theorem unique {out' : List Char} (h : Filled ps cs out) (h' : Filled ps cs out') : out = out' := by
  induction h generalizing out' with
  | nil =>
    generalize hcs : ([] : List Char) = cs at h'
    cases h' with
    | nil => rfl
    | mark hp hmark h' =>
      obtain ⟨inner, rfl, -⟩ := hmark.exists_inner (hps.isName _ hp)
      cases hcs
    | keep hnone h' => cases hcs
  | @mark name text mark cs out hp hmark h ih =>
    generalize hcs : mark ++ cs = text' at h'
    cases h' with
    | nil =>
      obtain ⟨inner, rfl, -⟩ := hmark.exists_inner (hps.isName _ hp)
      cases hcs
    | @mark name' text' mark' cs' out' hp' hmark' h' =>
      obtain ⟨rfl, rfl, rfl⟩ :=
        hmark.eq_of_append (hps.isName _ hp) (hps.isName _ hp') hmark' hcs
      obtain rfl : text = text' := by
        exact congrArg Prod.snd (List.inj_on_of_nodup_map hps.nodup hp hp' rfl)
      rw [ih h']
    | keep hnone h' => exact absurd (hcs ▸ List.prefix_append mark cs) (hnone _ hp mark hmark)
  | @keep c cs out hnone h ih =>
    generalize hcs : c :: cs = text at h'
    cases h' with
    | nil => cases hcs
    | mark hp hmark h' => exact absurd (hcs ▸ List.prefix_append _ _) (hnone _ hp _ hmark)
    | keep hnone' h' =>
      obtain ⟨rfl, rfl⟩ := List.cons.inj hcs
      rw [ih h']

/-- A placeholder in a filled text stands within a text that was filled in. -/
theorem exists_text_around (h : Filled ps cs out) {name : String} (hname : name ∈ ps.map Prod.fst)
    {mark : List Char} (hmark : Mark name mark) (hin : mark <:+: out) :
    ∃ p ∈ ps, mark <:+: p.2.toList := by
  obtain ⟨p, hp, rfl⟩ := List.mem_map.mp hname
  have hquote := hmark.quote_notMem (hps.isName p hp)
  obtain ⟨inner, hinner, -⟩ := hmark.exists_inner (hps.isName p hp)
  induction h with
  | nil => simp [hinner] at hin
  | @mark name text mark' cs out hp' hmark' h ih =>
    obtain ⟨value, rfl⟩ : ∃ value, text = encode value := hps.literal _ hp'
    have hin' : mark <:+: quote :: double value.toList ++ quote :: out := by
      simpa [encode_toList] using hin
    rcases infix_of_infix_append_cons hquote hin' with hin | hin
    · refine ⟨_, hp', ?_⟩
      rw [encode_toList, ← List.cons_append]
      exact hin.trans (List.prefix_append ..).isInfix
    · exact ih hin
  | keep hnone h ih =>
    rcases List.infix_cons_iff.mp hin with hstarts | hin
    · exact absurd ((Filled.keep hnone h).begins_of_begins hps hquote hstarts)
        (hnone p hp mark hmark)
    · exact ih hin

end

/-- One placeholder after the other: where no literal but the last has a brace in it, they are all
filled in as if at once. -/
theorem foldl_fill {done todo : List (String × String)} {sql filled : String}
    (hps : Fillable (done ++ todo))
    (hbrace : ∀ p ∈ (done ++ todo).dropLast, '\x7b' ∉ p.2.toList)
    (h : Filled done sql.toList filled.toList) :
    Filled (done ++ todo) sql.toList (todo.foldl fill filled).toList := by
  induction todo generalizing done filled with
  | nil => simpa using h
  | cons p todo ih =>
    obtain ⟨name, text⟩ := p
    have hassoc : done ++ (name, text) :: todo = done ++ [(name, text)] ++ todo := by simp
    have hdone : ∀ q ∈ done, '\x7b' ∉ q.2.toList := fun q hq =>
      hbrace q (by simp [hq])
    have hnew : name ∉ done.map Prod.fst := by
      have hnodup := hps.nodup
      rw [List.map_append, List.nodup_append] at hnodup
      exact fun hmem => hnodup.2.2 name hmem name (by simp) rfl
    have hstep : Filled (done ++ [(name, text)]) sql.toList (fill filled (name, text)).toList := by
      rw [fill, Text.replaceFound, String.toList_ofList]
      exact h.step hps.of_append hdone (hps.isName (name, text) (by simp)) hnew
    rw [hassoc] at hps hbrace ⊢
    exact ih hps hbrace hstep

end Filled

end Placeholder

/-! ### Overrides -/

open Placeholder

/-- The literal of a time has no braces. -/
theorem Dialect.exists_encode_of_formatTimestamp (d : Dialect) {t : DateTime} {q : Sql}
    (h : d.formatTimestamp t = .ok q) :
    ∃ value, q.text = encode value ∧ '\x7b' ∉ q.text.toList := by
  obtain ⟨u, -, rfl⟩ := d.formatTimestamp_eq_ok.mp h
  refine ⟨u.stampText, Sql.text_literal _, ?_⟩
  have hquote : ∀ c ∈ (String.singleton quote).toList, c ≠ '\x7b' := forall_of_all rfl
  have hstamp : ∀ c ∈ u.stampText.toList, c ≠ '\x7b' :=
    u.forall_stampText (fun _ hc => ne_of_isDigit hc rfl) (forall_of_all rfl)
  rw [Sql.text_literal, Literal.encode_of_clear (.stamp u)]
  exact fun hmem => forall_append (forall_append hquote hstamp) hquote _ hmem rfl

namespace ExperimentDefinition

/-- The names of the placeholders of an override. -/
def placeholderNames : List String := ["dateStart", "dateEnd", "experimentKey"]

variable (e : ExperimentDefinition) (d : Dialect) (phase : ExperimentPhase) (now : DateTime)

theorem placeholders_eq_ok {ps : List (String × String)} :
    e.placeholders d phase now = .ok ps ↔
      ∃ first last, d.formatTimestamp phase.dateStarted = .ok first ∧
        d.formatTimestamp (phase.dateEnded.getD now) = .ok last ∧
        placeholderNames.zip [first.text, last.text, encode e.trackingKey] = ps := by
  simp only [placeholders, Except.bind_eq_ok, Except.pure_eq_ok, Sql.text_literal, exists_and_left]
  rfl

theorem isName_of_mem : ∀ name ∈ placeholderNames, IsName name :=
  List.forall_mem_cons.mpr ⟨.of rfl, List.forall_mem_cons.mpr ⟨.of rfl,
    List.forall_mem_singleton.mpr (.of rfl)⟩⟩

theorem fillable_placeholders {ps : List (String × String)}
    (h : e.placeholders d phase now = .ok ps) :
    Fillable ps ∧ ∀ p ∈ ps.dropLast, '\x7b' ∉ p.2.toList := by
  obtain ⟨first, last, hfirst, hlast, rfl⟩ := (e.placeholders_eq_ok d phase now).mp h
  obtain ⟨start, hstart, hfirst⟩ := d.exists_encode_of_formatTimestamp hfirst
  obtain ⟨stop, hstop, hlast⟩ := d.exists_encode_of_formatTimestamp hlast
  refine ⟨⟨fun p hp => isName_of_mem _ (List.of_mem_zip hp).1, ?_, fun p hp => ?_⟩, ?_⟩
  · exact show placeholderNames.Nodup by decide
  · have htext := (List.of_mem_zip hp).2
    simp only [List.mem_cons, List.not_mem_nil, or_false] at htext
    rcases htext with htext | htext | htext
    · exact ⟨start, htext.trans hstart⟩
    · exact ⟨stop, htext.trans hstop⟩
    · exact ⟨_, htext⟩
  · exact List.forall_mem_cons.mpr ⟨hfirst, List.forall_mem_singleton.mpr hlast⟩

theorem text_eq_of_brace {ps : List (String × String)} (h : e.placeholders d phase now = .ok ps)
    {p : String × String} (hp : p ∈ ps) (hbrace : '\x7b' ∈ p.2.toList) :
    p.2 = encode e.trackingKey := by
  obtain ⟨first, last, hfirst, hlast, rfl⟩ := (e.placeholders_eq_ok d phase now).mp h
  obtain ⟨-, -, hfirst⟩ := d.exists_encode_of_formatTimestamp hfirst
  obtain ⟨-, -, hlast⟩ := d.exists_encode_of_formatTimestamp hlast
  have htext := (List.of_mem_zip hp).2
  simp only [List.mem_cons, List.not_mem_nil, or_false] at htext
  rcases htext with htext | htext | htext
  · exact absurd (htext ▸ hbrace) hfirst
  · exact absurd (htext ▸ hbrace) hlast
  · exact htext

theorem override_eq_ok_some {key text : String} :
    e.override d phase key now = .ok (some text) ↔
      ∃ sql ps, e.sqlOverride.lookup key = some sql ∧ e.placeholders d phase now = .ok ps ∧
        ps.foldl fill sql = text := by
  unfold override
  cases e.sqlOverride.lookup key with
  | none => simp
  | some sql => simp [Except.map_eq_ok]

/-- An override has a text exactly if the start of the phase and its end, or else the time now, have
literals.  Then the text is the override with all placeholders replaced at once, by these two
literals and the literal of the experiment's key, and any placeholder in it stands in the key. -/
theorem override_at_once (key text : String) :
    (e.override d phase key now = .ok (some text) ↔
      ∃ sql first last, e.sqlOverride.lookup key = some sql ∧
        d.formatTimestamp phase.dateStarted = .ok first ∧
        d.formatTimestamp (phase.dateEnded.getD now) = .ok last ∧
        Filled (placeholderNames.zip [first.text, last.text, encode e.trackingKey])
          sql.toList text.toList) ∧
    (e.override d phase key now = .ok (some text) →
      ∀ name ∈ placeholderNames, ∀ mark, Mark name mark → mark <:+: text.toList →
        mark <:+: e.trackingKey.toList ∧ ['\x7b', '\x7b'] <:+: e.trackingKey.toList) := by
  have hfilled {ps : List (String × String)} (hps : e.placeholders d phase now = .ok ps)
      (sql : String) : Filled ps sql.toList (ps.foldl fill sql).toList := by
    obtain ⟨hfillable, hbrace⟩ := e.fillable_placeholders d phase now hps
    rw [← List.nil_append ps] at hfillable hbrace
    exact Filled.foldl_fill hfillable hbrace (.refl _)
  simp only [override_eq_ok_some]
  constructor
  · constructor
    · rintro ⟨sql, ps, hsql, hps, rfl⟩
      obtain ⟨first, last, hfirst, hlast, rfl⟩ := (e.placeholders_eq_ok d phase now).mp hps
      exact ⟨sql, first, last, hsql, hfirst, hlast, hfilled hps sql⟩
    · rintro ⟨sql, first, last, hsql, hfirst, hlast, htext⟩
      have hps := (e.placeholders_eq_ok d phase now).mpr ⟨first, last, hfirst, hlast, rfl⟩
      have hfillable := (e.fillable_placeholders d phase now hps).1
      exact ⟨sql, _, hsql, hps, String.toList_inj.mp ((hfilled hps sql).unique hfillable htext)⟩
  · rintro ⟨sql, ps, hsql, hps, rfl⟩ name hname mark hmark hin
    obtain ⟨p, hp, hwithin⟩ : ∃ p ∈ ps, mark <:+: p.2.toList := by
      refine (hfilled hps sql).exists_text_around (e.fillable_placeholders d phase now hps).1
        ?_ hmark hin
      obtain ⟨first, last, -, -, rfl⟩ := (e.placeholders_eq_ok d phase now).mp hps
      exact hname
    have hquote := hmark.quote_notMem (isName_of_mem name hname)
    obtain ⟨inner, hinner, -⟩ := hmark.exists_inner (isName_of_mem name hname)
    -- The literals of the times have no braces, so the placeholder stands in that of the key.
    have hbrace : '\x7b' ∈ p.2.toList := hwithin.subset (by simp [hinner])
    rw [e.text_eq_of_brace d phase now hps hp hbrace, encode_toList] at hwithin
    have hdouble : mark <:+: double e.trackingKey.toList := by
      rw [← List.nil_append (quote :: _)] at hwithin
      rcases infix_of_infix_append_cons hquote hwithin with hnil | hwithin
      · simp [hinner] at hnil
      · rcases infix_of_infix_append_cons hquote hwithin with hdouble | hnil
        · exact hdouble
        · simp [hinner] at hnil
    have hkey := Literal.infix_of_infix_double hquote hdouble
    exact ⟨hkey, .trans ⟨[], inner, by simp [hinner]⟩ hkey⟩

/-- Braces beside a placeholder join nothing, and a key that is a placeholder stays as it is. -/
theorem override_at_once_braces :
    let e : ExperimentDefinition := { minimal "e" "\x7b\x7bdateEnd\x7d\x7d" ["control"] with
      sqlOverride := [("users",
        "\x7b\x7b\x7b\x7b dateStart \x7d\x7ddateEnd\x7d\x7d \x7b\x7bexperimentKey\x7d\x7d")] }
    let midnight : DateTime := ⟨⟨738000, by decide⟩, ⟨0, by decide⟩, ⟨0, by decide⟩, none⟩
    let text := "\x7b\x7b\x272021-07-30 00:00:00\x27dateEnd\x7d\x7d \x27\x7b\x7bdateEnd\x7d\x7d\x27"
    e.override ⟨.postgres, none, none⟩ ⟨midnight, none⟩ "users" midnight = .ok (some text) ∧
      ∀ mark, Mark "dateEnd" mark → mark <:+: text.toList → mark <:+: e.trackingKey.toList := by
  intro e midnight text
  have h : e.override ⟨.postgres, none, none⟩ ⟨midnight, none⟩ "users" midnight =
      .ok (some text) := by decide +kernel
  exact ⟨h, fun mark hmark hin => ((e.override_at_once _ _ _ _ text).2 h "dateEnd" (by decide) mark
    hmark hin).1⟩

end ExperimentDefinition

end SplitTest

import SplitTest.Proofs.Regex.Matching

/-! Regular expressions read from texts.  The reader goes from character to character and keeps
what the open groups hold so far; what stands within a group is read as it is alone, since it never
looks at the groups around it.  So a text in parentheses between two points that may be repeated is
read as its expression between them, whatever it holds.  Each expression is read from a text of its
own. -/

namespace SplitTest.Regex

/-! ### Readers -/

/-- A character that does not stand for itself everywhere. -/
def isMark (c : Char) : Bool :=
  c ∈ ['\\', '^', '$', '.', '|', '?', '*', '+', '(', ')', '[', ']', '{', '}', '-']

/-- A character of an expression, and whether a backslash stands in front of it. -/
structure Token where
  char : Char
  escaped : Bool
  deriving DecidableEq

/-- A class that is being read.  Its ranges are kept last first. -/
inductive Bracket
  /-- Nothing has been read but the bracket. -/
  | opened
  /-- A range is complete, or a caret has been read. -/
  | ranges (negated : Bool) (ranges : List CharRange)
  /-- A character has been read that may start a range. -/
  | char (negated : Bool) (ranges : List CharRange) (c : Char)
  /-- A character and a hyphen have been read. -/
  | hyphen (negated : Bool) (ranges : List CharRange) (c : Char)

namespace Bracket

/-- Reads the start of a range or the end of the class. -/
def next (negated : Bool) (ranges : List CharRange) (t : Token) : Option (Bracket ⊕ CharClass) :=
  if t = ⟨']', false⟩ then
    if h : ranges = [] then none else some (.inr ⟨negated, ranges, h⟩)
  else if t = ⟨'[', false⟩ ∨ t = ⟨'-', false⟩ then none
  else some (.inl (.char negated ranges t.char))

/-- Reads a character of a class, which may complete it. -/
def step : Bracket → Token → Option (Bracket ⊕ CharClass)
  | opened, t => if t = ⟨'^', false⟩ then some (.inl (.ranges true [])) else next false [] t
  | ranges negated rs, t => next negated rs t
  | char negated rs c, t =>
    if t = ⟨'-', false⟩ then some (.inl (.hyphen negated rs c))
    else next negated (⟨c, c, Char.le_refl c⟩ :: rs) t
  | hyphen negated rs c, t =>
    if t = ⟨']', false⟩ ∨ t = ⟨'[', false⟩ ∨ t = ⟨'-', false⟩ then none
    else if h : c ≤ t.char then some (.inl (.ranges negated (⟨c, t.char, h⟩ :: rs)))
    else none

end Bracket

/-- Expressions one after the other, given last first. -/
def sequence : List Regex → Regex
  | [] => empty
  | [e] => e
  | e :: rest => seq (sequence rest) e

/-- An expression after other alternatives, which are given last first. -/
def alternation : List Regex → Regex → Regex
  | [], e => e
  | a :: rest, e => alt (alternation rest a) e

/-- What a group holds so far: the alternatives before the last bar and what follows it, both last
first. -/
structure Frame where
  alternatives : List Regex
  items : List Regex

namespace Frame

def expression (f : Frame) : Regex := alternation f.alternatives (sequence f.items)

def push (f : Frame) (e : Regex) : Frame := { f with items := e :: f.items }

/-- Starts a new alternative. -/
def bar (f : Frame) : Frame := ⟨sequence f.items :: f.alternatives, []⟩

/-- Lets the last expression be repeated, if there is one. -/
def star? (f : Frame) : Option Frame :=
  match f.items with
  | [] => none
  | e :: rest => some { f with items := .star e :: rest }

end Frame

/-- What has been read of an expression. -/
structure Reader where
  /-- A backslash stands in front of the next character. -/
  escape : Bool
  /-- The class that is open. -/
  bracket : Option Bracket
  /-- The innermost group that is open, or the whole. -/
  frame : Frame
  /-- The groups around it, innermost first. -/
  outer : List Frame

namespace Reader

def initial : Reader := ⟨false, none, ⟨[], []⟩, []⟩

def push (r : Reader) (e : Regex) : Reader := { r with frame := r.frame.push e }

/-- Reads a character outside of classes that no backslash stands in front of. -/
def plain (r : Reader) (c : Char) : Option Reader :=
  match c with
  | '.' => some (r.push .any)
  | '^' => some (r.push .start)
  | '$' => some (r.push .finish)
  | '|' => some { r with frame := r.frame.bar }
  | '*' => r.frame.star?.map fun frame => { r with frame }
  | '(' => some { r with frame := ⟨[], []⟩, outer := r.frame :: r.outer }
  | ')' =>
    match r.outer with
    | [] => none
    | frame :: outer => some { r with frame := frame.push (.group r.frame.expression), outer }
  | '[' => some { r with bracket := some .opened }
  | c => if isMark c && c != '-' then none else some (r.push (.char c))

/-- Reads a character that is not a backslash in front of another. -/
def take (r : Reader) (t : Token) : Option Reader :=
  match r.bracket with
  | some b =>
    (b.step t).map fun
      | .inl b => { r with bracket := some b }
      | .inr k => { r with bracket := none, frame := r.frame.push (.oneOf k) }
  | none => if t.escaped then some (r.push (.char t.char)) else r.plain t.char

/-- Reads a character.  A backslash lets a mark stand for itself, and it stands in front of marks
only. -/
def step (r : Reader) (c : Char) : Option Reader :=
  if r.escape then
    if isMark c then { r with escape := false }.take ⟨c, true⟩ else none
  else if c = '\\' then some { r with escape := true }
  else r.take ⟨c, false⟩

def run (r : Reader) (cs : List Char) : Option Reader := cs.foldlM step r

/-- The expression that has been read, if nothing is open. -/
def expression? : Reader → Option Regex
  | ⟨false, none, frame, []⟩ => some frame.expression
  | _ => none

end Reader

def parse? (cs : List Char) : Option Regex := (Reader.initial.run cs).bind Reader.expression?

/-! ### Texts one after the other -/

namespace Reader

variable {r r' r'' : Reader}

theorem run_append {cs ds : List Char} (hcs : r.run cs = some r') (hds : r'.run ds = some r'') :
    r.run (cs ++ ds) = some r'' := by
  rw [run, List.foldlM_append]
  exact Option.bind_eq_some_iff.mpr ⟨r', hcs, hds⟩

theorem run_cons {c : Char} {cs : List Char} (hc : r.step c = some r')
    (hcs : r'.run cs = some r'') : r.run (c :: cs) = some r'' := by
  rw [run, List.foldlM_cons]
  exact Option.bind_eq_some_iff.mpr ⟨r', hc, hcs⟩

/-! ### Groups -/

/-- The reader with more groups around those that are open. -/
def under (r : Reader) (outer : List Frame) : Reader := { r with outer := r.outer ++ outer }

theorem plain_under {c : Char} (outer : List Frame) (h : r.plain c = some r') :
    (r.under outer).plain c = some (r'.under outer) := by
  -- Only a closing parenthesis looks at the groups around, and it takes the innermost one.
  unfold plain at h
  split at h
  case h_5 =>
    obtain ⟨frame, hframe, rfl⟩ := Option.map_eq_some_iff.mp h
    exact Option.map_eq_some_iff.mpr ⟨frame, hframe, rfl⟩
  case h_7 =>
    split at h
    · cases h
    · next frame rest hrest =>
      obtain rfl := Option.some.inj h
      simp [plain, under, hrest]
  case h_9 =>
    split at h
    · cases h
    · next hc =>
      obtain rfl := Option.some.inj h
      simp only [plain, if_neg hc]
      rfl
  all_goals
    obtain rfl := Option.some.inj h
    rfl

theorem take_under {t : Token} (outer : List Frame) (h : r.take t = some r') :
    (r.under outer).take t = some (r'.under outer) := by
  obtain ⟨escape, bracket, frame, groups⟩ := r
  cases bracket with
  | some b =>
    obtain ⟨read, hread, rfl⟩ := Option.map_eq_some_iff.mp h
    refine Option.map_eq_some_iff.mpr ⟨read, hread, ?_⟩
    cases read <;> rfl
  | none =>
    unfold take at h ⊢
    by_cases ht : t.escaped = true
    · obtain rfl := Option.some.inj ((if_pos ht).symm.trans h)
      exact if_pos ht
    · exact (if_neg ht).trans (plain_under outer ((if_neg ht).symm.trans h))

theorem step_under {c : Char} (outer : List Frame) (h : r.step c = some r') :
    (r.under outer).step c = some (r'.under outer) := by
  have hescape : (r.under outer).escape = r.escape := rfl
  unfold step at h ⊢
  rw [hescape]
  by_cases hr : r.escape = true
  · rw [if_pos hr] at h ⊢
    by_cases hc : isMark c = true
    · rw [if_pos hc] at h ⊢
      exact take_under outer h
    · rw [if_neg hc] at h
      cases h
  · rw [if_neg hr] at h ⊢
    by_cases hc : c = '\\'
    · rw [if_pos hc] at h ⊢
      obtain rfl := Option.some.inj h
      rfl
    · rw [if_neg hc] at h ⊢
      exact take_under outer h

/-- What a text in a group adds does not depend on the groups around it. -/
theorem run_under {cs : List Char} (outer : List Frame) (h : r.run cs = some r') :
    (r.under outer).run cs = some (r'.under outer) := by
  induction cs generalizing r with
  | nil =>
    obtain rfl := Option.some.inj h
    rfl
  | cons c cs ih =>
    rw [run, List.foldlM_cons] at h
    obtain ⟨next, hc, hcs⟩ := Option.bind_eq_some_iff.mp h
    exact run_cons (step_under outer hc) (ih hcs)

theorem expression?_eq_some_iff {e : Regex} :
    r.expression? = some e ↔ ∃ frame, r = ⟨false, none, frame, []⟩ ∧ frame.expression = e := by
  constructor
  · intro h
    unfold expression? at h
    split at h
    · next frame => exact ⟨frame, rfl, Option.some.inj h⟩
    · cases h
  · rintro ⟨frame, rfl, rfl⟩
    rfl

end Reader

theorem parse?_eq_some_iff {cs : List Char} {e : Regex} :
    parse? cs = some e ↔
      ∃ frame, Reader.initial.run cs = some ⟨false, none, frame, []⟩ ∧ frame.expression = e := by
  rw [parse?, Option.bind_eq_some_iff]
  constructor
  · rintro ⟨r, hrun, hr⟩
    obtain ⟨frame, rfl, hframe⟩ := Reader.expression?_eq_some_iff.mp hr
    exact ⟨frame, hrun, hframe⟩
  · rintro ⟨frame, hrun, hframe⟩
    exact ⟨_, hrun, Reader.expression?_eq_some_iff.mpr ⟨frame, rfl, hframe⟩⟩

/-- The parentheses hold all of an expression together, and nothing of it reaches out of them. -/
theorem parse?_within {cs : List Char} {e : Regex} (h : parse? cs = some e) :
    parse? (['.', '*', '('] ++ cs ++ [')', '.', '*']) = some e.within := by
  obtain ⟨frame, hrun, rfl⟩ := parse?_eq_some_iff.mp h
  -- What stands in front of the parenthesis waits for it to be closed.
  let outside : Frame := ⟨[], [star any]⟩
  have hfront : Reader.initial.run ['.', '*', '('] = some (Reader.initial.under [outside]) := rfl
  have hinside := Reader.run_under [outside] hrun
  refine parse?_eq_some_iff.mpr ⟨⟨[], [star any, group frame.expression, star any]⟩, ?_, rfl⟩
  exact Reader.run_append (Reader.run_append hfront hinside) rfl

/-! ### A text for each expression -/

/-- A character that stands for itself. -/
def charText (c : Char) : List Char := if isMark c then ['\\', c] else [c]

/-- The token of a character that stands for itself. -/
def charToken (c : Char) : Token := ⟨c, isMark c⟩

def rangeText (r : CharRange) : List Char := charText r.first ++ ['-'] ++ charText r.last

def classText (k : CharClass) : List Char :=
  ['['] ++ (if k.negated then ['^'] else []) ++ k.ranges.reverse.flatMap rangeText ++ [']']

/-- A text of an expression.  Whatever has parts that could come apart stands in parentheses. -/
def text : Regex → List Char
  | empty => ['(', ')']
  | char c => charText c
  | any => ['.']
  | oneOf k => classText k
  | start => ['^']
  | finish => ['$']
  | seq a b => ['('] ++ a.text ++ b.text ++ [')']
  | alt a b => ['('] ++ a.text ++ ['|'] ++ b.text ++ [')']
  | star a => a.text ++ ['*']
  | group a => ['('] ++ a.text ++ [')']

/-- The expression that is read from the text: the parentheses of the text are groups. -/
def grouped : Regex → Regex
  | empty => group empty
  | seq a b => group (seq a.grouped b.grouped)
  | alt a b => group (alt a.grouped b.grouped)
  | star a => star a.grouped
  | group a => group a.grouped
  | e => e

theorem matches_grouped (e : Regex) (m : Mode) (s : List Char) :
    e.grouped.Matches m s = e.Matches m s := by
  induction e with
  | empty | char c | any | oneOf k | start | finish => rfl
  | seq a b iha ihb =>
    ext i j
    simp only [grouped, Matches, iha, ihb]
  | alt a b iha ihb =>
    ext i j
    simp only [grouped, Matches, iha, ihb]
  | star a ih =>
    ext i j
    simp only [grouped, Matches, ih]
  | group a ih => exact ih

theorem charToken_ne (c : Char) {d : Char} (h : isMark d = true) : charToken c ≠ ⟨d, false⟩ := by
  intro heq
  obtain ⟨rfl, hc⟩ := Token.mk.inj heq
  exact Bool.false_ne_true (hc.symm.trans h)

namespace Bracket

theorem next_charToken (negated : Bool) (rs : List CharRange) (c : Char) :
    next negated rs (charToken c) = some (.inl (.char negated rs c)) := by
  have hother : ¬(charToken c = ⟨'[', false⟩ ∨ charToken c = ⟨'-', false⟩) :=
    not_or.mpr ⟨charToken_ne c rfl, charToken_ne c rfl⟩
  rw [next, if_neg (charToken_ne c rfl), if_neg hother]
  rfl

theorem step_ranges (negated : Bool) (rs : List CharRange) (c : Char) :
    (ranges negated rs).step (charToken c) = some (.inl (.char negated rs c)) :=
  next_charToken negated rs c

theorem step_opened (c : Char) :
    opened.step (charToken c) = some (.inl (.char false [] c)) := by
  rw [step, if_neg (charToken_ne c rfl), next_charToken]

theorem step_hyphen (negated : Bool) (rs : List CharRange) (r : CharRange) :
    (hyphen negated rs r.first).step (charToken r.last) =
      some (.inl (.ranges negated (r :: rs))) := by
  have hother : ¬(charToken r.last = ⟨']', false⟩ ∨ charToken r.last = ⟨'[', false⟩ ∨
      charToken r.last = ⟨'-', false⟩) :=
    not_or.mpr ⟨charToken_ne _ rfl, not_or.mpr ⟨charToken_ne _ rfl, charToken_ne _ rfl⟩⟩
  have hordered : r.first ≤ (charToken r.last).char := r.ordered
  rw [step, if_neg hother, dif_pos hordered]
  rfl

end Bracket

namespace Reader

variable {frame : Frame} {outer : List Frame}

theorem run_charText {c : Char} {bracket : Option Bracket} {r : Reader}
    (h : take ⟨false, bracket, frame, outer⟩ (charToken c) = some r) :
    run ⟨false, bracket, frame, outer⟩ (charText c) = some r := by
  by_cases hc : isMark c = true
  · rw [charText, if_pos hc]
    rw [charToken, hc] at h
    refine run_cons rfl (run_cons ?_ rfl)
    rw [step, if_pos rfl, if_pos hc]
    exact h
  · have hbackslash : c ≠ '\\' := by
      rintro rfl
      exact hc rfl
    rw [charText, if_neg hc]
    rw [charToken, Bool.eq_false_iff.mpr hc] at h
    refine run_cons ?_ rfl
    rw [step, if_neg Bool.false_ne_true, if_neg hbackslash]
    exact h

theorem take_charToken (c : Char) :
    take ⟨false, none, frame, outer⟩ (charToken c) =
      some ⟨false, none, frame.push (.char c), outer⟩ := by
  by_cases hc : isMark c = true
  · exact if_pos hc
  · have hplain : plain ⟨false, none, frame, outer⟩ c =
        some ⟨false, none, frame.push (.char c), outer⟩ := by
      unfold plain
      split
      case h_9 => simp [hc, push]
      all_goals exact absurd rfl hc
    exact (if_neg hc).trans hplain

theorem take_of_step {b b' : Bracket} {t : Token} (h : b.step t = some (.inl b')) :
    take ⟨false, some b, frame, outer⟩ t = some ⟨false, some b', frame, outer⟩ :=
  Option.map_eq_some_iff.mpr ⟨.inl b', h, rfl⟩

variable {b : Bracket} {negated : Bool} {rs : List CharRange}

/-- A range is read from its first and its last character. -/
theorem run_rangeText (hb : ∀ c, b.step (charToken c) = some (.inl (.char negated rs c)))
    (r : CharRange) :
    run ⟨false, some b, frame, outer⟩ (rangeText r) =
      some ⟨false, some (.ranges negated (r :: rs)), frame, outer⟩ := by
  have hlast := Bracket.step_hyphen negated rs r
  refine run_append (run_append (run_charText (take_of_step (hb r.first))) rfl) ?_
  exact run_charText (take_of_step hlast)

/-- After the first range nothing is left of what stands in front of it. -/
theorem run_ranges (hb : ∀ c, b.step (charToken c) = some (.inl (.char negated rs c)))
    {added : List CharRange} (hadded : added ≠ []) :
    run ⟨false, some b, frame, outer⟩ (added.flatMap rangeText) =
      some ⟨false, some (.ranges negated (added.reverse ++ rs)), frame, outer⟩ := by
  induction added generalizing b rs with
  | nil => exact absurd rfl hadded
  | cons r rest ih =>
    rw [List.flatMap_cons]
    refine run_append (run_rangeText hb r) ?_
    by_cases hrest : rest = []
    · rw [hrest]
      rfl
    · rw [ih (Bracket.step_ranges negated (r :: rs)) hrest, List.reverse_cons, List.append_assoc]
      rfl

theorem run_classText (k : CharClass) :
    run ⟨false, none, frame, outer⟩ (classText k) =
      some ⟨false, none, frame.push (.oneOf k), outer⟩ := by
  obtain ⟨negated, ranges, hranges⟩ := k
  have hreverse : ranges.reverse ≠ [] := mt List.reverse_eq_nil_iff.mp hranges
  have hread : run ⟨false, none, frame, outer⟩
      (['['] ++ (if negated then ['^'] else []) ++ ranges.reverse.flatMap rangeText) =
        some ⟨false, some (.ranges negated ranges), frame, outer⟩ := by
    have hback : ranges.reverse.reverse ++ [] = ranges := by simp
    cases negated with
    | true =>
      refine (run_append rfl (run_ranges (Bracket.step_ranges true []) hreverse)).trans ?_
      rw [hback]
    | false =>
      refine (run_append rfl (run_ranges Bracket.step_opened hreverse)).trans ?_
      rw [hback]
  have hclose : (Bracket.ranges negated ranges).step ⟨']', false⟩ =
      some (.inr ⟨negated, ranges, hranges⟩) := by
    rw [Bracket.step, Bracket.next, if_pos rfl, dif_neg hranges]
  exact run_append hread (run_cons (Option.map_eq_some_iff.mpr ⟨_, hclose, rfl⟩) rfl)

/-- The text of an expression is read as one expression. -/
theorem run_text (e : Regex) (frame : Frame) (outer : List Frame) :
    run ⟨false, none, frame, outer⟩ e.text = some ⟨false, none, frame.push e.grouped, outer⟩ := by
  induction e generalizing frame outer with
  | empty | any | start | finish => rfl
  | char c => exact run_charText (take_charToken c)
  | oneOf k => exact run_classText k
  | seq a b iha ihb =>
    refine run_append (run_append (run_append rfl (iha _ _)) (ihb _ _)) ?_
    rfl
  | alt a b iha ihb =>
    refine run_append (run_append (run_append (run_append rfl (iha _ _)) rfl) (ihb _ _)) ?_
    rfl
  | star a ih => exact run_append (ih _ _) rfl
  | group a ih => exact run_append (run_append rfl (ih _ _)) rfl

end Reader

theorem parse?_text (e : Regex) : parse? e.text = some e.grouped :=
  parse?_eq_some_iff.mpr ⟨_, Reader.run_text e ⟨[], []⟩ [], rfl⟩

/-- The text is read as an expression that matches the same. -/
def Spells (cs : List Char) (e : Regex) : Prop := ∃ r, parse? cs = some r ∧ r.Same e

theorem spells_text (e : Regex) : Spells e.text e :=
  ⟨e.grouped, parse?_text e, fun m s i j => iff_of_eq (congrFun₂ (matches_grouped e m s) i j)⟩

variable {m m' : Mode} {s cs : List Char} {e : Regex}

theorem Spells.exists_parse? (h : Spells cs e) (hm : m.OneLine s) (hm' : m'.OneLine s) :
    ∃ r, parse? cs = some r ∧ (r.MatchesIn m s ↔ e.MatchesIn m' s) := by
  obtain ⟨r, hr, hsame⟩ := h
  exact ⟨r, hr, hsame.matchesIn_iff.trans (MatchesIn.congr hm hm' e)⟩

/-- Between two points that may be repeated, the text matches the whole of a subject where its
expression matches somewhere. -/
theorem Spells.exists_parse?_within (h : Spells cs e) (hm : m.OneLine s) (hm' : m'.OneLine s) :
    ∃ w, parse? (['.', '*', '('] ++ cs ++ [')', '.', '*']) = some w ∧
      (w.MatchesWhole m s ↔ e.MatchesIn m' s) := by
  obtain ⟨r, hr, hmatches⟩ := h.exists_parse? hm hm'
  exact ⟨r.within, parse?_within hr, (matchesWhole_within hm r).trans hmatches⟩

end SplitTest.Regex

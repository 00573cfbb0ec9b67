import Mathlib.Logic.Relation

/-! Regular expressions and what they match.  An expression matches a subject between two positions;
the anchors look at the whole subject, so a part of an expression matches between the same positions
wherever it stands.  Engines treat line breaks differently, which makes no difference to a subject
without any.  There an expression matches somewhere exactly if it matches from the start to the end
between two points that may be repeated. -/

namespace SplitTest

structure CharRange where
  first : Char
  last : Char
  ordered : first ≤ last
  deriving DecidableEq

/-- A class of characters: those in one of its ranges, or all others. -/
structure CharClass where
  negated : Bool
  ranges : List CharRange
  nonempty : ranges ≠ []
  deriving DecidableEq

def CharClass.Has (k : CharClass) (c : Char) : Prop :=
  (∃ r ∈ k.ranges, r.first ≤ c ∧ c ≤ r.last) ↔ k.negated = false

inductive Regex
  | empty
  | char (c : Char)
  /-- A point: any character. -/
  | any
  | oneOf (k : CharClass)
  /-- The anchor `^`. -/
  | start
  /-- The anchor `$`. -/
  | finish
  | seq (a b : Regex)
  | alt (a b : Regex)
  | star (a : Regex)
  | group (a : Regex)
  deriving DecidableEq

namespace Regex

/-- How an engine treats line breaks. -/
structure Mode where
  isBreak : Char → Bool
  /-- Whether a point stands for a break as well. -/
  pointIsBreak : Bool
  /-- Whether the anchors match at each break. -/
  anchorsAtBreaks : Bool

namespace Mode

/-- The subject has no line breaks. -/
def OneLine (m : Mode) (s : List Char) : Prop := ∀ c ∈ s, m.isBreak c = false

instance (m : Mode) (s : List Char) : Decidable (m.OneLine s) :=
  List.decidableBAll (fun c => m.isBreak c = false) s

/-- A line starts at the position. -/
def StartsAt (m : Mode) (s : List Char) (i : Nat) : Prop :=
  i = 0 ∨ ∃ k c, i = k + 1 ∧ s[k]? = some c ∧ m.isBreak c = true ∧ m.anchorsAtBreaks = true

/-- A line ends at the position; a break at the end of the subject may stand behind it. -/
def EndsAt (m : Mode) (s : List Char) (i : Nat) : Prop :=
  i = s.length ∨
    ∃ c, s[i]? = some c ∧ m.isBreak c = true ∧ (m.anchorsAtBreaks = true ∨ i + 1 = s.length)

end Mode

/-- The expression matches the subject from one position to another. -/
def Matches (m : Mode) (s : List Char) : Regex → Nat → Nat → Prop
  | empty, i, j => j = i
  | char c, i, j => s[i]? = some c ∧ j = i + 1
  | any, i, j =>
    ∃ c, s[i]? = some c ∧ (m.isBreak c = true → m.pointIsBreak = true) ∧ j = i + 1
  | oneOf k, i, j => ∃ c, s[i]? = some c ∧ k.Has c ∧ j = i + 1
  | start, i, j => m.StartsAt s i ∧ j = i
  | finish, i, j => m.EndsAt s i ∧ j = i
  | seq a b, i, j => ∃ k, Matches m s a i k ∧ Matches m s b k j
  | alt a b, i, j => Matches m s a i j ∨ Matches m s b i j
  | star a, i, j => Relation.ReflTransGen (Matches m s a) i j
  | group a, i, j => Matches m s a i j

def MatchesWhole (e : Regex) (m : Mode) (s : List Char) : Prop := e.Matches m s 0 s.length

def MatchesIn (e : Regex) (m : Mode) (s : List Char) : Prop :=
  ∃ i ≤ s.length, ∃ j, e.Matches m s i j

/-- Two expressions match the same. -/
def Same (a b : Regex) : Prop := ∀ m s i j, a.Matches m s i j ↔ b.Matches m s i j

/-- An expression between two points that may be repeated. -/
def within (e : Regex) : Regex := seq (seq (star any) (group e)) (star any)

variable {m m' : Mode} {s : List Char}

/-! ### Positions -/

theorem le_length_of_getElem? {i : Nat} {c : Char} (h : s[i]? = some c) : i + 1 ≤ s.length :=
  (List.getElem?_eq_some_iff.mp h).1

/-- A match that starts within the subject ends within it. -/
theorem le_length_of_matches {e : Regex} {i j : Nat} (h : e.Matches m s i j) (hi : i ≤ s.length) :
    j ≤ s.length := by
  induction e generalizing i j with
  | empty =>
    obtain rfl : j = i := h
    exact hi
  | char c =>
    obtain ⟨hc, rfl⟩ := h
    exact le_length_of_getElem? hc
  | any =>
    obtain ⟨c, hc, -, rfl⟩ := h
    exact le_length_of_getElem? hc
  | oneOf k =>
    obtain ⟨c, hc, -, rfl⟩ := h
    exact le_length_of_getElem? hc
  | start | finish =>
    obtain ⟨-, rfl⟩ := h
    exact hi
  | seq a b iha ihb =>
    obtain ⟨k, ha, hb⟩ := h
    exact ihb hb (iha ha hi)
  | alt a b iha ihb =>
    rcases h with h | h
    · exact iha h hi
    · exact ihb h hi
  | star a ih =>
    -- Each repetition starts where the one before it ends.
    replace h : Relation.ReflTransGen (a.Matches m s) i j := h
    induction h with
    | refl => exact hi
    | tail _ hlast hk => exact ih hlast hk
  | group a ih => exact ih h hi

/-! ### Subjects without line breaks -/

theorem Mode.OneLine.isBreak (h : m.OneLine s) {i : Nat} {c : Char} (hc : s[i]? = some c) :
    m.isBreak c = false :=
  h c (List.mem_of_getElem? hc)

theorem Mode.OneLine.startsAt_iff (h : m.OneLine s) {i : Nat} : m.StartsAt s i ↔ i = 0 := by
  refine or_iff_left ?_
  rintro ⟨k, c, -, hc, hbreak, -⟩
  simp [h.isBreak hc] at hbreak

theorem Mode.OneLine.endsAt_iff (h : m.OneLine s) {i : Nat} : m.EndsAt s i ↔ i = s.length := by
  refine or_iff_left ?_
  rintro ⟨c, hc, hbreak, -⟩
  simp [h.isBreak hc] at hbreak

theorem Mode.OneLine.any_iff (h : m.OneLine s) {i j : Nat} :
    any.Matches m s i j ↔ i < s.length ∧ j = i + 1 := by
  constructor
  · rintro ⟨c, hc, -, rfl⟩
    exact ⟨le_length_of_getElem? hc, rfl⟩
  · rintro ⟨hi, rfl⟩
    have hc : s[i]? = some s[i] := List.getElem?_eq_getElem hi
    refine ⟨s[i], hc, fun hbreak => ?_, rfl⟩
    simp [h.isBreak hc] at hbreak

/-- Without line breaks it does not matter how they are treated. -/
theorem matches_congr (h : m.OneLine s) (h' : m'.OneLine s) (e : Regex) :
    e.Matches m s = e.Matches m' s := by
  induction e with
  | empty | char c | oneOf k => rfl
  | any =>
    ext i j
    rw [h.any_iff, h'.any_iff]
  | start =>
    ext i j
    simp only [Matches, h.startsAt_iff, h'.startsAt_iff]
  | finish =>
    ext i j
    simp only [Matches, h.endsAt_iff, h'.endsAt_iff]
  | seq a b iha ihb =>
    ext i j
    simp only [Matches, iha, ihb]
  | alt a b iha ihb =>
    ext i j
    simp only [Matches, iha, ihb]
  | star a ih =>
    ext i j
    simp only [Matches, ih]
  | group a ih => exact ih

/-- A point that may be repeated reaches every later position. -/
theorem matches_star_any (h : m.OneLine s) {i j : Nat} (hij : i ≤ j) (hj : j ≤ s.length) :
    (star any).Matches m s i j := by
  induction hij with
  | refl => exact .refl
  | step _ ih => exact (ih (by omega)).tail (h.any_iff.mpr ⟨hj, rfl⟩)

/-! ### Matches of the whole subject and within it -/

theorem MatchesIn.congr (h : m.OneLine s) (h' : m'.OneLine s) (e : Regex) :
    e.MatchesIn m s ↔ e.MatchesIn m' s := by
  rw [MatchesIn, MatchesIn, matches_congr h h']

theorem Same.matchesIn_iff {a b : Regex} (h : a.Same b) : a.MatchesIn m s ↔ b.MatchesIn m s := by
  simp only [MatchesIn, h m s]

/-- The points in front reach the start of the match and those behind lead from its end to the end
of the subject. -/
theorem matchesWhole_within (h : m.OneLine s) (e : Regex) :
    e.within.MatchesWhole m s ↔ e.MatchesIn m s := by
  constructor
  · rintro ⟨j, ⟨i, hfront, hmatch⟩, -⟩
    exact ⟨i, le_length_of_matches hfront (Nat.zero_le _), j, hmatch⟩
  · rintro ⟨i, hi, j, hmatch⟩
    have hj : j ≤ s.length := le_length_of_matches hmatch hi
    exact ⟨j, ⟨i, matches_star_any h (Nat.zero_le i) hi, hmatch⟩,
      matches_star_any h hj (Nat.le_refl _)⟩

end Regex

end SplitTest

import SplitTest.Proofs.Dialect.Shift
import SplitTest.Proofs.Query.Composition
import SplitTest.Proofs.Regex.Reading
import SplitTest.Proofs.Schema.Minimal
import SplitTest.Proofs.Sql.Literal

/-! Conditions on what a regular expression matches, read back from their texts.  Each dialect has a
predicate of its own, and that of Snowflake matches whole texts only.  There the expression is sent
between two points that may be repeated, so it finds what it finds everywhere else; and a negated
condition finds all other texts. -/

namespace SplitTest

open Literal (quote)
open Regex (Mode Spells)

/-- A notation for the predicate that a regular expression matches a column. -/
structure MatchNotation where
  /-- The text before the column. -/
  opens : String
  /-- The text between the column and the literal of the expression. -/
  between : String
  /-- The text after them. -/
  closes : String
  /-- Whether the expression has to match the whole text. -/
  whole : Bool
  /-- The literal ends where the text after it begins. -/
  ends : closes.toList.head? ≠ some quote

namespace MatchNotation

variable (n : MatchNotation)

/-- Reads a predicate on a column: its expression, and what follows it. -/
def read? (column : String) (cs : List Char) : Option (String × List Char) :=
  (cs.dropPrefix? (n.opens ++ column ++ n.between).toList).bind fun literal =>
    (Literal.scan? literal).bind fun (pattern, rest) =>
      (rest.dropPrefix? n.closes.toList).map fun after => (pattern, after)

/-- The text before a negated predicate. -/
def negation : String := "NOT ("

/-- Reads a condition on a column: whether it holds where the predicate does or where it does not,
and the expression. -/
def condition? (column text : String) : Option (Bool × String) :=
  match n.read? column text.toList with
  | some (pattern, []) => some (true, pattern)
  | _ =>
    match (text.toList.dropPrefix? negation.toList).bind (n.read? column) with
    | some (pattern, [')']) => some (false, pattern)
    | _ => none

/-- The predicate with an expression holds of a text. -/
def Finds (e : Regex) (m : Mode) (s : List Char) : Prop :=
  if n.whole then e.MatchesWhole m s else e.MatchesIn m s

/-- The condition holds where the column has a text. -/
def Keeps (m : Mode) (column text : String) (s : List Char) : Prop :=
  ∃ positive pattern e, n.condition? column text = some (positive, pattern) ∧
    Regex.parse? pattern.toList = some e ∧ (n.Finds e m s ↔ positive = true)

/-- A filter that is nothing or one more condition lets a text in the column pass. -/
def Passes (m : Mode) (column filter : String) (s : List Char) : Prop :=
  filter = "" ∨ ∃ condition, filter = "\n      AND " ++ condition ∧ n.Keeps m column condition s

/-- The text that is sent for an expression that is to match somewhere. -/
def sent (pattern : String) : String := if n.whole then ".*(" ++ pattern ++ ").*" else pattern

/-- The predicate with an expression. -/
def write (column pattern : String) : String :=
  n.opens ++ column ++ n.between ++ Literal.encode pattern ++ n.closes

/-- The predicate does not begin like a negated one. -/
def IsPlain (column : String) : Prop := ∃ c ∈ (n.opens ++ column).toList.head?, c ≠ 'N'

variable {n} {column : String}

/-! ### Conditions read back -/

theorem read?_write (column pattern : String) (rest : List Char)
    (h : (n.closes.toList ++ rest).head? ≠ some quote) :
    n.read? column ((n.write column pattern).toList ++ rest) = some (pattern, rest) := by
  have hchars : (n.write column pattern).toList ++ rest = (n.opens ++ column ++ n.between).toList ++
      ((Literal.encode pattern).toList ++ (n.closes.toList ++ rest)) := by
    simp [write]
  have hscan : Literal.scan? ((Literal.encode pattern).toList ++ (n.closes.toList ++ rest)) =
      some (pattern, n.closes.toList ++ rest) := Literal.scan?_eq_some_iff.mpr ⟨rfl, h⟩
  simp only [read?, hchars, ShiftNotation.dropPrefix?_append, Option.bind_some, hscan,
    Option.map_some]

theorem condition?_write (column pattern : String) :
    n.condition? column (n.write column pattern) = some (true, pattern) := by
  have hread := read?_write column pattern [] (by
    rw [List.append_nil]
    exact n.ends)
  rw [List.append_nil] at hread
  rw [condition?, hread]

theorem read?_negation (h : n.IsPlain column) (rest : List Char) :
    n.read? column (negation.toList ++ rest) = none := by
  obtain ⟨c, hc, hne⟩ := h
  have hnone : (negation.toList ++ rest).dropPrefix? (n.opens ++ column ++ n.between).toList =
      none := by
    rw [Option.eq_none_iff_forall_not_mem]
    intro after hafter
    obtain ⟨front, hfront, heq⟩ := List.dropPrefix?_eq_some_iff.mp hafter
    obtain ⟨tail, htail⟩ := List.head?_eq_some_iff.mp hc
    rw [eq_of_beq heq, String.toList_append, htail] at hfront
    exact hne (List.cons.inj hfront).1.symm
  rw [read?, hnone, Option.bind_none]

theorem condition?_negated (h : n.IsPlain column) (pattern : String) :
    n.condition? column (negation ++ n.write column pattern ++ ")") = some (false, pattern) := by
  have hread := read?_write column pattern [')'] (by
    cases hcloses : n.closes.toList with
    | nil => decide
    | cons c cs =>
      have hends := n.ends
      rwa [hcloses] at hends)
  have hchars : (negation ++ n.write column pattern ++ ")").toList =
      negation.toList ++ ((n.write column pattern).toList ++ [')']) := by
    simp
  simp only [condition?, hchars, read?_negation h, ShiftNotation.dropPrefix?_append,
    Option.bind_some, hread]

/-! ### What conditions find -/

variable {p : String} {e : Regex} {m m' : Mode} {s : List Char}

/-- What is sent is read, and finds what the expression finds anywhere. -/
theorem exists_parse?_sent (n : MatchNotation) (h : Spells p.toList e) (hm : m.OneLine s)
    (hm' : m'.OneLine s) :
    ∃ w, Regex.parse? (n.sent p).toList = some w ∧ (n.Finds w m s ↔ e.MatchesIn m' s) := by
  by_cases hwhole : n.whole = true
  · have hchars : (n.sent p).toList = ['.', '*', '('] ++ p.toList ++ [')', '.', '*'] := by
      simp [sent, hwhole]
    obtain ⟨w, hw, hmatches⟩ := h.exists_parse?_within hm hm'
    exact ⟨w, hchars ▸ hw, by rwa [Finds, if_pos hwhole]⟩
  · obtain ⟨w, hw, hmatches⟩ := h.exists_parse? hm hm'
    exact ⟨w, by rwa [sent, if_neg hwhole], by rwa [Finds, if_neg hwhole]⟩

theorem keeps_of_condition? {text : String} {positive : Bool} (h : Spells p.toList e)
    (hm : m.OneLine s) (hm' : m'.OneLine s)
    (htext : n.condition? column text = some (positive, n.sent p)) :
    n.Keeps m column text s ↔ (e.MatchesIn m' s ↔ positive = true) := by
  obtain ⟨w, hw, hfinds⟩ := exists_parse?_sent n h hm hm'
  rw [← hfinds]
  constructor
  · rintro ⟨_, _, r, hcondition, hr, hkeeps⟩
    obtain ⟨rfl, rfl⟩ := Prod.mk.inj (Option.some.inj (hcondition.symm.trans htext))
    rwa [← Option.some.inj (hr.symm.trans hw)]
  · intro hkeeps
    exact ⟨positive, n.sent p, w, htext, hw, hkeeps⟩

theorem passes_condition {text : String} :
    n.Passes m column ("\n      AND " ++ text) s ↔ n.Keeps m column text s := by
  constructor
  · rintro (hempty | ⟨condition, heq, hkeeps⟩)
    · have hlength := congrArg String.length hempty
      simp at hlength
    · rwa [(String.append_right_inj _).mp heq]
  · exact fun hkeeps => .inr ⟨text, rfl, hkeeps⟩

end MatchNotation

namespace Dialect

variable (d : Dialect)

/-- The notation of a dialect. -/
def matching : MatchNotation :=
  match d.flavor with
  | .snowflake => ⟨"REGEXP_LIKE(", ", ", ")", true, by decide⟩
  | .bigquery => ⟨"REGEXP_CONTAINS(", ", ", ")", false, by decide⟩
  | .presto => ⟨"regexp_like(", ", ", ")", false, by decide⟩
  | .duckdb => ⟨"regexp_matches(", ", ", ")", false, by decide⟩
  | .postgres | .redshift => ⟨"", " ~ ", "", false, by decide⟩

theorem regexMatch_text (column : Sql) (pattern : String) :
    (d.regexMatch column pattern).text =
      d.matching.write column.text (d.matching.sent pattern) := by
  obtain ⟨flavor, project, dataset⟩ := d
  cases flavor <;>
    simp [regexMatch, matching, MatchNotation.write, MatchNotation.sent, String.append_assoc]

theorem condition?_regexMatch (column : Sql) (pattern : String) :
    d.matching.condition? column.text (d.regexMatch column pattern).text =
      some (true, d.matching.sent pattern) := by
  rw [regexMatch_text, MatchNotation.condition?_write]

theorem whole_matching : d.matching.whole = true ↔ d.flavor = .snowflake := by
  obtain ⟨flavor, project, dataset⟩ := d
  cases flavor <;> simp [matching]

theorem isPlain_matching (column : String) : d.matching.IsPlain ("m." ++ column) := by
  obtain ⟨flavor, project, dataset⟩ := d
  cases flavor <;> simp [MatchNotation.IsPlain, matching]

end Dialect

namespace Source

variable (s : Source)

variable {p : String} {e : Regex} {m m' : Mode} {subject : List Char}

/-- The expressions for which no filter is written match every text. -/
theorem matchesIn_of_pageFilter? {q : UsersQueryParams} (hq : q.urlRegex = some p)
    (hnone : q.pageFilter? = none) (h : Spells p.toList e) : e.MatchesIn m subject := by
  obtain ⟨r, hr, hsame⟩ := h
  refine hsame.matchesIn_iff.mp ⟨0, Nat.zero_le _, 0, ?_⟩
  by_cases hp : p = ""
  · obtain rfl : Regex.empty = r := by
      subst hp
      exact Option.some.inj hr
    rfl
  · obtain rfl : Regex.star .any = r := by
      have hall : p = ".*" := by
        simpa [UsersQueryParams.pageFilter?, nonEmpty?, hq, hp] using hnone
      subst hall
      exact Option.some.inj hr
    exact .refl

theorem keeps_regexMatch (column : Sql) (h : Spells p.toList e) (hm : m.OneLine subject)
    (hm' : m'.OneLine subject) :
    s.dialect.matching.Keeps m column.text (s.dialect.regexMatch column p).text subject ↔
      e.MatchesIn m' subject := by
  rw [MatchNotation.keeps_of_condition? h hm hm' (s.dialect.condition?_regexMatch column p)]
  exact iff_true_right rfl

/-- The column of a condition. -/
def conditionColumn (column : String) : Sql := ("m" : Sql) ++ "." ++ column

theorem text_conditionColumn (column : String) :
    (conditionColumn column).text = "m." ++ column := by
  simp [conditionColumn]

theorem keeps_isMatch (column : String) (h : Spells p.toList e) (hm : m.OneLine subject)
    (hm' : m'.OneLine subject) :
    s.dialect.matching.Keeps m ("m." ++ column) (s.condition "m" ⟨column, .isMatch, p⟩).text
      subject ↔ e.MatchesIn m' subject := by
  rw [← text_conditionColumn]
  exact s.keeps_regexMatch (conditionColumn column) h hm hm'

theorem condition?_isNoMatch (column pattern : String) :
    s.dialect.matching.condition? ("m." ++ column)
        (s.condition "m" ⟨column, .isNoMatch, pattern⟩).text =
      some (false, s.dialect.matching.sent pattern) := by
  have htext : (s.condition "m" ⟨column, .isNoMatch, pattern⟩).text =
      MatchNotation.negation ++ (s.dialect.regexMatch (conditionColumn column) pattern).text ++
        ")" := by
    simp [condition, MatchNotation.negation, conditionColumn, String.append_assoc]
  rw [htext, Dialect.regexMatch_text, text_conditionColumn]
  exact MatchNotation.condition?_negated (s.dialect.isPlain_matching column) _

theorem keeps_isNoMatch (column : String) (h : Spells p.toList e) (hm : m.OneLine subject)
    (hm' : m'.OneLine subject) :
    s.dialect.matching.Keeps m ("m." ++ column) (s.condition "m" ⟨column, .isNoMatch, p⟩).text
      subject ↔ ¬e.MatchesIn m' subject := by
  rw [MatchNotation.keeps_of_condition? h hm hm' (s.condition?_isNoMatch column p)]
  exact iff_false_right Bool.false_ne_true

theorem passes_pagesFilter {q : UsersQueryParams} (hq : q.urlRegex = some p)
    (h : Spells p.toList e) (hm : m.OneLine subject) (hm' : m'.OneLine subject) :
    s.dialect.matching.Passes m s.settings.pageviews.urlColumn (s.pagesFilter q).text subject ↔
      e.MatchesIn m' subject := by
  cases hfilter : q.pageFilter? with
  | none =>
    have hempty : (s.pagesFilter q).text = "" := by
      rw [pagesFilter, hfilter]
      rfl
    exact iff_of_true (.inl hempty) (matchesIn_of_pageFilter? hq hfilter h)
  | some pattern =>
    obtain rfl : p = pattern := by
      obtain ⟨hsome, -⟩ := Option.filter_eq_some_iff.mp hfilter
      obtain ⟨hregex, -⟩ := Option.filter_eq_some_iff.mp hsome
      exact Option.some.inj (hq.symm.trans hregex)
    have htext : (s.pagesFilter q).text = "\n      AND " ++
        (s.dialect.regexMatch s.settings.pageviews.urlColumn p).text := by
      simp [pagesFilter, hfilter]
    rw [htext, MatchNotation.passes_condition]
    have hkeeps := s.keeps_regexMatch s.settings.pageviews.urlColumn h hm hm'
    rwa [Sql.text_code] at hkeeps

/-- Every regular expression has a text, and whatever text of it is asked for, in every dialect the
literal that is sent finds the texts without line breaks in which the expression matches somewhere,
also where the predicate has to match all of a text.  So a condition on a match and the filter of
the pages keep the same texts in every dialect, and the condition on no match keeps all others. -/
theorem keeps_iff_matchesIn (h : Spells p.toList e) (hm : m.OneLine subject)
    (hm' : m'.OneLine subject) :
    let n := s.dialect.matching
    Spells e.text e ∧
    (∃ w, Regex.parse? (".*(" ++ p ++ ").*").toList = some w ∧
      (w.MatchesWhole m subject ↔ e.MatchesIn m' subject)) ∧
    (n.whole = true ↔ s.dialect.flavor = .snowflake) ∧
    (∀ column : Sql,
      n.condition? column.text (s.dialect.regexMatch column p).text = some (true, n.sent p) ∧
      (n.Keeps m column.text (s.dialect.regexMatch column p).text subject ↔
        e.MatchesIn m' subject)) ∧
    (∀ column : String,
      (n.Keeps m ("m." ++ column) (s.condition "m" ⟨column, .isMatch, p⟩).text subject ↔
        e.MatchesIn m' subject) ∧
      (n.Keeps m ("m." ++ column) (s.condition "m" ⟨column, .isNoMatch, p⟩).text subject ↔
        ¬e.MatchesIn m' subject)) ∧
    (∀ q body, q.urlRegex = some p → s.pageUsersTable q = .ok body →
      (∃ front last, s.dialect.formatTimestamp q.dateTo.startOfDay = .ok last ∧
        body.text = front ++ " <= " ++ last.text ++ (s.pagesFilter q).text ++
          "\n    GROUP BY\n      " ++ s.settings.idColumn q.userIdType .pageviews none ++
          "\n    ") ∧
      (n.Passes m s.settings.pageviews.urlColumn (s.pagesFilter q).text subject ↔
        e.MatchesIn m' subject)) := by
  intro n
  refine ⟨Regex.spells_text e, ?_, ?_, fun column => ?_, fun column => ?_,
    fun q body hq hbody => ?_⟩
  · have hchars : (".*(" ++ p ++ ").*").toList =
        ['.', '*', '('] ++ p.toList ++ [')', '.', '*'] := by
      simp
    rw [hchars]
    exact h.exists_parse?_within hm hm'
  · exact s.dialect.whole_matching
  · exact ⟨s.dialect.condition?_regexMatch column p, s.keeps_regexMatch column h hm hm'⟩
  · exact ⟨s.keeps_isMatch column h hm hm', s.keeps_isNoMatch column h hm hm'⟩
  · obtain ⟨_, last, -, hlast, htext⟩ := text_pageUsersTable hbody
    exact ⟨⟨_, last, hlast, htext⟩, s.passes_pagesFilter hq h hm hm'⟩

/-- An alternative with an anchor at each end and a quote, of which the second matches. -/
theorem keeps_iff_matchesIn_anchors :
    let p := "^a|\x27b$"
    let e : Regex := .alt (.seq .start (.char 'a')) (.seq (.seq (.char quote) (.char 'b')) .finish)
    let m : Mode := ⟨(· == '\n'), false, false⟩
    let subject := ['x', quote, 'b']
    let s : Source := ⟨.builtin, ⟨.snowflake, none, none⟩⟩
    let n := s.dialect.matching
    Spells p.toList e ∧ m.OneLine subject ∧ n.whole = true ∧ e.MatchesIn m subject ∧
      n.Keeps m "m.page" (s.condition "m" ⟨"page", .isMatch, p⟩).text subject ∧
      ¬n.Keeps m "m.page" (s.condition "m" ⟨"page", .isNoMatch, p⟩).text subject := by
  intro p e m subject s n
  have hspells : Spells p.toList e := ⟨e, by decide +kernel, fun _ _ _ _ => Iff.rfl⟩
  have hline : m.OneLine subject := by decide
  have hmatches : e.MatchesIn m subject :=
    ⟨1, by decide, 3, .inr ⟨3, ⟨2, ⟨rfl, rfl⟩, rfl, rfl⟩, .inl rfl, rfl⟩⟩
  obtain ⟨-, -, hwhole, -, hkeeps, -⟩ := s.keeps_iff_matchesIn hspells hline hline
  obtain ⟨hmatch, hnoMatch⟩ := hkeeps "page"
  exact ⟨hspells, hline, hwhole.mpr rfl, hmatches, hmatch.mpr hmatches,
    fun hkept => hnoMatch.mp hkept hmatches⟩

end Source

end SplitTest

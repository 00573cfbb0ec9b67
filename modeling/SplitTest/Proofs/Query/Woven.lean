import SplitTest.Proofs.Calendar.Stamp
import SplitTest.Proofs.Query.Fragments
import SplitTest.Proofs.Sql.Woven

/-! The tables of users are woven: the texts that stand in them as they are lie between blanks and
marks, so no watchword can arise where a text ends.  The only word of a join in such a table is the
one that begins the join with the identifies table. -/

namespace SplitTest

open Scan

/-! ### Numbers and times -/

namespace Watchword

variable {w : Watchword}

theorem absent_of_forall {s : String} (h : ∀ c ∈ s.toList, c ∉ w.chars) : w.Absent s := by
  intro hwithin
  obtain ⟨c, cs, hw⟩ := List.exists_cons_of_ne_nil w.chars_ne_nil
  have hc : c ∈ w.chars := hw ▸ List.mem_cons_self
  exact h c (hwithin.subset hc) hc

theorem notMem_of_isDigit {c : Char} (h : c.isDigit = true) : c ∉ w.chars := by
  intro hmem
  cases w with
  | tableMark =>
    obtain rfl : c = '_' := by simpa [chars] using hmem
    exact absurd h (by decide)
  | join =>
    simp only [chars, List.mem_cons, List.not_mem_nil, or_false] at hmem
    rcases hmem with rfl | rfl | rfl | rfl <;> exact absurd h (by decide)

theorem absent_int (n : Int) : w.Absent (toString n) :=
  absent_of_forall (forall_int (fun _ => notMem_of_isDigit) (by cases w <;> decide) n)

theorem absent_doubleText (x : Double) : w.Absent x.text :=
  absent_of_forall (x.forall_text (fun _ => notMem_of_isDigit)
    (forall_of_all (by cases w <;> rfl)) (forall_of_all (by cases w <;> rfl)))

theorem absent_numberText (x : Double) : w.Absent (numberText x) :=
  absent_of_forall (forall_numberText (fun _ => notMem_of_isDigit)
    (forall_of_all (by cases w <;> rfl)) (forall_of_all (by cases w <;> rfl)) x)

theorem absent_units (n : Int) {unit : String} (h : ∀ c ∈ unit.toList, c ∉ w.chars) :
    w.Absent (toString n ++ unit) :=
  absent_of_forall (forall_append (forall_int (fun _ => notMem_of_isDigit)
    (by cases w <;> decide) n) h)

theorem absent_stampText (t : DateTime) : w.Absent t.stampText := by
  have hmark : ∀ c ∈ "-: ".toList, isWordChar c = false := forall_of_all rfl
  exact absent_of_forall (t.forall_stampText (fun _ => notMem_of_isDigit) fun c hc =>
    w.notMem_of_isWordChar (hmark c hc))

/-! ### Names of tables and columns -/

theorem not_infix_nil : ¬w.chars <:+: [] := fun h => w.chars_ne_nil (List.eq_nil_of_infix_nil h)

/-- The word does not reach over a mark. -/
theorem not_infix_append_cons {c : Char} {cs ds : List Char} (hc : isWordChar c = false)
    (hcs : ¬w.chars <:+: cs) (hds : ¬w.chars <:+: ds) : ¬w.chars <:+: cs ++ c :: ds := fun h =>
  (infix_of_infix_append_cons (w.notMem_of_isWordChar hc) h).elim hcs hds

/-- Texts without the word on the two sides of a mark. -/
theorem Absent.around {s t u : String} {c : Char} (hs : w.Absent s) (ht : w.Absent t)
    (hc : isWordChar c = false) (hu : u.toList = s.toList ++ c :: t.toList) : w.Absent u := by
  rw [Absent, hu]
  exact not_infix_append_cons hc hs ht

theorem absent_label {start name : String} (kind : List Char)
    (hstart : start.toList = kind ++ ['(']) (hkind : ¬w.chars <:+: kind) (hname : w.Absent name) :
    w.Absent (start ++ name ++ ")") := by
  have hchars : (start ++ name ++ ")").toList = kind ++ '(' :: (name.toList ++ ')' :: []) := by
    simp [hstart]
  rw [Absent, hchars]
  exact not_infix_append_cons rfl hkind (not_infix_append_cons rfl hname not_infix_nil)

theorem absent_builtin (role : ColumnRole) : w.Absent role.builtin := by
  cases role <;> exact w.absent_of_check rfl

end Watchword

section

variable {w cs : List Char} {c : Char} {found : List Char → Option Nat}

theorem prefix_of_prefix_replacePass (hc : c ∉ w)
    (h : w <+: Text.replacePass found [c] 0 cs) : w <+: cs := by
  induction cs generalizing w with
  | nil => exact h
  | cons d rest ih =>
    cases w with
    | nil => exact List.nil_prefix
    | cons a w =>
      obtain ⟨ha, hw⟩ := not_or.mp (mt List.mem_cons.mpr hc)
      unfold Text.replacePass at h
      split at h
      · exact absurd (List.cons_prefix_cons.mp h).1.symm ha
      · obtain ⟨rfl, hrest⟩ := List.cons_prefix_cons.mp h
        exact List.cons_prefix_cons.mpr ⟨rfl, ih hw hrest⟩

/-- Where parts of a text are replaced by a character, what has not this character stood in the
text before. -/
theorem infix_of_infix_replacePass (hc : c ∉ w) {skip : Nat}
    (h : w <:+: Text.replacePass found [c] skip cs) : w <:+: cs := by
  induction cs generalizing skip with
  | nil => cases skip <;> exact h
  | cons d rest ih =>
    cases skip with
    | succ skip => exact List.infix_cons (ih h)
    | zero =>
      unfold Text.replacePass at h
      split at h
      · rcases List.infix_cons_iff.mp h with hstarts | hrest
        · cases w with
          | nil => exact List.nil_infix
          | cons a w =>
            exact absurd ((List.cons_prefix_cons.mp hstarts).1 ▸ List.mem_cons_self) hc
        · exact List.infix_cons (ih hrest)
      · rename_i hfound
        rcases List.infix_cons_iff.mp h with hstarts | hrest
        · have hpass : w <+: Text.replacePass found [c] 0 (d :: rest) := by
            rwa [Text.replacePass, hfound]
          exact (prefix_of_prefix_replacePass hc hpass).isInfix
        · exact List.infix_cons (ih hrest)

end

/-! ### Fragments of a dialect -/

namespace Dialect

variable {w : Watchword} (d : Dialect) {column : Sql} (hcolumn : column.Woven w)
include hcolumn

theorem addHours_woven (hours : Int) : (d.addHours column hours).Woven w := by
  have hn : (Sql.code (toString hours)).Woven w := .code (Watchword.absent_int hours)
  have hhours : w.Absent (toString hours ++ " hours") :=
    Watchword.absent_units hours (forall_of_all (by cases w <;> rfl))
  unfold addHours
  cases d.flavor with
  | snowflake => exact .opens rfl (.slot hn (.next rfl (.slot hcolumn (.next rfl .nil))))
  | bigquery => exact .opens rfl (.slot hcolumn (.next rfl (.slot hn (.next rfl .nil))))
  | presto =>
    exact .opens rfl (.slot (.literal fun _ => w.absent_of_check rfl) (.next rfl
      (.slot hn (.next rfl (.slot hcolumn (.next rfl .nil))))))
  | postgres | redshift | duckdb =>
    exact .slot hcolumn (.next rfl (.slot (.literal fun _ => hhours) .nil))

theorem subtractMinutes_woven (minutes : Int) : (d.subtractMinutes column minutes).Woven w := by
  have hn : (Sql.code (toString minutes)).Woven w := .code (Watchword.absent_int minutes)
  have hminutes : w.Absent (toString minutes ++ " minutes") :=
    Watchword.absent_units minutes (forall_of_all (by cases w <;> rfl))
  unfold subtractMinutes
  cases d.flavor with
  | snowflake => exact .opens rfl (.slot hn (.next rfl (.slot hcolumn (.next rfl .nil))))
  | bigquery => exact .opens rfl (.slot hcolumn (.next rfl (.slot hn (.next rfl .nil))))
  | presto =>
    exact .opens rfl (.slot (.literal fun _ => w.absent_of_check rfl) (.next rfl
      (.slot hn (.next rfl (.slot hcolumn (.next rfl .nil))))))
  | postgres | redshift | duckdb =>
    exact .slot hcolumn (.next rfl (.slot (.literal fun _ => hminutes) .nil))

theorem regexMatch_woven {pattern : String}
    (hpattern : w = .join → w.Absent (d.patternText pattern)) :
    (d.regexMatch column pattern).Woven w := by
  unfold regexMatch
  unfold patternText at hpattern
  cases hflavor : d.flavor with
  | snowflake | bigquery | presto | duckdb =>
    rw [hflavor] at hpattern
    exact .opens rfl (.slot hcolumn (.next rfl (.slot (.literal hpattern) (.next rfl .nil))))
  | postgres | redshift =>
    rw [hflavor] at hpattern
    exact .slot hcolumn (.next rfl (.slot (.literal hpattern) .nil))

theorem dateTrunc_woven : (d.dateTrunc column).Woven w := by
  unfold dateTrunc
  cases d.flavor with
  | bigquery => exact .opens rfl (.slot hcolumn (.next rfl .nil))
  | _ =>
    exact .opens rfl (.slot (.literal fun _ => w.absent_of_check rfl) (.next rfl
      (.slot hcolumn (.next rfl .nil))))

theorem percentile_woven (fraction : Double) : (d.percentile column fraction).Woven w := by
  have hpercent : (Sql.code (toString (percent fraction))).Woven w := .code (Watchword.absent_int _)
  have hfraction : (Sql.code fraction.text).Woven w := .code (Watchword.absent_doubleText _)
  unfold percentile
  cases d.flavor with
  | bigquery => exact .opens rfl (.slot hcolumn (.next rfl (.slot hpercent (.next rfl .nil))))
  | presto | duckdb =>
    exact .opens rfl (.slot hcolumn (.next rfl (.slot hfraction (.next rfl .nil))))
  | postgres | redshift | snowflake =>
    exact .opens rfl (.slot hfraction (.next rfl (.slot hcolumn (.next rfl .nil))))

omit hcolumn in
theorem woven_of_formatTimestamp {t : DateTime} {q : Sql} (h : d.formatTimestamp t = .ok q) :
    q.Edged w := by
  obtain ⟨text, htext, rfl⟩ := Except.map_eq_ok.mp h
  refine .literal fun _ => ?_
  unfold timestampText at htext
  split at htext
  · rename_i u _
    obtain rfl := Except.ok.inj htext
    exact Watchword.absent_stampText u
  · cases htext
  · cases htext

end Dialect

/-! ### Identifiers and metrics -/

namespace Source

variable {w : Watchword} {s : Source}

theorem column_woven {tableName column : String} (htable : w.Absent tableName)
    (hcolumn : w.Absent column) : (Sql.concat [tableName, ".", column]).Woven w :=
  .slot (.code htable) (.next rfl (.slot (.code hcolumn) .nil))

section

variable (hs : ∀ t ∈ s.texts, w.Absent t)
include hs

theorem absent_sectionColumn (role : ColumnRole) (sect : Section) :
    w.Absent (s.settings.column role sect none) :=
  forall_column Watchword.absent_builtin hs role sect fun _ hm => absurd hm (Option.not_mem_none _)

theorem absent_fullTableName {table : String} (h : w.Absent table) :
    w.Absent (s.dialect.fullTableName table) := by
  have hmark {c : Char} {cs ds : List Char} (hc : isWordChar c = false)
      (hcs : ¬w.chars <:+: cs) (hds : ¬w.chars <:+: ds) : ¬w.chars <:+: cs ++ c :: ds :=
    Watchword.not_infix_append_cons hc hcs hds
  have hnil : ¬w.chars <:+: [] := Watchword.not_infix_nil
  have hdataset {dataset : String} (hdataset : w.Absent dataset) :
      ¬w.chars <:+: [] ++ '\x60' :: (dataset.toList ++ '\x60' :: ([] ++ '.' :: table.toList)) :=
    hmark rfl hnil (hmark rfl hdataset (hmark rfl hnil h))
  unfold Dialect.fullTableName
  split
  · split
    · rename_i project dataset hp hd
      have hchars : ("\x60" ++ project ++ "\x60.\x60" ++ dataset ++ "\x60." ++ table).toList =
          [] ++ '\x60' :: (project.toList ++ '\x60' :: ([] ++ '.' :: ([] ++ '\x60' ::
            (dataset.toList ++ '\x60' :: ([] ++ '.' :: table.toList))))) := by simp
      rw [Watchword.Absent, hchars]
      exact hmark rfl hnil (hmark rfl (forall_qualifier hs (.inl hp)) (hmark rfl hnil
        (hdataset (forall_qualifier hs (.inr hd)))))
    · rename_i dataset _ hd
      have hchars : ("\x60" ++ dataset ++ "\x60." ++ table).toList =
          [] ++ '\x60' :: (dataset.toList ++ '\x60' :: ([] ++ '.' :: table.toList)) := by simp
      rw [Watchword.Absent, hchars]
      exact hdataset (forall_qualifier hs (.inr hd))
    · exact h
  · exact h

theorem absent_settingTable {table : String} (h : table ∈ s.settings.texts) :
    w.Absent (s.dialect.fullTableName table) :=
  absent_fullTableName hs (forall_setting hs h)

end

/-! ### Metrics -/

theorem condition_woven (s : Source) {c : MetricCondition} (h : w.Absent c.column)
    (hgiven : w = .join → w.Absent (c.given s.dialect)) : (s.condition "m" c).Woven w := by
  have hcolumn : (Sql.code "m" ++ Sql.code "." ++ Sql.code c.column).Woven w :=
    column_woven (w.absent_of_check rfl) h
  have hsymbol (o : Operator) : w.Absent o.symbol := by
    cases o <;> exact w.absent_of_check rfl
  unfold MetricCondition.given at hgiven
  unfold condition
  cases hop : c.operator with
  | isMatch =>
    rw [hop] at hgiven
    exact s.dialect.regexMatch_woven hcolumn hgiven
  | isNoMatch =>
    rw [hop] at hgiven
    exact .opens rfl (.slot (s.dialect.regexMatch_woven hcolumn hgiven) (.next rfl .nil))
  | _ =>
    rw [hop] at hgiven
    exact .slot hcolumn (.next rfl (.slot (.code (hsymbol _)) (.next rfl
      (.slot (.literal hgiven) .nil))))

theorem conditions_woven (s : Source) {m : MetricDefinition} (h : ∀ t ∈ m.texts, w.Absent t)
    (hgiven : w = .join → ∀ v ∈ m.given s.dialect, w.Absent v) : (s.conditions m "m").Woven w := by
  refine .join rfl (List.forall_mem_map.mpr fun c hc => s.condition_woven (h c.column ?_) ?_)
  · exact List.mem_cons_of_mem _ (List.mem_append_right _ (List.mem_map_of_mem hc))
  · exact fun hw => hgiven hw _ (List.mem_map_of_mem hc)

theorem conversionWindowJoin_woven (s : Source) (m : MetricDefinition) :
    (s.conversionWindowJoin m "d" "m").Woven w := by
  unfold conversionWindowJoin
  extract_lets start first last
  have hcolumn (b : Bool) : w.Absent (if b then "session_start" else "actual_start") := by
    cases b <;> exact w.absent_of_check rfl
  have hstart : start.Woven w := column_woven (w.absent_of_check rfl) (hcolumn m.earlyStart)
  have hfirst : first.Woven w := by
    unfold first
    split
    · exact hstart
    · exact s.dialect.addHours_woven hstart _
  have hopen : (Sql.code "d.actual_start").Woven w := .code (w.absent_of_check rfl)
  have hlast : last.Woven w := s.dialect.addHours_woven hopen _
  show (Sql.concat ["m", ".user_id = ", "d", ".user_id\n      AND ", "m", ".actual_start >= ",
    first, "\n      AND ", "m", ".actual_start <= ", last]).Woven w
  refine .slot (.word rfl) (.next rfl (.slot (.word rfl) (.next rfl (.slot (.word rfl) ?_))))
  exact .next rfl (.slot hfirst (.next rfl (.slot (.word rfl) (.next rfl (.slot hlast .nil)))))

end Source

theorem capValue_woven {w : Watchword} (cap : Double) {value : Sql} (h : value.Woven w) :
    (capValue cap value).Woven w := by
  have hcap : (Sql.code (numberText cap)).Woven w := .code (Watchword.absent_numberText cap)
  unfold capValue
  split
  · exact h
  · exact .opens rfl (.slot hcap (.next rfl (.slot h (.next rfl .nil))))

namespace MetricDefinition

variable {w : Watchword}

theorem aggregateValue_woven (m : MetricDefinition) {column : Sql} (h : column.Woven w) :
    (m.aggregateValue column).Woven w := by
  unfold aggregateValue
  split
  · refine capValue_woven _ ?_
    split
    · exact .opens rfl (.slot h (.next rfl .nil))
    · exact .word rfl
  · exact capValue_woven _ (.opens rfl (.slot h (.next rfl .nil)))
  · exact capValue_woven _ (.opens rfl (.slot h (.next rfl .nil)))
  · exact .word rfl

theorem columnSql_woven {column : String} (h : w.Absent column) :
    (columnSql column "m").Woven w := by
  unfold columnSql
  split
  · have hm : 'm' ∉ w.chars := by cases w <;> decide
    refine .code fun hwithin => h ?_
    rw [Text.replaceAll, Text.replaceFound, String.toList_ofList] at hwithin
    exact infix_of_infix_replacePass hm hwithin
  · exact Source.column_woven (w.absent_of_check rfl) h

theorem rawValue_woven {m : MetricDefinition} (h : ∀ column ∈ m.column, w.Absent column)
    {value : Sql} (hvalue : m.rawValue "m" = .ok value) : value.Woven w := by
  have hone : (Sql.code "1").Woven w := .word rfl
  have hcolumn : m.valueColumn "m" = .ok value → value.Woven w := by
    unfold valueColumn
    split
    · rename_i column hcolumn
      rintro ⟨⟩
      exact columnSql_woven (h column hcolumn)
    · simp
  unfold rawValue at hvalue
  split at hvalue
  · split at hvalue
    · exact hcolumn hvalue
    · obtain rfl := Except.ok.inj hvalue
      exact hone
  · exact hcolumn hvalue
  · exact hcolumn hvalue
  · obtain rfl := Except.ok.inj hvalue
    exact hone

end MetricDefinition

theorem Source.percentileColumns_edged {w : Watchword} (s : Source) (m : MetricDefinition)
    {column : Option Sql} (h : ∀ c ∈ column, c.Woven w) :
    (s.percentileColumns m column).Edged w := by
  unfold percentileColumns
  split
  · exact .empty
  · refine .next rfl (.slot (.join rfl (List.forall_mem_map.mpr fun fraction _ => ?_)) .nil)
    have halias : (Sql.code (percentileAlias fraction)).Woven w :=
      .code (Watchword.absent_of_forall (forall_append (forall_of_all (by cases w <;> rfl))
        (forall_int (fun _ => Watchword.notMem_of_isDigit) (by cases w <;> decide) _)))
    split
    · exact .slot (s.dialect.percentile_woven (h _ rfl) fraction) (.next rfl (.slot halias .nil))
    · exact .slot (.word rfl) (.next rfl (.slot halias .nil))

/-! ### Tables of users -/

/-- A table with a label that takes the identifiers of its users from a relation under an alias,
with woven texts before and after the join that it needs for them. -/
def Sql.TakesUsers (w : Watchword) (user : IdentityJoin) (label relation tableName : String)
    (q : Sql) : Prop :=
  ∃ before after : List Sql,
    q = .concat (before ++ user.join :: after) ∧
    (∀ x : Sql, x.Woven w → (concat (before ++ [x])).Woven w) ∧ (concat after).Edged w ∧
    (∃ columns, (concat before).text = "-- " ++ label ++ "\n    SELECT\n      " ++
      user.column.text ++ " as user_id," ++ columns ++ "\n    FROM\n      " ++ relation ++ " " ++
      tableName ++ "\n      ") ∧
    ∃ rest, (concat after).text = "\n    " ++ rest

namespace Sql

namespace TakesUsers

variable {w : Watchword} {user : IdentityJoin} {label relation tableName : String} {q : Sql}
  (h : q.TakesUsers w user label relation tableName)
include h

theorem woven (hjoin : user.join.Woven w) : q.Woven w := by
  obtain ⟨before, after, rfl, hbefore, hafter, -⟩ := h
  have hsplit : Sql.concat (before ++ user.join :: after) =
      .concat (before ++ [user.join ++ .concat after]) := by
    simp [concat, List.flatMap_append, pieces_append]
  rw [hsplit]
  exact hbefore _ (hjoin.append hafter)

/-- The texts before and after the join. -/
theorem exists_split : ∃ start rest : Sql, q = start ++ (user.join ++ rest) ∧ start.Woven w ∧
    rest.Woven w ∧ (∃ columns, start.text = "-- " ++ label ++ "\n    SELECT\n      " ++
      user.column.text ++ " as user_id," ++ columns ++ "\n    FROM\n      " ++ relation ++ " " ++
      tableName ++ "\n      ") ∧ ∃ more, rest.text = "\n    " ++ more := by
  obtain ⟨before, after, rfl, hbefore, hafter, hlabel, hmore⟩ := h
  have hsame : concat (before ++ [empty]) = concat before := by simp [concat, empty]
  refine ⟨concat before, concat after, ?_, hsame ▸ hbefore empty Edged.empty.toWoven,
    hafter.toWoven, hlabel, hmore⟩
  rw [concat_append, concat_cons]

theorem exists_selected : ∃ rest, q.text = "-- " ++ label ++ "\n    SELECT\n      " ++
    user.column.text ++ " as user_id," ++ rest := by
  obtain ⟨start, rest, rfl, -, -, ⟨columns, hlabel⟩, -⟩ := h.exists_split
  refine ⟨columns ++ "\n    FROM\n      " ++ relation ++ " " ++ tableName ++ "\n      " ++
    user.join.text ++ rest.text, ?_⟩
  simp [hlabel, String.append_assoc]

end TakesUsers

theorem exists_selected (name : String) (column : Sql) {lead : String} (more : String)
    (h : lead = " as user_id," ++ more) (qs : List Sql) :
    ∃ rest, (concat (comment name :: code "\n    SELECT\n      " :: column :: code lead ::
      qs)).text = "-- " ++ name ++ "\n    SELECT\n      " ++ column.text ++ " as user_id," ++
        rest := by
  refine ⟨more ++ (concat qs).text, ?_⟩
  simp [h, String.append_assoc]

theorem exists_rest {lead : String} (more : String) (h : lead = "\n    " ++ more) (qs : List Sql) :
    ∃ rest, (concat (code lead :: qs)).text = "\n    " ++ rest :=
  ⟨more ++ (concat qs).text, by simp [h, String.append_assoc]⟩

theorem exists_columns (name : String) (column : Sql) (middle : List Sql)
    (table first last : String) {lead tail mark tableName : String}
    (hlead : lead = " as user_id," ++ first)
    (htail : tail = last ++ "\n    FROM\n      ") (hmark : mark = " " ++ tableName ++ "\n      ") :
    ∃ columns,
      (concat ([comment name, code "\n    SELECT\n      ", column, code lead] ++ middle ++
        [code tail, code table, code mark])).text = "-- " ++ name ++
        "\n    SELECT\n      " ++ column.text ++ " as user_id," ++ columns ++
        "\n    FROM\n      " ++ table ++ " " ++ tableName ++ "\n      " := by
  refine ⟨first ++ (concat middle).text ++ last, ?_⟩
  simp [hlead, htail, hmark, String.append_assoc]

end Sql

namespace Source

variable {w : Watchword} {s : Source} (hs : ∀ t ∈ s.texts, w.Absent t)
include hs

theorem reconcile_column_woven (requested native : IdType) (nativeColumn : String)
    {tableName requestedColumn : String} (htable : w.Absent tableName)
    (hrequested : w.Absent requestedColumn) :
    (s.reconcile requested native tableName nativeColumn requestedColumn).column.Woven w := by
  unfold reconcile
  split
  · exact column_woven htable hrequested
  · exact .opens rfl (.slot (.code (absent_sectionColumn hs _ _)) .nil)

theorem metricTable_takesUsers {m : MetricDefinition} {idType : IdType} {q : Sql}
    (htexts : ∀ t ∈ m.texts, w.Absent t) (hcolumn : ∀ column ∈ m.column, w.Absent column)
    (hname : w = .join → w.Absent m.name)
    (hgiven : w = .join → ∀ v ∈ m.given s.dialect, w.Absent v)
    (hq : s.metricTable m idType = .ok q) :
    q.TakesUsers w (s.reconcile idType m.userIdType "m"
      (s.settings.idColumn m.userIdType .default m)
      (s.settings.idColumn idType .default m)) ("Metric (" ++ m.name ++ ")")
      (s.dialect.fullTableName m.table) "m" := by
  obtain ⟨value, hvalue, hq⟩ := Except.bind_eq_ok.mp hq
  obtain rfl := Except.ok.inj hq
  have hown (role : ColumnRole) : w.Absent (s.settings.column role .default m) :=
    forall_column Watchword.absent_builtin hs role .default fun _ hm =>
      Option.mem_some.mp hm ▸ htexts
  have hlabel : w = .join → w.Absent ("Metric (" ++ m.name ++ ")") := fun hw =>
    Watchword.absent_label "Metric ".toList rfl (w.not_infix_of_check rfl) (hname hw)
  have huser := reconcile_column_woven hs idType m.userIdType
    (s.settings.idColumn m.userIdType .default m)
    (w.absent_of_check rfl : w.Absent "m") (hown idType.role)
  have hvalue' := MetricDefinition.rawValue_woven hcolumn hvalue
  have htime : (Sql.code "m." ++ Sql.code (s.settings.timestampColumn .default m)).Woven w :=
    .after rfl (.code (hown .timestamp))
  have htable : w.Absent (s.dialect.fullTableName m.table) :=
    absent_fullTableName hs (htexts m.table List.mem_cons_self)
  have hfilter : (if m.conditions.isEmpty then Sql.empty
      else .concat ["WHERE\n      ", s.conditions m "m"]).Woven w := by
    split
    · exact Sql.Edged.empty.toWoven
    · exact .opens rfl (.slot (s.conditions_woven htexts hgiven) .nil)
  refine ⟨[_, _, _, _] ++ [_, _, _, _, _, _, _] ++ [_, _, _], [_, _, _], rfl, fun x hx => ?_,
    ?_, ?_, ?_⟩
  · refine .slot (.comment hlabel) (.next rfl (.slot huser (.next rfl (.slot hvalue' ?_))))
    refine .next rfl (.slot htime (.next rfl (.slot (s.dialect.addHours_woven htime _) ?_)))
    refine .next rfl (.slot (s.dialect.subtractMinutes_woven htime _) (.next rfl ?_))
    exact .slot (.code htable) (.next rfl (.slot hx .nil))
  · exact .next rfl (.slot hfilter (.next rfl .nil))
  · exact Sql.exists_columns _ _ _ _ "\n      " " as session_start" rfl rfl rfl
  · exact Sql.exists_rest "" rfl _

theorem experimentTable_takesUsers {e : ExperimentDefinition} {phase : ExperimentPhase}
    {idType : IdType} {q : Sql} (hkey : w = .join → w.Absent e.trackingKey)
    (hq : s.experimentTable e phase idType = .ok q) :
    q.TakesUsers w (s.reconcile idType e.userIdType "e"
      (s.settings.idColumn e.userIdType .experiments none)
      (s.settings.idColumn idType .experiments none)) "Viewed Experiment"
      (s.dialect.fullTableName s.settings.experiments.table) "e" := by
  have hown (role : ColumnRole) := absent_sectionColumn hs role .experiments
  have hsetting {t : String} (h : t ∈ s.settings.texts) : (Sql.code t).Woven w :=
    .code (forall_setting hs h)
  have huser := reconcile_column_woven hs idType e.userIdType
    (s.settings.idColumn e.userIdType .experiments none)
    (w.absent_of_check rfl : w.Absent "e") (hown idType.role)
  have htime :
      (Sql.code "e." ++ Sql.code (s.settings.timestampColumn .experiments none)).Woven w :=
    .after rfl (.code (hown .timestamp))
  have htable : w.Absent (s.dialect.fullTableName s.settings.experiments.table) :=
    absent_settingTable hs (by simp [SourceSettings.texts])
  have hvariation : (Sql.code s.settings.variationColumn).Woven w :=
    hsetting (by simp [SourceSettings.texts, SourceSettings.variationColumn])
  have hexperiment : (Sql.code s.settings.experimentIdColumn).Woven w :=
    hsetting (by simp [SourceSettings.texts, SourceSettings.experimentIdColumn])
  obtain ⟨first, last, hfirst, hlast, rfl⟩ := withinPhase_eq_ok hq
  have hfirst := (s.dialect.woven_of_formatTimestamp (w := w) hfirst).toWoven
  have hlast : last.Edged w := by
    obtain rfl | ⟨t, ended, hended, rfl⟩ := hlast
    · exact .empty
    · have hended : ended.Woven w := (s.dialect.woven_of_formatTimestamp hended).toWoven
      exact .next rfl (.slot htime (.next rfl (.slot hended .nil)))
  refine ⟨[_, _, _, _] ++ [_, _, _, _, _, _, _] ++ [_, _, _], [_, _, _, _, _, _, _, _, _, _], rfl,
    fun x hx => ?_, ?_, ?_, ?_⟩
  · refine .slot (.comment fun _ => w.absent_of_check rfl) (.next rfl (.slot huser (.next rfl ?_)))
    refine .slot hvariation (.next rfl (.slot htime (.next rfl ?_)))
    refine .slot (s.dialect.addHours_woven htime _) (.next rfl ?_)
    refine .slot (s.dialect.subtractMinutes_woven htime _) (.next rfl ?_)
    exact .slot (.code htable) (.next rfl (.slot hx .nil))
  · refine .next rfl (.slot hexperiment (.next rfl (.slot (.literal hkey) (.next rfl ?_))))
    exact .slot htime (.next rfl (.slot hfirst (.slot hlast (.next rfl .nil))))
  · exact Sql.exists_columns _ _ _ _ "\n      e." " as session_start"
      rfl rfl rfl
  · exact Sql.exists_rest "WHERE\n      e." rfl _

theorem segmentTable_takesUsers {g : SegmentDefinition} (hsql : w.Absent g.sql)
    (hname : w = .join → w.Absent g.name) (idType : IdType) :
    (s.segmentTable g idType).TakesUsers w (s.reconcile idType g.userIdType "s" "user_id" "user_id")
      ("Segment (" ++ g.name ++ ")") ("(" ++ g.sql ++ ")") "s" := by
  have hlabel : w = .join → w.Absent ("Segment (" ++ g.name ++ ")") := fun hw =>
    Watchword.absent_label "Segment ".toList rfl (w.not_infix_of_check rfl) (hname hw)
  have huser := reconcile_column_woven hs idType g.userIdType "user_id"
    (w.absent_of_check rfl : w.Absent "s") (w.absent_of_check rfl : w.Absent "user_id")
  refine ⟨[_, _, _, _, _, _], [_], rfl, fun x hx => ?_, .next rfl .nil, ?_, ?_⟩
  · refine .slot (.comment hlabel) (.next rfl (.slot huser (.next rfl (.slot (.code hsql) ?_))))
    exact .next rfl (.slot hx .nil)
  · refine ⟨"\n      s.date", ?_⟩
    rw [← String.toList_inj]
    simp
  · exact Sql.exists_rest "" rfl _

theorem dimensionTable_takesUsers {d : DimensionDefinition} (hsql : w.Absent d.sql)
    (hname : w = .join → w.Absent d.name) (idType : IdType) :
    (s.dimensionTable d idType).TakesUsers w
      (s.reconcile idType d.userIdType "d" "user_id" "user_id") ("Dimension (" ++ d.name ++ ")")
      ("(" ++ d.sql ++ ")") "d" := by
  have hlabel : w = .join → w.Absent ("Dimension (" ++ d.name ++ ")") := fun hw =>
    Watchword.absent_label "Dimension ".toList rfl (w.not_infix_of_check rfl) (hname hw)
  have huser := reconcile_column_woven hs idType d.userIdType "user_id"
    (w.absent_of_check rfl : w.Absent "d") (w.absent_of_check rfl : w.Absent "user_id")
  refine ⟨[_, _, _, _, _, _], [_], rfl, fun x hx => ?_, .next rfl .nil, ?_, ?_⟩
  · refine .slot (.comment hlabel) (.next rfl (.slot huser (.next rfl (.slot (.code hsql) ?_))))
    exact .next rfl (.slot hx .nil)
  · refine ⟨"\n      d.value", ?_⟩
    rw [← String.toList_inj]
    simp
  · exact Sql.exists_rest "" rfl _

theorem pageUsersTable_woven {p : UsersQueryParams} {q : Sql}
    (hgiven : w = .join → ∀ v ∈ p.given s.dialect, w.Absent v)
    (hq : s.pageUsersTable p = .ok q) : q.Woven w := by
  have hown (role : ColumnRole) : (Sql.code (s.settings.column role .pageviews none)).Woven w :=
    .code (absent_sectionColumn hs role .pageviews)
  have hvisit : (Sql.code "MIN(" ++ Sql.code (s.settings.timestampColumn .pageviews none) ++
      Sql.code ")").Woven w :=
    .append (.after rfl (hown .timestamp)) (.code rfl)
  have htable : w.Absent (s.dialect.fullTableName s.settings.pageviews.table) :=
    absent_settingTable hs (by simp [SourceSettings.texts])
  have hurl : (Sql.code s.settings.pageviews.urlColumn).Woven w :=
    .code (forall_setting hs (by simp [SourceSettings.texts]))
  obtain ⟨first, hfirst, hq⟩ := Except.bind_eq_ok.mp hq
  obtain ⟨last, hlast, hq⟩ := Except.bind_eq_ok.mp hq
  obtain rfl := Except.ok.inj hq
  have hfirst := (s.dialect.woven_of_formatTimestamp (w := w) hfirst).toWoven
  have hlast := (s.dialect.woven_of_formatTimestamp (w := w) hlast).toWoven
  refine .slot (.comment fun _ => w.absent_of_check rfl) (.next rfl (.slot (hown _) (.next rfl ?_)))
  refine .slot hvisit (.next rfl (.slot (s.dialect.addHours_woven hvisit _) (.next rfl ?_)))
  refine .slot (s.dialect.subtractMinutes_woven hvisit _) (.next rfl (.slot (.code htable) ?_))
  refine .next rfl (.slot (hown .timestamp) (.next rfl (.slot hfirst (.next rfl ?_))))
  refine .slot (hown .timestamp) (.next rfl (.slot hlast (.slot ?hfilter ?hgroup)))
  case hfilter =>
    split
    · rename_i pattern hpattern
      have hpattern : w = .join → w.Absent (s.dialect.patternText pattern) := fun hw =>
        hgiven hw _ (List.mem_map_of_mem (by simp [hpattern]))
      exact .next rfl (.slot (s.dialect.regexMatch_woven hurl hpattern) .nil)
    · exact .empty
  case hgroup => exact .next rfl (.slot (hown _) (.next rfl .nil))

end Source
end SplitTest

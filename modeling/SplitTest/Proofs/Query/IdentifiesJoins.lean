import SplitTest.Proofs.Query.Woven
import SplitTest.Proofs.Schema.Minimal
import SplitTest.Proofs.Sql.Occurrences

/-! The joins of a query with the identifies table.  They are counted by how often the text with
which they begin occurs.  A table of users adds one to this number if it has identifiers of another
type than the query asks for.  The tables after these and the body add none: no text in them ends in
the letter by which the identifies table is called. -/

namespace SplitTest

open Scan

/-! ### Texts that can hold no bridge -/

theorem Double.notMem_or_aloof (x : Double) : aloof false x.text.toList = true := by
  have hfinite (s : Bool) (k : Fin places) : 'i' ∉ (Double.finite s k).text.toList := by
    have hdigit (c : Char) (h : c.isDigit = true) : c ≠ 'i' := by
      rintro rfl
      exact absurd h (by decide)
    have hmagnitude : ∀ c ∈ (magnitudeText k).toList, c ≠ 'i' :=
      forall_magnitudeText hdigit (forall_of_all rfl) k
    have hsign : ∀ c ∈ (if s then "-" else "").toList, c ≠ 'i' := by
      cases s <;> exact forall_of_all rfl
    exact fun h => forall_append hsign hmagnitude 'i' h rfl
  cases x with
  | finite s k => exact aloof_of_notMem (hfinite s k)
  | infinity s => cases s <;> rfl
  | nan => rfl

theorem notMem_int (n : Int) : 'i' ∉ (toString n).toList := by
  have hdigit (c : Char) (h : c.isDigit = true) : c ≠ 'i' := by
    rintro rfl
    exact absurd h (by decide)
  exact fun h => forall_int hdigit (by decide) n 'i' h rfl

theorem Sql.Aloof.number (x : Double) : (Sql.code (numberText x)).Aloof := by
  have htext : (Sql.code x.text).Aloof := by
    rw [Sql.Aloof, Sql.chars_code]
    exact x.notMem_or_aloof
  unfold numberText
  split
  · split
    · exact .code (notMem_int _)
    · exact htext
  · exact htext

namespace Dialect

variable (d : Dialect) {column : Sql} (hcolumn : column.Aloof)
include hcolumn

theorem addHours_aloof (hours : Int) : (d.addHours column hours).Aloof := by
  have hn : (Sql.code (toString hours)).Aloof := .code (notMem_int hours)
  have hhours : 'i' ∉ (toString hours ++ " hours").toList := by
    simpa using notMem_int hours
  unfold addHours
  cases d.flavor with
  | snowflake => exact .next rfl (.cons hn (.next rfl (.cons hcolumn (.next rfl .nil))))
  | bigquery => exact .next rfl (.cons hcolumn (.next rfl (.cons hn (.next rfl .nil))))
  | presto =>
    exact .next rfl (.cons (.literal (by decide)) (.next rfl (.cons hn (.next rfl
      (.cons hcolumn (.next rfl .nil))))))
  | postgres | redshift | duckdb =>
    exact .cons hcolumn (.next rfl (.cons (.literal hhours) .nil))

theorem dateTrunc_aloof : (d.dateTrunc column).Aloof := by
  unfold dateTrunc
  cases d.flavor with
  | bigquery => exact .next rfl (.cons hcolumn (.next rfl .nil))
  | _ =>
    exact .next rfl (.cons (.literal (by decide)) (.next rfl (.cons hcolumn (.next rfl .nil))))

theorem percentile_aloof (fraction : Double) : (d.percentile column fraction).Aloof := by
  have hpercent : (Sql.code (toString (percent fraction))).Aloof := .code (notMem_int _)
  have hfraction : (Sql.code fraction.text).Aloof := by
    rw [Sql.Aloof, Sql.chars_code]
    exact fraction.notMem_or_aloof
  unfold percentile
  cases d.flavor with
  | bigquery => exact .next rfl (.cons hcolumn (.next rfl (.cons hpercent (.next rfl .nil))))
  | presto | duckdb =>
    exact .next rfl (.cons hcolumn (.next rfl (.cons hfraction (.next rfl .nil))))
  | postgres | redshift | snowflake =>
    exact .next rfl (.cons hfraction (.next rfl (.cons hcolumn (.next rfl .nil))))

end Dialect

theorem MetricDefinition.aggregateValue_aloof (m : MetricDefinition) {column : Sql}
    (h : column.Aloof) : (m.aggregateValue column).Aloof := by
  have hcap {value : Sql} (hvalue : value.Aloof) : (capValue m.capOrZero value).Aloof := by
    unfold capValue
    split
    · exact hvalue
    · exact .next rfl (.cons (.number _) (.next rfl (.cons hvalue (.next rfl .nil))))
  unfold aggregateValue
  split
  · refine hcap ?_
    split
    · exact .next rfl (.cons h (.next rfl .nil))
    · exact .written rfl
  · exact hcap (.next rfl (.cons h (.next rfl .nil)))
  · exact hcap (.next rfl (.cons h (.next rfl .nil)))
  · exact .written rfl

namespace Source

variable (s : Source)

theorem conversionWindowJoin_aloof (m : MetricDefinition) :
    (s.conversionWindowJoin m "d" "m").Aloof := by
  unfold conversionWindowJoin
  extract_lets start first last
  have hstart : start.Aloof := by
    refine .append (.append (.written rfl) (.written rfl)) ?_
    cases m.earlyStart <;> exact .written rfl
  have hfirst : first.Aloof := by
    unfold first
    split
    · exact hstart
    · exact s.dialect.addHours_aloof hstart _
  have hopen : (Sql.code "d.actual_start").Aloof := .written rfl
  have hlast : last.Aloof := s.dialect.addHours_aloof hopen _
  show (Sql.concat ["m", ".user_id = ", "d", ".user_id\n      AND ", "m", ".actual_start >= ",
    first, "\n      AND ", "m", ".actual_start <= ", last]).Aloof
  refine .next rfl (.next rfl (.next rfl (.next rfl (.next rfl (.next rfl ?_)))))
  exact .cons hfirst (.next rfl (.next rfl (.next rfl (.cons hlast .nil))))

theorem userMetricTable_aloof (m : MetricDefinition) (name : String) {comment : String}
    {columns groups : Sql} (hcomment : (Sql.comment comment).Aloof) (hcolumns : columns.Aloof)
    (hgroups : groups.Aloof) :
    (s.userMetricTable m name comment columns groups).body.Aloof := by
  have hvalue : (m.aggregateValue "m.value").Aloof := m.aggregateValue_aloof (.written rfl)
  refine .next rfl (.cons hcomment (.next rfl (.cons hcolumns (.cons hvalue (.cons ?_
    (.cons (s.conversionWindowJoin_aloof m) (.next rfl (.cons hgroups (.next rfl .nil)))))))))
  exact .append (.written rfl) (.written rfl)

theorem dateColumn_aloof (p : UsersQueryParams) : p.dateColumn.Aloof := by
  unfold UsersQueryParams.dateColumn
  split
  · exact .written rfl
  · exact .nil

theorem segmentJoin_aloof (p : UsersQueryParams) : p.segmentJoin.Aloof := by
  unfold UsersQueryParams.segmentJoin
  split
  · exact .written rfl
  · exact .nil

theorem percentileColumns_aloof (m : MetricDefinition) {column : Option Sql}
    (hcolumn : ∀ c ∈ column, c.Aloof) : (s.percentileColumns m column).Aloof := by
  unfold percentileColumns
  split
  · exact .nil
  · refine .next rfl (.cons (.join (.written rfl)
      (List.forall_mem_map.mpr fun fraction _ => ?_)) .nil)
    have halias : (Sql.code (percentileAlias fraction)).Aloof := .code (by
      simpa [percentileAlias] using notMem_int (percent fraction))
    split
    · exact .cons (s.dialect.percentile_aloof (hcolumn _ rfl) fraction)
        (.next rfl (.cons halias .nil))
    · exact .next rfl (.next rfl (.cons halias .nil))

end Source

namespace Analysis

variable (a : Analysis)

theorem distinctUsersHead_aloof : a.distinctUsersHead.Aloof := by
  have hvalue : a.dimensionValue.Aloof := by
    unfold dimensionValue
    split
    · exact .written rfl
    · exact .literal (by decide)
  have hcomment : (Sql.comment "One row per user/dimension/variation").Aloof := rfl
  exact .next rfl (.cons hcomment (.next rfl (.cons hvalue (.next rfl .nil))))

theorem distinctUserJoins_aloof : a.distinctUserJoins.Aloof := by
  unfold distinctUserJoins dimensionJoins activationJoins
  refine .join (.written rfl) (List.forall_mem_append.mpr ⟨?_, ?_⟩)
  · split
    · exact List.forall_mem_singleton.mpr (.written rfl)
    · exact List.forall_mem_nil _
  · split
    · exact List.forall_mem_singleton.mpr
        (.append (.append (.written rfl) (.written rfl)) (.written rfl))
    · exact List.forall_mem_nil _

theorem distinctUsersTail_aloof : a.distinctUsersTail.Aloof := by
  have hgroup : a.dimensionGroup.Aloof := by
    unfold dimensionGroup
    split
    · exact .written rfl
    · exact .nil
  exact .next rfl (.cons a.distinctUserJoins_aloof (.next rfl (.cons hgroup (.next rfl .nil))))

end Analysis

/-! ### Bridges -/

/-- What begins each join with the identifies table. -/
def Source.bridgeMark (s : Source) : String :=
  "JOIN " ++ s.dialect.fullTableName s.settings.identifies.table ++ " i ON ("

namespace Source

variable (s : Source)

theorem join_prefix_bridgeMark : Watchword.join.chars <+: s.bridgeMark.toList :=
  ⟨' ' :: ((s.dialect.fullTableName s.settings.identifies.table).toList ++ " i ON (".toList), by
    simp [bridgeMark, Watchword.chars]⟩

theorem alias_infix_bridgeMark : ['i', ' '] <:+: s.bridgeMark.toList :=
  ⟨"JOIN ".toList ++ (s.dialect.fullTableName s.settings.identifies.table).toList ++ [' '],
    "ON (".toList, by simp [bridgeMark]⟩

theorem occurrences_of_aloof {q : Sql} (h : q.Aloof) :
    occurrences s.bridgeMark.toList q.chars = 0 :=
  occurrences_eq_zero fun hwithin =>
    not_infix_of_aloof h (s.alias_infix_bridgeMark.trans hwithin)

/-- One more for a table with identifiers of another type. -/
def bridges (requested native : IdType) : Nat :=
  if requested = native then 0 else 1

variable {s} (hs : ∀ t ∈ s.texts, Watchword.join.Absent t)
include hs

theorem identifiesJoin_adds {nativeColumn : Sql} (hcolumn : nativeColumn.Woven .join)
    (native : IdType) : (s.identifiesJoin nativeColumn native).Adds s.bridgeMark.toList 1 := by
  have htable : Watchword.join.Absent (s.dialect.fullTableName s.settings.identifies.table) :=
    absent_settingTable hs (by simp [SourceSettings.texts])
  -- What stands behind the first letter has no other join.
  let after : Sql := .concat ["OIN ", s.dialect.fullTableName s.settings.identifies.table,
    " i ON (\n  i.", s.settings.idColumn native .identifies none, " = ", nativeColumn, "\n)"]
  have hafter : after.Woven .join :=
    .opens rfl (.slot (.code htable) (.next rfl (.slot (.code (absent_sectionColumn hs _ _))
      (.next rfl (.slot hcolumn (.next rfl .nil))))))
  have hchars : (s.identifiesJoin nativeColumn native).chars = 'J' :: after.chars := by
    simp [identifiesJoin, after, Sql.concat_cons, Sql.chars_append, Sql.chars_code]
  have hmark (rest : List Char) : s.bridgeMark.toList <+: 'J' :: (after.chars ++ rest) := by
    refine ⟨"\n  i.".toList ++ (s.settings.idColumn native .identifies none).toList ++
      " = ".toList ++ nativeColumn.chars ++ "\n)".toList ++ rest, ?_⟩
    simp [bridgeMark, after, Sql.concat_cons, Sql.chars_append, Sql.chars_code, Sql.chars_nil]
  constructor
  · simp [hchars, Watchword.chars]
  · intro rest hrest
    rw [hchars, List.cons_append, occurrences_cons_of_prefix (hmark rest),
      occurrences_append s.join_prefix_bridgeMark hafter.not_infix_chars hrest]

theorem reconcile_adds (requested native : IdType) {tableName nativeColumn : String}
    (requestedColumn : String) (htable : Watchword.join.Absent tableName)
    (hcolumn : Watchword.join.Absent nativeColumn) :
    (s.reconcile requested native tableName nativeColumn requestedColumn).join.Adds
      s.bridgeMark.toList (bridges requested native) := by
  unfold reconcile bridges
  split
  · exact .empty
  · exact identifiesJoin_adds hs (column_woven htable hcolumn) native

end Source

/-- A table of users adds the joins that it needs for their identifiers. -/
theorem Sql.TakesUsers.adds {s : Source} {user : IdentityJoin} {label relation tableName : String}
    {q : Sql} {n : Nat} (h : q.TakesUsers .join user label relation tableName)
    (hjoin : user.join.Adds s.bridgeMark.toList n) : q.Adds s.bridgeMark.toList n := by
  obtain ⟨start, rest, rfl, hstart, hrest, ⟨columns, hlabel⟩, more, hmore⟩ :=
    h.exists_split
  have hmark := s.join_prefix_bridgeMark
  have hstart' : start.Adds s.bridgeMark.toList 0 :=
    hstart.adds hmark (by simp [chars, hlabel, Watchword.chars])
  have hrest' : rest.Adds s.bridgeMark.toList 0 :=
    hrest.adds hmark (by simp [chars, hmore, Watchword.chars])
  simpa using hstart'.append (hjoin.append hrest')

/-! ### Tables and queries -/

section

variable {w : List Char} {n : Nat} {body : Sql} {cs : List Char}

/-- Whether a name begins with an underscore and is none of a join. -/
def isTableName (cs : List Char) : Bool :=
  cs.head? == some '_' && cs.all (· != 'J')

theorem DerivedTable.sql_adds (hw : Watchword.join.chars <+: w) (hname : isTableName cs = true)
    (h : body.Adds w n) : (DerivedTable.mk (String.ofList cs) body).sql.Adds w n := by
  simp only [isTableName, Bool.and_eq_true, beq_iff_eq, List.all_eq_true, bne_iff_ne] at hname
  obtain ⟨hhead, hletters⟩ := hname
  have habsent : Watchword.join.Absent (String.ofList cs) := fun hwithin =>
    hletters 'J' (by simpa using hwithin.subset (by simp [Watchword.chars])) rfl
  have hstart : (Sql.concat [Sql.code (String.ofList cs), " as ("]).Adds w 0 := by
    refine Sql.Woven.adds (.slot (.code habsent) (.next rfl .nil)) hw ?_
    simp [Sql.concat_cons, Sql.chars_append, Sql.chars_code, hhead, Watchword.chars]
  have hend : (Sql.concat [Sql.code ")"]).Adds w 0 := by
    refine Sql.Woven.adds (.opens rfl .nil) hw ?_
    simp [Sql.concat_cons, Sql.chars_append, Sql.chars_code, Watchword.chars]
  have hadds := hstart.append (h.append hend)
  rw [Nat.add_zero, Nat.zero_add] at hadds
  exact hadds

theorem DerivedTable.sql_aloof (hname : aloof false cs = true) (h : body.Aloof) :
    (DerivedTable.mk (String.ofList cs) body).sql.Aloof :=
  .next hname (.next rfl (.cons h (.next rfl .nil)))

end

/-- The joins with the identifies table are those of the tables of users, if the other tables, which
come after them, and the body cannot have any. -/
theorem Query.occurrences_sql {s : Source} {q : Query} {first : DerivedTable}
    {users others : List DerivedTable} {n : Nat} {ns : List Nat}
    (htitle : Watchword.join.Absent q.title) (hseparator : q.separator = leadingComma)
    (htables : q.tables = first :: users ++ others)
    (hfirst : first.sql.Adds s.bridgeMark.toList n)
    (husers : List.Forall₂ (fun t n => t.sql.Adds s.bridgeMark.toList n) users ns)
    (hothers : ∀ t ∈ others, t.sql.Aloof) (hbody : q.body.Aloof) :
    occurrences s.bridgeMark.toList q.sql.chars = n + ns.sum := by
  have hmark := s.join_prefix_bridgeMark
  have hcomma : (Sql.code leadingComma).Adds s.bridgeMark.toList 0 := by
    refine Sql.Woven.adds (.word rfl) hmark ?_
    simp [leadingComma, Sql.chars_code, Watchword.chars]
  have htitle : (Sql.concat [.comment q.title, "\n    WITH\n      "]).Adds
      s.bridgeMark.toList 0 := by
    refine Sql.Woven.adds (.slot (.comment fun _ => htitle) (.next rfl .nil)) hmark ?_
    simp [Sql.concat_cons, Sql.chars_append, Sql.chars_comment, Watchword.chars]
  have husers : (Sql.concat ((users.map DerivedTable.sql).map (leadingComma ++ ·))).Adds
      s.bridgeMark.toList ns.sum :=
    .separated hcomma (List.forall₂_map_left_iff.mpr husers)
  let rest : Sql := .concat ((others.map DerivedTable.sql).map (leadingComma ++ ·)) ++
    .concat ["\n    ", q.body]
  have hrest : rest.Aloof := by
    refine .append (.concat_of_forall ?_) (.next rfl (.cons hbody .nil))
    simp only [List.forall_mem_map]
    exact fun t ht => .append (.written rfl) (hothers t ht)
  have hbegins : ∀ c ∈ rest.chars.head?, c ∉ Watchword.join.chars.tail := by
    cases others <;>
      simp [rest, leadingComma, Sql.concat_cons, Sql.chars_append, Sql.chars_code, Watchword.chars,
        Sql.chars_nil]
  have hsql : q.sql = .concat [.comment q.title, "\n    WITH\n      "] ++ (first.sql ++
      .concat ((users.map DerivedTable.sql).map (leadingComma ++ ·))) ++ rest := by
    rw [Query.sql, hseparator, htables]
    simp only [rest, List.cons_append, List.map_cons, List.map_append, Sql.join_cons,
      Sql.concat_append, Sql.concat_cons, Sql.nil_append, Sql.append_assoc]
  have hcount := (htitle.append (hfirst.append husers)).counts rest.chars hbegins
  rw [hsql, Sql.chars_append, hcount, s.occurrences_of_aloof hrest, Nat.zero_add, Nat.add_zero]

end SplitTest

import SplitTest.Proofs.Query.Nesting
import SplitTest.Proofs.Query.Woven
import SplitTest.Query.Discovery

/-! The query that discovers experiments which ran in the past is readable and balanced, and only
its constant parts name derived tables. -/

namespace SplitTest

open Scan

/-! ### Days between two times -/

namespace Dialect

variable (d : Dialect) {first last : Sql}

theorem dateDiff_framed (hfirst : first.Readable) (hlast : last.Readable) :
    (d.dateDiff first last).Framed := by
  unfold dateDiff
  cases d.flavor with
  | postgres | bigquery =>
    exact .slot (.of rfl) hlast (.slot (.of rfl) hfirst (.last (.of rfl)))
  | redshift | snowflake =>
    exact .slot (.of rfl) hfirst (.slot (.of rfl) hlast (.last (.of rfl)))
  | presto =>
    exact .slot (.of rfl) (.literal _) (.slot (.of rfl) (.literal _) (.slot (.of rfl) hfirst
      (.slot (.of rfl) (.literal _) (.slot (.of rfl) hlast (.last (.of rfl))))))
  | duckdb =>
    exact .slot (.of rfl) (.literal _) (.slot (.of rfl) hfirst (.slot (.of rfl) hlast
      (.last (.of rfl))))

theorem dateDiff_balanced (hfirst : first.Balanced) (hlast : last.Balanced) :
    (d.dateDiff first last).Balanced := by
  unfold dateDiff
  cases d.flavor with
  | postgres | bigquery =>
    exact .of (.tight rfl (.slot hlast (.tight rfl (.slot hfirst (.tight rfl .nil)))))
  | redshift | snowflake =>
    exact .of (.tight rfl (.slot hfirst (.tight rfl (.slot hlast (.tight rfl .nil)))))
  | presto =>
    exact .of (.tight rfl (.slot (.literal _) (.tight rfl (.slot (.literal _) (.tight rfl
      (.slot hfirst (.tight rfl (.slot (.literal _) (.tight rfl (.slot hlast
        (.tight rfl .nil)))))))))))
  | duckdb =>
    exact .of (.tight rfl (.slot (.literal _) (.tight rfl (.slot hfirst (.tight rfl (.slot hlast
      (.tight rfl .nil)))))))

theorem dateDiff_woven {w : Watchword} (hfirst : first.Woven w) (hlast : last.Woven w) :
    (d.dateDiff first last).Woven w := by
  have hday : (Sql.literal "day").Woven w := .literal fun _ => w.absent_of_check rfl
  unfold dateDiff
  cases d.flavor with
  | postgres | bigquery =>
    exact .opens rfl (.slot hlast (.next rfl (.slot hfirst (.next rfl .nil))))
  | redshift | snowflake =>
    exact .opens rfl (.slot hfirst (.next rfl (.slot hlast (.next rfl .nil))))
  | presto =>
    exact .opens rfl (.slot hday (.next rfl (.slot hday (.next rfl (.slot hfirst (.next rfl
      (.slot hday (.next rfl (.slot hlast (.next rfl .nil))))))))))
  | duckdb =>
    exact .opens rfl (.slot hday (.next rfl (.slot hfirst (.next rfl (.slot hlast
      (.next rfl .nil))))))

end Dialect

/-! ### The query -/

namespace Source

open Discovery

variable {s : Source} {dateFrom : DateTime} {q : Query}

theorem pastExperimentsQuery_readable (hs : ∀ t ∈ s.texts, Closed t.toList)
    (hq : s.pastExperimentsQuery dateFrom = .ok q) : q.IsReadable := by
  obtain ⟨horizon, hhorizon, hq⟩ := Except.bind_eq_ok.mp hq
  obtain rfl := Except.ok.inj hq
  have hhorizon := s.dialect.readable_of_formatTimestamp hhorizon
  have hown (role : ColumnRole) : (Sql.code (s.settings.column role .experiments none)).Readable :=
    .code (closed_sectionColumn hs role .experiments)
  have hsetting {t : String} (h : t ∈ s.settings.texts) : (Sql.code t).Readable :=
    .code (closed_setting hs h)
  have hexperiment : (Sql.code s.settings.experimentIdColumn).Readable :=
    hsetting (by simp [SourceSettings.texts, SourceSettings.experimentIdColumn])
  have hvariation : (Sql.code s.settings.variationColumn).Readable :=
    hsetting (by simp [SourceSettings.texts, SourceSettings.variationColumn])
  have htable : (Sql.code (s.dialect.fullTableName s.settings.experiments.table)).Readable :=
    settingTable_readable hs (by simp [SourceSettings.texts])
  have hday := s.dialect.dateTrunc_framed (hown .timestamp)
  have husers : (Sql.code minDailyUsers).Readable := .of_tight (.of rfl)
  have hstart : (Sql.code "start_date").Readable := .of_tight (.of rfl)
  have hend : (Sql.code "end_date").Readable := .of_tight (.of rfl)
  refine .mk (.of rfl) (.of rfl) ?_ ?_
  · simp only [List.forall_mem_cons]
    refine ⟨DerivedTable.sql_readable (.of rfl) ?_, DerivedTable.sql_readable (.of rfl) ?_,
      DerivedTable.sql_readable (.of rfl) ?_, List.forall_mem_nil _⟩
    · refine .slot (.of rfl) hexperiment (.slot (.of rfl) hvariation
        (.slot (.of rfl) hday.readable ?_))
      refine .slot (.of rfl) (hown .anonymousId) (.slot (.of rfl) htable (.slot (.of rfl)
        (hown .timestamp) ?_))
      refine .slot (.of rfl) hhorizon (.slot (.of rfl) hexperiment (.slot (.of rfl) hvariation ?_))
      exact .slot (.of rfl) hday.readable (.last (.of rfl))
    · have hshare : (Sql.code noiseShare).Readable := .of_tight (.of rfl)
      refine .tight (.of rfl) (.comment (.of rfl) .of (.tight (.of rfl)
        (.comment (.of rfl) .of ?_)))
      refine .slot (.of rfl) hshare (.tight (.of rfl)
        (.comment (.append (.of rfl) (.of rfl)) .of ?_))
      exact .slot (.of rfl) husers (.last (.of rfl))
    · have hcode {cs : List Char} (h : Tight.check true cs = true) :
          (Sql.code (String.ofList cs)).Sealed := .code (.of h)
      refine Sql.Framed.readable (.next (Sql.Sealed.framed ?_) (.next (Sql.Framed.code (.of rfl))
        (.next (Sql.Sealed.framed ?_) .nil)))
      · exact .append (.append (.append (hcode rfl) (hcode rfl)) (hcode rfl)) (hcode rfl)
      · exact .append (.append (.append (hcode rfl) (hcode rfl)) (hcode rfl)) (hcode rfl)
  · have hnumber {cs : List Char} (h : Tight.check true cs = true) :
        (Sql.code (String.ofList cs)).Readable := .of_tight (.of h)
    refine .tight (.of rfl) (.comment (.of rfl) .of (.slot (.of rfl) (hnumber rfl)
      (.tight (.of rfl) (.comment (.of rfl) .of ?_))))
    refine .slot (.of rfl) (s.dialect.dateDiff_framed (hnumber rfl) (hnumber rfl)).readable ?_
    refine .slot (.of rfl) (hnumber rfl) (.tight (.of rfl) (.comment (.of rfl) .of ?_))
    refine .slot (.of rfl) (s.dialect.dateDiff_framed hhorizon (hnumber rfl)).readable ?_
    exact .slot (.of rfl) (hnumber rfl) (.last (.of rfl))

theorem pastExperimentsQuery_balanced (hs : ∀ t ∈ s.texts, Whole t)
    (hq : s.pastExperimentsQuery dateFrom = .ok q) : q.IsBalanced := by
  obtain ⟨horizon, hhorizon, hq⟩ := Except.bind_eq_ok.mp hq
  obtain rfl := Except.ok.inj hq
  have hhorizon := s.dialect.balanced_of_formatTimestamp hhorizon
  have hown (role : ColumnRole) : (Sql.code (s.settings.column role .experiments none)).Balanced :=
    (whole_sectionColumn hs role .experiments).balanced
  have hsetting {t : String} (h : t ∈ s.settings.texts) : (Sql.code t).Balanced :=
    (forall_setting hs h).balanced
  have hexperiment : (Sql.code s.settings.experimentIdColumn).Balanced :=
    hsetting (by simp [SourceSettings.texts, SourceSettings.experimentIdColumn])
  have hvariation : (Sql.code s.settings.variationColumn).Balanced :=
    hsetting (by simp [SourceSettings.texts, SourceSettings.variationColumn])
  have htable : (Sql.code (s.dialect.fullTableName s.settings.experiments.table)).Balanced :=
    settingTable_balanced hs (by simp [SourceSettings.texts])
  have hday := s.dialect.dateTrunc_balanced (hown .timestamp)
  refine .mk (.written rfl) ?_ ?_
  · simp only [List.forall_mem_cons]
    refine ⟨.mk (.written rfl) ?_, .mk (.written rfl) ?_, .mk (.written rfl) ?_,
      List.forall_mem_nil _⟩
    · refine .of (.tight rfl (.slot hexperiment (.tight rfl (.slot hvariation (.tight rfl ?_)))))
      refine .slot hday (.tight rfl (.slot (hown .anonymousId) (.tight rfl (.slot htable ?_))))
      refine .tight rfl (.slot (hown .timestamp) (.tight rfl (.slot hhorizon (.tight rfl ?_))))
      refine .slot hexperiment (.tight rfl (.slot hvariation (.tight rfl (.slot hday ?_))))
      exact .tight rfl .nil
    · exact .of (by decide +kernel)
    · exact .of (by decide +kernel)
  · have hdays := s.dialect.dateDiff_balanced (.written rfl : (Sql.code "start_date").Balanced)
      (.written rfl : (Sql.code "end_date").Balanced)
    have hage := s.dialect.dateDiff_balanced hhorizon
      (.written rfl : (Sql.code "start_date").Balanced)
    refine .of (.tight rfl (.slot (.comment _) (.tight rfl (.tight rfl (.tight rfl ?_)))))
    refine .slot (.comment _) (.tight rfl (.slot hdays (.tight rfl (.tight rfl (.tight rfl ?_)))))
    exact .slot (.comment _) (.tight rfl (.slot hage (.tight rfl (.tight rfl (.tight rfl .nil)))))

end Source

end SplitTest

import SplitTest.Proofs.Query.Nesting
import SplitTest.Proofs.Sql.Statement

/-! The text of a query spells a statement whose definitions are the query's derived tables, in
their order, and which ends with the query's body. -/

namespace SplitTest

open Scan

/-- Characters that are read as one word. -/
def IsWord (cs : List Char) : Prop :=
  cs ≠ [] ∧ cs.all isWordChar = true

instance (cs : List Char) : Decidable (IsWord cs) :=
  inferInstanceAs (Decidable (_ ∧ _))

namespace Query

/-- The statement that a query stands for. -/
def statement (q : Query) : Statement where
  definitions := q.tables.map fun t => ⟨t.name.toList, t.body.tokens⟩
  main := q.body.tokens

/-- A query whose derived tables have words as names, with commas between them. -/
structure IsListed (q : Query) : Prop where
  tables : q.tables ≠ []
  names : ∀ t ∈ q.tables, IsWord t.name.toList
  separator : q.separator = leadingComma ∨ q.separator = trailingComma

/-- A query whose text spells its statement. -/
structure Spells (q : Query) : Prop extends q.IsListed where
  readable : q.IsReadable
  balanced : q.IsBalanced
  body : q.body.tokens.head? ≠ some (.mark ',')

end Query

theorem Sql.tokens_of_isWord {name : String} (h : IsWord name.toList) :
    (Sql.code name).tokens = [.word name.toList] := by
  have hplain : Plain name.toList := by
    have hword {c : Char} (hc : c ∈ name.toList) : isWordChar c = true :=
      List.all_eq_true.mp h.2 c hc
    refine ⟨fun hquote => absurd (hword hquote) (by decide), fun hhyphens => ?_⟩
    exact absurd (hword (hhyphens.subset (by simp : '-' ∈ ['-', '-']))) (by decide)
  rw [Sql.tokens, Sql.parts_code, hplain.parts_eq, tokens_word h.2 h.1]

/-- The tokens of a derived table are those of a definition. -/
theorem DerivedTable.tokens_sql {t : DerivedTable} (hname : IsWord t.name.toList) :
    t.sql.tokens = (Definition.mk t.name.toList t.body.tokens).tokens := by
  have hsql : t.sql = Sql.code t.name ++
      (Sql.code " as (" ++ (t.body ++ Sql.concat [Sql.code ")"])) :=
    rfl
  have hend : (t.body ++ Sql.concat [Sql.code ")"]).tokens = t.body.tokens ++ [.mark ')'] :=
    Sql.tokens_append_of_begins (.next rfl)
  rw [hsql, Sql.tokens_around rfl rfl, Sql.tokens_of_isWord hname, hend]
  rfl

namespace Query

theorem tokens_join {separator : String}
    (hseparator : separator = leadingComma ∨ separator = trailingComma) {ts : List DerivedTable}
    (hnames : ∀ t ∈ ts, IsWord t.name.toList) :
    (Sql.join (Sql.code separator) (ts.map DerivedTable.sql)).tokens =
      Statement.listTokens (ts.map fun t => ⟨t.name.toList, t.body.tokens⟩) := by
  have htables : (ts.map DerivedTable.sql).map Sql.tokens =
      (ts.map fun t => Definition.mk t.name.toList t.body.tokens).map Definition.tokens := by
    rw [List.map_map, List.map_map]
    exact List.map_congr_left fun t ht => t.tokens_sql (hnames t ht)
  rw [Statement.listTokens, ← htables]
  rcases hseparator with rfl | rfl
  · exact Sql.tokens_join rfl rfl _
  · exact Sql.tokens_join rfl rfl _

/-- The statement of a query is read from its text. -/
theorem Spells.ofText? {q : Query} (h : q.Spells) :
    Statement.ofText? q.sql.text = some q.statement := by
  have hsql : q.sql = Sql.comment q.title ++ (Sql.code "\n    WITH\n      " ++
      (Sql.join (Sql.code q.separator) (q.tables.map DerivedTable.sql) ++
        (Sql.code "\n    " ++ (q.body ++ Sql.empty)))) := rfl
  have htokens : q.sql.tokens = .keyword "WITH" ::
      (Statement.listTokens q.statement.definitions ++ q.body.tokens) := by
    rw [hsql, Sql.tokens_comment_append, Sql.tokens_append_of_ends (.code rfl),
      Sql.tokens_around rfl rfl, tokens_join h.separator h.names, Sql.append_empty]
    rfl
  have hparts : parts q.sql.text.toList = q.sql.parts := h.readable.sql.parts_eq
  rw [Statement.ofText?, hparts]
  show Statement.read? q.sql.tokens = _
  rw [htokens]
  refine Statement.read?_tokens ?_ ?_ h.body
  · simpa [statement] using h.tables
  · simp only [statement, List.forall_mem_map]
    exact fun t ht => (h.balanced.tables t ht).body.tokenDepth? 0

end Query

end SplitTest

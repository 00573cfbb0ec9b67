import SplitTest.Proofs.Assignments
import SplitTest.Proofs.Except
import SplitTest.Warehouse.Tables

/-! The insertion of rows.  The columns are those of the first row.  If every row has them, one
statement is sent, with a placeholder for each column, and with the value of each row in each column
at the place of the row and of the column; the order in which a row gives its values plays no part.
If a row lacks one of them, nothing is sent.  What the connection answers to the statement decides
the rest. -/

namespace SplitTest.Warehouse

/-! ### The values of a row -/

/-- A row gives a value for a column. -/
def Record.Has (r : Record) (column : String) : Prop := column ∈ r.map Prod.fst

theorem Record.value_eq_ok {r : Record} {column : String} {v : Value} :
    r.value column = .ok v ↔ Value.field? column r = some v := by
  unfold Record.value
  cases Value.field? column r <;> simp

theorem Record.value_eq_error {r : Record} {column : String} {f : Fault} :
    r.value column = .error f ↔ ¬r.Has column ∧ .missingKey column = f := by
  have hlacks : Value.field? column r = none ↔ ¬r.Has column := by
    rw [Value.field?, List.lookup_eq_none_iff, Record.Has, List.mem_map]
    simp only [bne_iff_ne, not_exists, not_and]
    exact forall₂_congr fun _ _ => ne_comm
  rw [← hlacks]
  unfold Record.value
  cases Value.field? column r <;> simp

theorem Record.exists_value {r : Record} {column : String} :
    (∃ v, r.value column = .ok v) ↔ r.Has column := by
  constructor
  · rintro ⟨v, hv⟩
    by_contra hlacks
    rw [value_eq_error.mpr ⟨hlacks, rfl⟩] at hv
    cases hv
  · intro hhas
    cases hv : r.value column with
    | ok v => exact ⟨v, rfl⟩
    | error f => exact absurd hhas (value_eq_error.mp hv).1

/-- Such a row has the same values in whatever order it gives them. -/
theorem Record.value_perm {r r' : Record} (hkeys : (r.map Prod.fst).Nodup) (h : r.Perm r') :
    r.value = r'.value := by
  funext column
  have hfield : Value.field? column r = Value.field? column r' := by
    ext v
    rw [Value.field?, Value.field?, lookup_eq_some_iff_mem hkeys,
      lookup_eq_some_iff_mem ((h.map Prod.fst).nodup_iff.mp hkeys), h.mem_iff]
  rw [value, value, hfield]

/-! ### Lists in the text of a statement -/

/-- The items of a list in the text of a statement. -/
def listItems (text : String) : List String :=
  if text = "" then []
  else (text.toList.splitOn ',').map fun item => String.ofList (item.dropWhile (· == ' '))

/-- A name that can stand in a list. -/
def IsItem (name : String) : Prop :=
  name ≠ "" ∧ ',' ∉ name.toList ∧ name.toList.head? ≠ some ' '

theorem intercalate_comma (item : List Char) (items : List (List Char)) :
    [',', ' '].intercalate (item :: items) = [','].intercalate (item :: items.map (' ' :: ·)) := by
  induction items generalizing item with
  | nil => simp
  | cons next items ih =>
    rw [List.intercalate_cons_cons, ih, List.map_cons, List.intercalate_cons_cons]
    cases items <;> simp [List.intercalate_cons_cons]

theorem dropWhile_blank {item : List Char} (h : item.head? ≠ some ' ') :
    item.dropWhile (· == ' ') = item := by
  cases item with
  | nil => rfl
  | cons c item =>
    have hc : c ≠ ' ' := by simpa using h
    simp [hc]

theorem listItems_intercalate {items : List String} (h : ∀ item ∈ items, IsItem item) :
    listItems (", ".intercalate items) = items := by
  cases items with
  | nil => rfl
  | cons item items =>
    obtain ⟨⟨hne, hcomma, hblank⟩, hitems⟩ := List.forall_mem_cons.mp h
    have htext : (", ".intercalate (item :: items)).toList =
        [','].intercalate (item.toList :: (items.map String.toList).map (' ' :: ·)) := by
      rw [String.toList_intercalate, List.map_cons]
      exact intercalate_comma _ _
    have hsplit : (", ".intercalate (item :: items)).toList.splitOn ',' =
        item.toList :: (items.map String.toList).map (' ' :: ·) := by
      rw [htext]
      refine List.splitOn_intercalate ',' ?_ (List.cons_ne_nil _ _)
      simpa [hcomma] using fun name hname => (hitems name hname).2.1
    have hfull : ", ".intercalate (item :: items) ≠ "" := by
      intro hempty
      rw [hempty] at hsplit
      have hitem : item.toList = [] := (List.cons.inj hsplit).1.symm
      exact hne (String.toList_inj.mp hitem)
    have hrest : ∀ name ∈ items,
        String.ofList ((' ' :: name.toList).dropWhile (· == ' ')) = name := by
      intro name hname
      rw [List.dropWhile_cons_of_pos rfl, dropWhile_blank (hitems name hname).2.2,
        String.ofList_toList]
    rw [listItems, if_neg hfull, hsplit, List.map_cons, dropWhile_blank hblank,
      String.ofList_toList, List.map_map, List.map_map]
    exact congrArg (item :: ·) ((List.map_congr_left hrest).trans (List.map_id items))

/-! ### The statement -/

/-- The statement inserts rows into the columns of a table: its text names the columns and has as
many placeholders, and its parameters are the values of the rows. -/
structure Statement.Inserts (s : Statement) (table : String) (columns : List String)
    (rows : List Record) : Prop where
  text : ∃ names marks,
    s.sql = "INSERT INTO " ++ table ++ " (" ++ names ++ ") VALUES (" ++ marks ++ ")" ∧
    names = ", ".intercalate columns ∧
    ((∀ column ∈ columns, IsItem column) → listItems names = columns) ∧
    listItems marks = List.replicate columns.length "?"
  parameters : ∃ matrix, s.parameters = some matrix ∧ matrix.length = rows.length ∧
    (∀ values ∈ matrix, values.length = columns.length) ∧
    ∀ (i j : Nat) (r : Record) (column : String), rows[i]? = some r → columns[j]? = some column →
      ∃ values v, matrix[i]? = some values ∧ values[j]? = some v ∧
        Value.field? column r = some v

theorem getElem?_of_forall₂ {α β : Type} {R : α → β → Prop} {xs : List α} {ys : List β}
    (h : List.Forall₂ R xs ys) {i : Nat} {x : α} (hx : xs[i]? = some x) :
    ∃ y, ys[i]? = some y ∧ R x y := by
  obtain ⟨hi, rfl⟩ := List.getElem?_eq_some_iff.mp hx
  have hi' : i < ys.length := h.length_eq ▸ hi
  exact ⟨ys[i], List.getElem?_eq_getElem hi', h.get hi hi'⟩

/-- The values of rows in columns, row by row. -/
def matrix? (columns : List String) (rows : List Record) : Except Fault (List (List Value)) :=
  rows.mapM fun r => columns.mapM r.value

theorem matrix?_cons (columns : List String) (r : Record) (rows : List Record) :
    matrix? columns (r :: rows) = (do
      let values ← columns.mapM r.value
      let others ← matrix? columns rows
      pure (values :: others)) :=
  List.mapM_cons

theorem exists_matrix_iff {columns : List String} {rows : List Record} :
    (∃ matrix, matrix? columns rows = .ok matrix) ↔
      ∀ r ∈ rows, ∀ column ∈ columns, r.Has column := by
  simp only [matrix?, Except.exists_mapM_iff, Record.exists_value]

/-- The first row that lacks a column decides, by the first column that it lacks. -/
theorem matrix?_eq_error {columns : List String} {rows : List Record} {f : Fault} :
    matrix? columns rows = .error f ↔
      ∃ before r after, rows = before ++ r :: after ∧
        (∀ q ∈ before, ∀ column ∈ columns, q.Has column) ∧
        ∃ given column others, columns = given ++ column :: others ∧ (∀ c ∈ given, r.Has c) ∧
          ¬r.Has column ∧ .missingKey column = f := by
  simp only [matrix?, Except.mapM_eq_error, Except.exists_mapM_iff, Record.exists_value,
    Record.value_eq_error]

theorem inserts_of_matrix {table : String} {first : Record} {rest : List Record}
    {matrix : List (List Value)} (h : matrix? (first.map Prod.fst) (first :: rest) = .ok matrix) :
    ∃ s, insertion? table (first :: rest) = .ok (some s) ∧
      s.Inserts table (first.map Prod.fst) (first :: rest) := by
  have hrows := Except.mapM_eq_ok.mp h
  rw [matrix?] at h
  refine ⟨_, by rw [insertion?, h]; rfl, ⟨_, _, rfl, rfl, listItems_intercalate, ?_⟩,
    matrix, rfl, hrows.length_eq.symm, ?_, ?_⟩
  · rw [List.map_const']
    apply listItems_intercalate
    intro mark hmark
    obtain rfl := List.eq_of_mem_replicate hmark
    exact ⟨by decide, by decide, by decide⟩
  · intro values hvalues
    obtain ⟨r, -, hr⟩ := Except.exists_of_forall₂ hrows.flip values hvalues
    exact (Except.mapM_eq_ok.mp hr).length_eq.symm
  · intro i j r column hr hcolumn
    obtain ⟨values, hvalues, hread⟩ := getElem?_of_forall₂ hrows hr
    obtain ⟨v, hv, hvalue⟩ := getElem?_of_forall₂ (Except.mapM_eq_ok.mp hread) hcolumn
    exact ⟨values, v, hvalues, hv, Record.value_eq_ok.mp hvalue⟩

theorem insertRows_of_missing (answer : Statement → Except Fault Unit) {table : String}
    {first : Record} {rest : List Record} {f : Fault}
    (h : matrix? (first.map Prod.fst) (first :: rest) = .error f) :
    insertRows answer table (first :: rest) = ([], .error f) := by
  rw [matrix?] at h
  rw [insertRows, insertion?, h]
  rfl

theorem matrix?_perm {columns : List String} {rows rows' : List Record}
    (h : List.Forall₂ (fun r r' => (r.map Prod.fst).Nodup ∧ r.Perm r') rows rows') :
    matrix? columns rows' = matrix? columns rows := by
  induction h with
  | nil => rfl
  | cons hr _ ih => rw [matrix?_cons, matrix?_cons, ih, Record.value_perm hr.1 hr.2]

/-- An insertion without rows sends nothing.  One with rows fails if a row lacks a column of the
first row, with the first column that is missing, and sends nothing; otherwise it sends one
statement, which inserts all rows, and gives their number unless the connection refuses the
statement.  The rows after the first may give their values in any order. -/
theorem insertRows_all_or_nothing (answer : Statement → Except Fault Unit) (table : String) :
    insertRows answer table [] = ([], .ok 0) ∧
    ∀ (first : Record) (rest : List Record),
      let rows := first :: rest
      let columns := first.map Prod.fst
      ((∃ r ∈ rows, ∃ column ∈ columns, ¬r.Has column) →
        ∃ before r after, rows = before ++ r :: after ∧
          (∀ q ∈ before, ∀ column ∈ columns, q.Has column) ∧
          ∃ given column others, columns = given ++ column :: others ∧ (∀ c ∈ given, r.Has c) ∧
            ¬r.Has column ∧
            insertRows answer table rows = ([], .error (.missingKey column))) ∧
      ((∀ r ∈ rows, ∀ column ∈ columns, r.Has column) →
        ∃ s : Statement, s.Inserts table columns rows ∧
          insertRows answer table rows = ([s], (answer s).map fun _ => rows.length)) ∧
      ∀ rest', List.Forall₂ (fun r r' => (r.map Prod.fst).Nodup ∧ r.Perm r') rest rest' →
        insertRows answer table (first :: rest') = insertRows answer table rows := by
  refine ⟨rfl, fun first rest => ⟨?_, ?_, ?_⟩⟩
  · rintro ⟨r, hr, column, hcolumn, hlacks⟩
    cases hmatrix : matrix? (first.map Prod.fst) (first :: rest) with
    | ok matrix => exact absurd (exists_matrix_iff.mp ⟨matrix, hmatrix⟩ r hr column hcolumn) hlacks
    | error f =>
      obtain ⟨before, r, after, hrows, hbefore, given, column, others, hcolumns, hgiven, hlacks,
        rfl⟩ := matrix?_eq_error.mp hmatrix
      exact ⟨before, r, after, hrows, hbefore, given, column, others, hcolumns, hgiven, hlacks,
        insertRows_of_missing answer hmatrix⟩
  · intro hall
    obtain ⟨matrix, hmatrix⟩ := exists_matrix_iff.mpr hall
    obtain ⟨s, hs, hinserts⟩ := @inserts_of_matrix table _ _ _ hmatrix
    exact ⟨s, hinserts, by rw [insertRows, hs]⟩
  · intro rest' hperm
    have hmatrix : matrix? (first.map Prod.fst) (first :: rest') =
        matrix? (first.map Prod.fst) (first :: rest) := by
      rw [matrix?_cons, matrix?_cons, matrix?_perm hperm]
    have hlength : (first :: rest').length = (first :: rest).length := by
      rw [List.length_cons, List.length_cons, hperm.length_eq]
    rw [matrix?, matrix?] at hmatrix
    rw [insertRows, insertRows, insertion?, insertion?, hmatrix, hlength]

end SplitTest.Warehouse

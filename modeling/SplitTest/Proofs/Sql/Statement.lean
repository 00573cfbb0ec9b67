import SplitTest.Proofs.Sql.Tokens

/-! Statements with derived tables.  A statement is read from the tokens of a text: the definitions
of its WITH list, each with the tokens between its parentheses, and the tokens after the list, which
are the SELECTs that it combines. -/

namespace SplitTest

open Scan

/-- The definition of a derived table. -/
structure Definition where
  name : List Char
  /-- What stands between its parentheses. -/
  body : List Token

/-- A statement with derived tables. -/
structure Statement where
  definitions : List Definition
  /-- What comes after the definitions. -/
  main : List Token

namespace Statement

/-! ### Reading -/

/-- The tokens up to the parenthesis that closes one opened before them, and the tokens after it;
`n` more parentheses are open. -/
def enclosed? (n : Nat) : List Token → Option (List Token × List Token)
  | [] => none
  | t :: ts =>
    if n = 0 ∧ t = .mark ')' then some ([], ts)
    else do
      let m ← t.depth? n
      let (inside, after) ← enclosed? m ts
      some (t :: inside, after)

theorem length_lt_of_enclosed? {n : Nat} {ts inside after : List Token}
    (h : enclosed? n ts = some (inside, after)) : after.length < ts.length := by
  induction ts generalizing n inside with
  | nil => cases h
  | cons t ts ih =>
    rw [enclosed?] at h
    split at h
    · cases h
      simp
    · obtain ⟨m, -, ⟨inside', after'⟩, hts, heq⟩ := by
        simpa only [Option.bind_eq_bind, Option.bind_eq_some_iff] using h
      cases heq
      exact Nat.lt_succ_of_lt (ih hts)

/-- The definitions of a WITH list, and the tokens after it. -/
def readDefinitions? : List Token → Option (List Definition × List Token)
  | .word name :: lead :: opening :: ts =>
    if lead = .keyword "as" ∧ opening = .mark '(' then
      match _h : enclosed? 0 ts with
      | none => none
      | some (body, []) => some ([⟨name, body⟩], [])
      | some (body, t :: after) =>
        if t = .mark ',' then
          (readDefinitions? after).map fun (ds, main) => (⟨name, body⟩ :: ds, main)
        else some ([⟨name, body⟩], t :: after)
    else none
  | _ => none
termination_by ts => ts.length
decreasing_by
  have hlt := length_lt_of_enclosed? _h
  simp only [List.length_cons] at hlt ⊢
  omega

/-- The statement that tokens spell. -/
def read? : List Token → Option Statement
  | t :: ts =>
    if t = .keyword "WITH" then
      (readDefinitions? ts).map fun (definitions, main) => ⟨definitions, main⟩
    else none
  | [] => none

def ofText? (s : String) : Option Statement :=
  read? (tokens (parts s.toList))

theorem enclosed?_append {ts : List Token} {n m : Nat} (h : tokenDepth? n ts = some m)
    (us : List Token) :
    enclosed? n (ts ++ us) = (enclosed? m us).map fun (inside, after) => (ts ++ inside, after) := by
  induction ts generalizing n with
  | nil =>
    obtain rfl : n = m := by simpa [tokenDepth?] using h
    simp
  | cons t ts ih =>
    rw [tokenDepth?_cons, Option.bind_eq_some_iff] at h
    obtain ⟨l, ht, h⟩ := h
    have hinside : ¬(n = 0 ∧ t = .mark ')') := by
      rintro ⟨rfl, rfl⟩
      simp [Token.mark, Token.depth?, Part.depth?] at ht
    rw [List.cons_append, enclosed?, if_neg hinside, ht]
    simp only [Option.bind_eq_bind, Option.bind_some, ih h]
    cases enclosed? m us <;> rfl

end Statement

def Definition.tokens (d : Definition) : List Token :=
  .word d.name :: .keyword "as" :: .mark '(' :: (d.body ++ [.mark ')'])

namespace Statement

/-- A definition is read from its tokens, and the list goes on if a comma follows. -/
theorem readDefinitions?_append {d : Definition} (hd : tokenDepth? 0 d.body = some 0)
    (ts : List Token) :
    readDefinitions? (d.tokens ++ ts) =
      if ts.head? = some (.mark ',') then
        (readDefinitions? ts.tail).map fun (ds, main) => (d :: ds, main)
      else some ([d], ts) := by
  have henclosed : enclosed? 0 (d.body ++ .mark ')' :: ts) = some (d.body, ts) := by
    rw [enclosed?_append hd]
    simp [enclosed?]
  have htokens : d.tokens ++ ts =
      .word d.name :: .keyword "as" :: .mark '(' :: (d.body ++ .mark ')' :: ts) := by
    simp [Definition.tokens]
  rw [htokens, readDefinitions?, if_pos ⟨rfl, rfl⟩]
  split
  · rename_i hread
    simp [henclosed] at hread
  · rename_i hread
    cases henclosed.symm.trans hread
    rfl
  · rename_i t after hread
    cases henclosed.symm.trans hread
    simp

/-- The tokens of a list of definitions. -/
def listTokens (ds : List Definition) : List Token :=
  ((ds.map Definition.tokens).intersperse [.mark ',']).flatten

theorem readDefinitions?_listTokens {ds : List Definition} (hne : ds ≠ [])
    (hds : ∀ d ∈ ds, tokenDepth? 0 d.body = some 0) {main : List Token}
    (hmain : main.head? ≠ some (.mark ',')) :
    readDefinitions? (listTokens ds ++ main) = some (ds, main) := by
  induction ds with
  | nil => exact absurd rfl hne
  | cons d ds ih =>
    obtain ⟨hd, hrest⟩ := List.forall_mem_cons.mp hds
    cases ds with
    | nil => simpa [listTokens, hmain] using readDefinitions?_append hd main
    | cons d' ds =>
      have htokens : listTokens (d :: d' :: ds) ++ main =
          d.tokens ++ .mark ',' :: (listTokens (d' :: ds) ++ main) := by
        simp [listTokens]
      rw [htokens, readDefinitions?_append hd, List.head?_cons, if_pos rfl, List.tail_cons,
        ih (by simp) hrest]
      rfl

/-- A statement is read from the tokens that spell it. -/
theorem read?_tokens {ds : List Definition} (hne : ds ≠ [])
    (hds : ∀ d ∈ ds, tokenDepth? 0 d.body = some 0) {main : List Token}
    (hmain : main.head? ≠ some (.mark ',')) :
    read? (.keyword "WITH" :: (listTokens ds ++ main)) = some ⟨ds, main⟩ := by
  rw [read?, if_pos rfl, readDefinitions?_listTokens hne hds hmain]
  rfl

/-! ### Scopes -/

/-- The definitions of a statement are in scope where they are used: each has a name that is not
known yet, names only tables that are known, and is read by a later one or in the end. -/
def InScope (main : List Token) : (known : List (List Char)) → List Definition → Prop
  | known, [] => ∀ name ∈ uses main, name ∈ known
  | known, d :: ds =>
    d.name ∉ known ∧ (∀ name ∈ uses d.body, name ∈ known) ∧
      ((∃ later ∈ ds, Reads d.name later.body) ∨ Reads d.name main) ∧
      InScope main (known ++ [d.name]) ds

/-- A statement whose definitions are in scope. -/
def IsScoped (st : Statement) : Prop :=
  InScope st.main [] st.definitions

/-! ### Columns -/

/-- The tokens outside parentheses, and the outermost parentheses; `n` parentheses are open. -/
def outline (n : Nat) : List Token → List Token
  | [] => []
  | t :: ts =>
    match t.depth? n with
    | none => []
    | some m => (if n = 0 ∨ m = 0 then [t] else []) ++ outline m ts

/-- The SELECTs that a statement combines, without what stands in parentheses. -/
def arms (st : Statement) : List (List Token) :=
  (outline 0 st.main).splitOn (.keyword "UNION")

/-- The name of a column: the last word of what is selected. -/
def columnName (item : List Token) : String :=
  match item.getLast? with
  | some (.word cs) => String.ofList cs
  | _ => ""

def columns (arm : List Token) : List String :=
  let items := (arm.dropWhile (· ≠ .keyword "SELECT")).tail.takeWhile (· ≠ .keyword "FROM")
  (items.splitOn (.mark ',')).map columnName

theorem outline_append {n m : Nat} {ts : List Token} (h : tokenDepth? n ts = some m)
    (us : List Token) : outline n (ts ++ us) = outline n ts ++ outline m us := by
  induction ts generalizing n with
  | nil =>
    obtain rfl : n = m := by simpa [tokenDepth?] using h
    rfl
  | cons t ts ih =>
    rw [tokenDepth?_cons, Option.bind_eq_some_iff] at h
    obtain ⟨l, ht, h⟩ := h
    rw [List.cons_append, outline, outline, ht]
    simp only [ih h, List.append_assoc]

theorem head?_outline {m : Nat} {ts : List Token} (h : tokenDepth? 0 ts = some m) :
    (outline 0 ts).head? = ts.head? := by
  cases ts with
  | nil => rfl
  | cons t ts =>
    rw [tokenDepth?_cons, Option.bind_eq_some_iff] at h
    obtain ⟨l, ht, -⟩ := h
    rw [outline, ht]
    simp

/-- Nothing is seen of what stands in parentheses. -/
theorem outline_eq_nil {k m : Nat} {ts : List Token} (h : tokenDepth? k ts = some m) (n : Nat) :
    outline (k + (n + 1)) ts = [] := by
  induction ts generalizing k with
  | nil => rfl
  | cons t ts ih =>
    rw [tokenDepth?_cons, Option.bind_eq_some_iff] at h
    obtain ⟨l, ht, h⟩ := h
    have hdeeper : t.depth? (k + (n + 1)) = some (l + (n + 1)) := by
      cases t with
      | word cs => exact congrArg some (by rw [Option.some.inj ht])
      | part p => exact Part.depth?_add ht _
    rw [outline, hdeeper]
    simp [ih h]

theorem mem_intercalate {t separator : Token} {items : List (List Token)}
    (h : t ∈ [separator].intercalate items) : t = separator ∨ ∃ item ∈ items, t ∈ item := by
  induction items with
  | nil => simp [List.intercalate] at h
  | cons item rest ih =>
    cases rest with
    | nil => exact .inr ⟨item, by simp, by simpa [List.intercalate] using h⟩
    | cons item' rest =>
      have htokens : [separator].intercalate (item :: item' :: rest) =
          item ++ separator :: [separator].intercalate (item' :: rest) := by
        simp [List.intercalate]
      rw [htokens, List.mem_append, List.mem_cons] at h
      rcases h with hitem | rfl | hrest
      · exact .inr ⟨item, by simp, hitem⟩
      · exact .inl rfl
      · refine (ih hrest).imp_right ?_
        rintro ⟨other, hmem, ht⟩
        exact ⟨other, List.mem_cons_of_mem _ hmem, ht⟩

theorem columns_select {items : List Token} (h : .keyword "FROM" ∉ items) (rest : List Token) :
    columns (.keyword "SELECT" :: (items ++ .keyword "FROM" :: rest)) =
      (items.splitOn (.mark ',')).map columnName := by
  have hitems : ∀ t ∈ items, decide (t ≠ .keyword "FROM") = true := fun t ht =>
    decide_eq_true fun heq => h (heq ▸ ht)
  have hselect : columns (.keyword "SELECT" :: (items ++ .keyword "FROM" :: rest)) =
      (((items ++ .keyword "FROM" :: rest).takeWhile (· ≠ .keyword "FROM")).splitOn
        (.mark ',')).map columnName := by
    simp [columns]
  rw [hselect, List.takeWhile_append_of_pos hitems, List.takeWhile_cons_of_neg (by simp),
    List.append_nil]

theorem columns_cons {t : Token} (ht : t ≠ .keyword "SELECT") (arm : List Token) :
    columns (t :: arm) = columns arm := by
  simp [columns, ht]

/-- Tokens after the columns of a SELECT that add the columns `names` to them. -/
structure AddsColumns (names : List String) (ts : List Token) : Prop where
  within : .keyword "FROM" ∉ ts
  alone : .keyword "UNION" ∉ ts
  columns (items : List Token) : ((items ++ ts).splitOn (.mark ',')).map columnName =
    (items.splitOn (.mark ',')).map columnName ++ names

theorem AddsColumns.nil : AddsColumns [] [] :=
  ⟨by simp, by simp, by simp⟩

/-- Items after a comma add their names. -/
theorem AddsColumns.of_items {items : List (List Token)} (hne : items ≠ [])
    (h : ∀ item ∈ items, .mark ',' ∉ item ∧ .keyword "FROM" ∉ item ∧ .keyword "UNION" ∉ item) :
    AddsColumns (items.map columnName) (.mark ',' :: [.mark ','].intercalate items) := by
  have hnotMem {t : Token} (hcomma : t ≠ .mark ',') (ht : ∀ item ∈ items, t ∉ item) :
      t ∉ .mark ',' :: [.mark ','].intercalate items := by
    rintro (_ | ⟨_, hmem⟩)
    · exact hcomma rfl
    · rcases mem_intercalate hmem with heq | ⟨item, hitem, hin⟩
      · exact hcomma heq
      · exact ht item hitem hin
  refine ⟨hnotMem (by simp [Token.keyword, Token.mark]) fun item hitem => (h item hitem).2.1,
    hnotMem (by simp [Token.keyword, Token.mark]) fun item hitem => (h item hitem).2.2, ?_⟩
  intro before
  rw [List.splitOn_append_cons_self,
    List.splitOn_intercalate _ (fun item hitem => (h item hitem).1) hne,
    List.map_append]

theorem AddsColumns.columns_select {names : List String} {items ts : List Token}
    (h : AddsColumns names ts) (hitems : .keyword "FROM" ∉ items) (rest : List Token) :
    Statement.columns (.keyword "SELECT" :: (items ++ (ts ++ .keyword "FROM" :: rest))) =
      (items.splitOn (.mark ',')).map columnName ++ names := by
  have hwithin : .keyword "FROM" ∉ items ++ ts := by
    simp [hitems, h.within]
  rw [← List.append_assoc, Statement.columns_select hwithin, h.columns]

end Statement

end SplitTest

import SplitTest.Proofs.Except
import SplitTest.Proofs.Sql.Statement

/-! The derived tables that a template names, and what is seen of a template outside parentheses.
The texts of a template stand apart, so its tokens are those of the one text and then of the
next. -/

namespace SplitTest

open Scan

namespace Sql

variable {p q : Sql} {qs : List Sql} {cs : List Char}

theorem tokens_code : (code (String.ofList cs)).tokens = Scan.tokens (Scan.parts cs) := by
  rw [tokens, parts_code, String.toList_ofList]

theorem Begins.append (hp : p.Begins) (hq : q.Begins) : (p ++ q).Begins := by
  intro x hx
  rw [pieces_append] at hx
  cases hpieces : p.pieces with
  | nil => exact hq x (by simpa [hpieces] using hx)
  | cons y ys => exact hp x (by simpa [hpieces] using hx)

theorem Ends.empty : empty.Ends := by
  simp [Sql.empty, Ends]

theorem Ends.closes (h : Piece.checkEnds cs = true) :
    (concat [q, Sql.code (String.ofList cs)]).Ends := by
  intro x hx
  obtain rfl : Piece.code (String.ofList cs) = x := by
    simpa [concat, Sql.code] using hx
  exact Piece.ends_code h

/-! ### Names of derived tables -/

/-- A text that names these derived tables and no other, each of them after FROM or JOIN. -/
structure Mentions (names : List (List Char)) (q : Sql) : Prop where
  uses : ∀ name ∈ uses q.tokens, name ∈ names
  reads : ∀ name ∈ names, Reads name q.tokens

/-- Whether tokens name just these derived tables. -/
def checkNames (names : List (List Char)) (ts : List Token) : Bool :=
  decide ((∀ name ∈ Scan.uses ts, name ∈ names) ∧ ∀ name ∈ names, Reads name ts)

/-- A text that names these tables and can stand after any other. -/
structure Parted (names : List (List Char)) (q : Sql) : Prop extends Mentions names q where
  begins : q.Begins

variable {ns ms : List (List Char)}

theorem Mentions.append (hp : p.Mentions ns) (hq : q.Mentions ms)
    (htokens : (p ++ q).tokens = p.tokens ++ q.tokens) : (p ++ q).Mentions (ns ++ ms) := by
  constructor
  · intro name hname
    rw [htokens, uses_append] at hname
    exact List.mem_append.mpr ((List.mem_append.mp hname).imp (hp.uses name) (hq.uses name))
  · intro name hname
    rw [htokens]
    rcases List.mem_append.mp hname with hmem | hmem
    · exact (hp.reads name hmem).of_within (List.prefix_append _ _).isInfix
    · exact (hq.reads name hmem).of_within (List.suffix_append _ _).isInfix

namespace Mentions

theorem of_woven (h : q.Woven .tableMark) : q.Mentions [] :=
  ⟨by simp [h.uses_eq_nil], List.forall_mem_nil _⟩

theorem nil : (concat []).Mentions [] := of_woven .nil

theorem slot (hq : q.Mentions ns) (hqs : (concat qs).Parted ms) :
    (concat (q :: qs)).Mentions (ns ++ ms) :=
  hq.append hqs.toMentions (tokens_append_of_begins hqs.begins)

theorem only (hq : q.Mentions ns) (hqs : (concat qs).Parted []) : (concat (q :: qs)).Mentions ns :=
  List.append_nil ns ▸ hq.slot hqs

theorem lead (hq : q.Woven .tableMark) (hend : q.Ends) (hqs : (concat qs).Mentions ms) :
    (concat (q :: qs)).Mentions ms :=
  append (of_woven hq) hqs (tokens_append_of_ends hend)

/-- A text that names no table. -/
theorem apart (hq : q.Woven .tableMark) (hqs : (concat qs).Parted ms) :
    (concat (q :: qs)).Mentions ms :=
  slot (of_woven hq) hqs

theorem opens (h : Watchword.checkEnd cs = true) (hqs : (concat qs).Mentions ms) :
    (concat (Sql.code (String.ofList cs) :: qs)).Mentions ms := by
  obtain ⟨hword, hend⟩ := Bool.and_eq_true_iff.mp h
  exact append (of_woven (.word hword)) hqs (tokens_append_of_ends (.code hend))

theorem of_check (h : checkNames ns q.tokens = true) : q.Mentions ns := by
  obtain ⟨huses, hreads⟩ := of_decide_eq_true h
  exact ⟨huses, hreads⟩

theorem code (h : checkNames ns (Scan.tokens (Scan.parts cs)) = true) :
    (Sql.code (String.ofList cs)).Mentions ns :=
  .of_check (by rwa [tokens_code])

/-- A written text with the names of tables. -/
theorem names (ns : List (List Char)) (hend : Piece.checkEnds cs = true)
    (h : checkNames ns (Scan.tokens (Scan.parts cs)) = true) (hqs : (concat qs).Mentions ms) :
    (concat (Sql.code (String.ofList cs) :: qs)).Mentions (ns ++ ms) :=
  (code h).append hqs (tokens_append_of_ends (.code hend))

/-- A written text after one that names tables. -/
theorem append_word (hp : p.Mentions ns) (hword : Watchword.checkEdges cs = true) :
    (p ++ Sql.code (String.ofList cs)).Mentions ns := by
  have hedged : (Sql.code (String.ofList cs)).Edged .tableMark := .code hword
  exact List.append_nil ns ▸ hp.append (.of_woven hedged.toWoven)
    (tokens_append_of_begins hedged.begins)

end Mentions

namespace Parted

theorem of_edged (h : q.Edged .tableMark) : q.Parted [] :=
  ⟨.of_woven h.toWoven, h.begins⟩

theorem empty : empty.Parted [] := of_edged .empty

theorem nil : (concat []).Parted [] := empty

theorem slot (hq : q.Parted ns) (hqs : (concat qs).Parted ms) :
    (concat (q :: qs)).Parted (ns ++ ms) :=
  ⟨hq.toMentions.slot hqs, hq.begins.append hqs.begins⟩

theorem next (h : Watchword.checkEdges cs = true) (hqs : (concat qs).Mentions ms) :
    (concat (Sql.code (String.ofList cs) :: qs)).Parted ms := by
  obtain ⟨hend, hbegin⟩ := Bool.and_eq_true_iff.mp h
  exact ⟨.opens hend hqs, .next hbegin⟩

/-- Nothing after the text names a table. -/
theorem only (hq : q.Parted ns) (hqs : (concat qs).Parted []) : (concat (q :: qs)).Parted ns :=
  List.append_nil ns ▸ hq.slot hqs

theorem starts (hword : Watchword.check cs = true) (hbegin : Piece.checkBegins cs = true)
    (hqs : (concat qs).Parted ms) : (concat (Sql.code (String.ofList cs) :: qs)).Parted ms :=
  ⟨.apart (.word hword) hqs, .next hbegin⟩

/-- A written text with the names of tables. -/
theorem names (ns : List (List Char)) (hbegin : Piece.checkBegins cs = true)
    (hend : Piece.checkEnds cs = true)
    (h : checkNames ns (Scan.tokens (Scan.parts cs)) = true) (hqs : (concat qs).Mentions ms) :
    (concat (Sql.code (String.ofList cs) :: qs)).Parted (ns ++ ms) :=
  ⟨.names ns hend h hqs, .next hbegin⟩

/-- Two written texts, at the end of the first of which a name may be announced. -/
theorem across {ds : List Char} (hbegin : Piece.checkBegins cs = true)
    (hend : Piece.checkEnds cs = true)
    (h : checkNames ns (Scan.tokens (Scan.parts cs) ++ Scan.tokens (Scan.parts ds)) = true) :
    (concat [Sql.code (String.ofList cs), Sql.code (String.ofList ds)]).Parted ns := by
  refine ⟨.of_check ?_, .next hbegin⟩
  have htexts : concat [Sql.code (String.ofList cs), Sql.code (String.ofList ds)] =
      Sql.code (String.ofList cs) ++ Sql.code (String.ofList ds) := rfl
  rwa [htexts, tokens_append_of_ends (.code hend), tokens_code, tokens_code]

end Parted

/-! ### Texts outside parentheses -/

/-- A text of which `ts` stands outside parentheses, and within which the number of open ones goes
from `a` to `b`. -/
structure Shows (a b : Nat) (ts : List Token) (q : Sql) : Prop where
  leads : tokenDepth? a q.tokens = some b
  outline : Statement.outline a q.tokens = ts

/-- A text that shows `ts` and can stand after any other. -/
structure ShowsApart (a b : Nat) (ts : List Token) (q : Sql) : Prop extends Shows a b ts q where
  begins : q.Begins

variable {a b c n : Nat} {ts us : List Token}

namespace Shows

theorem append (hp : p.Shows a b ts) (hq : q.Shows b c us)
    (htokens : (p ++ q).tokens = p.tokens ++ q.tokens) : (p ++ q).Shows a c (ts ++ us) := by
  constructor
  · rw [htokens, tokenDepth?_append, hp.leads, Option.bind_some, hq.leads]
  · rw [htokens, Statement.outline_append hp.leads, hp.outline, hq.outline]

theorem nil : (concat []).Shows a a [] := ⟨rfl, rfl⟩

theorem of_eq (hq : q.Shows a b ts) (h : ts = us) : q.Shows a b us := h ▸ hq

/-- What stands in parentheses. -/
theorem hidden (h : q.Balanced) : q.Shows (n + 1) (n + 1) [] := by
  refine ⟨h.tokenDepth? _, ?_⟩
  simpa using Statement.outline_eq_nil (h.tokenDepth? 0) n

theorem code (h : tokenDepth? a (Scan.tokens (Scan.parts cs)) = some b) :
    (Sql.code (String.ofList cs)).Shows a b
      (Statement.outline a (Scan.tokens (Scan.parts cs))) := by
  constructor
  · rwa [tokens_code]
  · rw [tokens_code]

theorem slot (hq : q.Shows a b ts) (hqs : (concat qs).ShowsApart b c us) :
    (concat (q :: qs)).Shows a c (ts ++ us) :=
  hq.append hqs.toShows (tokens_append_of_begins hqs.begins)

theorem opens (hend : Piece.checkEnds cs = true)
    (h : tokenDepth? a (Scan.tokens (Scan.parts cs)) = some b) (hqs : (concat qs).Shows b c us) :
    (concat (Sql.code (String.ofList cs) :: qs)).Shows a c
      (Statement.outline a (Scan.tokens (Scan.parts cs)) ++ us) :=
  (code h).append hqs (tokens_append_of_ends (.code hend))

/-- A written text of which the tokens `ts` are seen. -/
theorem tells (ts : List Token) (hend : Piece.checkEnds cs = true)
    (h : tokenDepth? a (Scan.tokens (Scan.parts cs)) = some b)
    (hts : Statement.outline a (Scan.tokens (Scan.parts cs)) = ts)
    (hqs : (concat qs).Shows b c us) :
    (concat (Sql.code (String.ofList cs) :: qs)).Shows a c (ts ++ us) :=
  (opens hend h hqs).of_eq (by rw [hts])

end Shows

namespace ShowsApart

theorem of_eq (hq : q.ShowsApart a b ts) (h : ts = us) : q.ShowsApart a b us := h ▸ hq

theorem empty : empty.ShowsApart a a [] := ⟨.nil, (Edged.empty (w := .tableMark)).begins⟩

theorem nil : (concat []).ShowsApart a a [] := empty

theorem slot (hq : q.ShowsApart a b ts) (hqs : (concat qs).ShowsApart b c us) :
    (concat (q :: qs)).ShowsApart a c (ts ++ us) :=
  ⟨hq.toShows.slot hqs, hq.begins.append hqs.begins⟩

theorem next (hbegin : Piece.checkBegins cs = true) (hend : Piece.checkEnds cs = true)
    (h : tokenDepth? a (Scan.tokens (Scan.parts cs)) = some b) (hqs : (concat qs).Shows b c us) :
    (concat (Sql.code (String.ofList cs) :: qs)).ShowsApart a c
      (Statement.outline a (Scan.tokens (Scan.parts cs)) ++ us) :=
  ⟨.opens hend h hqs, .next hbegin⟩

/-- A written text of which the tokens `ts` are seen. -/
theorem tells (ts : List Token) (hbegin : Piece.checkBegins cs = true)
    (hend : Piece.checkEnds cs = true)
    (h : tokenDepth? a (Scan.tokens (Scan.parts cs)) = some b)
    (hts : Statement.outline a (Scan.tokens (Scan.parts cs)) = ts)
    (hqs : (concat qs).Shows b c us) :
    (concat (Sql.code (String.ofList cs) :: qs)).ShowsApart a c (ts ++ us) :=
  ⟨.tells ts hend h hts hqs, .next hbegin⟩

end ShowsApart

/-- Items between commas. -/
theorem Shows.join {α : Type} {xs : List α} {g : α → Sql} {f : α → List Token}
    (hbegin : Piece.checkBegins cs = true) (hend : Piece.checkEnds cs = true)
    (hcomma : Scan.tokens (Scan.parts cs) = [.mark ',']) (h : ∀ x ∈ xs, (g x).Shows 0 0 (f x)) :
    (Sql.join (Sql.code (String.ofList cs)) (xs.map g)).Shows 0 0
      ((xs.map f).intersperse [.mark ',']).flatten := by
  have hseparator : tokenDepth? 0 (Scan.tokens (Scan.parts cs)) = some 0 := by
    rw [hcomma]
    rfl
  induction xs with
  | nil => exact .nil
  | cons x rest ih =>
    obtain ⟨hx, hrest⟩ := List.forall_mem_cons.mp h
    cases rest with
    | nil => exact hx.slot .nil
    | cons y rest =>
      refine (hx.slot (.next hbegin hend hseparator (ih hrest))).of_eq ?_
      rw [hcomma]
      rfl

end Sql

/-! ### Scopes -/

namespace Statement

/-- Definitions by their names and the names that each of them mentions: each has a name that is not
known yet, mentions only known names, and is mentioned by a later one or in the end. -/
def Linked (last : List (List Char)) :
    (known : List (List Char)) → List (List Char × List (List Char)) → Prop
  | known, [] => ∀ name ∈ last, name ∈ known
  | known, d :: ds =>
    d.1 ∉ known ∧ (∀ name ∈ d.2, name ∈ known) ∧ ((∃ later ∈ ds, d.1 ∈ later.2) ∨ d.1 ∈ last) ∧
      Linked last (known ++ [d.1]) ds

instance decidableLinked (last : List (List Char)) :
    (known : List (List Char)) → (ds : List (List Char × List (List Char))) →
      Decidable (Linked last known ds)
  | known, [] => inferInstanceAs (Decidable (∀ name ∈ last, name ∈ known))
  | known, d :: ds =>
    have := decidableLinked last (known ++ [d.1]) ds
    inferInstanceAs (Decidable (_ ∧ _ ∧ _ ∧ _))

end Statement

/-- A derived table by its name and the names of the tables that it mentions. -/
structure DerivedTable.Links (t : DerivedTable) (link : List Char × List (List Char)) : Prop where
  name : t.name.toList = link.1
  body : t.body.Mentions link.2

/-- Derived tables are in scope if the names that they mention are. -/
theorem Statement.inScope_of_linked {tables : List DerivedTable} {body : Sql}
    {links : List (List Char × List (List Char))} {last known : List (List Char)}
    (htables : List.Forall₂ DerivedTable.Links tables links) (hbody : body.Mentions last)
    (h : Linked last known links) :
    InScope body.tokens known (tables.map fun t => ⟨t.name.toList, t.body.tokens⟩) := by
  induction htables generalizing known with
  | nil => exact fun name hname => h name (hbody.uses name hname)
  | @cons t link tables links ht htables ih =>
    obtain ⟨hnew, hknown, hread, hrest⟩ := h
    rw [← ht.name] at hnew hread hrest
    refine ⟨hnew, fun name hname => hknown name (ht.body.uses name hname), ?_, ih hrest⟩
    rcases hread with ⟨later, hmem, hlater⟩ | hlast
    · obtain ⟨u, hu, hlink⟩ := Except.exists_of_forall₂ htables.flip later hmem
      exact .inl ⟨_, List.mem_map_of_mem hu, hlink.body.reads _ hlater⟩
    · exact .inr (hbody.reads _ hlast)

end SplitTest

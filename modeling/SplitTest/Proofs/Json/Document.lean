import Mathlib.Data.List.Forall2
import SplitTest.Proofs.Assignments
import SplitTest.Proofs.Json.Number
import SplitTest.Proofs.Json.Text

/-! Documents read back.  A value that JSON can write is read back from its text, on one line or
indented: each value is read up to its end and what follows is left, so the parts of lists and
objects are read one after the other. -/

namespace SplitTest.Value

open Text

/-- A value that JSON can write: its objects have each key once, and it holds no decimals, days or
times. -/
inductive IsJson : Value → Prop
  | null : IsJson null
  | bool (b : Bool) : IsJson (bool b)
  | int (n : Int) : IsJson (int n)
  | float (x : Double) : IsJson (float x)
  | text (s : String) : IsJson (text s)
  | list {items : List Value} (h : ∀ v ∈ items, IsJson v) : IsJson (list items)
  | object {fields : List (String × Value)} (keys : (fields.map Prod.fst).Nodup)
      (h : ∀ f ∈ fields, IsJson f.2) : IsJson (object fields)

/-! ### Blanks -/

/-- A blank between the parts of a document. -/
def isGap (c : Char) : Bool := c == ' ' || c == '\t' || c == '\n' || c == '\r'

/-- A text of blanks. -/
def IsGap (cs : List Char) : Prop := ∀ c ∈ cs, isGap c = true

theorem skipBlanks_append {gap : List Char} (h : IsGap gap) {c : Char} {cs : List Char}
    (hc : isGap c = false) : skipBlanks (gap ++ c :: cs) = c :: cs := by
  have hdrop : (gap ++ c :: cs).dropWhile isGap = (c :: cs).dropWhile isGap :=
    List.dropWhile_append_of_pos h
  rw [List.dropWhile_cons_of_neg (by simp [hc])] at hdrop
  exact hdrop

theorem skipBlanks_cons {c : Char} {cs : List Char} (hc : isGap c = false) :
    skipBlanks (c :: cs) = c :: cs :=
  skipBlanks_append (List.forall_mem_nil _) hc

theorem isGap_indentation (n : Nat) : IsGap ('\n' :: List.replicate n ' ') := by
  intro c hc
  rcases List.mem_cons.mp hc with rfl | hc
  · rfl
  · rw [List.eq_of_mem_replicate hc]
    rfl

namespace Layout

theorem isGap_open (depth : Nat) (layout : Layout) : IsGap (layout.open depth).toList := by
  cases layout with
  | line => exact List.forall_mem_nil _
  | indented width => simpa [Layout.open] using isGap_indentation (width * (depth + 1))

theorem isGap_close (depth : Nat) (layout : Layout) : IsGap (layout.close depth).toList := by
  cases layout with
  | line => exact List.forall_mem_nil _
  | indented width => simpa [Layout.close] using isGap_indentation (width * depth)

theorem exists_between (depth : Nat) (layout : Layout) :
    ∃ gap, (layout.between depth).toList = ',' :: gap ∧ IsGap gap := by
  cases layout with
  | line =>
    refine ⟨[' '], by simp [Layout.between], fun c hc => ?_⟩
    rw [List.mem_singleton.mp hc]
    rfl
  | indented width =>
    exact ⟨_, by simp [Layout.between], isGap_indentation (width * (depth + 1))⟩

end Layout

/-- No number goes on with a blank, a comma or a closing bracket. -/
theorem endsNumber_append {gap : List Char} (h : IsGap gap) {c : Char} {cs : List Char}
    (hc : EndsNumber (c :: cs)) : EndsNumber (gap ++ c :: cs) := by
  cases gap with
  | nil => exact hc
  | cons g gap =>
    intro d hd
    obtain rfl : g = d := by simpa using hd
    have hg := h g List.mem_cons_self
    simp only [isGap, Bool.or_eq_true, beq_iff_eq] at hg
    rcases hg with ((rfl | rfl) | rfl) | rfl <;> decide

/-! ### Names and numbers -/

theorem readName_signed {d : Char} (hd : d.isDigit = true) (negative : Bool) (cs : List Char) :
    readName (signChars negative ++ d :: cs) = none := by
  have hne {c : Char} (hc : c.isDigit = false) : (c == d) = false :=
    beq_eq_false_iff_ne.mpr (ne_of_isDigit hd hc).symm
  have hn : ('n' == d) = false := hne rfl
  have ht : ('t' == d) = false := hne rfl
  have hf : ('f' == d) = false := hne rfl
  have hN : ('N' == d) = false := hne rfl
  have hI : ('I' == d) = false := hne rfl
  have hminus : ('-' == d) = false := hne rfl
  cases negative <;>
    simp [readName, names, signChars, List.isPrefixOf, hn, ht, hf, hN, hI, hminus]

/-- The value is read from the characters, whatever follows that no number could go on with. -/
structure ReadsAs (cs : List Char) (v : Value) : Prop where
  starts : ∃ c ds, cs = c :: ds ∧ isGap c = false ∧ c ≠ ']'
  read : ∀ fuel rest, EndsNumber rest → cs.length ≤ fuel →
    readValue fuel (cs ++ rest) = some (v, rest)

/-- The brackets that open a value. -/
def Opens (c : Char) : Prop := c = '"' ∨ c = '[' ∨ c = '\x7b'

instance (c : Char) : Decidable (Opens c) :=
  inferInstanceAs (Decidable (c = '"' ∨ c = '[' ∨ c = '\x7b'))

theorem readValue_name {c : Char} (hc : ¬Opens c) {cs : List Char} {r : Value × List Char}
    (hname : readName (c :: cs) = some r) (fuel : Nat) :
    readValue (fuel + 1) (c :: cs) = some r := by
  simp only [Opens, not_or] at hc
  rw [readValue]
  · simp [hname]
  all_goals simp_all

theorem readValue_number {c : Char} (hc : ¬Opens c) {cs n rest : List Char}
    (hname : readName (c :: cs) = none) (hsplit : splitNumber (c :: cs) = (n, rest)) (hn : n ≠ [])
    (fuel : Nat) : readValue (fuel + 1) (c :: cs) = (ofNumberChars n).map (·, rest) := by
  simp only [Opens, not_or] at hc
  rw [readValue]
  · simp only [hname, hsplit]
  all_goals simp_all

theorem readsAs_name {c : Char} {cs : List Char} {v : Value} (hc : ¬Opens c)
    (hstart : isGap c = false ∧ c ≠ ']')
    (hname : ∀ rest, readName (c :: cs ++ rest) = some (v, rest)) : ReadsAs (c :: cs) v := by
  refine ⟨⟨c, cs, rfl, hstart⟩, fun fuel rest _ hfuel => ?_⟩
  obtain ⟨fuel, rfl⟩ : ∃ k, fuel = k + 1 := ⟨fuel - 1, by rw [List.length_cons] at hfuel; omega⟩
  exact readValue_name hc (hname rest) fuel

theorem readsAs_number {p : NumberParts} {n : Nat} {e : Int} (h : p.Denotes n e) (negative : Bool)
    {v : Value} (hv : ofNumberChars (signChars negative ++ p.chars) = some v) :
    ReadsAs (signChars negative ++ p.chars) v := by
  obtain ⟨d, ds, hchars, hd⟩ := h.exists_head
  obtain ⟨c, cs, hcs, hc, hopen, hbracket⟩ : ∃ c cs, signChars negative ++ p.chars = c :: cs ∧
      isGap c = false ∧ ¬Opens c ∧ c ≠ ']' := by
    cases negative with
    | true => exact ⟨'-', p.chars, rfl, rfl, by decide, by decide⟩
    | false =>
      have hne : ∀ c ∈ [' ', '\t', '\n', '\r', '"', '[', '\x7b'], d ≠ c := by
        intro c hc
        have hother : [' ', '\t', '\n', '\r', '"', '[', '\x7b'].all (!·.isDigit) = true := rfl
        exact ne_of_isDigit hd (by simpa using List.all_eq_true.mp hother c hc)
      simp only [List.forall_mem_cons] at hne
      obtain ⟨hspace, htab, hline, hreturn, hquote, hlist, hobject, -⟩ := hne
      refine ⟨d, ds, hchars, ?_, ?_, ne_of_isDigit hd rfl⟩
      · simp [isGap, hspace, htab, hline, hreturn]
      · simp [Opens, hquote, hlist, hobject]
  refine ⟨⟨c, cs, hcs, hc, hbracket⟩, fun fuel rest hrest hfuel => ?_⟩
  have hsplit := NumberParts.splitNumber_append h negative hrest
  have hname := readName_signed hd negative (ds ++ rest)
  rw [← List.cons_append, ← hchars, ← List.append_assoc] at hname
  rw [← List.append_assoc] at hsplit
  rw [hcs] at hname hsplit hfuel hv ⊢
  obtain ⟨fuel, rfl⟩ : ∃ k, fuel = k + 1 := ⟨fuel - 1, by rw [List.length_cons] at hfuel; omega⟩
  rw [List.cons_append] at hname hsplit ⊢
  rw [readValue_number hopen hname hsplit (List.cons_ne_nil _ _), hv]
  rfl

theorem readsAs_int (n : Int) : ReadsAs (toString n).toList (int n) := by
  have hread := ofNumberChars_int n
  rw [toList_toString_eq] at hread ⊢
  exact readsAs_number (denotes_wholeParts n.natAbs) _ hread

theorem readsAs_null : ReadsAs "null".toList null :=
  show ReadsAs ('n' :: "ull".toList) null from readsAs_name (by decide) (by decide) fun _ => rfl

theorem readsAs_bool (b : Bool) : ReadsAs (if b then "true" else "false").toList (bool b) := by
  cases b with
  | true =>
    show ReadsAs ('t' :: "rue".toList) _
    exact readsAs_name (by decide) (by decide) fun _ => rfl
  | false =>
    show ReadsAs ('f' :: "alse".toList) _
    exact readsAs_name (by decide) (by decide) fun _ => rfl

theorem readsAs_float (x : Double) : ReadsAs (jsonDouble x).toList (float x) := by
  cases x with
  | nan =>
    show ReadsAs ('N' :: "aN".toList) _
    exact readsAs_name (by decide) (by decide) fun _ => rfl
  | infinity s =>
    cases s with
    | true =>
      show ReadsAs ('-' :: "Infinity".toList) _
      exact readsAs_name (by decide) (by decide) fun _ => rfl
    | false =>
      show ReadsAs ('I' :: "nfinity".toList) _
      exact readsAs_name (by decide) (by decide) fun _ => rfl
  | finite s k =>
    obtain ⟨p, n, e, htext, hdenotes, hshape, hread⟩ := exists_denotes_jsonDouble s k
    rw [htext]
    apply readsAs_number hdenotes
    rw [ofNumberChars_float hdenotes hshape, hread]

theorem readsAs_text (s : String) : ReadsAs (jsonText s).toList (text s) := by
  rw [toList_jsonText]
  refine ⟨⟨'"', _, rfl, rfl, by decide⟩, fun fuel rest _ hfuel => ?_⟩
  obtain ⟨fuel, rfl⟩ : ∃ k, fuel = k + 1 := ⟨fuel - 1, by rw [List.length_cons] at hfuel; omega⟩
  have hread := readText_jsonText s rest
  simp only [List.cons_append, List.append_assoc, List.nil_append]
  rw [readValue, hread]
  rfl

/-! ### Lists and objects -/

/-- The characters read as a field: its key, a colon and its value. -/
def ReadsAsField (cs : List Char) (f : String × Value) : Prop :=
  ∃ ds, cs = (jsonText f.1).toList ++ ':' :: ' ' :: ds ∧ ReadsAs ds f.2

theorem endsNumber_close {close : List Char} (h : IsGap close) {c : Char}
    (hc : c = ']' ∨ c = '\x7d')
    (rest : List Char) : EndsNumber (close ++ c :: rest) := by
  apply endsNumber_append h
  intro d hd
  obtain rfl : c = d := by simpa using hd
  rcases hc with rfl | rfl <;> decide

theorem endsNumber_comma (rest : List Char) : EndsNumber (',' :: rest) := by
  intro d hd
  obtain rfl : ',' = d := by simpa using hd
  decide

theorem ReadsAs.skipBlanks_append {cs : List Char} {v : Value} (h : ReadsAs cs v) {gap : List Char}
    (hgap : IsGap gap) (rest : List Char) : skipBlanks (gap ++ (cs ++ rest)) = cs ++ rest := by
  obtain ⟨c, ds, rfl, hc, -⟩ := h.starts
  exact Value.skipBlanks_append hgap hc

/-- One field is read, and what comes after it decides what is read next. -/
theorem readFields_field {part : List Char} {f : String × Value} (h : ReadsAsField part f)
    {lead : List Char} (hlead : IsGap lead) {fuel : Nat} (hfuel : part.length ≤ fuel)
    {tail rest : List Char} {c : Char} (htail : EndsNumber tail) (hc : skipBlanks tail = c :: rest)
    (acc : List (String × Value)) :
    readFields (fuel + 1) acc (lead ++ (part ++ tail)) =
      if c = ',' then readFields fuel (f :: acc) rest
      else if c = '\x7d' then some (object (dedupe (f :: acc).reverse), rest)
      else none := by
  obtain ⟨key, v⟩ := f
  obtain ⟨ds, rfl, hds⟩ := h
  rw [List.length_append, List.length_cons, List.length_cons] at hfuel
  have hvalue := hds.read fuel tail htail (by omega)
  have hspace := hds.skipBlanks_append (show IsGap [' '] by simp [IsGap, isGap]) tail
  have hkey := readText_jsonText key (':' :: ' ' :: (ds ++ tail))
  have hcolon : skipBlanks (':' :: ' ' :: (ds ++ tail)) = ':' :: ' ' :: (ds ++ tail) :=
    skipBlanks_cons rfl
  rw [toList_jsonText]
  simp only [List.cons_append, List.append_assoc, List.nil_append] at hspace hkey ⊢
  rw [readFields, Value.skipBlanks_append hlead rfl]
  simp only [hkey, hcolon, hspace, hvalue, hc]
  split_ifs with hcomma hbrace
  · subst hcomma
    rfl
  · subst hbrace
    rfl
  · split <;> simp_all

section Parts

variable {gap close : List Char} (hgap : IsGap gap) (hclose : IsGap close)
include hgap hclose

/-- The items of a list are read one after the other. -/
theorem readItems_parts {parts : List (List Char)} {items : List Value}
    (h : List.Forall₂ ReadsAs parts items) (rest : List Char) :
    ∀ {part : List Char} {v : Value}, ReadsAs part v → ∀ {lead : List Char}, IsGap lead →
      ∀ {fuel : Nat}, ((',' :: gap).intercalate (part :: parts)).length < fuel → ∀ acc,
      readItems fuel acc
          (lead ++ ((',' :: gap).intercalate (part :: parts) ++ (close ++ ']' :: rest))) =
        some (list (acc.reverse ++ v :: items), rest) := by
  -- By induction on the items after the first.  A part ends at a comma, and the blanks behind the
  -- comma lead the next part, so the first part and what leads it stay general.
  induction h with
  | nil =>
    intro part v hpart lead hlead fuel hfuel acc
    rw [List.intercalate_singleton] at hfuel ⊢
    obtain ⟨fuel, rfl⟩ : ∃ k, fuel = k + 1 := ⟨fuel - 1, by omega⟩
    have hread := hpart.read fuel _ (endsNumber_close hclose (.inl rfl) rest) (by omega)
    have hskip : skipBlanks (close ++ ']' :: rest) = ']' :: rest :=
      skipBlanks_append hclose rfl
    rw [readItems, hpart.skipBlanks_append hlead, hread]
    simp [hskip]
  | @cons next w parts items hnext _ ih =>
    intro part v hpart lead hlead fuel hfuel acc
    rw [List.intercalate_cons_cons] at hfuel ⊢
    obtain ⟨fuel, rfl⟩ : ∃ k, fuel = k + 1 := ⟨fuel - 1, by omega⟩
    simp only [List.length_append, List.length_cons] at hfuel
    simp only [List.append_assoc, List.cons_append]
    have hread (tail : List Char) :=
      hpart.read fuel (',' :: tail) (endsNumber_comma tail) (by omega)
    have hrest := ih hnext hgap (show _ < fuel by omega) (v :: acc)
    rw [readItems, hpart.skipBlanks_append hlead, hread]
    simp [skipBlanks_cons, isGap, hrest]

theorem readsAs_list {part : List Char} {parts : List (List Char)} {v : Value}
    {items : List Value} (hpart : ReadsAs part v) (h : List.Forall₂ ReadsAs parts items)
    {lead : List Char} (hlead : IsGap lead) :
    ReadsAs ('[' :: (lead ++ ((',' :: gap).intercalate (part :: parts) ++ (close ++ [']']))))
      (list (v :: items)) := by
  refine ⟨⟨'[', _, rfl, rfl, by decide⟩, fun fuel rest _ hfuel => ?_⟩
  simp only [List.length_cons, List.length_append] at hfuel
  obtain ⟨fuel, rfl⟩ : ∃ k, fuel = k + 1 := ⟨fuel - 1, by omega⟩
  have hitems := readItems_parts hgap hclose h rest hpart (List.forall_mem_nil _)
    (show _ < fuel by omega) []
  obtain ⟨c, ds, rfl, hc, hbracket⟩ := hpart.starts
  obtain ⟨tail, htail⟩ : ∃ tail, (',' :: gap).intercalate ((c :: ds) :: parts) = c :: tail := by
    cases parts with
    | nil => exact ⟨ds, List.intercalate_singleton⟩
    | cons next parts => exact ⟨_, List.intercalate_cons_cons⟩
  rw [htail] at hitems ⊢
  simp only [List.cons_append, List.append_assoc, List.nil_append] at hitems ⊢
  rw [readValue, Value.skipBlanks_append hlead hc]
  simp [hbracket, hitems]

/-- The fields of an object are read one after the other. -/
theorem readFields_parts {parts : List (List Char)} {fields : List (String × Value)}
    (h : List.Forall₂ ReadsAsField parts fields) (rest : List Char) :
    ∀ {part : List Char} {f : String × Value}, ReadsAsField part f →
      ∀ {lead : List Char}, IsGap lead →
      ∀ {fuel : Nat}, ((',' :: gap).intercalate (part :: parts)).length < fuel → ∀ acc,
      readFields fuel acc
          (lead ++ ((',' :: gap).intercalate (part :: parts) ++ (close ++ '\x7d' :: rest))) =
        some (object (dedupe (acc.reverse ++ f :: fields)), rest) := by
  induction h with
  | nil =>
    intro part f hpart lead hlead fuel hfuel acc
    rw [List.intercalate_singleton] at hfuel ⊢
    obtain ⟨fuel, rfl⟩ : ∃ k, fuel = k + 1 := ⟨fuel - 1, by omega⟩
    have hskip : skipBlanks (close ++ '\x7d' :: rest) = '\x7d' :: rest :=
      skipBlanks_append hclose rfl
    rw [readFields_field hpart hlead (by omega)
      (endsNumber_close hclose (.inr rfl) rest) hskip]
    simp
  | @cons next g parts fields hnext _ ih =>
    intro part f hpart lead hlead fuel hfuel acc
    rw [List.intercalate_cons_cons] at hfuel ⊢
    obtain ⟨fuel, rfl⟩ : ∃ k, fuel = k + 1 := ⟨fuel - 1, by omega⟩
    simp only [List.length_append, List.length_cons] at hfuel
    simp only [List.append_assoc, List.cons_append]
    have hrest := ih hnext hgap (show _ < fuel by omega) (f :: acc)
    rw [readFields_field hpart hlead (by omega) (endsNumber_comma _)
      (skipBlanks_cons rfl), if_pos rfl, hrest]
    simp

theorem readsAs_object {part : List Char} {parts : List (List Char)} {f : String × Value}
    {fields : List (String × Value)} (hpart : ReadsAsField part f)
    (h : List.Forall₂ ReadsAsField parts fields) {lead : List Char} (hlead : IsGap lead) :
    ReadsAs ('\x7b' :: (lead ++ ((',' :: gap).intercalate (part :: parts) ++ (close ++ ['\x7d']))))
      (object (dedupe (f :: fields))) := by
  refine ⟨⟨'\x7b', _, rfl, rfl, by decide⟩, fun fuel rest _ hfuel => ?_⟩
  simp only [List.length_cons, List.length_append] at hfuel
  obtain ⟨fuel, rfl⟩ : ∃ k, fuel = k + 1 := ⟨fuel - 1, by omega⟩
  have hfields := readFields_parts hgap hclose h rest hpart (List.forall_mem_nil _)
    (show _ < fuel by omega) []
  obtain ⟨tail, htail⟩ : ∃ tail, (',' :: gap).intercalate (part :: parts) = '"' :: tail := by
    obtain ⟨ds, rfl, -⟩ := hpart
    rw [toList_jsonText]
    cases parts with
    | nil => exact ⟨_, List.intercalate_singleton⟩
    | cons next parts => exact ⟨_, List.intercalate_cons_cons⟩
  rw [htail] at hfields ⊢
  simp only [List.cons_append, List.append_assoc, List.nil_append] at hfields ⊢
  rw [readValue, Value.skipBlanks_append hlead rfl]
  simp [hfields]

end Parts

theorem foldl_assign (acc fields : List (String × Value))
    (h : ((acc ++ fields).map Prod.fst).Nodup) :
    fields.foldl (fun acc f => assign f.1 f.2 acc) acc = acc ++ fields := by
  induction fields generalizing acc with
  | nil => simp
  | cons f fields ih =>
    have hacc : f.1 ∉ acc.map Prod.fst := by
      rw [List.map_append, List.nodup_append] at h
      exact fun hmem => h.2.2 f.1 hmem f.1 (by simp) rfl
    rw [List.foldl_cons, assign_of_notMem f.2 hacc, ih (acc ++ [f]) (by simpa using h)]
    simp

/-- Fields with each key once stay as they are. -/
theorem dedupe_of_nodup {fields : List (String × Value)} (h : (fields.map Prod.fst).Nodup) :
    dedupe fields = fields :=
  foldl_assign [] fields h

/-! ### Documents -/

/-- The characters of an item. -/
def itemChars (layout : Layout) (depth : Nat) (v : Value) : List Char :=
  (renderAt layout depth v).toList

def fieldChars (layout : Layout) (depth : Nat) (f : String × Value) : List Char :=
  (jsonText f.1).toList ++ ':' :: ' ' :: (renderAt layout depth f.2).toList

theorem map_renderItems (layout : Layout) (depth : Nat) (items : List Value) :
    (renderItems layout depth items).map String.toList = items.map (itemChars layout depth) := by
  induction items with
  | nil => rw [renderItems, List.map_nil, List.map_nil]
  | cons v items ih => rw [renderItems, List.map_cons, List.map_cons, ih, itemChars]

theorem map_renderFields (layout : Layout) (depth : Nat) (fields : List (String × Value)) :
    (renderFields layout depth fields).map String.toList =
      fields.map (fieldChars layout depth) := by
  induction fields with
  | nil => rw [renderFields, List.map_nil, List.map_nil]
  | cons f fields ih =>
    rw [renderFields, List.map_cons, List.map_cons, ih, fieldChars]
    simp

theorem toList_renderAt_list (layout : Layout) (depth : Nat) {items : List Value}
    (h : items ≠ []) :
    (renderAt layout depth (list items)).toList =
      '[' :: ((layout.open depth).toList ++
        ((layout.between depth).toList.intercalate (items.map (itemChars layout (depth + 1))) ++
          ((layout.close depth).toList ++ [']']))) := by
  rw [renderAt, if_neg (by simpa using h)]
  simp only [String.toList_append, String.toList_intercalate, map_renderItems, List.append_assoc]
  rfl

theorem toList_renderAt_object (layout : Layout) (depth : Nat) {fields : List (String × Value)}
    (h : fields ≠ []) :
    (renderAt layout depth (object fields)).toList =
      '\x7b' :: ((layout.open depth).toList ++
        ((layout.between depth).toList.intercalate (fields.map (fieldChars layout (depth + 1))) ++
          ((layout.close depth).toList ++ ['\x7d']))) := by
  rw [renderAt, if_neg (by simpa using h)]
  simp only [String.toList_append, String.toList_intercalate, map_renderFields, List.append_assoc]
  rfl

theorem readsAs_brackets : ReadsAs "[]".toList (list []) := by
  refine ⟨⟨'[', _, rfl, rfl, by decide⟩, fun fuel rest _ hfuel => ?_⟩
  obtain ⟨fuel, rfl⟩ : ∃ k, fuel = k + 1 := ⟨fuel - 1, by simp at hfuel; omega⟩
  show readValue (fuel + 1) ('[' :: ']' :: rest) = _
  rw [readValue, skipBlanks_cons rfl]
  rfl

theorem readsAs_braces : ReadsAs "\x7b\x7d".toList (object []) := by
  refine ⟨⟨'\x7b', _, rfl, rfl, by decide⟩, fun fuel rest _ hfuel => ?_⟩
  obtain ⟨fuel, rfl⟩ : ∃ k, fuel = k + 1 := ⟨fuel - 1, by simp at hfuel; omega⟩
  show readValue (fuel + 1) ('\x7b' :: '\x7d' :: rest) = _
  rw [readValue, skipBlanks_cons rfl]
  rfl

/-- Every value that JSON can write is read from its text. -/
theorem IsJson.readsAs {v : Value} (h : IsJson v) (layout : Layout) :
    ∀ depth, ReadsAs (renderAt layout depth v).toList v := by
  induction h with
  | null => exact fun depth => readsAs_null
  | bool b => exact fun depth => readsAs_bool b
  | int n => exact fun depth => readsAs_int n
  | float x => exact fun depth => readsAs_float x
  | text s => exact fun depth => readsAs_text s
  | @list items _ ih =>
    intro depth
    obtain ⟨gap, hbetween, hgap⟩ := layout.exists_between depth
    cases items with
    | nil =>
      rw [renderAt]
      exact readsAs_brackets
    | cons v items =>
      obtain ⟨hv, hitems⟩ := List.forall_mem_cons.mp ih
      rw [toList_renderAt_list layout depth (List.cons_ne_nil v items), hbetween]
      apply readsAs_list hgap (layout.isGap_close depth) (hv (depth + 1)) _
        (layout.isGap_open depth)
      rw [List.forall₂_map_left_iff, List.forall₂_same]
      exact fun w hw => hitems w hw (depth + 1)
  | @object fields keys _ ih =>
    intro depth
    obtain ⟨gap, hbetween, hgap⟩ := layout.exists_between depth
    cases fields with
    | nil =>
      rw [renderAt]
      exact readsAs_braces
    | cons f fields =>
      obtain ⟨hf, hfields⟩ := List.forall_mem_cons.mp ih
      rw [toList_renderAt_object layout depth (List.cons_ne_nil f fields), hbetween]
      have hparts : List.Forall₂ ReadsAsField
          (fields.map (fieldChars layout (depth + 1))) fields := by
        rw [List.forall₂_map_left_iff, List.forall₂_same]
        exact fun g hg => ⟨_, rfl, hfields g hg (depth + 1)⟩
      have hread := readsAs_object hgap (layout.isGap_close depth) ⟨_, rfl, hf (depth + 1)⟩ hparts
        (layout.isGap_open depth)
      rwa [dedupe_of_nodup keys] at hread

/-- A document is read back as the value that it was written from. -/
theorem parse?_render {v : Value} (h : IsJson v) (layout : Layout) :
    parse? (render layout v) = some v := by
  have hread := h.readsAs layout 0
  have hends : EndsNumber [] := by simp [EndsNumber]
  have hskip : skipBlanks (renderAt layout 0 v).toList = (renderAt layout 0 v).toList := by
    simpa using hread.skipBlanks_append (List.forall_mem_nil _) []
  have hvalue := hread.read ((renderAt layout 0 v).length + 1) [] hends
    (by rw [String.length_toList]; omega)
  rw [List.append_nil] at hvalue
  rw [parse?, render, hskip, hvalue]
  rfl

/-! ### ASCII -/

theorem forall_mem_intercalate {p : Char → Prop} {between : List Char}
    (hbetween : ∀ c ∈ between, p c)
    {parts : List (List Char)} (h : ∀ part ∈ parts, ∀ c ∈ part, p c) :
    ∀ c ∈ between.intercalate parts, p c := by
  induction parts with
  | nil => exact List.forall_mem_nil _
  | cons part parts ih =>
    obtain ⟨hpart, hparts⟩ := List.forall_mem_cons.mp h
    cases parts with
    | nil => rwa [List.intercalate_singleton]
    | cons next parts =>
      rw [List.intercalate_cons_cons, List.forall_mem_append, List.forall_mem_append]
      exact ⟨⟨hpart, hbetween⟩, ih hparts⟩

theorem isAscii_gap {gap : List Char} (h : IsGap gap) : IsAscii gap := by
  intro c hc
  have hgap := h c hc
  simp only [isGap, Bool.or_eq_true, beq_iff_eq] at hgap
  rcases hgap with ((rfl | rfl) | rfl) | rfl <;> decide

/-- Parts that are laid out between two brackets. -/
theorem isAscii_laidOut (layout : Layout) (depth : Nat) {opens closes : Char}
    (hopens : IsAscii [opens]) (hcloses : IsAscii [closes]) {parts : List (List Char)}
    (hparts : ∀ part ∈ parts, IsAscii part) :
    IsAscii (opens :: ((layout.open depth).toList ++
      ((layout.between depth).toList.intercalate parts ++
        ((layout.close depth).toList ++ [closes])))) := by
  obtain ⟨gap, hbetween, hgap⟩ := layout.exists_between depth
  have hcomma : IsAscii (',' :: gap) := isAscii_cons.mpr ⟨by decide, isAscii_gap hgap⟩
  rw [hbetween]
  refine isAscii_cons.mpr ⟨hopens _ (List.mem_singleton_self _), ?_⟩
  simp only [isAscii_append]
  exact ⟨isAscii_gap (layout.isGap_open depth), forall_mem_intercalate hcomma hparts,
    isAscii_gap (layout.isGap_close depth), hcloses⟩

/-- The text of every value that JSON can write is ASCII. -/
theorem IsJson.isAscii {v : Value} (h : IsJson v) (layout : Layout) :
    ∀ depth, IsAscii (renderAt layout depth v).toList := by
  induction h with
  | null =>
    intro depth
    show IsAscii "null".toList
    decide
  | bool b =>
    intro depth
    show IsAscii (if b then "true" else "false").toList
    cases b <;> decide
  | int n => exact fun depth => isAscii_toString n
  | float x => exact fun depth => isAscii_jsonDouble x
  | text s => exact fun depth => isAscii_jsonText s
  | @list items _ ih =>
    intro depth
    by_cases hempty : items = []
    · subst hempty
      show IsAscii "[]".toList
      decide
    rw [toList_renderAt_list layout depth hempty]
    refine isAscii_laidOut layout depth (by decide) (by decide) (List.forall_mem_map.mpr ?_)
    exact fun v hv => ih v hv (depth + 1)
  | @object fields keys _ ih =>
    intro depth
    by_cases hempty : fields = []
    · subst hempty
      show IsAscii "\x7b\x7d".toList
      decide
    rw [toList_renderAt_object layout depth hempty]
    refine isAscii_laidOut layout depth (by decide) (by decide) (List.forall_mem_map.mpr ?_)
    intro f hf
    exact isAscii_append.mpr ⟨isAscii_jsonText f.1,
      isAscii_cons.mpr ⟨by decide, isAscii_cons.mpr ⟨by decide, ih f hf (depth + 1)⟩⟩⟩

/-- The text of an object of texts on one line is plain, without any break. -/
theorem arePlain_render_line {fields : List (String × Value)}
    (h : ∀ f ∈ fields, ∃ s, f.2 = text s) :
    ArePlain (render .line (object fields)).toList := by
  by_cases hempty : fields = []
  · subst hempty
    show ArePlain "\x7b\x7d".toList
    decide
  have hfield : ∀ f ∈ fields, ArePlain (fieldChars .line 1 f) := by
    intro f hf
    obtain ⟨s, hs⟩ := h f hf
    rw [fieldChars, hs, arePlain_append, arePlain_cons, arePlain_cons]
    exact ⟨arePlain_jsonText f.1, by decide, by decide, arePlain_jsonText s⟩
  rw [render, toList_renderAt_object .line 0 hempty, arePlain_cons, arePlain_append,
    arePlain_append, arePlain_append]
  refine ⟨by decide, by decide, ?_, by decide, by decide⟩
  refine forall_mem_intercalate (show ArePlain (Layout.line.between 0).toList by decide) ?_
  rwa [List.forall_mem_map]

end SplitTest.Value

import SplitTest.Proofs.Schema.VariationKeys
import SplitTest.Proofs.Text.Digits

/-! Variations that are tracked by number.  Where the key of each variation is the text of its
position, rows are placed by key as they are by number, as long as they spell their numbers
plainly; so both formats merge them alike. -/

namespace SplitTest

open Text

/-! ### Texts of whole numbers -/

/-- The text of a whole number, if it has no more digits than a number text may have. -/
def intText? (k : Int) : Option String :=
  if (natText k.natAbs).length ≤ digitLimit then some (toString k) else none

theorem Text.trimBy_of_forall {p : Char → Bool} {cs : List Char} (h : ∀ c ∈ cs, p c = false) :
    trimBy p cs = cs := by
  have hdrop {cs : List Char} (h : ∀ c ∈ cs, p c = false) : cs.dropWhile p = cs := by
    cases cs with
    | nil => rfl
    | cons c cs => simp [h c List.mem_cons_self]
  rw [trimBy, hdrop h, hdrop fun c hc => h c (List.mem_reverse.mp hc), List.reverse_reverse]

theorem Numeral.dropUnderscores_of_notMem {cs : List Char} (h : '_' ∉ cs) (flag : Bool) :
    dropUnderscores flag cs = some cs := by
  induction cs generalizing flag with
  | nil => simp [dropUnderscores]
  | cons c cs ih =>
    obtain ⟨hc, hcs⟩ := not_or.mp (mt List.mem_cons.mpr h)
    have hne : c ≠ '_' := Ne.symm hc
    rw [dropUnderscores]
    · simp [hne, ih hcs]
    · rintro d rest - rfl
      contradiction

theorem IsIntChar.isBlank_eq {c : Char} (h : IsIntChar c) : isBlank c = false := by
  rcases h with hdigit | rfl
  · obtain ⟨hlow, hhigh⟩ := isDigit_iff_toNat.mp hdigit
    simp [isBlank]
    omega
  · decide +kernel

theorem IsIntChar.asciiDigit_eq {c : Char} (h : IsIntChar c) : Numeral.asciiDigit c = c := by
  rcases h with hdigit | rfl
  · exact asciiDigit_of_isDigit hdigit
  · decide +kernel

theorem Numeral.splitSign_digits {ds : List Char} {n : Nat} (h : Digits ds n) :
    splitSign ds = (false, ds) := by
  obtain ⟨c, cs, rfl, hc, -⟩ := h.eq_cons
  exact splitSign_cons hc cs

/-- A sign and digits make a whole number. -/
theorem Numeral.int?_of_split {cs ds : List Char} {n : Nat} {negative : Bool}
    (hsign : splitSign cs = (negative, ds)) (h : Digits ds n) (hlimit : ds.length ≤ digitLimit) :
    int? cs = some (if negative then -(n : Int) else n) := by
  have hne : ds.map digitValue ≠ [] := by simpa using h.ne_nil
  rw [int?_of_splitDigits hsign (splitDigits_of_forall h.isDigit) hne, List.length_map,
    if_pos hlimit, h.ofDigits_map]

theorem Numeral.int?_toString {k : Int} (hlimit : (natText k.natAbs).length ≤ digitLimit) :
    int? (toString k).toList = some k := by
  have hdigits := Digits.natText k.natAbs
  rw [← String.length_toList] at hlimit
  rw [toList_toString_int]
  by_cases hneg : k < 0
  · have hsign : splitSign ('-' :: (natText k.natAbs).toList) = (true, (natText k.natAbs).toList) :=
      rfl
    rw [if_pos hneg, List.singleton_append, int?_of_split hsign hdigits hlimit, if_pos rfl,
      Option.some.injEq]
    omega
  · rw [if_neg hneg, List.nil_append, int?_of_split (splitSign_digits hdigits) hdigits hlimit,
      if_neg Bool.false_ne_true, Option.some.injEq]
    omega

theorem trim_toString_int (k : Int) : trim (toString k) = toString k := by
  have hblank : trimBy isBlank (toString k).toList = (toString k).toList :=
    trimBy_of_forall fun _ hc => (isIntChar_of_mem hc).isBlank_eq
  rw [trim, trimList, hblank, String.ofList_toList]

/-- The text of a whole number is read as the number. -/
theorem intOfText?_toString {k : Int} (hlimit : (natText k.natAbs).length ≤ digitLimit) :
    intOfText? (toString k) = some k := by
  have hchars (c : Char) (hc : c ∈ (toString k).toList) : IsIntChar c := isIntChar_of_mem hc
  have hspace : trimBy isSpace (toString k).toList = (toString k).toList :=
    trimBy_of_forall fun c hc => by simp [isSpace, (hchars c hc).isBlank_eq]
  have hdigits : (toString k).toList.map Numeral.asciiDigit = (toString k).toList :=
    (List.map_congr_left fun c hc => (hchars c hc).asciiDigit_eq).trans (List.map_id _)
  have hunderscore : '_' ∉ (toString k).toList := fun hmem => by
    rcases hchars _ hmem with h | h <;> simp at h
  have hplain : Numeral.plain? (toString k) = some (toString k).toList := by
    rw [Numeral.plain?, hspace, hdigits, Numeral.dropUnderscores_of_notMem hunderscore]
  rw [intOfText?, hplain, Option.bind_some, Numeral.int?_toString hlimit]

theorem intOfText?_of_intText? {k : Int} {s : String} (h : intText? k = some s) :
    intOfText? (trim s) = some k := by
  unfold intText? at h
  split at h
  · rename_i hlimit
    obtain rfl := Option.some.inj h
    rw [trim_toString_int, intOfText?_toString hlimit]
  · simp at h

/-! ### Placing rows -/

/-- A cell that spells its variation plainly: a null, the text of a whole number, or a text that no
reader takes for one. -/
inductive IsPlainVariation : Value → Prop
  | null : IsPlainVariation .null
  | number {k : Int} {s : String} (h : intText? k = some s) : IsPlainVariation (.text s)
  | name {s : String} (h : intOfText? (trim s) = none) : IsPlainVariation (.text s)

/-- The key of each variation is the text of its position. -/
def ExperimentDefinition.KeyedByPosition (e : ExperimentDefinition) : Prop :=
  ∀ i : Fin e.variations.length, intText? (i.val : Int) = some (e.variations.get i).key

namespace ExperimentDefinition

variable {e : ExperimentDefinition} (hkeys : e.KeyedByPosition)
include hkeys

theorem key_iff_intText? {i : Nat} {s : String} :
    (e.variations[i]?).map (·.key) = some s ↔
      i < e.variations.length ∧ intText? (i : Int) = some s := by
  by_cases hi : i < e.variations.length
  · rw [List.getElem?_eq_getElem hi, Option.map_some, hkeys ⟨i, hi⟩]
    simp [hi]
  · simp [hi]

/-- The keys are the texts of the positions. -/
theorem lookup_iff_intText? {k : Int} {s : String} :
    e.variationKeyMap.lookup s = some k ↔
      (0 ≤ k ∧ k.toNat < e.variations.length) ∧ intText? k = some s := by
  constructor
  · intro h
    rcases lookup_keyMapFrom h with hnil | ⟨i, hk, hi⟩
    · simp at hnil
    · obtain ⟨hlt, htext⟩ := (key_iff_intText? hkeys).mp hi
      obtain rfl : k = i := by omega
      exact ⟨⟨Int.natCast_nonneg i, hlt⟩, htext⟩
  · rintro ⟨⟨hnonneg, hlt⟩, htext⟩
    obtain ⟨i, rfl⟩ := Int.eq_ofNat_of_zero_le hnonneg
    refine (e.lookup_variationKeyMap_iff s i).mpr ⟨(key_iff_intText? hkeys).mpr ⟨hlt, htext⟩, ?_⟩
    intro j hij hj
    obtain ⟨-, htext'⟩ := (key_iff_intText? hkeys).mp hj
    have hread := intOfText?_of_intText? htext
    rw [intOfText?_of_intText? htext', Option.some.injEq] at hread
    omega

/-- A plainly spelled variation is placed by key as it is by number. -/
theorem resolveVariation_key_eq_index {v : Value} (hv : IsPlainVariation v) :
    resolveVariation .key e.variationKeyMap e.variations.length v =
      resolveVariation .index e.variationKeyMap e.variations.length v := by
  cases hv with
  | null => rfl
  | @number k s htext =>
    have hread := intOfText?_of_intText? htext
    cases hlookup : e.variationKeyMap.lookup s with
    | some i =>
      obtain ⟨-, htext'⟩ := (lookup_iff_intText? hkeys).mp hlookup
      obtain rfl : k = i := by simpa [hread] using intOfText?_of_intText? htext'
      simp [resolveVariation, Value.display, hlookup, hread]
    | none =>
      have hrange : ¬(0 ≤ k ∧ k.toNat < e.variations.length) := fun hrange => by
        simp [(lookup_iff_intText? hkeys).mpr ⟨hrange, htext⟩] at hlookup
      simp only [resolveVariation, Value.display, hlookup, hread, Option.bind_none,
        Option.bind_some, dif_neg hrange]
  | @name s hname =>
    have hlookup : e.variationKeyMap.lookup s = none := by
      refine Option.eq_none_iff_forall_ne_some.mpr fun i hi => ?_
      have hread := intOfText?_of_intText? ((lookup_iff_intText? hkeys).mp hi).2
      simp [hname] at hread
    simp [resolveVariation, Value.display, hlookup, hname]

end ExperimentDefinition

namespace Merge

/-- Where rows are placed alike they are merged alike. -/
theorem Context.run_of_place_eq (c : Context) (format : VariationFormat) {items : List Item}
    (h : ∀ item ∈ items, c.place item.row = { c with format }.place item.row) (s : State) :
    c.run s items = { c with format }.run s items := by
  induction items generalizing s with
  | nil => rfl
  | cons item rest ih =>
    obtain ⟨hitem, hrest⟩ := List.forall_mem_cons.mp h
    have hstep : c.step s item = { c with format }.step s item := by
      unfold Context.step
      rw [← hitem]
      cases c.place item.row <;> rfl
    rw [run, run, hstep]
    split
    · exact ih hrest _
    · rfl

theorem mem_items {ids : List String} {metricRows : List (List Row)} {usersRows : List Row}
    {item : Item} (h : item ∈ items ids metricRows usersRows) :
    item.row ∈ usersRows ++ metricRows.flatten := by
  rw [items, List.mem_append, List.mem_map, List.mem_flatMap] at h
  rcases h with ⟨row, hrow, rfl⟩ | ⟨⟨id, rows⟩, hrows, hitem⟩
  · exact List.mem_append_left _ hrow
  · obtain ⟨row, hrow, rfl⟩ := List.mem_map.mp hitem
    exact List.mem_append_right _ (List.mem_flatten.mpr ⟨rows, (List.of_mem_zip hrows).2, hrow⟩)

end Merge

/-- The settings with another format of the variation column. -/
def SourceSettings.withVariationFormat (s : SourceSettings) (format : VariationFormat) :
    SourceSettings :=
  { s with experiments := { s.experiments with variationFormat := format } }

namespace Merge

/-- Rows of an experiment whose variations are keyed by their positions are merged alike by key and
by number: the buckets, the warnings and the end are the same. -/
theorem merge_by_key_eq_by_index (settings : SourceSettings) (e : ExperimentDefinition)
    (metrics : List MetricDefinition) (metricRows : List (List Row)) (usersRows : List Row)
    (hkeys : e.KeyedByPosition)
    (hrows : ∀ row ∈ usersRows ++ metricRows.flatten, IsPlainVariation (row.get "variation")) :
    (Context.ofExperiment (settings.withVariationFormat .key) e).merge (metrics.map (·.id))
        metricRows usersRows =
      (Context.ofExperiment (settings.withVariationFormat .index) e).merge (metrics.map (·.id))
        metricRows usersRows := by
  refine Context.run_of_place_eq _ .index (fun item hitem => ?_) ⟨[], []⟩
  exact ExperimentDefinition.resolveVariation_key_eq_index hkeys (hrows _ (mem_items hitem))

/-- Positions, a negative number, one that is too large, a name, and rows without a variation. -/
theorem merge_by_key_eq_by_index_two_variations :
    let e := ExperimentDefinition.minimal "e" "exp" ["0", "1"]
    let metrics := [MetricDefinition.minimal "m" "M" .count "t"]
    let row (v : Value) : Row := [("variation", v), ("users", .text "3"), ("count", .text "2")]
    let usersRows := [row (.text "1"), row (.text "-1"), row (.text "7"), row .null]
    let metricRows := [[row (.text "0"), row (.text "control")]]
    let merged (format : VariationFormat) :=
      (Context.ofExperiment (SourceSettings.builtin.withVariationFormat format) e).merge
        (metrics.map (·.id)) metricRows usersRows
    e.KeyedByPosition ∧
      (∀ row ∈ usersRows ++ metricRows.flatten, IsPlainVariation (row.get "variation")) ∧
      (merged .key).1.buckets.length = 1 ∧ (merged .key).1.warnings.length = 4 ∧
      merged .key = merged .index := by
  intro e metrics row usersRows metricRows merged
  have hkeys : e.KeyedByPosition := by
    unfold ExperimentDefinition.KeyedByPosition
    decide +kernel
  have hrows : ∀ row ∈ usersRows ++ metricRows.flatten,
      IsPlainVariation (row.get "variation") := by
    have hvariations : (usersRows ++ metricRows.flatten).map (·.get "variation") =
        [.text "1", .text "-1", .text "7", .null, .text "0", .text "control"] := rfl
    rw [← List.forall_mem_map, hvariations]
    simp only [List.forall_mem_cons]
    exact ⟨.number (k := 1) (by decide +kernel), .number (k := -1) (by decide +kernel),
      .number (k := 7) (by decide +kernel), .null, .number (k := 0) (by decide +kernel),
      .name (by decide +kernel), List.forall_mem_nil _⟩
  exact ⟨hkeys, hrows, by decide +kernel, by decide +kernel,
    merge_by_key_eq_by_index .builtin e metrics metricRows usersRows hkeys hrows⟩

end Merge

end SplitTest

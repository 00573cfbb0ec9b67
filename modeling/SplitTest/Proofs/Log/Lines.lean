import SplitTest.Proofs.Json.Document
import SplitTest.Proofs.Log.Setup
import SplitTest.Proofs.Log.Time

/-! The log in JSON.  Each record that is written is one line: all its characters are plain, so the
only breaks in the log are those that end the lines.  Read as a document, the line of a record gives
its time, level, logger and message, and its failure if it reports one. -/

namespace SplitTest.Log

open Value (ArePlain IsPlain arePlain_render_line parse?_render field?)

/-! ### The line of a record -/

namespace Record

/-- The fields of a record's object. -/
def fields (r : Record) (time : DateTime) (message : String) : List (String × Value) :=
  [("timestamp", .text time.isoText), ("level", .text r.level.name), ("logger", .text r.logger),
      ("message", .text message)] ++
    (match r.report with
      | none => []
      | some report => [("exception", .text report.text)])

/-- The line is a document with the time, the level, the logger, the message and the failure of the
record. -/
structure ReadsAs (r : Record) (line : String) (fields : List (String × Value)) : Prop where
  document : Value.parse? line = some (.object fields)
  timestamp : ∃ t, r.time? = some t ∧ field? "timestamp" fields = some (.text t.isoText)
  level : field? "level" fields = some (.text r.level.name)
  logger : field? "logger" fields = some (.text r.logger)
  message : ∃ m, r.message? = some m ∧ field? "message" fields = some (.text m)
  exception : field? "exception" fields = r.report.map fun report => .text report.text

variable {r : Record} {line : String}

theorem jsonLine?_eq_some_iff :
    r.jsonLine? = some line ↔ ∃ t m, r.time? = some t ∧ r.message? = some m ∧
      line = Value.render .line (.object (r.fields t m)) := by
  rw [jsonLine?, Option.map_eq_some_iff]
  constructor
  · rintro ⟨v, hv, rfl⟩
    obtain ⟨t, ht, hv⟩ := Option.bind_eq_some_iff.mp hv
    obtain ⟨m, hm, hv⟩ := Option.bind_eq_some_iff.mp hv
    obtain rfl := Option.some.inj hv
    exact ⟨t, m, ht, hm, rfl⟩
  · rintro ⟨t, m, ht, hm, rfl⟩
    refine ⟨_, Option.bind_eq_some_iff.mpr ⟨t, ht, ?_⟩, rfl⟩
    exact Option.bind_eq_some_iff.mpr ⟨m, hm, rfl⟩

theorem isText_fields (t : DateTime) (m : String) : ∀ f ∈ r.fields t m, ∃ s, f.2 = .text s := by
  unfold fields
  cases r.report <;> simp

theorem isJson_fields (t : DateTime) (m : String) : Value.IsJson (.object (r.fields t m)) := by
  refine .object ?_ fun f hf => ?_
  · unfold fields
    cases r.report <;> simp
  · obtain ⟨s, hs⟩ := isText_fields t m f hf
    rw [hs]
    exact .text s

theorem arePlain_jsonLine (h : r.jsonLine? = some line) : ArePlain line.toList := by
  obtain ⟨t, m, -, -, rfl⟩ := jsonLine?_eq_some_iff.mp h
  exact arePlain_render_line (isText_fields t m)

theorem readsAs_jsonLine (h : r.jsonLine? = some line) : ∃ fields, r.ReadsAs line fields := by
  obtain ⟨t, m, ht, hm, rfl⟩ := jsonLine?_eq_some_iff.mp h
  refine ⟨r.fields t m, parse?_render (isJson_fields t m) .line, ⟨t, ht, rfl⟩, rfl, rfl,
    ⟨m, hm, rfl⟩, ?_⟩
  unfold fields
  cases r.report <;> rfl

end Record

/-! ### Lines -/

theorem not_isPlain_break : ¬IsPlain '\n' := by
  decide

/-- A text of lines without breaks is split into these lines. -/
theorem splitOn_lines {lines : List (List Char)} (h : ∀ line ∈ lines, '\n' ∉ line) :
    (lines.flatMap (· ++ ['\n'])).splitOn '\n' = lines ++ [[]] := by
  induction lines with
  | nil => rfl
  | cons line lines ih =>
    obtain ⟨hline, hlines⟩ := List.forall_mem_cons.mp h
    rw [List.flatMap_cons, List.append_assoc, List.singleton_append, List.splitOn_append_cons_self,
      List.splitOn_eq_singleton hline, ih hlines]
    rfl

theorem forall₂_filterMap {α β : Type} {f : α → Option β} {R : β → α → Prop} {xs : List α}
    (h : ∀ x ∈ xs, ∀ y, f x = some y → R y x) :
    List.Forall₂ R (xs.filterMap f) (xs.filter fun x => (f x).isSome) := by
  induction xs with
  | nil => exact .nil
  | cons x xs ih =>
    obtain ⟨hx, hxs⟩ := List.forall_mem_cons.mp h
    cases hfx : f x with
    | none =>
      rw [List.filterMap_cons_none hfx, List.filter_cons_of_neg (by simp [hfx])]
      exact ih hxs
    | some y =>
      rw [List.filterMap_cons_some hfx, List.filter_cons_of_pos (by simp [hfx])]
      exact .cons (hx y hfx) (ih hxs)

/-! ### Records in order -/

namespace Setup

/-- The records that a handler is given, in order. -/
def taken (s : Setup) : List Record → List Record
  | [] => []
  | r :: rest =>
    let s := s.meet r.logger
    if (s.takers r).isEmpty then s.taken rest else r :: s.taken rest

/-- The records that are written: those that a handler is given and that have a time. -/
def written (s : Setup) (records : List Record) : List Record :=
  (s.taken records).filter (·.time?.isSome)

theorem taken_sublist (s : Setup) (records : List Record) : (s.taken records).Sublist records := by
  induction records generalizing s with
  | nil => exact .slnil
  | cons r rest ih =>
    rw [taken]
    split
    · exact (ih _).cons r
    · exact (ih _).cons_cons r

variable {s : Setup} {level : Level} {complain : Handler → Record → String}

theorem write_of_handler (h : s.handlers = [⟨level, .json⟩]) (r : Record) : s.write complain r =
    if (s.takers r).isEmpty then "" else outputBy complain ⟨level, .json⟩ r := by
  have htakers : s.takers r = [] ∨ s.takers r = [⟨level, .json⟩] := by
    rw [takers, h, List.filter_cons, List.filter_nil]
    split
    · split
      · exact .inr rfl
      · exact .inl rfl
    · exact .inl rfl
  rcases htakers with htakers | htakers <;> simp [write, htakers]

theorem writeAll_of_handler (h : s.handlers = [⟨level, .json⟩]) {records : List Record}
    (hcomplain : ∀ r ∈ records, r.jsonLine? = none → complain ⟨level, .json⟩ r = "") :
    (s.writeAll complain records).toList =
      (((s.taken records).filterMap Record.jsonLine?).map String.toList).flatMap (· ++ ['\n']) := by
  induction records generalizing s with
  | nil => rfl
  | cons r rest ih =>
    have hmeet : (s.meet r.logger).handlers = [⟨level, .json⟩] := by rw [handlers_meet, h]
    obtain ⟨hr, hrest⟩ := List.forall_mem_cons.mp hcomplain
    rw [writeAll, taken]
    simp only [String.toList_append, write_of_handler hmeet, ih hmeet hrest]
    split
    · simp
    · cases hline : r.jsonLine? with
      | none => simp [outputBy, RecordLayout.line?, hline, hr hline]
      | some line => simp [outputBy, RecordLayout.line?, hline]

/-- A record with a message is written as soon as it has a time. -/
theorem isSome_jsonLine? {r : Record} (h : r.message?.isSome = true) :
    r.jsonLine?.isSome = r.time?.isSome := by
  obtain ⟨m, hm⟩ := Option.isSome_iff_exists.mp h
  rw [Bool.eq_iff_iff, Option.isSome_iff_exists, Option.isSome_iff_exists]
  constructor
  · rintro ⟨line, hline⟩
    obtain ⟨t, -, ht, -⟩ := Record.jsonLine?_eq_some_iff.mp hline
    exact ⟨t, ht⟩
  · rintro ⟨t, ht⟩
    exact ⟨_, Record.jsonLine?_eq_some_iff.mpr ⟨t, m, ht, hm, rfl⟩⟩

theorem written_eq {records : List Record} (h : ∀ r ∈ records, r.message?.isSome = true) :
    s.written records = (s.taken records).filter (·.jsonLine?.isSome) := by
  refine List.filter_congr fun r hr => ?_
  exact (isSome_jsonLine? (h r ((taken_sublist s records).subset hr))).symm

/-- After a call for the JSON layout that is not refused, the log of records whose messages fit is
one line for each record that is written, in their order: its breaks stand at the ends of these
lines only, and the `k`-th line, read as a document, gives the `k`-th record.  A record that a
handler is given is left out only if its time is outside the calendar; about such records no
complaint is written. -/
theorem one_line_per_record {s : Setup} {word layout : String}
    (hcall : (s.call word layout).2 = none) (hjson : Text.lower layout = "json")
    {records : List Record} (hmessages : ∀ r ∈ records, r.message?.isSome = true)
    {complain : Handler → Record → String}
    (hcomplain : ∀ r ∈ records, r.time? = none → ∀ h, complain h r = "") :
    let t := (s.call word layout).1
    ∃ lines : List String,
      (t.writeAll complain records).toList.splitOn '\n' = lines.map String.toList ++ [[]] ∧
      List.Forall₂ (fun line r => ∃ fields, r.ReadsAs line fields) lines (t.written records) ∧
      (∀ line ∈ lines, ArePlain line.toList) ∧
      (t.written records).Sublist records ∧
      ((∀ r ∈ records, r.IsDated) → t.written records = t.taken records) := by
  intro t
  obtain ⟨l, -, htaken⟩ := call_eq_taken hcall
  have hhandlers : t.handlers = [⟨l, .json⟩] := by
    have hlayout : RecordLayout.ofWord layout = .json := by simp [RecordLayout.ofWord, hjson]
    simp only [t, htaken, configured, hlayout]
  let lines := (t.taken records).filterMap Record.jsonLine?
  have hplain : ∀ line ∈ lines, ArePlain line.toList := by
    intro line hline
    obtain ⟨r, -, hr⟩ := List.mem_filterMap.mp hline
    exact Record.arePlain_jsonLine hr
  have hsilent : ∀ r ∈ records, r.jsonLine? = none → complain ⟨l, .json⟩ r = "" := by
    intro r hr hline
    have htime : r.time?.isSome = false := by rw [← isSome_jsonLine? (hmessages r hr), hline]; rfl
    exact hcomplain r hr (by simpa using htime) _
  refine ⟨lines, ?_, ?_, hplain, ?_, fun hdated => ?_⟩
  · rw [writeAll_of_handler hhandlers hsilent]
    refine splitOn_lines fun cs hcs hbreak => ?_
    obtain ⟨line, hline, rfl⟩ := List.mem_map.mp hcs
    exact not_isPlain_break (hplain line hline '\n' hbreak)
  · rw [written_eq hmessages]
    exact forall₂_filterMap fun r _ line hline => Record.readsAs_jsonLine hline
  · exact List.filter_sublist.trans (taken_sublist t records)
  · refine List.filter_eq_self.mpr fun r hr => ?_
    obtain ⟨time, htime⟩ := Record.exists_time (hdated r ((taken_sublist t records).subset hr))
    rw [htime]
    rfl

/-- A message with breaks and quotes and a failure with a break make one line each. -/
theorem one_line_per_record_breaks :
    let created : Double := .zero
    let records : List Record :=
      [⟨"app\n.db", .warning, "two\nlines of %s", [.text "\"été\"\r\n"], created, none⟩,
        ⟨"app", .info, "retry", [], created, some ⟨"ValueError", "no\nrows"⟩⟩]
    let t := (initial.call "info" "JSON").1
    let complain : Handler → Record → String := fun _ _ => "no line\n"
    (initial.call "info" "JSON").2 = none ∧ Text.lower "JSON" = "json" ∧
      (∀ r ∈ records, r.message?.isSome = true) ∧
      ∃ lines : List String,
        (t.writeAll complain records).toList.splitOn '\n' = lines.map String.toList ++ [[]] ∧
        List.Forall₂ (fun line r => ∃ fields, r.ReadsAs line fields) lines records := by
  intro created records t complain
  have hcall : (initial.call "info" "JSON").2 = none := by decide
  have hjson : Text.lower "JSON" = "json" := by decide +kernel
  have hmessages : ∀ r ∈ records, r.message?.isSome = true := by decide +kernel
  have hdated : ∀ r ∈ records, r.IsDated := by
    have hcreated : created.units? = some ((0 : Nat) : Int) := rfl
    have hpositive : 0 < 253402300799 * Double.one := Nat.mul_pos (by decide) Double.one_pos
    intro r hr
    rcases List.mem_pair.mp hr with rfl | rfl <;> exact ⟨0, hcreated, hpositive⟩
  have hcomplain : ∀ r ∈ records, r.time? = none → ∀ h, complain h r = "" := by
    intro r hr htime
    obtain ⟨time, hsome⟩ := Record.exists_time (hdated r hr)
    cases htime.symm.trans hsome
  obtain ⟨lines, hlines, hread, -, -, hwritten⟩ :=
    one_line_per_record hcall hjson hmessages hcomplain
  have htaken : t.taken records = records :=
    (taken_sublist t records).eq_of_length (by decide +kernel)
  rw [hwritten hdated, htaken] at hread
  exact ⟨hcall, hjson, hmessages, lines, hlines, hread⟩

end Setup

end SplitTest.Log

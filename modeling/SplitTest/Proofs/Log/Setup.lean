import Mathlib.Data.List.Infix
import SplitTest.Log.Setup
import SplitTest.Proofs.Assignments

/-! The log after any calls.  A call that is refused ends at its first step, before anything has
changed; one that is not leaves a configuration that depends on the calls before it through the
levels of other loggers only, and these no call changes.  So the last call that is not refused
decides, and from its level and the quiet loggers it follows which records are written. -/

namespace SplitTest.Log.Setup

/-! ### Levels of loggers -/

/-- The levels after the quiet loggers have been kept quiet. -/
def quietened (levels : List (String × Level)) : List (String × Level) :=
  quietLoggers.foldl (fun levels logger => assign logger .warning levels) levels

theorem lookup_foldl_assign (loggers : List String) (levels : List (String × Level))
    (other : String) :
    (loggers.foldl (fun levels logger => assign logger .warning levels) levels).lookup other =
      if other ∈ loggers then some .warning else levels.lookup other := by
  induction loggers generalizing levels with
  | nil => simp
  | cons logger rest ih =>
    rw [List.foldl_cons, ih, lookup_assign]
    by_cases hrest : other ∈ rest
    · simp [hrest]
    · by_cases h : other = logger <;> simp [hrest, h]

theorem lookup_quietened (levels : List (String × Level)) (other : String) :
    (quietened levels).lookup other =
      if other ∈ quietLoggers then some .warning else levels.lookup other :=
  lookup_foldl_assign quietLoggers levels other

theorem foldl_assign_of_lookup {loggers : List String} {levels : List (String × Level)}
    (h : ∀ logger ∈ loggers, levels.lookup logger = some .warning) :
    loggers.foldl (fun levels logger => assign logger .warning levels) levels = levels := by
  induction loggers with
  | nil => rfl
  | cons logger rest ih =>
    obtain ⟨hlogger, hrest⟩ := List.forall_mem_cons.mp h
    rw [List.foldl_cons, assign_of_lookup hlogger, ih hrest]

theorem quietened_quietened (levels : List (String × Level)) :
    quietened (quietened levels) = quietened levels := by
  apply foldl_assign_of_lookup
  intro logger hlogger
  rw [lookup_quietened, if_pos hlogger]

/-! ### Calls -/

/-- The configuration that a call leaves. -/
def configured (s : Setup) (level : Level) (layout : RecordLayout) : Setup :=
  { rootLevel := level, handlers := [⟨level, layout⟩], levels := quietened s.levels }

theorem configured_configured (s : Setup) (level level' : Level) (layout layout' : RecordLayout) :
    (s.configured level layout).configured level' layout' = s.configured level' layout' := by
  simp [configured, quietened_quietened]

/-- A call is refused at its first step or takes all of them. -/
theorem call_eq (s : Setup) (level layout : String) :
    s.call level layout =
      match Level.ofWord level with
      | .ok l => (s.configured l (.ofWord layout), none)
      | .error f => (s, some f) := by
  cases h : Level.ofWord level with
  | error f => simp [call, steps, take, setRootLevel, h, Except.map]
  | ok l =>
    simp [call, steps, take, setRootLevel, clearHandlers, addHandler, quieten, quietLoggers, h,
      Except.map, configured, quietened]

theorem call_eq_refused {s : Setup} {level layout : String} {f : Fault}
    (h : (s.call level layout).2 = some f) : s.call level layout = (s, some f) := by
  rw [call_eq] at h ⊢
  cases hlevel : Level.ofWord level with
  | ok l => simp [hlevel] at h
  | error g =>
    obtain rfl : g = f := by simpa [hlevel] using h
    rfl

theorem call_eq_taken {s : Setup} {level layout : String} (h : (s.call level layout).2 = none) :
    ∃ l, Level.ofWord level = .ok l ∧
      ∀ t : Setup, t.call level layout = (t.configured l (.ofWord layout), none) := by
  rw [call_eq] at h
  cases hlevel : Level.ofWord level with
  | ok l => exact ⟨l, rfl, fun t => by rw [call_eq, hlevel]⟩
  | error f => simp [hlevel] at h

/-- Whether a call is refused does not depend on the configuration. -/
theorem refusal_eq (s t : Setup) (level layout : String) :
    (s.call level layout).2 = (t.call level layout).2 := by
  rw [call_eq, call_eq]
  cases Level.ofWord level <;> rfl

/-- The configuration after calls in order, each with its level and its layout. -/
def afterCalls (s : Setup) (calls : List (String × String)) : Setup :=
  calls.foldl (fun s c => (s.call c.1 c.2).1) s

theorem afterCalls_append (s : Setup) (before after : List (String × String)) :
    s.afterCalls (before ++ after) = (s.afterCalls before).afterCalls after :=
  List.foldl_append

theorem afterCalls_cons (s : Setup) (c : String × String) (rest : List (String × String)) :
    s.afterCalls (c :: rest) = (s.call c.1 c.2).1.afterCalls rest :=
  rfl

/-- Calls that are all refused change nothing. -/
theorem afterCalls_of_refused {s : Setup} {calls : List (String × String)}
    (h : ∀ c ∈ calls, (s.call c.1 c.2).2 ≠ none) : s.afterCalls calls = s := by
  induction calls with
  | nil => rfl
  | cons c rest ih =>
    obtain ⟨hc, hrest⟩ := List.forall_mem_cons.mp h
    obtain ⟨f, hf⟩ := Option.ne_none_iff_exists'.mp hc
    rw [afterCalls_cons, call_eq_refused hf, ih hrest]

/-- After any calls the configuration is that of the start or one that a call has left. -/
theorem afterCalls_cases (s : Setup) (calls : List (String × String)) :
    s.afterCalls calls = s ∨ ∃ l layout, s.afterCalls calls = s.configured l layout := by
  induction calls using List.reverseRecOn with
  | nil => exact .inl rfl
  | append_singleton before c ih =>
    rw [afterCalls_append, afterCalls_cons]
    cases hcall : ((s.afterCalls before).call c.1 c.2).2 with
    | some f =>
      rw [call_eq_refused hcall]
      exact ih
    | none =>
      obtain ⟨l, -, htaken⟩ := call_eq_taken hcall
      rw [htaken]
      refine .inr ⟨l, .ofWord c.2, ?_⟩
      rcases ih with hstart | ⟨l', layout', hleft⟩
      · rw [hstart]
        rfl
      · rw [hleft, configured_configured]
        rfl

/-- The last call that is not refused decides. -/
theorem afterCalls_eq {s : Setup} {before after : List (String × String)} {level layout : String}
    (hcall : (s.call level layout).2 = none) (hafter : ∀ c ∈ after, (s.call c.1 c.2).2 ≠ none) :
    s.afterCalls (before ++ (level, layout) :: after) = (s.call level layout).1 := by
  obtain ⟨l, -, htaken⟩ := call_eq_taken hcall
  have hconfigured : ((s.afterCalls before).call level layout).1 =
      s.configured l (.ofWord layout) := by
    rw [htaken]
    rcases s.afterCalls_cases before with hstart | ⟨l', layout', hleft⟩
    · rw [hstart]
    · rw [hleft, configured_configured]
  rw [afterCalls_append, afterCalls_cons, hconfigured, htaken]
  apply afterCalls_of_refused
  intro c hc
  rw [refusal_eq _ s]
  exact hafter c hc

/-! ### Loggers above a logger -/

/-- Above a logger whose name has no two points in a row stand all the loggers that there are whose
names and a point begin its name; names have their last character first. -/
theorem mem_above {s : Setup} {cs : List Char} (hpoints : ¬['.', '.'] <:+: cs) (ds : List Char) :
    ds ∈ s.above cs ↔
      (s.levels.lookup (String.ofList ds.reverse)).isSome = true ∧ ds ≠ [] ∧ '.' :: ds <:+ cs := by
  induction cs using above.induct s with
  | case1 => simp [above]
  | case2 c => cases ds <;> simp [above, List.suffix_cons_iff]
  | case3 c rest hthere ih =>
    have hrest : ¬['.', '.'] <:+: c :: rest := fun h => hpoints (List.infix_cons h)
    rw [above, if_pos hthere, List.mem_cons, ih hrest, List.suffix_cons_iff (a := '.')]
    constructor
    · rintro (rfl | ⟨hds, hne, hsuffix⟩)
      · exact ⟨hthere, List.cons_ne_nil _ _, .inl rfl⟩
      · exact ⟨hds, hne, .inr hsuffix⟩
    · rintro ⟨hds, hne, heq | hsuffix⟩
      · exact .inl (List.cons.inj heq).2
      · exact .inr ⟨hds, hne, hsuffix⟩
  | case4 c rest hmissing ih =>
    have hrest : ¬['.', '.'] <:+: rest := fun h =>
      hpoints (List.infix_cons (List.infix_cons h))
    have hc : c ≠ '.' := by
      rintro rfl
      exact hpoints ⟨[], rest, rfl⟩
    rw [above, if_neg hmissing, ih hrest, List.suffix_cons_iff (a := '.'),
      List.suffix_cons_iff (a := c)]
    constructor
    · rintro ⟨hds, hne, hsuffix⟩
      exact ⟨hds, hne, .inr (.inr hsuffix)⟩
    · rintro ⟨hds, hne, heq | heq | hsuffix⟩
      · rw [(List.cons.inj heq).2] at hds
        exact absurd hds hmissing
      · exact absurd (List.cons.inj heq).1.symm hc
      · exact ⟨hds, hne, hsuffix⟩
  | case5 c d rest hc ih =>
    have hrest : ¬['.', '.'] <:+: d :: rest := fun h => hpoints (List.infix_cons h)
    rw [above, ih hrest, List.suffix_cons_iff (a := c)]
    · constructor
      · rintro ⟨hds, hne, hsuffix⟩
        exact ⟨hds, hne, .inr hsuffix⟩
      · rintro ⟨hds, hne, heq | hsuffix⟩
        · exact absurd (List.cons.inj heq).1.symm hc
        · exact ⟨hds, hne, hsuffix⟩
    · exact hc

/-- The logger is a quiet one or stands below one. -/
def IsQuiet (s : Setup) (logger : String) : Prop := ∃ q ∈ quietLoggers, q ∈ s.lineage logger

instance (s : Setup) (logger : String) : Decidable (s.IsQuiet logger) :=
  inferInstanceAs (Decidable (∃ q ∈ quietLoggers, q ∈ s.lineage logger))

/-- A name without two points in a row is quiet exactly if it is that of a quiet logger, or one that
begins with it and a point. -/
theorem isQuiet_iff {s : Setup} (hquiet : ∀ q ∈ quietLoggers, (s.levels.lookup q).isSome = true)
    {logger : String} (hpoints : ¬['.', '.'] <:+: logger.toList) :
    s.IsQuiet logger ↔
      ∃ q ∈ quietLoggers, logger = q ∨ q.toList ++ ['.'] <+: logger.toList := by
  have hreverse : ¬['.', '.'] <:+: logger.toList.reverse := fun h =>
    hpoints (List.reverse_infix.mp (by simpa using h))
  have hnames : ∀ q ∈ quietLoggers, q.toList.reverse ≠ [] := by decide
  refine exists_congr fun q => and_congr_right fun hq => ?_
  rw [lineage, List.mem_cons, List.mem_map]
  refine or_congr eq_comm ?_
  have hturn : q.toList ++ ['.'] <+: logger.toList ↔
      '.' :: q.toList.reverse <:+ logger.toList.reverse := by
    rw [← List.reverse_suffix]
    simp
  rw [hturn]
  constructor
  · rintro ⟨ds, hds, rfl⟩
    simpa using ((mem_above hreverse ds).mp hds).2.2
  · intro hsuffix
    refine ⟨q.toList.reverse, (mem_above hreverse _).mpr ⟨?_, hnames q hq, hsuffix⟩, by simp⟩
    simpa using hquiet q hq

/-! ### Records -/

/-- The configuration takes records from a level on and has one handler, and no loggers but the
quiet ones have a level of their own. -/
structure Ready (s : Setup) (level : Level) (layout : RecordLayout) : Prop where
  root : s.rootLevel = level
  handlers : s.handlers = [⟨level, layout⟩]
  own : ∀ logger, s.ownLevel? logger = if logger ∈ quietLoggers then some .warning else none
  quiet : ∀ q ∈ quietLoggers, (s.levels.lookup q).isSome = true

variable {s : Setup} {level : Level} {layout : RecordLayout}

theorem Ready.configured (h : ∀ logger, logger ∉ quietLoggers → s.ownLevel? logger = none) :
    (s.configured level layout).Ready level layout := by
  refine ⟨rfl, rfl, fun logger => ?_, fun q hq => ?_⟩
  · have hlookup := lookup_quietened s.levels logger
    by_cases hq : logger ∈ quietLoggers
    · rw [if_pos hq] at hlookup ⊢
      rw [ownLevel?, Setup.configured, hlookup]
      rfl
    · rw [if_neg hq] at hlookup ⊢
      rw [ownLevel?, Setup.configured, hlookup]
      exact h logger hq
  · rw [Setup.configured, lookup_quietened, if_pos hq]
    rfl

theorem lookup_meet (s : Setup) (logger other : String) :
    (s.meet logger).levels.lookup other =
      if other = logger then some ((s.levels.lookup logger).getD 0)
      else s.levels.lookup other := by
  cases h : s.levels.lookup logger with
  | some own =>
    have hmeet : s.meet logger = s := by simp [Setup.meet, h]
    rw [hmeet]
    split
    · simp [*]
    · rfl
  | none =>
    have hmeet : (s.meet logger).levels = s.levels ++ [(logger, 0)] := by simp [Setup.meet, h]
    rw [hmeet, List.lookup_append]
    by_cases hother : other = logger
    · subst hother
      simp [h]
    · simp [hother, lookup_cons_ite]

theorem ownLevel?_meet (s : Setup) (logger other : String) :
    (s.meet logger).ownLevel? other = s.ownLevel? other := by
  rw [ownLevel?, ownLevel?, lookup_meet]
  split
  · subst other
    cases s.levels.lookup logger <;> simp
  · rfl

theorem handlers_meet (s : Setup) (logger : String) : (s.meet logger).handlers = s.handlers := by
  unfold meet
  split <;> rfl

theorem Ready.meet (h : s.Ready level layout) (logger : String) :
    (s.meet logger).Ready level layout := by
  have hroot : (s.meet logger).rootLevel = s.rootLevel := by
    unfold Setup.meet
    split <;> rfl
  refine ⟨by rw [hroot, h.root], by rw [handlers_meet, h.handlers], fun other => ?_, fun q hq => ?_⟩
  · rw [ownLevel?_meet, h.own]
  · rw [lookup_meet]
    split
    · rfl
    · exact h.quiet q hq

theorem findSome?_quiet (loggers : List String) :
    (loggers.findSome? fun logger =>
        if logger ∈ quietLoggers then some Level.warning else none) =
      if ∃ q ∈ quietLoggers, q ∈ loggers then some .warning else none := by
  induction loggers with
  | nil => simp
  | cons logger rest ih =>
    rw [List.findSome?_cons]
    by_cases hlogger : logger ∈ quietLoggers
    · have hquiet : ∃ q ∈ quietLoggers, q ∈ logger :: rest := ⟨logger, hlogger, by simp⟩
      rw [if_pos hlogger, if_pos hquiet]
    · have hquiet : (∃ q ∈ quietLoggers, q ∈ logger :: rest) ↔ ∃ q ∈ quietLoggers, q ∈ rest := by
        refine exists_congr fun q => and_congr_right fun hq => ?_
        rw [List.mem_cons, or_iff_right]
        rintro rfl
        exact hlogger hq
      rw [if_neg hlogger, ih]
      simp only [hquiet]

theorem Ready.effectiveLevel_eq (h : s.Ready level layout) (logger : String) :
    s.effectiveLevel logger = if s.IsQuiet logger then .warning else level := by
  have hown : s.ownLevel? = fun logger => if logger ∈ quietLoggers then some .warning else none :=
    funext h.own
  rw [effectiveLevel, hown, findSome?_quiet, h.root]
  by_cases hquiet : s.IsQuiet logger
  · rw [if_pos hquiet, if_pos (show ∃ q ∈ quietLoggers, q ∈ s.lineage logger from hquiet)]
    rfl
  · rw [if_neg hquiet, if_neg (show ¬∃ q ∈ quietLoggers, q ∈ s.lineage logger from hquiet)]
    rfl

/-- The record's level is positive and at least a given one, and at least `WARNING` for a quiet
logger. -/
def Accepts (s : Setup) (level : Level) (r : Record) : Prop :=
  0 < r.level ∧ level ≤ r.level ∧ (s.IsQuiet r.logger → .warning ≤ r.level)

instance (s : Setup) (level : Level) (r : Record) : Decidable (s.Accepts level r) :=
  inferInstanceAs (Decidable (_ ∧ _ ∧ _))

theorem Ready.takers_eq (h : s.Ready level layout) (r : Record) :
    s.takers r = if s.Accepts level r then [⟨level, layout⟩] else [] := by
  rw [takers, isEnabled, h.effectiveLevel_eq, h.handlers]
  by_cases hlevel : level ≤ r.level
  · by_cases hquiet : s.IsQuiet r.logger <;> simp [Accepts, hlevel, hquiet]
  · simp [Accepts, hlevel]

theorem Ready.write_eq (h : s.Ready level layout) (complain : Handler → Record → String)
    (r : Record) : s.write complain r =
      if s.Accepts level r then outputBy complain ⟨level, layout⟩ r else "" := by
  rw [write, h.takers_eq]
  split <;> simp

/-- The configuration after records are written. -/
def afterRecords (s : Setup) (records : List Record) : Setup :=
  records.foldl (fun s r => s.meet r.logger) s

theorem Ready.afterRecords (h : s.Ready level layout) (records : List Record) :
    (s.afterRecords records).Ready level layout := by
  induction records generalizing s with
  | nil => exact h
  | cons r rest ih => exact ih (h.meet r.logger)

theorem writeAll_concat (complain : Handler → Record → String) (s : Setup) (records : List Record)
    (r : Record) : s.writeAll complain (records ++ [r]) =
      s.writeAll complain records ++ ((s.afterRecords records).meet r.logger).write complain r := by
  induction records generalizing s with
  | nil => simp [writeAll, Setup.afterRecords]
  | cons first rest ih =>
    simp only [List.cons_append, writeAll, ih, String.append_assoc]
    rfl

/-! ### The last call -/

/-- A call that is refused changes nothing, in whatever configuration, and the last one that is not
decides: the configuration is what that call alone would leave, with one handler.  Where no loggers
but the quiet ones have a level of their own, the handler writes each record that is accepted once,
as its line or as a complaint, and no other. -/
theorem state_after_calls (s : Setup) (calls : List (String × String)) :
    (∀ (t : Setup) (level layout : String),
      (t.call level layout).2 = (s.call level layout).2 ∧
        ((t.call level layout).2 ≠ none → (t.call level layout).1 = t)) ∧
    ((∀ c ∈ calls, (s.call c.1 c.2).2 ≠ none) → s.afterCalls calls = s) ∧
    ∀ before level layout after, calls = before ++ (level, layout) :: after →
      (s.call level layout).2 = none → (∀ c ∈ after, (s.call c.1 c.2).2 ≠ none) →
      let t := s.afterCalls calls
      t = (s.call level layout).1 ∧
      ∃ l, Level.ofWord level = .ok l ∧ t.rootLevel = l ∧ t.handlers = [⟨l, .ofWord layout⟩] ∧
        (∀ q ∈ quietLoggers, t.ownLevel? q = some .warning) ∧
        ((∀ logger, logger ∉ quietLoggers → s.ownLevel? logger = none) →
          ∀ (complain : Handler → Record → String) (earlier : List Record) (r : Record),
            let u := (t.afterRecords earlier).meet r.logger
            u.takers r = (if u.Accepts l r then t.handlers else []) ∧
            t.writeAll complain (earlier ++ [r]) =
              t.writeAll complain earlier ++
                (if u.Accepts l r then outputBy complain ⟨l, .ofWord layout⟩ r else "") ∧
            (¬['.', '.'] <:+: r.logger.toList →
              (u.IsQuiet r.logger ↔
                ∃ q ∈ quietLoggers, r.logger = q ∨ q.toList ++ ['.'] <+: r.logger.toList))) := by
  refine ⟨fun t level layout => ⟨refusal_eq t s level layout, fun hrefused => ?_⟩,
    afterCalls_of_refused, ?_⟩
  · obtain ⟨f, hf⟩ := Option.ne_none_iff_exists'.mp hrefused
    rw [call_eq_refused hf]
  · rintro before level layout after rfl hcall hafter t
    have ht : t = (s.call level layout).1 := afterCalls_eq hcall hafter
    obtain ⟨l, hlevel, htaken⟩ := call_eq_taken hcall
    rw [htaken] at ht
    have hroot : t.rootLevel = l := by rw [ht]; rfl
    have hhandlers : t.handlers = [⟨l, .ofWord layout⟩] := by rw [ht]; rfl
    refine ⟨by rw [htaken, ht], l, hlevel, hroot, hhandlers, fun q hq => ?_, ?_⟩
    · rw [ht, ownLevel?, configured, lookup_quietened, if_pos hq]
      rfl
    · intro hown complain earlier r u
      have hready : t.Ready l (.ofWord layout) := ht ▸ .configured hown
      have hu : u.Ready l (.ofWord layout) := (hready.afterRecords earlier).meet r.logger
      exact ⟨by rw [hu.takers_eq, hhandlers], by rw [writeAll_concat, hu.write_eq],
        isQuiet_iff hu.quiet⟩

/-- With the lowest level a record of that level is not written. -/
theorem lowest_level_not_written :
    let t := (initial.call "NOTSET" "text").1
    let lowest : Record := ⟨"app", 0, "hi", [], .zero, none⟩
    (initial.call "NOTSET" "text").2 = none ∧ t.rootLevel = lowest.level ∧
      ¬(t.meet "app").IsQuiet "app" ∧
      lowest.textLine? = some "[1970-01-01 00:00:00] NOTSET app: hi" ∧
      t.writeAll (fun _ _ => "no line\n") [lowest] = "" := by
  decide +kernel

end SplitTest.Log.Setup

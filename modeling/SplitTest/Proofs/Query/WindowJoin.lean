import SplitTest.Proofs.Dialect.Shift
import SplitTest.Proofs.Query.Windows

/-! The conversion window, read back from the condition that joins events to users.  In every
dialect it opens the delay's hours after the start of the user, or of the user's session, and closes
the window's hours after the delayed start of the user. -/

namespace SplitTest

/-! ### Windows -/

structure Window where
  opens : Shift
  closes : Shift
  deriving DecidableEq

namespace Window

variable (w : Window)

/-- The same bounds some minutes later. -/
def later (minutes : Int) : Window :=
  ⟨⟨w.opens.column, w.opens.minutes + minutes⟩, ⟨w.closes.column, w.closes.minutes + minutes⟩⟩

/-- How long the window is in a row that has a time, in minutes, in each column. -/
def length (row : String → Int) : Int := w.closes.inRow row - w.opens.inRow row

@[simp] theorem length_later (minutes : Int) (row : String → Int) :
    (w.later minutes).length row = w.length row := by
  simp only [length, later, Shift.inRow]
  omega

end Window

/-! ### Bounds -/

namespace Dialect

variable (d : Dialect)

/-- Reads a bound: a column with a number of hours added, or a column as it is. -/
def readBound (text : String) : Shift := (d.hours.read? text).getD ⟨text, 0⟩

theorem readBound_addHours (column : Sql) (n : Int) :
    d.readBound (d.addHours column n).text = ⟨column.text, n * 60⟩ := by
  rw [readBound, addHours_text, ShiftNotation.read?_write _ _ (fun _ => inWhole_of_mem_toString)
    (readWhole?_toString n), hours_unit, Option.getD_some]

/-- A column that ends in a letter has no hours added to it, as all notations end in a mark or in
capitals. -/
theorem readBound_of_start {column : String} (lead : List Char)
    (h : column.toList = lead ++ "_start".toList) : d.readBound column = ⟨column, 0⟩ := by
  have hnone : d.hours.read? column = none := by
    apply ShiftNotation.read?_of_closes
    intro rest heq
    rw [h] at heq
    have hreverse := congrArg List.reverse heq
    obtain ⟨flavor, project, dataset⟩ := d
    cases flavor <;> simp [hours] at hreverse
  rw [readBound, hnone, Option.getD_none]

end Dialect

/-! ### The window of a metric -/

namespace Source

variable (s : Source) (m : MetricDefinition) (users events : String)

/-- The column of the time from which the delay counts. -/
def delayFrom : Sql := users ++ "." ++ (if m.earlyStart then "session_start" else "actual_start")

def windowOpens : Sql :=
  if m.conversionDelayHours = 0 then delayFrom m users
  else s.dialect.addHours (delayFrom m users) m.conversionDelayHours

def windowCloses : Sql :=
  s.dialect.addHours (users ++ ".actual_start" : String)
    (m.conversionDelayHours + m.conversionWindowHours)

/-- The window as the dialect reads its bounds. -/
def joinWindow : Window :=
  ⟨s.dialect.readBound (s.windowOpens m users).text,
    s.dialect.readBound (s.windowCloses m users).text⟩

theorem conversionWindowJoin_text :
    (s.conversionWindowJoin m users events).text =
      events ++ ".user_id = " ++ users ++ ".user_id\n      AND " ++ events ++ ".actual_start >= " ++
        (s.windowOpens m users).text ++ "\n      AND " ++ events ++ ".actual_start <= " ++
        (s.windowCloses m users).text := by
  have hjoin : s.conversionWindowJoin m users events = .concat
      [events ++ ".user_id = " ++ users ++ ".user_id\n      AND " ++ events ++ ".actual_start >= ",
        s.windowOpens m users, "\n      AND " ++ events ++ ".actual_start <= ",
        s.windowCloses m users] := rfl
  simp [hjoin, String.append_assoc]

theorem text_delayFrom :
    (delayFrom m users).text =
      users ++ "." ++ if m.earlyStart then "session_start" else "actual_start" := by
  simp [delayFrom]

theorem readBound_delayFrom :
    s.dialect.readBound (delayFrom m users).text = ⟨(delayFrom m users).text, 0⟩ := by
  rw [text_delayFrom]
  cases m.earlyStart with
  | true => exact s.dialect.readBound_of_start (users ++ ".session").toList (by simp)
  | false => exact s.dialect.readBound_of_start (users ++ ".actual").toList (by simp)

/-- Without a delay the shift is left out, which means the same as to add no hours. -/
theorem readBound_windowOpens :
    s.dialect.readBound (s.windowOpens m users).text =
      ⟨(delayFrom m users).text, m.conversionDelayHours * 60⟩ := by
  unfold windowOpens
  split
  · rename_i hdelay
    rw [readBound_delayFrom, hdelay, Int.zero_mul]
  · rw [Dialect.readBound_addHours]

theorem joinWindow_eq :
    s.joinWindow m users =
      ⟨⟨users ++ "." ++ if m.earlyStart then "session_start" else "actual_start",
          m.conversionDelayHours * 60⟩,
        ⟨users ++ ".actual_start", (m.conversionDelayHours + m.conversionWindowHours) * 60⟩⟩ := by
  rw [joinWindow, readBound_windowOpens, text_delayFrom, windowCloses, Dialect.readBound_addHours,
    Sql.text_code]

theorem joinWindow_delayed (k : Int) :
    s.joinWindow { m with conversionDelayHours := m.conversionDelayHours + k } users =
      (s.joinWindow m users).later (k * 60) := by
  simp only [joinWindow_eq, Window.later, Window.mk.injEq, Shift.mk.injEq, true_and]
  constructor <;> omega

/-- The join of a metric's events to users asks for the same user and for a time within the window
that opens `conversionDelayHours` after the user or the session starts and closes
`conversionWindowHours` after the delayed start of the user.  So it is in every dialect, and a delay
moves the whole window. -/
theorem window_of_conversionWindowJoin :
    (s.conversionWindowJoin m users events).text =
        events ++ ".user_id = " ++ users ++ ".user_id\n      AND " ++ events ++
          ".actual_start >= " ++ (s.windowOpens m users).text ++ "\n      AND " ++ events ++
          ".actual_start <= " ++ (s.windowCloses m users).text ∧
      s.joinWindow m users =
        ⟨⟨users ++ "." ++ if m.earlyStart then "session_start" else "actual_start",
            m.conversionDelayHours * 60⟩,
          ⟨users ++ ".actual_start", (m.conversionDelayHours + m.conversionWindowHours) * 60⟩⟩ ∧
      (∀ k, s.joinWindow { m with conversionDelayHours := m.conversionDelayHours + k } users =
        (s.joinWindow m users).later (k * 60)) ∧
      (∀ delay row, (s.joinWindow { m with conversionDelayHours := delay } users).length row =
        (s.joinWindow m users).length row) ∧
      s.dialect.readBound (delayFrom m users).text =
        s.dialect.readBound (s.dialect.addHours (delayFrom m users) 0).text ∧
      ∀ other : Source, other.joinWindow m users = s.joinWindow m users := by
  refine ⟨s.conversionWindowJoin_text m users events, s.joinWindow_eq m users,
    s.joinWindow_delayed m users, fun delay row => ?_, ?_, fun other => ?_⟩
  · have hdelay := s.joinWindow_delayed m users (delay - m.conversionDelayHours)
    rw [show m.conversionDelayHours + (delay - m.conversionDelayHours) = delay by omega] at hdelay
    rw [hdelay, Window.length_later]
  · rw [readBound_delayFrom, Dialect.readBound_addHours, Int.zero_mul]
  · rw [joinWindow_eq, joinWindow_eq]

end Source

end SplitTest

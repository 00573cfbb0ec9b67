import SplitTest.Schema.Checked

/-! Checked documents taken apart.  What a record holds is what its fields were read as, and what is
wrong with a field is among the issues of the record. -/

namespace SplitTest

deriving instance DecidableEq for Checked

namespace Checked

variable {α β : Type}

/-- What stands in the way of a value. -/
def issues : Checked α → List Issue
  | ok _ => []
  | failed issues => issues

/-- The value, if there is one, has the property `p`. -/
def Yields (p : α → Prop) (x : Checked α) : Prop :=
  ∀ a, x = .ok a → p a

theorem map_eq_ok {f : α → β} {x : Checked α} {b : β} :
    f <$> x = .ok b ↔ ∃ a, x = .ok a ∧ f a = b := by
  cases x <;> simp [Functor.map, map]

theorem seq_eq_ok {f : Checked (α → β)} {x : Checked α} {b : β} :
    f <*> x = .ok b ↔ ∃ g, f = .ok g ∧ ∃ a, x = .ok a ∧ g a = b := by
  cases f <;> cases x <;> simp [Seq.seq, apply]

theorem andThen_eq_ok {x : Checked α} {f : α → Checked β} {b : β} :
    x.andThen f = .ok b ↔ ∃ a, x = .ok a ∧ f a = .ok b := by
  cases x <;> simp [andThen]

@[simp] theorem under_eq_ok {x : Checked α} {step : String} {a : α} :
    x.under step = .ok a ↔ x = .ok a := by
  cases x <;> simp [under]

theorem Yields.map {p : β → Prop} {f : α → β} {x : Checked α}
    (h : ∀ a, x = .ok a → p (f a)) : Yields p (f <$> x) := by
  intro b hb
  cases x with
  | ok a =>
    cases hb
    exact h a rfl
  | failed issues => cases hb

theorem Yields.seq {p : β → Prop} {f : Checked (α → β)} {x : Checked α}
    (h : Yields (fun g => ∀ a, x = .ok a → p (g a)) f) : Yields p (f <*> x) := by
  intro b hb
  cases f with
  | ok g =>
    cases x with
    | ok a =>
      cases hb
      exact h g rfl a rfl
    | failed issues => cases hb
  | failed issues => cases x <;> cases hb

theorem Yields.andThen {p : α → Prop} {q : β → Prop} {x : Checked α} {f : α → Checked β}
    (hx : Yields p x) (hf : ∀ a, p a → Yields q (f a)) : Yields q (x.andThen f) := by
  intro b hb
  cases x with
  | ok a => exact hf a (hx a rfl) b hb
  | failed issues => cases hb

theorem Yields.under {p : α → Prop} {x : Checked α} (h : Yields p x) (step : String) :
    Yields p (x.under step) := by
  intro a ha
  cases x with
  | ok b =>
    cases ha
    exact h a rfl
  | failed issues => cases ha

theorem issues_seq (f : Checked (α → β)) (x : Checked α) :
    (f <*> x).issues = f.issues ++ x.issues := by
  cases f <;> cases x <;> simp [Seq.seq, apply, issues]

theorem mem_issues_andThen {x : Checked α} {i : Issue} (h : i ∈ x.issues) (f : α → Checked β) :
    i ∈ (x.andThen f).issues := by
  cases x with
  | ok a => simp [issues] at h
  | failed issues => exact h

section Lists

variable {read : Value → Checked α}

theorem all_map {write : α → Value} (h : ∀ a, read (write a) = .ok a) (as : List α) (index : Nat) :
    all read index (as.map write) = .ok as := by
  induction as generalizing index with
  | nil => rfl
  | cons a rest ih =>
    rw [List.map_cons, all, h, ih]
    rfl

theorem exists_mem_of_all {items : List Value} {as : List α} {index : Nat}
    (h : all read index items = .ok as) : ∀ a ∈ as, ∃ item ∈ items, read item = .ok a := by
  induction items generalizing as index with
  | nil =>
    cases h
    simp
  | cons item rest ih =>
    obtain ⟨_, hhead, tail, hrest, rfl⟩ := seq_eq_ok.mp h
    obtain ⟨a, hitem, rfl⟩ := map_eq_ok.mp hhead
    intro b hb
    rcases List.mem_cons.mp hb with rfl | htail
    · exact ⟨item, List.mem_cons_self, under_eq_ok.mp hitem⟩
    · obtain ⟨item', hmem, hread⟩ := ih hrest b htail
      exact ⟨item', List.mem_cons_of_mem _ hmem, hread⟩

end Lists

end Checked

open Checked

namespace Reader

variable {α : Type} {name : String} {default a : α} {read : Value → Checked α}
  {fields : List (String × Value)}

theorem text_eq_ok {v : Value} {s : String} : text v = .ok s ↔ v = .text s := by
  cases v <;> simp [text, problem]

theorem word_eq_ok {p : Problem} {words : List (String × α)} {v : Value} {a : α} :
    word p words v = .ok a ↔ ∃ s, v = .text s ∧ words.lookup s = some a := by
  cases v with
  | text s => cases h : words.lookup s <;> simp [word, problem, h]
  | _ => simp [word, problem]

theorem withDefault_eq_ok : withDefault name default read fields = .ok a ↔
    (Value.field? name fields = none ∧ default = a) ∨
      ∃ v, Value.field? name fields = some v ∧ read v = .ok a := by
  unfold withDefault
  cases Value.field? name fields <;> simp

theorem required_eq_ok : required name read fields = .ok a ↔
    ∃ v, Value.field? name fields = some v ∧ read v = .ok a := by
  unfold required
  cases Value.field? name fields <;> simp

theorem list_eq_ok {v : Value} {as : List α} :
    list read v = .ok as ↔ ∃ items, v = .list items ∧ all read 0 items = .ok as := by
  cases v <;> simp [list, problem]

theorem withDefault_of_field {v : Value} (h : Value.field? name fields = some v) :
    withDefault name default read fields = (read v).under name := by
  rw [withDefault, h]

theorem yields_withDefault {p : α → Prop} (hdefault : p default) (hread : ∀ v, Yields p (read v)) :
    Yields p (withDefault name default read fields) := by
  unfold withDefault
  split
  · exact (hread _).under name
  · intro a ha
    cases ha
    exact hdefault

end Reader

end SplitTest
